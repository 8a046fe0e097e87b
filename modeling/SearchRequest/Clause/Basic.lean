import SearchRequest.Clause.Leaf
import SearchRequest.InnerHits

/-! # Clauses

A query is a tree of clauses. Three kinds hold other clauses: a bool in four slots, a nested clause
and a constant score around one each. A raw clause is a document that is taken as it is.
-/

namespace SearchRequest

inductive Slot | must | should | mustNot | filter
  deriving DecidableEq

/-- The slots in the order in which they are written. -/
def Slot.all : List Slot := [must, should, mustNot, filter]

def Slot.key : Slot → String
  | must => "must"
  | should => "should"
  | mustNot => "must_not"
  | filter => "filter"

structure Slots (α : Type) where
  must : List α := []
  should : List α := []
  mustNot : List α := []
  filter : List α := []

namespace Slots

variable {α : Type}

def get (s : Slots α) : Slot → List α
  | .must => s.must
  | .should => s.should
  | .mustNot => s.mustNot
  | .filter => s.filter

def push (s : Slots α) (slot : Slot) (a : α) : Slots α :=
  match slot with
  | .must => { s with must := s.must ++ [a] }
  | .should => { s with should := s.should ++ [a] }
  | .mustNot => { s with mustNot := s.mustNot ++ [a] }
  | .filter => { s with filter := s.filter ++ [a] }

def isEmpty (s : Slots α) : Bool :=
  s.must.isEmpty && s.should.isEmpty && s.mustNot.isEmpty && s.filter.isEmpty

end Slots

inductive BoolSetting where
  | minimumShouldMatch (v : Value)
  | boost (b : Double)
  | adjustPureNegative (b : Bool)
  | name (s : String)

instance : Setting BoolSetting where
  entry
    | .minimumShouldMatch v => ("minimum_should_match", v)
    | .boost b => ("boost", .double b)
    | .adjustPureNegative b => ("adjust_pure_negative", .bool b)
    | .name s => ("_name", .str s)

inductive NestedSetting where
  | scoreMode (m : ScoreMode)
  | ignoreUnmapped (b : Bool)
  | innerHits (h : InnerHits)
  | boost (b : Double)

instance : Setting NestedSetting where
  entry
    | .scoreMode m => ("score_mode", Word.value m)
    | .ignoreUnmapped b => ("ignore_unmapped", .bool b)
    | .innerHits h => ("inner_hits", h.document)
    | .boost b => ("boost", .double b)

/-- A path to nested documents and the clause that they have to match. -/
structure Nesting (α : Type) where
  path : String
  query : α

abbrev BoolOf (α : Type) := Builder (Slots α) BoolSetting

abbrev NestedOf (α : Type) := Builder (Nesting α) NestedSetting

/-- The filter is absent if it was given none. -/
abbrev ConstantScoreOf (α : Type) := Builder (Option α) LabelSetting

inductive Clause where
  | leaf (l : Leaf)
  | bool (b : Builder (Slots Clause) BoolSetting)
  | nested (b : Builder (Nesting Clause) NestedSetting)
  | constantScore (b : Builder (Option Clause) LabelSetting)
  | raw (v : Value)

/-- The body of a bool whose clauses are written already. A slot without clauses is left out. -/
def BoolOf.body (b : BoolOf Value) : Object :=
  Slot.all.foldl
    (fun o slot => o.insert? slot.key (Value.arr? (b.parts.get slot))) b.options.object

def NestedOf.body (b : NestedOf Value) : Object :=
  (b.optionsWith "path" (.str b.parts.path)).insert "query" b.parts.query

def ConstantScoreOf.body (b : ConstantScoreOf Value) : Object :=
  b.options.object.insert? "filter" b.parts

namespace Clause

mutual

/-- The document of a clause: an object of one entry, with its kind as the key. -/
def document : Clause → Value
  | leaf l => l.document
  | bool ⟨⟨must, should, mustNot, filter⟩, options⟩ =>
    .entry "bool" (.obj (BoolOf.body
      ⟨⟨documents must, documents should, documents mustNot, documents filter⟩, options⟩))
  | nested ⟨⟨path, query⟩, options⟩ =>
    .entry "nested" (.obj (NestedOf.body ⟨⟨path, query.document⟩, options⟩))
  | constantScore ⟨filter, options⟩ =>
    .entry "constant_score" (.obj (ConstantScoreOf.body ⟨document? filter, options⟩))
  | raw v => v

def documents : List Clause → List Value
  | [] => []
  | c :: cs => c.document :: documents cs

def document? : Option Clause → Option Value
  | none => none
  | some c => some c.document

end

mutual

/-- The same kind of clause, with the same parts and options. -/
def same : Clause → Clause → Bool
  | leaf l, leaf m => l == m
  | bool ⟨⟨must, should, mustNot, filter⟩, options⟩, bool ⟨s, options'⟩ =>
    allSame must s.must && allSame should s.should && allSame mustNot s.mustNot &&
      allSame filter s.filter && options == options'
  | nested ⟨⟨path, query⟩, options⟩, nested ⟨⟨path', query'⟩, options'⟩ =>
    path == path' && query.same query' && options == options'
  | constantScore ⟨filter, options⟩, constantScore ⟨filter', options'⟩ =>
    optionSame filter filter' && options == options'
  | raw v, raw w => v == w
  | _, _ => false

def allSame : List Clause → List Clause → Bool
  | [], [] => true
  | c :: cs, d :: ds => c.same d && allSame cs ds
  | _, _ => false

def optionSame : Option Clause → Option Clause → Bool
  | none, none => true
  | some c, some d => c.same d
  | _, _ => false

end

instance : BEq Clause := ⟨same⟩

/-- The clause that stands where one must be and none was given. -/
def empty : Clause :=
  raw (.obj ∅)

end Clause

/-- What may be handed to a place that takes a clause: nothing, a clause under construction, a
finished one, or something that may have been left out in turn. -/
inductive Offer where
  | absent
  | building (c : Clause)
  | finished (c : Clause)
  | optional (o : Option Offer)

namespace Offer

/-- The clause that is handed over. A constant score under construction is absent without a filter;
a finished clause is taken as it is. -/
def clause? : Offer → Option Clause
  | absent => none
  | building (.constantScore ⟨none, _⟩) => none
  | building c => some c
  | finished c => some c
  | optional none => none
  | optional (some o) => o.clause?

end Offer

end SearchRequest
