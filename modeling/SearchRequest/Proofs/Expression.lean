import SearchRequest.Clause.Attachment
import SearchRequest.Clause.Conditional
import SearchRequest.Envelope
import SearchRequest.Proofs.Results

/-! # Builder expressions

An expression is what a caller writes down: constructors and setters, nested to any depth, with
clauses that may be absent. It is made of parts of several kinds, and evaluates to a builder.
-/

namespace SearchRequest

open Logged

/-- What an expression builds: something handed over as a clause, a builder, or a list of either. -/
inductive Part
  | offer | offers | bool | nested | constantScore | innerHits
  | nestedSort | sort | sorts | envelope
  deriving DecidableEq

abbrev Part.State : Part → Type
  | offer => Offer
  | offers => List Offer
  | bool => BoolClause
  | nested => NestedClause
  | constantScore => ConstantScore
  | innerHits => InnerHits
  | nestedSort => NestedSort
  | sort => SortEntry
  | sorts => List SortEntry
  | envelope => Envelope

/-- A leaf that is made on a condition, or if a predicate holds for what it is made of. -/
inductive ConditionalLeaf where
  | termIf (field : String) (value : Value) (condition : Bool)
  | termWith (field : String) (value : Value) (predicate : String → Value → Bool)
  | termsIf (field : String) (values : List Value) (condition : Bool)
  | termsWith (field : String) (values : List Value) (predicate : String → List Value → Bool)
  | arrayWith (field : String) (values : Array Value) (predicate : String → Array Value → Bool)
  | presenceIf (field : String) (condition : Bool)
  | presenceWith (field : String) (predicate : String → Bool)

namespace ConditionalLeaf

def leaf? : ConditionalLeaf → Option Leaf
  | termIf field value condition => (Term.newIf field value condition).map .term
  | termWith field value predicate =>
    (Id.run (Term.newWith field value fun f v => pure (predicate f v))).map .term
  | termsIf field values condition => (Terms.newIf field values condition).map .terms
  | termsWith field values predicate =>
    (Id.run (Terms.newWith field values fun f vs => pure (predicate f vs))).map .terms
  | arrayWith field values predicate =>
    (Id.run (Terms.ofArrayWith field values fun f vs => pure (predicate f vs))).map .terms
  | presenceIf field condition => (Presence.newIf field condition).map .presence
  | presenceWith field predicate =>
    (Id.run (Presence.newWith field fun f => pure (predicate f))).map .presence

/-- Whether the condition or the predicate failed. -/
def failed : ConditionalLeaf → Bool
  | termIf _ _ condition | termsIf _ _ condition | presenceIf _ condition => !condition
  | termWith field value predicate => !predicate field value
  | termsWith field values predicate => !predicate field values
  | arrayWith field values predicate => !predicate field values
  | presenceWith field predicate => !predicate field

/-- The leaf that is made if nothing failed. -/
def leaf : ConditionalLeaf → Leaf
  | termIf field value _ | termWith field value _ => .term (.new field value)
  | termsIf field values _ | termsWith field values _ => .terms (.new field values)
  | arrayWith field values _ => .terms (.ofArray field values)
  | presenceIf field _ | presenceWith field _ => .presence (.new field)

theorem leaf?_eq (c : ConditionalLeaf) : c.leaf? = if c.failed then none else some c.leaf := by
  cases c with
  | termIf field value b => cases b <;> rfl
  | termsIf field values b => cases b <;> rfl
  | presenceIf field b => cases b <;> rfl
  | termWith field value p =>
    cases h : p field value <;> simp [leaf?, leaf, failed, Term.newWith, h]
  | termsWith field values p =>
    cases h : p field values <;> simp [leaf?, leaf, failed, Terms.newWith, h]
  | arrayWith field values p =>
    cases h : p field values <;> simp [leaf?, leaf, failed, Terms.ofArrayWith, keepIf, h]
  | presenceWith field p =>
    cases h : p field <;> simp [leaf?, leaf, failed, Presence.newWith, h]

end ConditionalLeaf

/-- Constructors that take no other part. -/
inductive Origin : Part → Type
  | absent : Origin .offer
  | leaf (l : Leaf) : Origin .offer
  | conditional (c : ConditionalLeaf) : Origin .offer
  | raw (v : Value) : Origin .offer
  | noOffers : Origin .offers
  | bool : Origin .bool
  | innerHits : Origin .innerHits
  | nestedSort (path : String) : Origin .nestedSort
  | sort (field : String) : Origin .sort
  | sortWithMode (field : String) (order : SortOrder) (mode : SortMode) : Origin .sort
  | noSorts : Origin .sorts
  | envelope : Origin .envelope
  | aggs (named : List (String × Aggregation)) : Origin .envelope

def Origin.run : {p : Part} → Origin p → p.State
  | _, absent => .absent
  | _, leaf l => .building (.leaf l)
  | _, conditional c => .optional (c.leaf?.map fun l => .building (.leaf l))
  | _, raw v => .finished (.raw v)
  | _, noOffers => []
  | _, bool => BoolClause.empty
  | _, innerHits => {}
  | _, nestedSort path => .of path
  | _, sort field => .of field
  | _, sortWithMode field order mode => SortEntry.withMode field order mode
  | _, noSorts => []
  | _, envelope => .empty
  | _, aggs named => .ofAggs named

inductive SourceCall where
  | filter (f : SourceFilter)
  | includes (names : List String)
  | excludes (names : List String)
  | disabled

/-- Setters that take no other part. -/
inductive Change : Part → Type
  | bool (s : BoolSetting) : Change .bool
  | scoreMode (m : ScoreMode) : Change .nested
  | ignoreUnmapped (b : Bool) : Change .nested
  | boost (b : Double) : Change .nested
  | constantScore (s : LabelSetting) : Change .constantScore
  | innerHits (s : InnerHitsSetting) : Change .innerHits
  | innerSource (c : SourceCall) : Change .innerHits
  | maxChildren (n : UInt32) : Change .nestedSort
  | order (o : SortOrder) : Change .sort
  | mode (m : SortMode) : Change .sort
  | offset (n : UInt64) : Change .envelope
  | size (n : UInt64) : Change .envelope
  | source (c : SourceCall) : Change .envelope
  | trackTotalHits (b : Bool) : Change .envelope
  | aggs (named : List (String × Aggregation)) : Change .envelope

namespace SourceCall

def inner : SourceCall → InnerHits.Call
  | filter f => .source f
  | includes names => .sourceIncludes names
  | excludes names => .sourceExcludes names
  | disabled => .sourceDisabled

def outer : SourceCall → Envelope.Call
  | filter f => .source f
  | includes names => .sourceIncludes names
  | excludes names => .sourceExcludes names
  | disabled => .sourceDisabled

end SourceCall

def Change.run : {p : Part} → Change p → p.State → p.State
  | _, bool s, b => Builder.set b s
  | _, scoreMode m, n => Builder.set n (.scoreMode m)
  | _, ignoreUnmapped b, n => Builder.set n (.ignoreUnmapped b)
  | _, boost b, n => Builder.set n (.boost b)
  | _, constantScore s, c => Builder.set c s
  | _, innerHits s, h => InnerHits.apply h (.set s)
  | _, innerSource c, h => InnerHits.apply h c.inner
  | _, maxChildren k, n => NestedSort.apply n (.maxChildren k)
  | _, order o, s => Builder.set s (.order o)
  | _, mode m, s => Builder.set s (.mode m)
  | _, offset n, e => Envelope.apply e (.offset n)
  | _, size n, e => Envelope.apply e (.size n)
  | _, source c, e => Envelope.apply e c.outer
  | _, trackTotalHits b, e => Envelope.apply e (.trackTotalHits b)
  | _, aggs named, e => Envelope.apply e (.aggs named)

/-- The builders that are clauses. -/
inductive Kind : Part → Type
  | bool : Kind .bool
  | nested : Kind .nested
  | constantScore : Kind .constantScore

def Kind.clause : {p : Part} → Kind p → p.State → Clause
  | _, bool, b => .bool b
  | _, nested, n => .nested n
  | _, constantScore, c => .constantScore c

/-- Constructors around one other part, which may keep it or leave it out. -/
inductive Holder : Part → Part → Type
  | some : Holder .offer .offer
  | keptIf (condition : Bool) : Holder .offer .offer
  | keptWith (predicate : Offer → Bool) : Holder .offer .offer
  | converted : Holder .offer .offer
  | building {p : Part} (k : Kind p) : Holder p .offer
  | finished {p : Part} (k : Kind p) : Holder p .offer
  | nested (path : String) : Holder .offer .nested
  | constantScore : Holder .offer .constantScore
  | envelope : Holder .offer .envelope

def Holder.run : {p q : Part} → Holder p q → p.State → q.State
  | _, _, some, o => .optional (Option.some o)
  | _, _, keptIf condition, o => .optional (SearchRequest.keepIf o condition)
  | _, _, keptWith predicate, o =>
    .optional (Id.run (SearchRequest.keepWith o fun o => pure (predicate o)))
  | _, _, converted, o => .optional (o.clause?.map .finished)
  | _, _, building k, s => .building (k.clause s)
  | _, _, finished k, s => .finished (k.clause s)
  | _, _, nested path, o => NestedClause.over path o.clause?
  | _, _, constantScore, o => ConstantScore.around o.clause?
  | _, _, envelope, o => .around o.clause?

/-- Setters that take another part. Those that take a clause change nothing if it is absent. -/
inductive Joint : Part → Part → Type
  | offer : Joint .offers .offer
  | add (slot : Slot) : Joint .bool .offer
  | addAll (slot : Slot) : Joint .bool .offers
  | innerHits : Joint .nested .innerHits
  | innerQuery : Joint .innerHits .offer
  | innerSort : Joint .innerHits .sort
  | filter : Joint .nestedSort .offer
  | deeper : Joint .nestedSort .nestedSort
  | context : Joint .sort .nestedSort
  | entry : Joint .sorts .sort
  | query : Joint .envelope .offer
  | sort : Joint .envelope .sort
  | sortAll : Joint .envelope .sorts

def Joint.run : {p q : Part} → Joint p q → p.State → q.State → Logged p.State
  | _, _, offer, os, o => return os ++ [o]
  | _, _, add slot, b, o => BoolClause.apply b (.add slot o.clause?)
  | _, _, addAll slot, b, os => BoolClause.apply b (.addAll slot (os.map Offer.clause?))
  | _, _, innerHits, n, h => return Builder.set n (.innerHits h)
  | _, _, innerQuery, h, o => return InnerHits.apply h (.query o.clause?)
  | _, _, innerSort, h, s => return InnerHits.apply h (.sort s)
  | _, _, filter, n, o => return NestedSort.apply n (.filter o.clause?)
  | _, _, deeper, n, m => return NestedSort.apply n (.nested m)
  | _, _, context, s, n => return Builder.set s (.nested n)
  | _, _, entry, ss, s => return ss ++ [s]
  | _, _, query, e, o => return Envelope.apply e (.query o.clause?)
  | _, _, sort, e, s => return Envelope.apply e (.sort s)
  | _, _, sortAll, e, ss => return Envelope.apply e (.sortAll ss)

inductive Expression : Part → Type
  | origin {p : Part} (o : Origin p) : Expression p
  | change {p : Part} (c : Change p) (e : Expression p) : Expression p
  | hold {p q : Part} (h : Holder p q) (e : Expression p) : Expression q
  | join {p q : Part} (j : Joint p q) (e : Expression p) (arg : Expression q) : Expression p

namespace Expression

/-- The receiver of a setter is evaluated before its argument. -/
def eval : {p : Part} → Expression p → Logged p.State
  | _, origin o => return o.run
  | _, change c e => return c.run (← e.eval)
  | _, hold h e => return h.run (← e.eval)
  | _, join j e arg => do
    let s ← e.eval
    let a ← arg.eval
    j.run s a

end Expression

/-! ## Results

What an expression gives does not depend on the logger, which only hears of dropped clauses. -/

section Results

variable {p q : Part} {l : Logger} {slot : Slot}

namespace BoolClause

theorem add_result (b : BoolClause) (c : Option Clause) :
    (b.add slot c).result l = { b with parts := c.toList.foldl (·.push slot ·) b.parts } := by
  cases c <;> rfl

theorem addAll_result (b : BoolClause) (cs : List (Option Clause)) : (b.addAll slot cs).result l =
    { b with parts := (cs.filterMap id).foldl (·.push slot ·) b.parts } := by
  induction cs generalizing b l with
  | nil => rfl
  | cons c cs ih =>
    rw [addAll, result_bind, ih, add_result]
    cases c <;> rfl

end BoolClause

theorem Joint.result_run (j : Joint p q) (s : p.State) (a : q.State) :
    (j.run s a).result l = (j.run s a).result {} := by
  cases j with
  | add slot => exact (BoolClause.add_result ..).trans (BoolClause.add_result ..).symm
  | addAll slot => exact (BoolClause.addAll_result ..).trans (BoolClause.addAll_result ..).symm
  | _ => rfl

namespace Expression

def value (e : Expression p) : p.State :=
  e.eval.result {}

theorem eval_result (e : Expression p) : e.eval.result l = e.value := by
  induction e generalizing l with
  | origin o => rfl
  | change c e ih => exact congrArg c.run ih
  | hold h e ih => exact congrArg h.run ih
  | join j e arg ihe iha =>
    change (j.run (e.eval.result l) (arg.eval.result _)).result _ =
      (j.run e.value (arg.eval.result _)).result _
    rw [ihe, iha, iha, j.result_run]
    exact (j.result_run ..).symm

@[simp] theorem value_origin (o : Origin p) : (origin o).value = o.run := rfl

@[simp] theorem value_change (c : Change p) (e : Expression p) :
    (change c e).value = c.run e.value := rfl

@[simp] theorem value_hold (h : Holder p q) (e : Expression p) :
    (hold h e).value = h.run e.value := rfl

@[simp] theorem value_join (j : Joint p q) (e : Expression p) (arg : Expression q) :
    (join j e arg).value = (j.run e.value arg.value).result {} := by
  change (j.run e.value (arg.eval.result _)).result _ = _
  rw [eval_result, j.result_run]

end Expression

end Results

/-! ## Clauses handed over -/

namespace Offer

@[simp] theorem clause?_optional_some (o : Offer) : (optional (some o)).clause? = o.clause? := by
  rw [clause?]

@[simp] theorem clause?_optional_finished (c : Option Clause) :
    (optional (c.map finished)).clause? = c := by
  cases c <;> simp [clause?]

@[simp] theorem clause?_optional_leaf (x : Option Leaf) :
    (optional (x.map fun l => building (.leaf l))).clause? = x.map .leaf := by
  cases x <;> simp [clause?]

theorem clause?_constantScore_eq_none_iff {c : ConstantScore} :
    (building (.constantScore c)).clause? = none ↔ c.parts = none := by
  obtain ⟨_ | _, _⟩ := c <;> simp [clause?]

theorem mem_clause?_building {c d : Clause} (h : d ∈ (building c).clause?) : d = c := by
  unfold clause? at h
  split at h <;> simp_all

end Offer

/-- A wrapper around what is handed over keeps the clause or drops it. -/
theorem Holder.mem_clause?_run (x : Holder .offer .offer) {o : Offer} {c : Clause}
    (h : c ∈ (x.run o).clause?) : c ∈ o.clause? := by
  cases x with
  | some => simpa [run] using h
  | keptIf condition =>
    cases condition with
    | false => simp [run, keepIf, Offer.clause?] at h
    | true => simpa [run, keepIf] using h
  | keptWith predicate =>
    cases hp : predicate o with
    | false => simp [run, keepWith, keepIf, Offer.clause?, hp] at h
    | true => simpa [run, keepWith, keepIf, hp] using h
  | converted => simpa [run] using h
  | building k => cases k
  | finished k => cases k

end SearchRequest
