import SearchRequest.Clause.Basic
import SearchRequest.Logging.Logger

/-! # Attaching clauses

Wherever a clause may be left out, an absent one changes nothing. A slot of a bool reports each
clause that it drops.
-/

namespace SearchRequest

abbrev BoolClause := BoolOf Clause

abbrev NestedClause := NestedOf Clause

abbrev ConstantScore := ConstantScoreOf Clause

namespace BoolClause

def empty : BoolClause := ⟨{}, ∅⟩

def isEmpty (b : BoolClause) : Bool :=
  b.parts.isEmpty

/-- Append a clause to a slot, or report that it is absent. -/
def add (b : BoolClause) (slot : Slot) : Option Clause → Logged BoolClause
  | some c => return { b with parts := b.parts.push slot c }
  | none => do
    report .trace "esdsl_query::query::compound" ("dropping absent clause from bool." ++ slot.key)
    return b

def addAll (b : BoolClause) (slot : Slot) : List (Option Clause) → Logged BoolClause
  | [] => return b
  | c :: cs => do addAll (← add b slot c) slot cs

inductive Call where
  | add (slot : Slot) (c : Option Clause)
  | addAll (slot : Slot) (cs : List (Option Clause))
  | set (s : BoolSetting)

def apply (b : BoolClause) : Call → Logged BoolClause
  | .add slot c => add b slot c
  | .addAll slot cs => addAll b slot cs
  | .set s => return b.set s

end BoolClause

/-- A nested clause needs an inner one, and takes the empty clause if it is absent. -/
def NestedClause.over (path : String) (query : Option Clause) : NestedClause :=
  ⟨⟨path, query.getD .empty⟩, ∅⟩

def ConstantScore.around (filter : Option Clause) : ConstantScore :=
  ⟨filter, ∅⟩

def ConstantScore.hasFilter (c : ConstantScore) : Bool :=
  c.parts.isSome

namespace NestedSort

inductive Call where
  | filter (c : Option Clause)
  | maxChildren (n : UInt32)
  | nested (inner : NestedSort)

def apply (n : NestedSort) : Call → NestedSort
  | .filter (some c) => n.set (.filter c.document)
  | .filter none => n
  | .maxChildren k => n.set (.maxChildren k)
  | .nested inner => n.set (.nested (document inner))

end NestedSort

namespace InnerHits

inductive Call where
  | set (s : InnerHitsSetting)
  | query (c : Option Clause)
  | sort (s : SortEntry)
  | source (f : SourceFilter)
  | sourceIncludes (names : List String)
  | sourceExcludes (names : List String)
  | sourceDisabled

def apply (h : InnerHits) : Call → InnerHits
  | .set s => { h with options := h.options.set s }
  | .query (some c) => { h with query := some c.document }
  | .query none => h
  | .sort s => { h with sorts := h.sorts ++ [s] }
  | .source f => { h with source := some f }
  | .sourceIncludes names => { h with source := SourceFilter.includes? h.source names }
  | .sourceExcludes names => { h with source := SourceFilter.excludes? h.source names }
  | .sourceDisabled => { h with source := some .disabled }

end InnerHits

end SearchRequest
