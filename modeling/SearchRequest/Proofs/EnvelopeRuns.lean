import SearchRequest.Proofs.Envelopes
import SearchRequest.Proofs.Runs

/-! # Runs on an envelope

After any run of calls, from any constructor, the body of a request shows the last clause, the last
paging values, all sort entries in order, the last aggregation of each name, and nothing else. What
was never given is left out.
-/

namespace SearchRequest

/-! ## Aggregations under their names -/

namespace Aggregation

variable {name : String} {children named : List (String × Aggregation)}

/-- The aggregation, if this is the name that it was given. -/
def called? (name : String) (a : String × Aggregation) : Option Aggregation :=
  if name = a.1 then some a.2 else none

theorem get?_attach : Keyed.get? name (attach children named) =
    (named.filterMap (called? name)).getLast?.or (Keyed.get? name children) :=
  Keyed.get?_foldl_insert

theorem get?_attach_nil : Keyed.get? name (attach [] named) = Keyed.last? name named := by
  rw [get?_attach, Keyed.get?, Option.or_none]
  rfl

theorem attach_eq_nil_iff : attach children named = [] ↔ children = [] ∧ named = [] := by
  induction named generalizing children with
  | nil => simp [attach]
  | cons c named ih =>
    have hc : Keyed.insert c.1 c.2 children ≠ [] := Keyed.insert_ne_nil
    have hr : attach (Keyed.insert c.1 c.2 children) named ≠ [] := fun h => hc (ih.mp h).1
    exact iff_of_false hr (by simp)

theorem attach_attach (named' : List (String × Aggregation)) :
    attach (attach children named) named' = attach children (named ++ named') :=
  List.foldl_append.symm

end Aggregation

namespace SourceFilter

theorem includes?_eq_none_iff {f : Option SourceFilter} {names : List String} :
    includes? f names = none ↔ f = none ∧ names = [] := by
  cases names <;> simp [includes?]

theorem excludes?_eq_none_iff {f : Option SourceFilter} {names : List String} :
    excludes? f names = none ↔ f = none ∧ names = [] := by
  cases names <;> simp [excludes?]

end SourceFilter

namespace Envelope

/-! ## What calls give -/

/-- The constructors, each with what it is given. -/
inductive Start where
  | around (query : Option Clause)
  | ofAggs (named : List (String × Aggregation))
  | empty

namespace Start

def envelope : Start → Envelope
  | around query => .around query
  | ofAggs named => .ofAggs named
  | empty => .empty

def clause? : Start → Option Clause
  | around query => query
  | ofAggs _ | empty => none

/-- Whether the constructor asks for a clause. -/
def asks : Start → Bool
  | around _ => true
  | ofAggs _ | empty => false

def named : Start → List (String × Aggregation)
  | ofAggs named => named
  | around _ | empty => []

end Start

namespace Call

def clause? : Call → Option Clause
  | query c => c
  | _ => none

def offset? : Call → Option UInt64
  | offset n => some n
  | _ => none

def size? : Call → Option UInt64
  | size n => some n
  | _ => none

def tracking? : Call → Option Bool
  | trackTotalHits b => some b
  | _ => none

def sorts : Call → List SortEntry
  | sort s => [s]
  | sortAll ss => ss
  | _ => []

def named : Call → List (String × Aggregation)
  | aggs named => named
  | _ => []

/-- A filter is set, or fields are listed for it. -/
def filters : Call → Bool
  | source _ | sourceDisabled => true
  | sourceIncludes names | sourceExcludes names => !names.isEmpty
  | _ => false

end Call

def run (e : Envelope) (calls : List Call) : Envelope :=
  calls.foldl apply e

/-- What one call does to each part. -/
structure Step (e : Envelope) (call : Call) (e' : Envelope) : Prop where
  query : e'.query = call.clause?.or e.query
  offset : e'.offset = call.offset?.or e.offset
  size : e'.size = call.size?.or e.size
  trackTotalHits : e'.trackTotalHits = call.tracking?.or e.trackTotalHits
  sorts : e'.sorts = e.sorts ++ call.sorts
  aggs : e'.aggs = attach e.aggs call.named
  source : e'.source = none ↔ e.source = none ∧ call.filters = false

theorem step_apply (e : Envelope) (call : Call) : Step e call (e.apply call) := by
  cases call with
  | query c =>
    cases c <;> constructor <;> simp [apply, attach, Call.clause?, Call.offset?, Call.size?,
      Call.tracking?, Call.sorts, Call.named, Call.filters]
  | _ =>
    constructor <;> simp [apply, attach, Call.clause?, Call.offset?, Call.size?, Call.tracking?,
      Call.sorts, Call.named, Call.filters, SourceFilter.includes?_eq_none_iff,
      SourceFilter.excludes?_eq_none_iff]

/-! ## A run -/

section Run

variable (e : Envelope) (calls : List Call)

theorem query_run :
    (e.run calls).query = (calls.filterMap Call.clause?).getLast?.or e.query :=
  last_of_run Envelope.query (fun e call => (e.step_apply call).query) e calls

theorem sorts_run : (e.run calls).sorts = e.sorts ++ calls.flatMap Call.sorts :=
  all_of_run Envelope.sorts (fun e call => (e.step_apply call).sorts) e calls

theorem aggs_run : (e.run calls).aggs = attach e.aggs (calls.flatMap Call.named) := by
  induction calls generalizing e with
  | nil => rfl
  | cons call calls ih =>
    rw [run, List.foldl_cons, ← run, ih, (e.step_apply call).aggs, Aggregation.attach_attach,
      List.flatMap_cons]

theorem source_run : (e.run calls).source = none ↔
    e.source = none ∧ ∀ call ∈ calls, call.filters = false := by
  induction calls generalizing e with
  | nil => simp [run]
  | cons call calls ih =>
    rw [run, List.foldl_cons, ← run, ih, (e.step_apply call).source, and_assoc,
      List.forall_mem_cons]

end Run

/-! ## The body after a run -/

/-- The aggregations that were given, with their names, from first to last. -/
def Start.allNamed (start : Start) (calls : List Call) : List (String × Aggregation) :=
  start.named ++ calls.flatMap Call.named

/-- The present clauses that were given, from first to last. -/
def Start.allClauses (start : Start) (calls : List Call) : List Clause :=
  start.clause?.toList ++ calls.filterMap Call.clause?

section Shown

variable (start : Start) (calls : List Call)

theorem query_of_run : (start.envelope.run calls).query =
    (start.allClauses calls).getLast?.or (if start.asks then some .empty else none) := by
  rw [query_run, Start.allClauses, List.getLast?_append, Option.or_assoc]
  congr 1
  cases start with
  | around c => cases c <;> rfl
  | _ => rfl

/-- A part that every constructor leaves out, and that calls replace, is what the last of them gave. -/
theorem last_of_start {α : Type} (part : Envelope → Option α) {given : Call → Option α}
    (hs : ∀ start : Start, part start.envelope = none)
    (h : ∀ e call, part (apply e call) = (given call).or (part e)) :
    part (start.envelope.run calls) = (calls.filterMap given).getLast? := by
  rw [run, last_of_run part h, hs, Option.or_none]

theorem offset_of_run :
    (start.envelope.run calls).offset = (calls.filterMap Call.offset?).getLast? :=
  last_of_start start calls Envelope.offset (by rintro ⟨⟩ <;> rfl) fun e call =>
    (e.step_apply call).offset

theorem size_of_run :
    (start.envelope.run calls).size = (calls.filterMap Call.size?).getLast? :=
  last_of_start start calls Envelope.size (by rintro ⟨⟩ <;> rfl) fun e call =>
    (e.step_apply call).size

theorem trackTotalHits_of_run :
    (start.envelope.run calls).trackTotalHits = (calls.filterMap Call.tracking?).getLast? :=
  last_of_start start calls Envelope.trackTotalHits (by rintro ⟨⟩ <;> rfl) fun e call =>
    (e.step_apply call).trackTotalHits

theorem sorts_of_run : (start.envelope.run calls).sorts = calls.flatMap Call.sorts := by
  have h : start.envelope.sorts = [] := by cases start <;> rfl
  rw [sorts_run, h, List.nil_append]

theorem aggs_of_run :
    (start.envelope.run calls).aggs = attach [] (start.allNamed calls) := by
  have h : start.envelope.aggs = attach [] start.named := by cases start <;> rfl
  rw [aggs_run, h, Aggregation.attach_attach, Start.allNamed]

theorem source_of_run : (start.envelope.run calls).source ≠ none ↔
    ∃ call ∈ calls, call.filters = true := by
  have h : start.envelope.source = none := by cases start <;> rfl
  simp [source_run, h]

end Shown

/-- The body after any run of calls. The query is the last present clause, or the empty object where
a constructor asked for one and none was given. Paging and tracking show the last value, sort entries
are listed in order, every name has its last aggregation, and a source filter is there only if a call
set one or listed fields for it. Nothing else is in the body. -/
theorem body_of_run (start : Start) (calls : List Call) : ∃ body : Object,
    (start.envelope.run calls).document = .obj body ∧
    body.get? "query" = (match (start.allClauses calls).getLast? with
      | some c => some c.document.json
      | none => if start.asks then some (.obj []) else none) ∧
    body.get? "from" =
      (calls.filterMap Call.offset?).getLast?.map (fun n => .int (.ofUInt64 n)) ∧
    body.get? "size" = (calls.filterMap Call.size?).getLast?.map (fun n => .int (.ofUInt64 n)) ∧
    body.get? "track_total_hits" = (calls.filterMap Call.tracking?).getLast?.map .bool ∧
    body.get? "sort" = (if calls.flatMap Call.sorts = [] then none
      else some (.arr ((calls.flatMap Call.sorts).map fun s => s.document.json))) ∧
    (start.allNamed calls = [] → body.get? "aggs" = none) ∧
    (start.allNamed calls ≠ [] → ∃ children : Object,
      body.get? "aggs" = some (.obj children.entries) ∧
      ∀ name, children.get? name =
        ((start.allNamed calls).filterMap (Aggregation.called? name)).getLast?.map
          fun a => a.document.json) ∧
    (body.get? "_source" ≠ none ↔ ∃ call ∈ calls, call.filters = true) ∧
    ∀ key ∉ ["query", "from", "size", "sort", "_source", "track_total_hits", "aggs"],
      body.get? key = none := by
  refine ⟨(start.envelope.run calls).body, rfl, ?_, ?_, ?_, ?_, ?_, ?_, ?_, ?_, ?_⟩
  · rw [get?_body_query, query_of_run]
    cases (start.allClauses calls).getLast? with
    | some c => rfl
    | none =>
      cases start.asks with
      | true => exact congrArg (some ·.json) Clause.document_empty
      | false => rfl
  · rw [get?_body_from, offset_of_run]
  · rw [get?_body_size, size_of_run]
  · rw [get?_body_trackTotalHits, trackTotalHits_of_run]
  · rw [get?_body_sort, sorts_of_run]
  · intro h
    rw [get?_body_aggs, aggs_of_run, h]
    rfl
  · intro h
    have ha : attach [] (start.allNamed calls) ≠ [] := fun ha =>
      h (Aggregation.attach_eq_nil_iff.mp ha).2
    refine ⟨_, by rw [get?_body_aggs, aggs_of_run, if_neg ha], fun name => ?_⟩
    rw [Aggregation.get?_childObject, Aggregation.get?_attach, Keyed.get?, Option.or_none]
  · rw [get?_body_source, ← source_of_run]
    exact Option.map_eq_none_iff.not
  · exact fun key h => get?_body_eq_none _ h

end Envelope

end SearchRequest
