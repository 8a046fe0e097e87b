import SearchRequest.Proofs.EnvelopeRuns
import SearchRequest.Proofs.Expression

/-! # Inner hits as a request

Inner hits render a clause and paging values as they are given, and keep them among their options. A
request keeps all parts apart and renders them at the end. Under the calls that both have, one state
stays matched with the other, and matched states show the same body.
-/

namespace SearchRequest

namespace InnerHits

def run (h : InnerHits) (calls : List Call) : InnerHits :=
  calls.foldl apply h

def body (h : InnerHits) : Object :=
  ((h.options.object.insert? "query" h.query).insert?
    "sort" (Value.arr? (h.sorts.map SortEntry.document))).insert?
    "_source" (h.source.map SourceFilter.document)

theorem document_eq_body (h : InnerHits) : h.document = .obj h.body :=
  rfl

/-- Three keys have parts of their own, the options are under the others. -/
theorem get?_body (h : InnerHits) (key : String) : h.body.get? key =
    (if key = "_source" then h.source.map fun f => f.document.json else none).or
      ((if key = "sort" then
          (Value.arr? (h.sorts.map SortEntry.document)).map (·.json) else none).or
        ((if key = "query" then h.query.map (·.json) else none).or
          (h.options.object.get? key))) := by
  rw [body, Object.get?_insert?, Object.get?_insert?, Object.get?_insert?, Option.map_map]
  rfl

end InnerHits

/-! ## Calls that both have -/

/-- A call that inner hits and requests both have. Inner hits take paging values of 32 bits. -/
inductive SharedCall where
  | query (c : Option Clause)
  | offset (n : UInt32)
  | size (n : UInt32)
  | sort (s : SortEntry)
  | source (c : SourceCall)

namespace SharedCall

def onInnerHits : SharedCall → InnerHits.Call
  | query c => .query c
  | offset n => .set (.offset n)
  | size n => .set (.size n)
  | sort s => .sort s
  | source c => c.inner

def onEnvelope : SharedCall → Envelope.Call
  | query c => .query c
  | offset n => .offset n.toUInt64
  | size n => .size n.toUInt64
  | sort s => .sort s
  | source c => c.outer

end SharedCall

/-! ## Matched states -/

theorem Integer.ofUInt64_toUInt64 (n : UInt32) : ofUInt64 n.toUInt64 = ofUInt32 n := by
  simp [ofUInt64, ofUInt32]

/-- Inner hits and a request that hold the same. What the request keeps as a clause is rendered in
the inner hits, and the options of the inner hits are the paging values of the request. -/
structure Matched (h : InnerHits) (e : Envelope) : Prop where
  query : h.query = e.query.map Clause.document
  sorts : h.sorts = e.sorts
  source : h.source = e.source
  options (key : String) : h.options.object.get? key =
    if key = "from" then e.offset.map fun n => .int (.ofUInt64 n)
    else if key = "size" then e.size.map fun n => .int (.ofUInt64 n)
    else none
  trackTotalHits : e.trackTotalHits = none
  aggs : e.aggs = []

namespace Matched

variable {h : InnerHits} {e : Envelope}

theorem initial : Matched {} .empty where
  query := rfl
  sorts := rfl
  source := rfl
  options key := by split_ifs <;> rfl
  trackTotalHits := rfl
  aggs := rfl

theorem apply_source (m : Matched h e) (c : SourceCall) :
    Matched (h.apply c.inner) (e.apply c.outer) := by
  cases c with
  | filter f => exact { m with source := rfl }
  | includes names =>
    have hs : SourceFilter.includes? h.source names = SourceFilter.includes? e.source names :=
      congrArg (SourceFilter.includes? · names) m.source
    exact { m with source := hs }
  | excludes names =>
    have hs : SourceFilter.excludes? h.source names = SourceFilter.excludes? e.source names :=
      congrArg (SourceFilter.excludes? · names) m.source
    exact { m with source := hs }
  | disabled => exact { m with source := rfl }

theorem apply (m : Matched h e) (call : SharedCall) :
    Matched (h.apply call.onInnerHits) (e.apply call.onEnvelope) := by
  cases call with
  | query c =>
    cases c with
    | none => exact m
    | some c => exact { m with query := rfl }
  | offset n =>
    have ho (key : String) : (h.options.object.insert "from" (.uint32 n)).get? key =
        if key = "from" then some (.int (.ofUInt64 n.toUInt64))
        else if key = "size" then e.size.map fun n => .int (.ofUInt64 n)
        else none := by
      rw [Object.get?_insert, m.options key, Integer.ofUInt64_toUInt64]
      split_ifs <;> rfl
    exact { m with options := ho }
  | size n =>
    have ho (key : String) : (h.options.object.insert "size" (.uint32 n)).get? key =
        if key = "from" then e.offset.map fun n => .int (.ofUInt64 n)
        else if key = "size" then some (.int (.ofUInt64 n.toUInt64))
        else none := by
      rw [Object.get?_insert, m.options key, Integer.ofUInt64_toUInt64]
      split_ifs with hs hf
      · exact absurd (hs.symm.trans hf) (by decide)
      all_goals rfl
    exact { m with options := ho }
  | sort s => exact { m with sorts := congrArg (· ++ [s]) m.sorts }
  | source c => exact m.apply_source c

theorem run (m : Matched h e) (calls : List SharedCall) : Matched
    (h.run (calls.map SharedCall.onInnerHits)) (e.run (calls.map SharedCall.onEnvelope)) := by
  induction calls generalizing h e with
  | nil => exact m
  | cons call calls ih => exact ih (m.apply call)

theorem body_eq (m : Matched h e) : h.body = e.body := by
  have ha : (Value.obj? (Aggregation.childObject e.aggs)).map (·.json) = none := by
    rw [Aggregation.obj?_childObject, if_pos m.aggs]
  refine Object.ext_get? fun key => ?_
  rw [InnerHits.get?_body, Envelope.get?_body, Envelope.shown?, m.query, m.sorts, m.source,
    m.options, m.trackTotalHits]
  by_cases hk : key ∈ ["_source", "sort", "query", "from", "size"]
  · simp only [List.mem_cons, List.not_mem_nil, or_false] at hk
    rcases hk with rfl | rfl | rfl | rfl | rfl <;> simp [Function.comp_def, Value.uint64, Value.int]
  · -- the request still has the keys of what only it can hold, and it holds none of that
    simp only [List.mem_cons, List.not_mem_nil, or_false, not_or] at hk
    simp only [hk, if_false, Option.none_or]
    split_ifs
    · rfl
    · exact ha.symm
    · rfl

end Matched

/-- After the same calls, new inner hits and an empty request have one document. -/
theorem SharedCall.same_document (calls : List SharedCall) :
    (InnerHits.run {} (calls.map onInnerHits)).document =
      (Envelope.empty.run (calls.map onEnvelope)).document := by
  have m := Matched.initial.run calls
  rw [InnerHits.document_eq_body, m.body_eq, Envelope.document]

end SearchRequest
