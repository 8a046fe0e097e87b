import SearchRequest.Envelope
import SearchRequest.Proofs.Clauses

/-! # Documents of envelopes

What stands under each key of a request, and under the names of its aggregations.
-/

namespace SearchRequest

namespace Aggregation

variable {name : String} {children : List (String × Aggregation)}

theorem get?_childObject :
    (childObject children).get? name = (Keyed.get? name children).map fun a => a.document.json := by
  induction children with
  | nil => rw [childObject]; rfl
  | cons c children ih =>
    rw [childObject, Object.get?_insert, ih, Keyed.get?]
    split <;> rfl

theorem obj?_childObject : (Value.obj? (childObject children)).map (·.json) =
    if children = [] then none else some (.obj (childObject children).entries) := by
  cases children with
  | nil => rw [childObject]; rfl
  | cons c children =>
    have h : (childObject (c :: children)).isEmpty = false := by
      rw [childObject]
      exact List.isEmpty_eq_false_iff.mpr Keyed.insert_ne_nil
    rw [Value.obj?, h]
    rfl

end Aggregation

namespace Envelope

variable (e : Envelope)

/-- What is shown under a key. -/
def shown? (key : String) : Option Value :=
  if key = "query" then e.query.map Clause.document
  else if key = "from" then e.offset.map .uint64
  else if key = "size" then e.size.map .uint64
  else if key = "sort" then Value.arr? (e.sorts.map SortEntry.document)
  else if key = "_source" then e.source.map SourceFilter.document
  else if key = "track_total_hits" then e.trackTotalHits.map .bool
  else if key = "aggs" then Value.obj? (Aggregation.childObject e.aggs)
  else none

theorem get?_body (key : String) : e.body.get? key = (e.shown? key).map (·.json) := by
  simp only [body, List.foldl_cons, List.foldl_nil, Object.get?_insert?, Object.get?_empty,
    Option.or_none, shown?]
  split_ifs <;> simp_all

theorem get?_body_query : e.body.get? "query" = e.query.map fun c => c.document.json := by
  rw [get?_body]
  exact Option.map_map ..

theorem get?_body_from : e.body.get? "from" = e.offset.map fun n => .int (.ofUInt64 n) := by
  rw [get?_body]
  exact Option.map_map ..

theorem get?_body_size : e.body.get? "size" = e.size.map fun n => .int (.ofUInt64 n) := by
  rw [get?_body]
  exact Option.map_map ..

theorem get?_body_sort : e.body.get? "sort" =
    if e.sorts = [] then none else some (.arr (e.sorts.map fun s => s.document.json)) := by
  rw [get?_body]
  exact Value.map_arr? ..

theorem get?_body_source : e.body.get? "_source" = e.source.map fun f => f.document.json := by
  rw [get?_body]
  exact Option.map_map ..

theorem get?_body_trackTotalHits : e.body.get? "track_total_hits" = e.trackTotalHits.map .bool := by
  rw [get?_body]
  exact Option.map_map ..

theorem get?_body_aggs : e.body.get? "aggs" =
    if e.aggs = [] then none else some (.obj (Aggregation.childObject e.aggs).entries) := by
  rw [get?_body]
  exact Aggregation.obj?_childObject

theorem get?_body_eq_none {key : String} (h : key ∉ ["query", "from", "size", "sort", "_source",
    "track_total_hits", "aggs"]) : e.body.get? key = none := by
  rw [get?_body]
  simp_all [shown?]

end Envelope

end SearchRequest
