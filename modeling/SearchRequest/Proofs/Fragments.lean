import SearchRequest.Encoding.Encode
import SearchRequest.Proofs.Assembly
import SearchRequest.Proofs.Envelopes

/-! # Fragments of a request

A clause, a sort entry and an aggregation can be handed to a serializer on their own. A request is
refused for a null in any of them, and so is a clause; a sort entry and an aggregation are not.
-/

namespace SearchRequest

open Json

/-- Nothing is handed out. -/
def Refused (r : Except EncodeFault Value) : Prop :=
  ∃ fault, r = .error fault

theorem not_refused_ok (v : Value) : ¬ Refused (.ok v) := nofun

theorem Value.refused_checked_iff (v : Value) : Refused v.checked ↔ v.json.HoldsNull := by
  rw [checked]
  split
  · next path h =>
    refine iff_of_true ⟨_, rfl⟩ ?_
    by_contra hn
    rw [v.nullPath?_eq_none_iff.mpr hn] at h
    cases h
  · next h => exact iff_of_false (not_refused_ok v) (v.nullPath?_eq_none_iff.mp h)

/-! ## Where a request may hold a null -/

/-- Keys are distinct, so nothing that stands in an object is out of reach of a look-up. -/
theorem Object.holdsNull_iff (o : Object) :
    (Value.obj o).json.HoldsNull ↔ ∃ k, ∃ x ∈ o.get? k, x.HoldsNull := by
  refine holdsNull_obj.trans ⟨?_, ?_⟩
  · rintro ⟨e, he, h⟩
    exact ⟨e.1, e.2, Keyed.get?_of_mem o.keys he, h⟩
  · rintro ⟨k, x, hx, h⟩
    exact ⟨(k, x), Keyed.mem_of_get? hx, h⟩

theorem Aggregation.holdsNull_childObject_iff (children : List (String × Aggregation)) :
    (Value.obj (childObject children)).json.HoldsNull ↔
      ∃ name, ∃ a ∈ Keyed.get? name children, a.document.json.HoldsNull := by
  rw [Object.holdsNull_iff]
  refine exists_congr fun name => ?_
  rw [get?_childObject]
  simp

namespace Envelope

variable (e : Envelope)

/-- Paging, tracking and the source filter are never null. -/
theorem holdsNull_document_iff : e.document.json.HoldsNull ↔
    (∃ c ∈ e.query, c.document.json.HoldsNull) ∨ (∃ s ∈ e.sorts, s.document.json.HoldsNull) ∨
      ∃ name, ∃ a ∈ Keyed.get? name e.aggs, a.document.json.HoldsNull := by
  rw [document, Object.holdsNull_iff]
  constructor
  · rintro ⟨k, x, hx, h⟩
    by_cases hk : k ∈ ["query", "from", "size", "sort", "_source", "track_total_hits", "aggs"]
    · simp only [List.mem_cons, List.not_mem_nil, or_false] at hk
      obtain rfl | rfl | rfl | rfl | rfl | rfl | rfl := hk
      · rw [get?_body_query] at hx
        obtain ⟨c, hc, rfl⟩ := Option.map_eq_some_iff.mp hx
        exact .inl ⟨c, hc, h⟩
      · rw [get?_body_from] at hx
        obtain ⟨n, _, rfl⟩ := Option.map_eq_some_iff.mp hx
        exact absurd h (not_holdsNull_int _)
      · rw [get?_body_size] at hx
        obtain ⟨n, _, rfl⟩ := Option.map_eq_some_iff.mp hx
        exact absurd h (not_holdsNull_int _)
      · rw [get?_body_sort] at hx
        split at hx
        · cases hx
        · cases hx
          obtain ⟨x, hx, h⟩ := holdsNull_arr.mp h
          obtain ⟨s, hs, rfl⟩ := List.mem_map.mp hx
          exact .inr (.inl ⟨s, hs, h⟩)
      · rw [get?_body_source] at hx
        obtain ⟨f, _, rfl⟩ := Option.map_eq_some_iff.mp hx
        exact absurd h f.sendable_document
      · rw [get?_body_trackTotalHits] at hx
        obtain ⟨b, _, rfl⟩ := Option.map_eq_some_iff.mp hx
        exact absurd h (not_holdsNull_bool b)
      · rw [get?_body_aggs] at hx
        split at hx
        · cases hx
        · cases hx
          exact .inr (.inr ((Aggregation.holdsNull_childObject_iff _).mp h))
    · rw [e.get?_body_eq_none hk] at hx
      cases hx
  · rintro (⟨c, hc, h⟩ | ⟨s, hs, h⟩ | ⟨name, a, ha, h⟩)
    · exact ⟨"query", _, by rw [get?_body_query, hc]; rfl, h⟩
    · have hm : s.document.json ∈ e.sorts.map fun s => s.document.json := List.mem_map_of_mem hs
      refine ⟨"sort", _, ?_, holdsNull_arr.mpr ⟨_, hm, h⟩⟩
      rw [get?_body_sort, if_neg (List.ne_nil_of_mem hs)]
      rfl
    · refine ⟨"aggs", _, ?_, (Aggregation.holdsNull_childObject_iff _).mpr ⟨name, a, ha, h⟩⟩
      rw [get?_body_aggs, if_neg fun hn => ?_]
      · rfl
      · rw [hn] at ha
        cases ha

end Envelope

/-- A clause is refused exactly if its document holds a null, and a request exactly if a clause, a
sort entry or an aggregation in it does. The rule extends to a sort entry or an aggregation on its
own only where there is no null to be found. -/
theorem verdict_on_fragments (c : Clause) (e : Envelope) (s : SortEntry) (a : Aggregation) :
    (Refused c.serialize ↔ c.document.json.HoldsNull) ∧
    (Refused e.serialize ↔
      (∃ c ∈ e.query, c.document.json.HoldsNull) ∨ (∃ s ∈ e.sorts, s.document.json.HoldsNull) ∨
        ∃ name, ∃ a ∈ Keyed.get? name e.aggs, a.document.json.HoldsNull) ∧
    ((Refused s.serialize ↔ s.document.json.HoldsNull) ↔ ¬ s.document.json.HoldsNull) ∧
    ((Refused a.serialize ↔ a.document.json.HoldsNull) ↔ ¬ a.document.json.HoldsNull) := by
  have hs : ¬ Refused s.serialize := not_refused_ok _
  have ha : ¬ Refused a.serialize := not_refused_ok _
  refine ⟨?_, ?_, ?_, ?_⟩
  · exact c.document.refused_checked_iff
  · rw [← e.holdsNull_document_iff]
    exact e.document.refused_checked_iff
  · simp only [hs, false_iff]
  · simp only [ha, false_iff]

/-- A sort in a nested context whose filter has a score that is not a number. -/
def sortWithNaN : SortEntry :=
  let term : Term := (Builder.of ⟨"f", .int (.ofUInt64 1)⟩).set (.boost .nan)
  let context : NestedSort := NestedSort.apply (.of "p") (.filter (some (.leaf (.term term))))
  Builder.set (.of "a") (.nested context)

def averageWithNaN : Aggregation :=
  (Aggregation.onField .avg "f").apply (.set (.missing (.double .nan)))

/-- Both pass on their own, and both are refused as parts of a request. -/
theorem fragments_with_nulls_pass :
    (sortWithNaN.document.json.HoldsNull ∧ ¬ Refused sortWithNaN.serialize ∧
      Refused (Envelope.serialize { sorts := [sortWithNaN] })) ∧
    averageWithNaN.document.json.HoldsNull ∧ ¬ Refused averageWithNaN.serialize ∧
      Refused (Envelope.serialize { aggs := [("x", averageWithNaN)] }) := by
  have hs : sortWithNaN.document.json.HoldsNull := by decide
  have ha : averageWithNaN.document.json.HoldsNull := by decide
  refine ⟨⟨hs, not_refused_ok _, ?_⟩, ha, not_refused_ok _, ?_⟩
  · refine (Value.refused_checked_iff _).mpr ((Envelope.holdsNull_document_iff _).mpr ?_)
    exact .inr (.inl ⟨_, List.mem_singleton_self _, hs⟩)
  · refine (Value.refused_checked_iff _).mpr ((Envelope.holdsNull_document_iff _).mpr ?_)
    exact .inr (.inr ⟨"x", _, rfl, ha⟩)

end SearchRequest
