import Mathlib.Data.List.Induction
import SearchRequest.Proofs.Objects
import SearchRequest.Proofs.Results

/-! # Runs of calls

A builder is used by one call after another. What a part of it holds after a run is told from what
each call gives to that part: the last value given, or all of them in the order of the calls.
-/

namespace SearchRequest

section Parts

variable {σ α β : Type} {step : σ → α → σ}

/-- A part that a call replaces or leaves holds the last value that it was given. -/
theorem last_of_run (part : σ → Option β) {given : α → Option β}
    (h : ∀ s a, part (step s a) = (given a).or (part s)) (s : σ) (as : List α) :
    part (as.foldl step s) = (as.filterMap given).getLast?.or (part s) := by
  induction as generalizing s with
  | nil => rfl
  | cons a as ih =>
    rw [List.foldl_cons, ih, h, ← Option.or_assoc]
    cases hg : given a with
    | none => rw [List.filterMap_cons_none hg, Option.or_none]
    | some b =>
      rw [List.filterMap_cons_some hg, List.getLast?_cons]
      cases (as.filterMap given).getLast? <;> rfl

/-- The same for a part that always holds something. -/
theorem latest_of_run (part : σ → β) {given : α → Option β}
    (h : ∀ s a, part (step s a) = (given a).getD (part s)) (s : σ) (as : List α) :
    part (as.foldl step s) = (as.filterMap given).getLast?.getD (part s) := by
  have hs (s : σ) (a : α) : some (part (step s a)) = (given a).or (some (part s)) := by
    rw [h, Option.or_some]
  have hr := last_of_run (fun s => some (part s)) hs s as
  rw [Option.or_some] at hr
  exact Option.some.inj hr

/-- A part that a call appends to holds all that it was given. -/
theorem all_of_run (part : σ → List β) {given : α → List β}
    (h : ∀ s a, part (step s a) = part s ++ given a) (s : σ) (as : List α) :
    part (as.foldl step s) = part s ++ as.flatMap given := by
  induction as generalizing s with
  | nil => exact (List.append_nil _).symm
  | cons a as ih => rw [List.foldl_cons, ih, h, List.flatMap_cons, List.append_assoc]

/-- What a call appends may depend on the state that the calls before it have led to. -/
theorem added_of_run (part : σ → List β) {added : σ → α → List β}
    (h : ∀ s a, part (step s a) = part s ++ added s a) (s : σ) (as : List α) :
    part (as.foldl step s) =
      part s ++ as.zipIdx.flatMap fun p => added ((as.take p.2).foldl step s) p.1 := by
  induction as using List.reverseRecOn with
  | nil => exact (List.append_nil _).symm
  | append_singleton as a ih =>
    have htake (p : α × Nat) (hp : p ∈ as.zipIdx) : (as ++ [a]).take p.2 = as.take p.2 := by
      obtain ⟨-, hlt, -⟩ := List.mem_zipIdx hp
      exact List.take_append_of_le_length (by omega)
    have hrest : (as.zipIdx.flatMap fun p => added (((as ++ [a]).take p.2).foldl step s) p.1) =
        as.zipIdx.flatMap fun p => added ((as.take p.2).foldl step s) p.1 := by
      rw [List.flatMap_def, List.flatMap_def]
      congr 1
      exact List.map_congr_left fun p hp => by rw [htake p hp]
    rw [List.foldl_append, List.foldl_cons, List.foldl_nil, h, ih, List.zipIdx_append,
      List.flatMap_append, hrest, List.append_assoc]
    simp

end Parts

/-! ## Entries put in one after another -/

namespace Keyed

variable {α β : Type} {k : String} {es fs : List (String × α)}

/-- The value of the last entry that has this key. -/
def last? (k : String) (es : List (String × α)) : Option α :=
  (es.filterMap fun e => if k = e.1 then some e.2 else none).getLast?

theorem last?_map (f : α → β) :
    last? k (es.map fun e => (e.1, f e.2)) = (last? k es).map f := by
  rw [last?, last?, List.filterMap_map, ← List.getLast?_map, List.map_filterMap]
  congr 2
  funext e
  by_cases h : k = e.1 <;> simp [h]

theorem forall_last?_eq_none_iff : (∀ k, last? k es = none) ↔ es = [] := by
  refine ⟨fun h => ?_, fun h => h ▸ fun _ => rfl⟩
  cases es with
  | nil => rfl
  | cons e es =>
    have hn := h e.1
    rw [last?, List.getLast?_eq_none_iff] at hn
    simp at hn

theorem get?_foldl_insert : get? k (es.foldl (fun fs e => insert e.1 e.2 fs) fs) =
    (last? k es).or (get? k fs) := by
  refine last_of_run (get? k) (fun fs e => ?_) fs es
  rw [get?_insert]
  split <;> rfl

end Keyed

theorem Object.get?_foldl_insert {k : String} {es : List (String × Value)} {o : Object} :
    (es.foldl (fun o e => o.insert e.1 e.2) o).get? k =
      ((Keyed.last? k es).map (·.json)).or (o.get? k) := by
  rw [← Keyed.last?_map, Keyed.last?, List.filterMap_map]
  refine last_of_run (fun o : Object => o.get? k) (fun o e => ?_) o es
  rw [Object.get?_insert, Function.comp_apply]
  split <;> rfl

namespace Logged

variable {σ α : Type} {f : σ → α → Logged σ} {step : σ → α → σ}

/-- Where each step has the same result under every logger, so has a run. -/
theorem result_foldlM (h : ∀ s a l, (f s a).result l = step s a) (s : σ) (as : List α)
    (l : Logger) : (as.foldlM f s).result l = as.foldl step s := by
  induction as generalizing s l with
  | nil => rfl
  | cons a as ih => rw [List.foldlM_cons, result_bind, ih, h, List.foldl_cons]

end Logged

end SearchRequest
