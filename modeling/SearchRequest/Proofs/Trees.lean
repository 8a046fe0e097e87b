import SearchRequest.Document.Value

/-! # Induction on documents

A tree is proved from its items and entries. Values have the same principle, which hands out values
again, so that no proof carries the order of keys by hand.
-/

namespace SearchRequest

namespace Json

@[elab_as_elim, induction_eliminator]
theorem induct {P : Json → Prop} (null : P null) (bool : ∀ b, P (bool b)) (int : ∀ n, P (int n))
    (float : ∀ x, P (float x)) (str : ∀ s, P (str s))
    (arr : ∀ xs, (∀ x ∈ xs, P x) → P (arr xs))
    (obj : ∀ es, (∀ e ∈ es, P e.2) → P (obj es)) : ∀ x, P x
  | .null => null
  | .bool b => bool b
  | .int n => int n
  | .float x => float x
  | .str s => str s
  | .arr xs => arr xs fun x _ => induct null bool int float str arr obj x
  | .obj es => obj es fun e _ => induct null bool int float str arr obj e.2
termination_by x => sizeOf x
decreasing_by
  · simp only [Json.arr.sizeOf_spec]
    have := List.sizeOf_lt_of_mem ‹x ∈ xs›
    omega
  · simp only [Json.obj.sizeOf_spec]
    have := List.sizeOf_lt_of_mem ‹e ∈ es›
    obtain ⟨k, x⟩ := e
    simp only [Prod.mk.sizeOf_spec] at this ⊢
    omega

end Json

variable {xs : List Json} {es : List (String × Json)}

theorem exists_values (h : ∀ x ∈ xs, x.Ordered) : ∃ vs : List Value, xs = vs.map (·.json) := by
  induction xs with
  | nil => exact ⟨[], rfl⟩
  | cons x xs ih =>
    obtain ⟨vs, rfl⟩ := ih fun y hy => h y (List.mem_cons_of_mem _ hy)
    exact ⟨⟨x, h x List.mem_cons_self⟩ :: vs, rfl⟩

/-- The entry of a tree that a keyed value stands for. -/
def Value.under (e : String × Value) : String × Json :=
  (e.1, e.2.json)

theorem exists_entries (h : ∀ e ∈ es, e.2.Ordered) :
    ∃ fs : List (String × Value), es = fs.map Value.under := by
  induction es with
  | nil => exact ⟨[], rfl⟩
  | cons e es ih =>
    obtain ⟨fs, rfl⟩ := ih fun d hd => h d (List.mem_cons_of_mem _ hd)
    exact ⟨(e.1, ⟨e.2, h e List.mem_cons_self⟩) :: fs, rfl⟩

namespace Value

@[elab_as_elim, induction_eliminator]
theorem induct {P : Value → Prop} (null : P null) (bool : ∀ b, P (bool b)) (int : ∀ n, P (int n))
    (float : ∀ x, P (double (.finite x))) (str : ∀ s, P (str s))
    (arr : ∀ vs, (∀ v ∈ vs, P v) → P (arr vs))
    (obj : ∀ (o : Object) (es : List (String × Value)), o.entries = es.map under →
      (∀ e ∈ es, P e.2) → P (obj o)) (v : Value) : P v := by
  obtain ⟨x, h⟩ := v
  induction x with
  | null => exact null
  | bool b => exact bool b
  | int n => exact int n
  | float x => exact float x
  | str s => exact str s
  | arr xs ih =>
    cases h with
    | arr items =>
      obtain ⟨vs, rfl⟩ := exists_values items
      exact arr vs fun v hv => ih _ (List.mem_map_of_mem hv) v.ordered
  | obj es ih =>
    cases h with
    | obj keys values =>
      obtain ⟨fs, rfl⟩ := exists_entries values
      exact obj ⟨_, keys, values⟩ fs rfl fun e he => ih _ (List.mem_map_of_mem he) e.2.ordered

end Value

end SearchRequest
