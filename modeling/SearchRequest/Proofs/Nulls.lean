import SearchRequest.Document.Null
import SearchRequest.Proofs.Trees

/-! # Nulls in trees

Whether a tree holds a null is a matter of what stands in it at any depth. The search that goes
from the root, and ends at the first null, finds one exactly when there is one.
-/

namespace SearchRequest

namespace Json

/-- A tree stands in another: it is that tree, or stands in one of its items or entries. -/
inductive Within (x : Json) : Json → Prop
  | here : Within x x
  | item {y : Json} {ys : List Json} : y ∈ ys → Within x y → Within x (arr ys)
  | entry {e : String × Json} {es : List (String × Json)} :
      e ∈ es → Within x e.2 → Within x (obj es)

/-- A null stands in the tree at some depth. -/
def HoldsNull (x : Json) : Prop :=
  Within null x

variable {xs : List Json} {es : List (String × Json)}

@[simp] theorem holdsNull_null : HoldsNull null := .here

@[simp] theorem not_holdsNull_bool (b : Bool) : ¬ HoldsNull (bool b) := nofun

@[simp] theorem not_holdsNull_int (n : Integer) : ¬ HoldsNull (int n) := nofun

@[simp] theorem not_holdsNull_float (x : FiniteDouble) : ¬ HoldsNull (float x) := nofun

@[simp] theorem not_holdsNull_str (s : String) : ¬ HoldsNull (str s) := nofun

@[simp] theorem holdsNull_arr : HoldsNull (arr xs) ↔ ∃ x ∈ xs, HoldsNull x := by
  constructor
  · intro h; cases h with | item hx h => exact ⟨_, hx, h⟩
  · rintro ⟨x, hx, h⟩; exact .item hx h

@[simp] theorem holdsNull_obj : HoldsNull (obj es) ↔ ∃ e ∈ es, HoldsNull e.2 := by
  constructor
  · intro h; cases h with | entry he h => exact ⟨_, he, h⟩
  · rintro ⟨e, he, h⟩; exact .entry he h

theorem itemsHaveNull_iff : itemsHaveNull xs = true ↔ ∃ x ∈ xs, x.hasNull = true := by
  induction xs with
  | nil => simp [itemsHaveNull]
  | cons x xs ih => simp [itemsHaveNull, ih]

theorem entriesHaveNull_iff : entriesHaveNull es = true ↔ ∃ e ∈ es, e.2.hasNull = true := by
  induction es with
  | nil => simp [entriesHaveNull]
  | cons e es ih => simp [entriesHaveNull, ih]

theorem hasNull_iff (x : Json) : x.hasNull = true ↔ x.HoldsNull := by
  induction x with
  | arr xs ih =>
    simp only [hasNull, itemsHaveNull_iff, holdsNull_arr]
    exact exists_congr fun x => and_congr_right (ih x)
  | obj es ih =>
    simp only [hasNull, entriesHaveNull_iff, holdsNull_obj]
    exact exists_congr fun e => and_congr_right (ih e)
  | _ => simp [hasNull]

instance (x : Json) : Decidable x.HoldsNull :=
  decidable_of_iff _ (hasNull_iff x)

theorem itemNullSteps?_eq_none_iff {i : Nat} :
    itemNullSteps? i xs = none ↔ ∀ x ∈ xs, x.nullSteps? = none := by
  induction xs generalizing i with
  | nil => simp [itemNullSteps?]
  | cons x xs ih => cases h : x.nullSteps? <;> simp [itemNullSteps?, h, ih]

theorem entryNullSteps?_eq_none_iff :
    entryNullSteps? es = none ↔ ∀ e ∈ es, e.2.nullSteps? = none := by
  induction es with
  | nil => simp [entryNullSteps?]
  | cons e es ih => cases h : e.2.nullSteps? <;> simp [entryNullSteps?, h, ih]

/-- The search fails only where there is nothing to find. -/
theorem nullSteps?_eq_none_iff (x : Json) : x.nullSteps? = none ↔ ¬ x.HoldsNull := by
  induction x with
  | arr xs ih =>
    simp only [nullSteps?, itemNullSteps?_eq_none_iff, holdsNull_arr, not_exists, not_and]
    exact forall_congr' fun x => imp_congr_right (ih x)
  | obj es ih =>
    simp only [nullSteps?, entryNullSteps?_eq_none_iff, holdsNull_obj, not_exists, not_and]
    exact forall_congr' fun e => imp_congr_right (ih e)
  | _ => simp [nullSteps?]

end Json

/-- A value that can be sent: nothing in it is null. -/
def Value.Sendable (v : Value) : Prop :=
  ¬ v.json.HoldsNull

theorem Value.nullPath?_eq_none_iff (v : Value) : v.nullPath? = none ↔ v.Sendable := by
  rw [nullPath?, Option.map_eq_none_iff, Json.nullSteps?_eq_none_iff, Sendable]

theorem Value.exists_nullPath? {v : Value} (h : ¬ v.Sendable) :
    ∃ path, v.nullPath? = some path := by
  rw [← nullPath?_eq_none_iff] at h
  exact Option.ne_none_iff_exists'.mp h

end SearchRequest
