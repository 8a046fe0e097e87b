import Mathlib.Data.List.Forall2
import SearchRequest.Options

/-! # Look-ups

An object is known by its look-ups: objects that hold related values under the same keys are
related entry by entry, since keys ascend in both. Options hold nothing under a key that no setting
writes.
-/

namespace SearchRequest

theorem forall_mem_none {α : Type} {P : α → Prop} : ∀ a ∈ (none : Option α), P a := nofun

namespace Keyed

variable {α : Type} {k : String} {x : α} {es fs : List (String × α)}

theorem get?_cons_self (e : String × α) (es : List (String × α)) :
    get? e.1 (e :: es) = some e.2 :=
  if_pos rfl

theorem get?_eq_none_iff : get? k es = none ↔ ∀ e ∈ es, e.1 ≠ k := by
  induction es with
  | nil => simp [get?]
  | cons e es ih =>
    by_cases h : k = e.1
    · simp [get?, h]
    · simp [get?, h, ih, Ne.symm h]

theorem mem_of_get? (h : get? k es = some x) : (k, x) ∈ es := by
  induction es with
  | nil => cases h
  | cons e es ih =>
    rw [get?] at h
    split at h
    · next hk => cases h; exact hk ▸ List.mem_cons_self
    · exact List.mem_cons_of_mem _ (ih h)

theorem insert_ne_nil : insert k x es ≠ [] := fun h => by
  have hk : get? k (insert k x es) = some x := by rw [get?_insert, if_pos rfl]
  rw [h] at hk
  cases hk

theorem get?_of_forall_lt (h : ∀ e ∈ es, k < e.1) : get? k es = none :=
  get?_eq_none_iff.mpr fun e he => (String.ne_of_lt (h e he)).symm

theorem get?_of_mem (h : Ascending es) (hx : (k, x) ∈ es) : get? k es = some x := by
  induction es with
  | nil => cases hx
  | cons e es ih =>
    obtain ⟨he, hes⟩ := List.pairwise_cons.mp h
    rw [get?]
    rcases List.mem_cons.mp hx with rfl | hx
    · rw [if_pos rfl]
    · rw [if_neg (String.ne_of_lt (he _ hx)).symm]
      exact ih hes hx

/-- The look-ups tell the first keys apart unless they are equal; then they tell the rest apart. -/
theorem forall₂_of_get? {R : α → α → Prop} (he : Ascending es) (hf : Ascending fs)
    (h : ∀ k, Option.Rel R (get? k es) (get? k fs)) :
    List.Forall₂ (fun e f => e.1 = f.1 ∧ R e.2 f.2) es fs := by
  induction es generalizing fs with
  | nil =>
    cases fs with
    | nil => exact .nil
    | cons f fs => have := h f.1; simp [get?] at this
  | cons e es ih =>
    cases fs with
    | nil => have := h e.1; simp [get?] at this
    | cons f fs =>
      obtain ⟨he', hes⟩ := List.pairwise_cons.mp he
      obtain ⟨hf', hfs⟩ := List.pairwise_cons.mp hf
      have hk : e.1 = f.1 := by
        by_contra hne
        by_cases hlt : e.1 < f.1
        · have hn : get? e.1 (f :: fs) = none := get?_of_forall_lt fun d hd => by
            rcases List.mem_cons.mp hd with rfl | hd
            · exact hlt
            · exact String.lt_trans hlt (hf' d hd)
          have := h e.1
          rw [get?_cons_self, hn] at this
          cases this
        · have hn : get? f.1 (e :: es) = none := get?_of_forall_lt fun d hd => by
            have hgt := lt_of_not_lt_of_ne hlt hne
            rcases List.mem_cons.mp hd with rfl | hd
            · exact hgt
            · exact String.lt_trans hgt (he' d hd)
          have := h f.1
          rw [get?_cons_self, hn] at this
          cases this
      have hx : R e.2 f.2 := by simpa [get?, hk] using h e.1
      refine .cons ⟨hk, hx⟩ (ih hes hfs fun k => ?_)
      by_cases hke : k = e.1
      · rw [get?_of_forall_lt (hke ▸ he'), get?_of_forall_lt (hke ▸ hk ▸ hf')]
        exact .none
      · simpa [get?, hke, hk ▸ hke] using h k

theorem ext_get? (he : Ascending es) (hf : Ascending fs) (h : ∀ k, get? k es = get? k fs) :
    es = fs := by
  have hr : List.Forall₂ (fun e f : String × α => e.1 = f.1 ∧ e.2 = f.2) es fs :=
    forall₂_of_get? he hf fun k => by
      rw [h k]
      cases get? k fs <;> simp
  rw [← List.forall₂_eq_eq_eq]
  exact hr.imp fun e f => Prod.ext_iff.mpr

end Keyed

namespace Object

variable {o p : Object} {k l : String}

theorem ext_get? (h : ∀ k, o.get? k = p.get? k) : o = p :=
  Object.ext (Keyed.ext_get? o.keys p.keys h)

@[simp] theorem get?_empty (k : String) : (∅ : Object).get? k = none := rfl

theorem get?_insert_self {o : Object} {v : Value} : (o.insert k v).get? k = some v.json := by
  rw [get?_insert, if_pos rfl]

theorem get?_insert_ne {o : Object} {v : Value} (h : l ≠ k) : (o.insert k v).get? l = o.get? l := by
  rw [get?_insert, if_neg h]

theorem get?_insert? (o : Object) (k l : String) (v : Option Value) :
    (o.insert? k v).get? l = (if l = k then v.map (·.json) else none).or (o.get? l) := by
  cases v with
  | none => simp [insert?]
  | some v => by_cases h : l = k <;> simp [insert?, h]

theorem get?_insert?_ne {o : Object} {k l : String} (h : l ≠ k) (v : Option Value) :
    (o.insert? k v).get? l = o.get? l := by
  rw [get?_insert?, if_neg h, Option.none_or]

end Object

theorem Value.map_arr? {α : Type} (f : α → Value) (as : List α) :
    (arr? (as.map f)).map (·.json) =
      if as = [] then none else some (.arr (as.map fun a => (f a).json)) := by
  cases as with
  | nil => rfl
  | cons a as =>
    change some (Json.arr (((a :: as).map f).map (·.json))) = _
    rw [List.map_map, if_neg (List.cons_ne_nil a as)]
    rfl

namespace Options

variable {ω : Type} [Setting ω] {k : String}

theorem get?_eq_none (os : Options ω) (h : ∀ o : ω, Setting.key o ≠ k) :
    os.object.get? k = none := by
  refine Keyed.get?_eq_none_iff.mpr fun e he => ?_
  obtain ⟨o, rfl⟩ := os.written e he
  exact h o

theorem get?_set (os : Options ω) (o : ω) : (os.set o).object.get? k =
    (if k = Setting.key o then some (Setting.value o).json else none).or (os.object.get? k) := by
  rw [set, Object.get?_insert]
  split <;> rfl

theorem ext_get? {a b : Options ω} (h : ∀ k, a.object.get? k = b.object.get? k) : a = b := by
  have ho : a.object = b.object := Object.ext_get? h
  cases a; cases b; cases ho
  rfl

end Options

theorem Builder.ext {β ω : Type} [Setting ω] {a b : Builder β ω} (hp : a.parts = b.parts)
    (ho : a.options = b.options) : a = b := by
  cases a; cases b; cases hp; cases ho
  rfl

end SearchRequest
