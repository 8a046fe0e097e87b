import SearchRequest.Proofs.Objects

/-! # Equality of documents

Equality of documents treats the two zeros as one number, so it is not identity. Two objects are
equal exactly if all their look-ups are, and so an entry can be compared apart from the others.
-/

namespace SearchRequest

/-! ## Trees -/

namespace Json

variable {xs ys : List Json} {es fs : List (String × Json)} {x y : Json} {k : String}

theorem sameEntries_iff : sameEntries es fs = true ↔
    List.Forall₂ (fun e f => e.1 = f.1 ∧ (e.2 == f.2) = true) es fs := by
  induction es generalizing fs with
  | nil => cases fs <;> simp [sameEntries]
  | cons e es ih =>
    cases fs with
    | nil => simp [sameEntries]
    | cons f fs =>
      rw [sameEntries, Bool.and_eq_true, Bool.and_eq_true, ih, List.forall₂_cons, beq_iff_eq]
      rfl

theorem get?_beq_of_forall₂
    (h : List.Forall₂ (fun e f : String × Json => e.1 = f.1 ∧ (e.2 == f.2) = true) es fs) :
    (Keyed.get? k es == Keyed.get? k fs) = true := by
  induction h with
  | nil => rfl
  | @cons e f es fs hef _ ih =>
    rw [Keyed.get?, Keyed.get?, ← hef.1]
    split
    · exact hef.2
    · exact ih

end Json

/-! ## Objects -/

namespace Object

variable {o p : Object} {k l : String} {v w : Value}

theorem rel_of_beq {a b : Option Json} (h : (a == b) = true) :
    Option.Rel (fun x y => (x == y) = true) a b := by
  cases a <;> cases b
  · exact .none
  · cases h
  · cases h
  · exact .some h

theorem beq_iff_get? : (o == p) = true ↔ ∀ k, (o.get? k == p.get? k) = true := by
  change Json.sameEntries o.entries p.entries = true ↔ _
  rw [Json.sameEntries_iff]
  constructor
  · intro h k
    exact Json.get?_beq_of_forall₂ h
  · intro h
    exact Keyed.forall₂_of_get? o.keys p.keys fun k => rel_of_beq (h k)

theorem insert_beq_insert (ho : o.get? k = none) (hp : p.get? k = none) :
    (o.insert k v == p.insert k w) = (v == w && o == p) := by
  rw [Bool.eq_iff_iff, Bool.and_eq_true, beq_iff_get?, beq_iff_get?]
  simp only [get?_insert]
  constructor
  · intro h
    have hv := h k
    rw [if_pos rfl, if_pos rfl] at hv
    refine ⟨hv, fun l => ?_⟩
    by_cases hl : l = k
    · rw [hl, ho, hp]
      rfl
    · simpa only [if_neg hl] using h l
  · rintro ⟨hv, h⟩ l
    by_cases hl : l = k
    · simp only [if_pos hl]
      exact hv
    · simpa only [if_neg hl] using h l

/-- An entry that only one of two objects has tells them apart. -/
theorem beq_eq_false {x : Json} (ho : o.get? k = some x) (hp : p.get? k = none) :
    (o == p) = false ∧ (p == o) = false := by
  constructor <;> refine Bool.eq_false_iff.mpr fun h => ?_
  · have := beq_iff_get?.mp h k
    rw [ho, hp] at this
    cases this
  · have := beq_iff_get?.mp h k
    rw [ho, hp] at this
    cases this

theorem insert_beq_insert_ne (h : k ≠ l) (hp : p.get? k = none) :
    (o.insert k v == p.insert l w) = false :=
  (beq_eq_false get?_insert_self ((get?_insert_ne h).trans hp)).1

theorem beq_of_isEmpty (ho : o.isEmpty = true) (hp : p.isEmpty = true) : (o == p) = true := by
  obtain ⟨es, _, _⟩ := o
  obtain ⟨fs, _, _⟩ := p
  cases List.isEmpty_iff.mp ho
  cases List.isEmpty_iff.mp hp
  rfl

theorem beq_eq_false_of_isEmpty (h : o.isEmpty ≠ p.isEmpty) : (o == p) = false := by
  obtain ⟨es, _, _⟩ := o
  obtain ⟨fs, _, _⟩ := p
  cases es <;> cases fs
  · exact absurd rfl h
  · rfl
  · rfl
  · exact absurd rfl h

theorem insert?_beq_insert? {v w : Option Value} (ho : o.get? k = none) (hp : p.get? k = none) :
    (o.insert? k v == p.insert? k w) = (v == w && o == p) := by
  cases v with
  | none =>
    cases w with
    | none => rfl
    | some w => exact (beq_eq_false get?_insert_self ho).2
  | some v =>
    cases w with
    | none => exact (beq_eq_false get?_insert_self hp).1
    | some w => exact insert_beq_insert ho hp

theorem singleton_beq_singleton :
    ((∅ : Object).insert k v == (∅ : Object).insert l w) = (k == l && v == w) := by
  change Json.sameEntries [(k, v.json)] [(l, w.json)] = _
  rw [Json.sameEntries, Json.sameEntries, Bool.and_true]
  rfl

end Object

/-! ## Values -/

namespace Value

variable {o p : Object} {k l : String} {v w : Value}

theorem obj_beq_obj : (obj o == obj p) = (o == p) := by
  change Json.same _ _ = _
  rw [obj, obj, Json.same]
  rfl

theorem beq_obj_eq_false (h : v.object? = none) : (v == obj o) = false ∧ (obj o == v) = false := by
  obtain ⟨x, hx⟩ := v
  cases x with
  | obj es => cases h
  | _ => exact ⟨rfl, rfl⟩

theorem arr_beq_arr {vs ws : List Value} : (arr vs == arr ws) = (vs == ws) := by
  change Json.same _ _ = _
  rw [arr, arr, Json.same]
  induction vs generalizing ws with
  | nil => cases ws <;> rfl
  | cons v vs ih =>
    cases ws with
    | nil => rfl
    | cons w ws => exact congrArg (v == w && ·) ih

theorem str_beq_str {s t : String} : (str s == str t) = (s == t) := by
  change Json.same _ _ = _
  rw [str, str, Json.same]

theorem strs_beq_strs {ss ts : List String} : (strs ss == strs ts) = (ss == ts) := by
  rw [strs, strs, arr_beq_arr]
  induction ss generalizing ts with
  | nil => cases ts <;> rfl
  | cons s ss ih =>
    cases ts with
    | nil => rfl
    | cons t ts =>
      rw [List.map_cons, List.map_cons, List.cons_beq_cons, List.cons_beq_cons, ih, str_beq_str]

theorem arr?_beq_arr? {vs ws : List Value} : (arr? vs == arr? ws) = (vs == ws) := by
  cases vs <;> cases ws
  · rfl
  · rfl
  · rfl
  · exact arr_beq_arr

theorem obj?_beq_obj? : (obj? o == obj? p) = (o == p) := by
  obtain ⟨es, _, _⟩ := o
  obtain ⟨fs, _, _⟩ := p
  cases es <;> cases fs
  · rfl
  · rfl
  · rfl
  · exact obj_beq_obj

theorem entry_beq_entry : (entry k v == entry l w) = (k == l && v == w) := by
  rw [entry, entry, obj_beq_obj, Object.singleton_beq_singleton]

end Value

end SearchRequest
