/-! # Keyed entries

Association lists in ascending key order, each key once. Keys ascend by code point, which is also
the order of their UTF-8 bytes.
-/

namespace SearchRequest.Keyed

variable {α : Type} {k l : String} {x y : α} {es : List (String × α)} {e : String × α}

/-- Strictly ascending keys. -/
def Ascending (es : List (String × α)) : Prop :=
  es.Pairwise (·.1 < ·.1)

/-- Put `x` under `k`, in place of the entry that is there. -/
def insert (k : String) (x : α) : List (String × α) → List (String × α)
  | [] => [(k, x)]
  | (l, y) :: es =>
    if k < l then (k, x) :: (l, y) :: es
    else if k = l then (k, x) :: es
    else (l, y) :: insert k x es

/-- Leave out the entry of `k`, if there is one. -/
def erase (k : String) (es : List (String × α)) : List (String × α) :=
  es.filter (·.1 ≠ k)

def get? (k : String) : List (String × α) → Option α
  | [] => none
  | (l, x) :: es => if k = l then some x else get? k es

theorem lt_of_not_lt_of_ne (h : ¬ k < l) (hne : k ≠ l) : l < k :=
  String.not_le.mp fun hle => hne (String.le_antisymm hle (String.not_lt.mp h))

theorem mem_of_mem_insert (h : e ∈ insert k x es) : e = (k, x) ∨ e ∈ es := by
  induction es with
  | nil => simpa [insert] using h
  | cons d es ih =>
    rw [insert] at h
    split at h
    · simpa using h
    · split at h
      · rcases List.mem_cons.mp h with h | h
        · exact .inl h
        · exact .inr (List.mem_cons_of_mem _ h)
      · rcases List.mem_cons.mp h with h | h
        · exact .inr (h ▸ List.mem_cons_self)
        · exact (ih h).imp id (List.mem_cons_of_mem _)

theorem ascending_nil : Ascending ([] : List (String × α)) :=
  List.Pairwise.nil

theorem ascending_insert (h : Ascending es) : Ascending (insert k x es) := by
  induction es with
  | nil => simp [insert, Ascending]
  | cons d es ih =>
    obtain ⟨hd, hes⟩ := List.pairwise_cons.mp h
    rw [insert]
    split
    · next hlt =>
      refine List.pairwise_cons.mpr ⟨fun e he => ?_, h⟩
      rcases List.mem_cons.mp he with rfl | he
      · exact hlt
      · exact String.lt_trans hlt (hd e he)
    · next hlt =>
      split
      · next heq => exact List.pairwise_cons.mpr ⟨fun e he => heq ▸ hd e he, hes⟩
      · next hne =>
        refine List.pairwise_cons.mpr ⟨fun e he => ?_, ih hes⟩
        rcases mem_of_mem_insert he with rfl | he
        · exact lt_of_not_lt_of_ne hlt hne
        · exact hd e he

@[simp] theorem get?_insert (l : String) :
    get? l (insert k x es) = if l = k then some x else get? l es := by
  induction es with
  | nil => simp [insert, get?]
  | cons d es ih =>
    rw [insert]
    split
    · simp [get?]
    · split
      · next heq => by_cases h : l = k <;> simp [get?, h, ← heq]
      · next hne =>
        by_cases h : l = d.1
        · simp [get?, h, Ne.symm hne]
        · simp [get?, h, ih]

theorem mem_of_mem_erase (h : e ∈ erase k es) : e ∈ es :=
  (List.mem_filter.mp h).1

theorem ascending_erase (h : Ascending es) : Ascending (erase k es) :=
  List.Pairwise.filter _ h

@[simp] theorem get?_erase (l : String) :
    get? l (erase k es) = if l = k then none else get? l es := by
  induction es with
  | nil => simp [erase, get?]
  | cons d es ih =>
    rw [erase, List.filter_cons, ← erase]
    split
    · next hd =>
      rw [get?, get?, ih]
      by_cases h : l = d.1
      · have hk : l ≠ k := by simpa [h] using hd
        rw [if_pos h, if_neg hk, if_pos h]
      · rw [if_neg h, if_neg h]
    · next hd =>
      have hk : d.1 = k := by simpa using hd
      rw [ih, get?, hk]
      split <;> rfl

end SearchRequest.Keyed
