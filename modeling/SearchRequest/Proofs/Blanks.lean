import Mathlib.Data.List.DropRight
import Mathlib.Data.List.Forall2
import SearchRequest.Text.Blank

/-! # White space and letter case

Trimming takes all blanks off both ends of a text, and nothing else. Two texts have one lower-case
form if they differ in the case of ASCII letters alone.
-/

namespace SearchRequest

/-! ## Trimming -/

def Blanks (s : List Char) : Prop :=
  ∀ c ∈ s, isBlank c = true

/-- A text that neither begins nor ends with a blank. -/
structure Bare (s : List Char) : Prop where
  head : ∀ c ∈ s.head?, isBlank c = false
  last : ∀ c ∈ s.getLast?, isBlank c = false

/-- The text is `body` between blanks. -/
def Surrounds (s body : List Char) : Prop :=
  ∃ before after, Blanks before ∧ Blanks after ∧ s = before ++ (body ++ after)

section Trim

variable {s body before after : List Char}

theorem trimBlank_eq (s : List Char) :
    trimBlank s = (s.dropWhile isBlank).rdropWhile isBlank :=
  rfl

theorem trimBlank_append_left (h : Blanks before) (s : List Char) :
    trimBlank (before ++ s) = trimBlank s := by
  rw [trimBlank_eq, trimBlank_eq, List.dropWhile_append_of_pos h]

theorem rdropWhile_append_right (h : Blanks after) (s : List Char) :
    (s ++ after).rdropWhile isBlank = s.rdropWhile isBlank := by
  have hr : ∀ c ∈ after.reverse, isBlank c = true := fun c hc => h c (List.mem_reverse.mp hc)
  rw [List.rdropWhile, List.reverse_append, List.dropWhile_append_of_pos hr]
  rfl

theorem trimBlank_append_right (h : Blanks after) (s : List Char) :
    trimBlank (s ++ after) = trimBlank s := by
  rw [trimBlank_eq, trimBlank_eq, List.dropWhile_append]
  split
  · next hs =>
    rw [List.isEmpty_iff.mp hs, List.dropWhile_eq_nil_iff.mpr h]
  · exact rdropWhile_append_right h _

theorem Bare.trimBlank_eq_self (h : Bare s) : trimBlank s = s := by
  have hd : s.dropWhile isBlank = s := by
    cases s with
    | nil => rfl
    | cons c s => exact List.dropWhile_cons_of_neg (by simp [h.head c rfl])
  rw [trimBlank_eq, hd, List.rdropWhile_eq_self_iff]
  intro hne
  simp [h.last _ (List.getLast?_eq_some_getLast hne)]

theorem isBlank_head_dropWhile {c : Char} (h : c ∈ (s.dropWhile isBlank).head?) :
    isBlank c = false := by
  have hn := List.head?_dropWhile_not isBlank s
  rwa [Option.mem_def.mp h] at hn

theorem bare_trimBlank (s : List Char) : Bare (trimBlank s) where
  head c hc := by
    obtain ⟨rest, hrest⟩ : trimBlank s <+: s.dropWhile isBlank := List.rdropWhile_prefix _ _
    refine isBlank_head_dropWhile (s := s) ?_
    rw [← hrest, List.head?_append, Option.mem_def.mp hc]
    rfl
  last c hc := by
    rw [trimBlank, List.getLast?_reverse] at hc
    exact isBlank_head_dropWhile hc

theorem surrounds_trimBlank (s : List Char) : Surrounds s (trimBlank s) := by
  refine ⟨s.takeWhile isBlank, (s.dropWhile isBlank).rtakeWhile isBlank, ?_, ?_, ?_⟩
  · exact fun c hc => List.mem_takeWhile_imp hc
  · exact fun c hc => List.mem_rtakeWhile_imp hc
  · rw [trimBlank_eq, List.rdropWhile_append_rtakeWhile, List.takeWhile_append_dropWhile]

theorem trimBlank_eq_iff : trimBlank s = body ↔ Surrounds s body ∧ Bare body := by
  constructor
  · rintro rfl
    exact ⟨surrounds_trimBlank s, bare_trimBlank s⟩
  · rintro ⟨⟨before, after, hb, ha, rfl⟩, h⟩
    rw [trimBlank_append_left hb, trimBlank_append_right ha, h.trimBlank_eq_self]

end Trim

/-! ## Letter case -/

theorem toNat_toLower (c : Char) : c.toLower.toNat =
    if 65 ≤ c.toNat ∧ c.toNat ≤ 90 then c.toNat + 32 else c.toNat := by
  have hd : ('a'.val - 'A'.val).toNat = 32 := by decide
  unfold Char.toLower
  simp only [Char.toNat, ge_iff_le, UInt32.le_iff_toNat_le]
  split
  · next h =>
    have hc : 65 ≤ c.val.toNat ∧ c.val.toNat ≤ 90 := h
    rw [if_pos hc, UInt32.toNat_add, hd]
    omega
  · next h => exact (if_neg h).symm

theorem toNat_toUpper (c : Char) : c.toUpper.toNat =
    if 97 ≤ c.toNat ∧ c.toNat ≤ 122 then c.toNat - 32 else c.toNat := by
  -- the difference is taken modulo 2 ^ 32
  have hd : ('A'.val - 'a'.val).toNat = 4294967264 := by decide
  unfold Char.toUpper
  simp only [Char.toNat, UInt32.le_iff_toNat_le]
  split
  · next h =>
    have hc : 97 ≤ c.val.toNat ∧ c.val.toNat ≤ 122 := h
    rw [if_pos hc, UInt32.toNat_add, hd]
    omega
  · next h => exact (if_neg h).symm

/-- The same character, or the same ASCII letter in the other case. -/
def SameLetter (c d : Char) : Prop :=
  c = d ∨ c = d.toUpper ∨ c = d.toLower

theorem toLower_eq_toLower_iff {c d : Char} : c.toLower = d.toLower ↔ SameLetter c d := by
  simp only [SameLetter, ← Char.toNat_inj, toNat_toLower, toNat_toUpper]
  split <;> split <;> split <;> omega

theorem lowerCase_eq_lowerCase_iff {s t : List Char} :
    lowerCase s = lowerCase t ↔ List.Forall₂ SameLetter s t := by
  rw [lowerCase, lowerCase, String.ofList_inj, ← List.forall₂_eq_eq_eq,
    List.forall₂_map_left_iff, List.forall₂_map_right_iff]
  simp only [toLower_eq_toLower_iff]

theorem isBlank_toLower (c : Char) : isBlank c.toLower = isBlank c := by
  by_cases h : 65 ≤ c.toNat ∧ c.toNat ≤ 90
  · have hl : c.toLower.toNat = c.toNat + 32 := by rw [toNat_toLower, if_pos h]
    simp only [isBlank, hl]
    rw [Bool.eq_iff_iff]
    simp only [Bool.or_eq_true, Bool.and_eq_true, decide_eq_true_eq]
    omega
  · have hl : c.toLower.toNat = c.toNat := by rw [toNat_toLower, if_neg h]
    rw [Char.toNat_inj.mp hl]

theorem trimBlank_map_toLower (s : List Char) :
    trimBlank (s.map Char.toLower) = (trimBlank s).map Char.toLower := by
  have hp : isBlank ∘ Char.toLower = isBlank := funext isBlank_toLower
  rw [trimBlank, trimBlank, List.dropWhile_map, ← List.map_reverse, List.dropWhile_map,
    ← List.map_reverse, hp]

theorem isYes_iff (text : String) :
    isYes text = true ↔ text = "1" ∨ List.Forall₂ SameLetter text.toList "true".toList := by
  have h : lowerCase "true".toList = "true" := rfl
  rw [← lowerCase_eq_lowerCase_iff, isYes, h, Bool.or_eq_true, decide_eq_true_eq,
    decide_eq_true_eq]

/-! ## Names -/

/-- The second text is the first one with its letters in any case and with blanks around it. -/
def Respells (s t : String) : Prop :=
  ∃ body, Surrounds t.toList body ∧ List.Forall₂ SameLetter s.toList body

theorem nameForm_eq (s : String) :
    nameForm s = String.ofList (trimBlank (s.toList.map Char.toLower)) := by
  rw [trimBlank_map_toLower]
  rfl

theorem Respells.nameForm_eq {s t : String} (h : Respells s t) : nameForm t = nameForm s := by
  obtain ⟨body, ⟨before, after, hb, ha, ht⟩, hs⟩ := h
  have hcase : s.toList.map Char.toLower = body.map Char.toLower :=
    String.ofList_inj.mp (lowerCase_eq_lowerCase_iff.mpr hs)
  have htrim : trimBlank t.toList = trimBlank body := by
    rw [ht, trimBlank_append_left hb, trimBlank_append_right ha]
  rw [SearchRequest.nameForm_eq s, hcase, trimBlank_map_toLower, ← htrim]
  rfl

/-- A name that is trimmed and in lower case is the form of just the texts that respell it. -/
theorem nameForm_eq_iff {name t : String} (h : nameForm name = name) :
    nameForm t = name ↔ Respells name t := by
  constructor
  · rintro rfl
    refine ⟨trimBlank t.toList, surrounds_trimBlank _, ?_⟩
    rw [nameForm, lowerCase, String.toList_ofList, List.forall₂_map_left_iff, List.forall₂_same]
    exact fun c _ => .inr (.inr rfl)
  · intro ht
    rw [ht.nameForm_eq, h]

end SearchRequest
