import SearchRequest.Document.Reader

/-! # Number tokens

A token has digits before the point, perhaps digits after it, and perhaps an exponent. It is read
in full if nothing follows that could belong to a number.
-/

namespace SearchRequest

/-- The parts of an unsigned number token. Without digits after it there is no point. -/
structure Token where
  whole : List Char
  fraction : List Char := []
  exponent : Option Int := none

def signText (negative : Bool) : List Char :=
  if negative then ['-'] else []

/-- What may follow a number: nothing, or a character that no number has inside. -/
def Delimited (rest : List Char) : Prop :=
  ∀ c ∈ rest.head?, c.isDigit = false ∧ c ≠ '.' ∧ c ≠ 'e' ∧ c ≠ 'E'

namespace Token

def fractionText (t : Token) : List Char :=
  if t.fraction.isEmpty then [] else '.' :: t.fraction

def exponentText (t : Token) : List Char :=
  match t.exponent with
  | none => []
  | some e => 'e' :: (if e < 0 then '-' else '+') :: Nat.toDigits 10 e.natAbs

def text (t : Token) : List Char :=
  t.whole ++ t.fractionText ++ t.exponentText

/-- There are digits before the point, and the first of several is not a zero. -/
structure Proper (t : Token) : Prop where
  whole_digit : ∀ c ∈ t.whole, c.isDigit = true
  fraction_digit : ∀ c ∈ t.fraction, c.isDigit = true
  whole_ne : t.whole ≠ []
  leading : t.whole.head? = some '0' → t.whole = ['0']

def numeral (negative : Bool) (t : Token) : Numeral :=
  .ofParts negative t.whole t.fraction (t.exponent.getD 0)

end Token

namespace Reader

open Numeral

variable {ds rest : List Char}

theorem spanDigits_append (h : ∀ c ∈ ds, c.isDigit = true)
    (hr : ∀ c ∈ rest.head?, c.isDigit = false) : spanDigits (ds ++ rest) = (ds, rest) := by
  induction ds with
  | nil => cases rest <;> simp_all [spanDigits]
  | cons d ds ih =>
    have hd := h d List.mem_cons_self
    have := ih fun c hc => h c (List.mem_cons_of_mem _ hc)
    simp_all [spanDigits]

variable {t : Token}

theorem exponentText_head (hr : Delimited rest) :
    ∀ c ∈ (t.exponentText ++ rest).head?, c.isDigit = false ∧ c ≠ '.' := by
  unfold Token.exponentText
  split
  · intro c hc
    obtain ⟨hd, hdot, -⟩ := hr c hc
    exact ⟨hd, hdot⟩
  · simp

theorem fractionText_head (hr : Delimited rest) :
    ∀ c ∈ (t.fractionText ++ (t.exponentText ++ rest)).head?, c.isDigit = false := by
  unfold Token.fractionText
  split
  · exact fun c hc => (exponentText_head hr c hc).1
  · simp

theorem spanFraction_text (h : t.Proper) (hr : Delimited rest) :
    spanFraction (t.fractionText ++ (t.exponentText ++ rest)) =
      (t.fraction, t.exponentText ++ rest) := by
  have hx := exponentText_head (t := t) hr
  unfold Token.fractionText
  split
  · next he =>
    rw [List.isEmpty_iff.mp he, List.nil_append, spanFraction]
    intro s hs
    rw [hs] at hx
    exact (hx '.' rfl).2 rfl
  · exact spanDigits_append h.fraction_digit fun c hc => (hx c hc).1

theorem spanExponent?_text (hr : Delimited rest) :
    spanExponent? (t.exponentText ++ rest) = some (t.exponent.getD 0, rest) := by
  unfold Token.exponentText
  split
  · next he =>
    cases rest with
    | nil => simp [spanExponent?, he]
    | cons c rest => simp [spanExponent?, he, hr c rfl]
  · next e he =>
    have hd : spanDigits (Nat.toDigits 10 e.natAbs ++ rest) = (Nat.toDigits 10 e.natAbs, rest) :=
      spanDigits_append (fun c hc => Nat.isDigit_of_mem_toDigits (by decide) (by decide) hc)
        fun c hc => (hr c hc).1
    generalize hn : e.natAbs = n at hd ⊢
    by_cases h0 : e < 0
    · simp only [List.cons_append, if_pos h0]
      simp [spanExponent?, spanSign, he, hd]
      omega
    · simp only [List.cons_append, if_neg h0]
      simp [spanExponent?, spanSign, he, hd]
      omega

/-- A sign is recognised, and digits are not taken for one. -/
theorem spanMinus_text (h : t.Proper) (negative : Bool) (rest : List Char) :
    spanMinus (signText negative ++ (t.text ++ rest)) = (negative, t.text ++ rest) := by
  cases negative with
  | true => rfl
  | false =>
    obtain ⟨c, cs, hc⟩ := List.exists_cons_of_ne_nil h.whole_ne
    have hd := h.whole_digit c (hc ▸ List.mem_cons_self)
    have hm : c ≠ '-' := by
      rintro rfl
      exact absurd hd (by decide)
    simp [signText, Token.text, hc, spanMinus, hm]

theorem number?_text (h : t.Proper) (negative : Bool) (hr : Delimited rest) :
    number? (signText negative ++ (t.text ++ rest)) =
      match (if t.fraction.isEmpty && t.exponent.isNone then
        Integer.ofInt? (if negative then -(Nat.ofDigitChars 10 t.whole 0 : Int)
          else Nat.ofDigitChars 10 t.whole 0) else none) with
      | some n => some (.int n, rest)
      | none =>
        match (t.numeral negative).toDouble with
        | .finite x => some (.double (.finite x), rest)
        | _ => none := by
  have hw : spanDigits (t.text ++ rest) =
      (t.whole, t.fractionText ++ (t.exponentText ++ rest)) := by
    rw [Token.text, List.append_assoc, List.append_assoc]
    exact spanDigits_append h.whole_digit (fractionText_head hr)
  have hz : (t.whole.isEmpty || (t.whole.head? == some '0' && decide (1 < t.whole.length))) =
      false := by
    by_cases h0 : t.whole.head? = some '0'
    · simp [h.leading h0]
    · simp [h.whole_ne, h0]
  have hp : (t.fraction.isEmpty &&
      (t.fractionText ++ (t.exponentText ++ rest)).head? == some '.') = false := by
    by_cases he : t.fraction.isEmpty
    · have hx := exponentText_head (t := t) hr
      simp only [Token.fractionText, he, if_true, List.nil_append, Bool.true_and,
        beq_eq_false_iff_ne]
      exact fun hd => (hx '.' hd).2 rfl
    · simp [he]
  have hl : (rest.length == (t.fractionText ++ (t.exponentText ++ rest)).length) =
      (t.fraction.isEmpty && t.exponent.isNone) := by
    rw [Token.fractionText, Token.exponentText]
    cases t.fraction <;> cases t.exponent <;> simp <;> omega
  simp only [number?, spanMinus_text h, hw, hz, spanFraction_text h hr, hp, spanExponent?_text hr,
    hl]
  rfl

end Reader

end SearchRequest
