import Mathlib.Data.List.DropRight
import SearchRequest.Document.Printer
import SearchRequest.Proofs.NumberToken
import SearchRequest.Proofs.Rounding

/-! # Numbers read back

An integer is printed as its digits. A double is printed as the first candidate that reads back as
it, or as its whole expansion, which does so as well because it is exact. Either text is a token,
and reading it gives the number again, of the same kind and sign.
-/

namespace SearchRequest

variable {n : ℕ} {p : Precision} {negative : Bool}

theorem toDigits_leading (h : (Nat.toDigits 10 n).head? = some '0') :
    Nat.toDigits 10 n = ['0'] := by
  induction n using Nat.strong_induction_on with
  | _ n ih =>
    rcases Nat.lt_or_ge n 10 with hn | hn
    · rw [Nat.toDigits_of_lt_base hn] at h ⊢
      simpa using h
    · rw [Nat.toDigits_of_base_le (by decide) hn,
        List.head?_append_of_ne_nil _ Nat.toDigits_ne_nil] at h
      have hz := congrArg (Nat.ofDigitChars 10 · 0) (ih (n / 10) (by omega) h)
      simp [Nat.ofDigitChars_cons] at hz
      omega

theorem digit_of_mem_toDigits {c : Char} (h : c ∈ Nat.toDigits 10 n) : c.isDigit = true :=
  Nat.isDigit_of_mem_toDigits (by decide) (by decide) h

namespace Integer

def token (n : Integer) : Token where
  whole := Nat.toDigits 10 n.val.natAbs

theorem proper_token (n : Integer) : n.token.Proper where
  whole_digit _ := digit_of_mem_toDigits
  fraction_digit := nofun
  whole_ne := Nat.toDigits_ne_nil
  leading := toDigits_leading

theorem text_toList (n : Integer) : n.text.toList = signText (n.val < 0) ++ n.token.text := by
  by_cases h : n.val < 0 <;>
    simp [text, token, signText, Token.text, Token.fractionText, Token.exponentText, h]

theorem ofInt?_val (n : Integer) : ofInt? n.val = some n := by
  simp [ofInt?, n.lower, n.upper]

end Integer

namespace Digits

/-- Some digit, and all of them decimal. -/
structure Proper (d : Digits) : Prop where
  digit : ∀ c ∈ d.digits, c.isDigit = true
  head : ∃ c cs, d.digits = c :: cs ∧ c ≠ '0'

def token (d : Digits) : Token :=
  if d.isPositional then
    if d.point ≤ 0 then
      { whole := ['0'], fraction := List.replicate (-d.point).toNat '0' ++ d.digits }
    else
      { whole := d.digits.take d.point.toNat ++
          List.replicate (d.point.toNat - (d.digits.take d.point.toNat).length) '0'
        fraction := if (d.digits.drop d.point.toNat).isEmpty then ['0']
          else d.digits.drop d.point.toNat }
  else
    { whole := d.digits.take 1, fraction := d.digits.drop 1, exponent := some (d.point - 1) }

theorem text_eq (d : Digits) (h : d.Proper) : d.text = d.token.text := by
  obtain ⟨c, cs, hc, -⟩ := h.head
  unfold text token
  split
  · split
    · simp [Token.text, Token.fractionText, Token.exponentText, hc]
    · simp only [Token.text, Token.fractionText, Token.exponentText]
      split <;> simp_all
  · simp [Token.text, Token.fractionText, Token.exponentText, hc]

theorem proper_token (d : Digits) (h : d.Proper) : d.token.Proper := by
  obtain ⟨c, cs, hc, hne⟩ := h.head
  have ht {k : ℕ} {x : Char} (hx : x ∈ d.digits.take k) := h.digit x (List.mem_of_mem_take hx)
  have hd {k : ℕ} {x : Char} (hx : x ∈ d.digits.drop k) := h.digit x (List.mem_of_mem_drop hx)
  unfold token
  split
  · split
    · refine ⟨by simp, ?_, by simp, by simp⟩
      intro x hx
      rcases List.mem_append.mp hx with hx | hx
      · rw [List.eq_of_mem_replicate hx]; rfl
      · exact h.digit x hx
    · next hp =>
      obtain ⟨k, hk⟩ : ∃ k, d.point.toNat = k + 1 := ⟨d.point.toNat - 1, by omega⟩
      refine ⟨?_, ?_, by simp [hc, hk], by simp [hc, hk, hne]⟩
      · intro x hx
        rcases List.mem_append.mp hx with hx | hx
        · exact ht hx
        · rw [List.eq_of_mem_replicate hx]; rfl
      · intro x hx
        split at hx
        · rw [List.mem_singleton.mp hx]; rfl
        · exact hd hx
  · exact ⟨fun x => ht, fun x => hd, by simp [hc], by simp [hc, hne]⟩

theorem token_marked (d : Digits) (h : d.Proper) :
    (d.token.fraction.isEmpty && d.token.exponent.isNone) = false := by
  obtain ⟨c, cs, hc, -⟩ := h.head
  unfold token
  split
  · split
    · simp [hc]
    · split <;> simp_all
  · simp

theorem rank_token (d : Digits) (h : d.Proper) :
    (d.token.numeral negative).rank p = (d.toNumeral negative).rank p := by
  obtain ⟨c, cs, hc, -⟩ := h.head
  unfold token
  split
  · split
    · next hp =>
      congr 1
      simp [Token.numeral, Numeral.ofParts, toNumeral, Nat.ofDigitChars_cons,
        Nat.ofDigitChars_append]
      omega
    · next hp =>
      split
      · next hr =>
        have hl : d.digits.length ≤ d.point.toNat :=
          List.drop_eq_nil_iff.mp (List.isEmpty_iff.mp hr)
        rw [List.take_of_length_le hl]
        have hz : d.toNumeral negative =
            ⟨negative, Nat.ofDigitChars 10 d.digits 0, d.point - d.digits.length⟩ := rfl
        rw [hz, ← Numeral.rank_mul_pow p negative _ (d.point.toNat - d.digits.length + 1)]
        congr 1
        simp [Token.numeral, Numeral.ofParts, Nat.ofDigitChars_cons, Nat.ofDigitChars_append]
        constructor
        · ring
        · omega
      · next hr =>
        have hl : d.point.toNat < d.digits.length := by
          simpa using hr
        congr 1
        simp [Token.numeral, Numeral.ofParts, toNumeral, List.length_take, Nat.min_eq_left hl.le]
        omega
  · congr 1
    simp [Token.numeral, Numeral.ofParts, toNumeral, hc]
    omega

theorem exists_toDigits_eq (n : ℕ) (scale : ℤ) :
    ∃ zeros, Nat.toDigits 10 n = (ofNat n scale).digits ++ List.replicate zeros '0' := by
  have hz := List.eq_replicate_of_mem (a := '0') (l := (Nat.toDigits 10 n).rtakeWhile (· = '0'))
    fun c hc => by simpa using List.mem_rtakeWhile_imp hc
  refine ⟨((Nat.toDigits 10 n).rtakeWhile (· = '0')).length, ?_⟩
  rw [← hz, List.rtakeWhile, ofNat, ← List.reverse_append, List.takeWhile_append_dropWhile,
    List.reverse_reverse]

theorem proper_ofNat (h : n ≠ 0) (scale : ℤ) : (ofNat n scale).Proper := by
  obtain ⟨zeros, hz⟩ := exists_toDigits_eq n scale
  have hn := Nat.ofDigitChars_ten_toDigits (n := n)
  refine ⟨fun c hc => digit_of_mem_toDigits (hz ▸ List.mem_append_left _ hc), ?_⟩
  cases hd : (ofNat n scale).digits with
  | nil =>
    rw [hz, hd] at hn
    simp at hn
    exact absurd hn.symm h
  | cons c cs =>
    refine ⟨c, cs, rfl, ?_⟩
    rintro rfl
    rw [toDigits_leading (by rw [hz, hd]; rfl)] at hn
    exact h hn.symm

theorem rank_ofNat (n : ℕ) (scale : ℤ) :
    ((ofNat n scale).toNumeral negative).rank p = Numeral.rank p ⟨negative, n, scale⟩ := by
  obtain ⟨zeros, hz⟩ := exists_toDigits_eq n scale
  have hn := Nat.ofDigitChars_ten_toDigits (n := n)
  have hl := congrArg List.length hz
  rw [hz, Nat.ofDigitChars_append, Nat.ofDigitChars_replicate_zero, mul_comm] at hn
  rw [List.length_append, List.length_replicate] at hl
  have he : (ofNat n scale).point - (ofNat n scale).digits.length - zeros = scale := by
    simp only [ofNat] at hl ⊢
    omega
  rw [toNumeral, ← Numeral.rank_mul_pow p negative _ zeros, he, hn]

end Digits

namespace FiniteDouble

variable {x : FiniteDouble}

theorem five_pow_pos (p : Precision) : 0 < Nat.pow 5 p.quantum :=
  Nat.pow_pos (by decide)

/-- The expansion lies well between the numerals that are rounded without being read. -/
theorem width_expansion (h : x.rank ≠ 0) (e : ℤ) :
    743 < Numeral.width ⟨x.negative, x.expansion, e⟩ ∧
      Numeral.width ⟨x.negative, x.expansion, e⟩ ≤ 1384 := by
  have hl : 10 ^ 743 ≤ Nat.pow 5 Precision.double.quantum := by decide +kernel
  have hu : 2 ^ (Precision.double.fraction + 2046) * Nat.pow 5 Precision.double.quantum ≤
      10 ^ 1384 := by decide +kernel
  have hf : Precision.double.finite = (2046 + 1) * Precision.double.blockLength := by decide +kernel
  have hx : x.size < 2 ^ (Precision.double.fraction + 2046) :=
    Precision.double.size_lt (lt_of_lt_of_eq x.rank_lt hf)
  rw [← not_le, Numeral.width_le_iff (by decide), Numeral.width_le_iff (by decide), not_lt]
  exact ⟨hl.trans (Nat.le_mul_of_pos_left _ (Precision.double.size_pos h)),
    lt_of_lt_of_le (Nat.mul_lt_mul_of_pos_right hx (five_pow_pos _)) hu⟩

/-- The whole expansion is exact, so it is rounded back to the double. -/
theorem rank_expansion (h : x.rank ≠ 0) :
    Numeral.rank .double ⟨x.negative, x.expansion, -(Precision.double.quantum : ℤ)⟩ = x.rank := by
  have hq : Precision.double.quantum = 1074 := rfl
  obtain ⟨hl, hu⟩ := width_expansion h (-(Precision.double.quantum : ℤ))
  have hx : x.expansion ≠ 0 :=
    (Nat.mul_pos (Precision.double.size_pos h) (five_pow_pos _)).ne'
  have hten (k : ℕ) : Nat.pow 10 k = Nat.pow 2 k * Nat.pow 5 k := Nat.mul_pow 2 5 k
  simp only [Numeral.rank]
  rw [if_neg (by omega), if_neg (by omega), if_neg (by omega), neg_neg, Int.toNat_natCast, hten,
    expansion, Precision.rank_mul_right _ _ _ (five_pow_pos _)]
  exact Precision.double.rank_size x.rank

theorem exists_shortest (h : x.rank ≠ 0) :
    ∃ n scale, x.shortest = .ofNat n scale ∧ x.readsBack (.ofNat n scale) = true := by
  unfold shortest
  cases hs : (List.range' 1 17).findSome? x.ofCount? with
  | none =>
    refine ⟨_, _, rfl, ?_⟩
    rw [readsBack, Digits.rank_ofNat, rank_expansion h, decide_eq_true rfl]
  | some d =>
    obtain ⟨count, -, hd⟩ := List.exists_of_findSome?_eq_some hs
    have hb := List.find?_some hd
    obtain ⟨n, -, rfl⟩ := List.mem_map.mp (List.mem_of_find?_eq_some hd)
    exact ⟨n, _, rfl, hb⟩

/-- A number without digits is zero, so digits that read back as another one are proper. -/
theorem proper_of_readsBack {n : ℕ} {scale : ℤ} (h : x.rank ≠ 0)
    (hb : x.readsBack (.ofNat n scale) = true) : (Digits.ofNat n scale).Proper := by
  apply Digits.proper_ofNat
  rintro rfl
  have hr : _ = x.rank := of_decide_eq_true hb
  rw [Digits.rank_ofNat] at hr
  exact h (hr.symm.trans (by simp [Numeral.rank]))

def token (x : FiniteDouble) : Token :=
  if x.rank = 0 then { whole := ['0'], fraction := ['0'] } else x.shortest.token

theorem text_eq (x : FiniteDouble) : x.text = signText x.negative ++ x.token.text := by
  refine congrArg (signText x.negative ++ ·) ?_
  unfold token
  split
  · rfl
  · next h =>
    obtain ⟨n, scale, hs, hb⟩ := exists_shortest h
    rw [hs, Digits.text_eq _ (proper_of_readsBack h hb)]

theorem proper_token (x : FiniteDouble) : x.token.Proper := by
  unfold token
  split
  · exact ⟨by simp, by simp, by simp, by simp⟩
  · next h =>
    obtain ⟨n, scale, hs, hb⟩ := exists_shortest h
    exact hs ▸ Digits.proper_token _ (proper_of_readsBack h hb)

/-- A double shows that it is one, by a point or by an exponent. -/
theorem token_marked (x : FiniteDouble) :
    (x.token.fraction.isEmpty && x.token.exponent.isNone) = false := by
  unfold token
  split
  · rfl
  · next h =>
    obtain ⟨n, scale, hs, hb⟩ := exists_shortest h
    exact hs ▸ Digits.token_marked _ (proper_of_readsBack h hb)

theorem toDouble_token (x : FiniteDouble) : (x.token.numeral x.negative).toDouble = .finite x := by
  have hr : (x.token.numeral x.negative).rank .double = x.rank := by
    unfold token
    split
    · next h => rw [h]; rfl
    · next h =>
      obtain ⟨n, scale, hs, hb⟩ := exists_shortest h
      rw [hs, Digits.rank_token _ (proper_of_readsBack h hb)]
      exact of_decide_eq_true hb
  rw [Numeral.toDouble, hr, Double.ofRank, dif_pos x.rank_lt]
  rfl

end FiniteDouble

namespace Reader

variable {rest : List Char}

theorem number?_int (n : Integer) (hr : Delimited rest) :
    number? (n.text.toList ++ rest) = some (.int n, rest) := by
  have hv : (if n.val < 0 then -(n.val.natAbs : ℤ) else n.val.natAbs) = n.val := by
    split <;> omega
  rw [n.text_toList, List.append_assoc, number?_text n.proper_token _ hr]
  simp only [Integer.token, List.isEmpty_nil, Option.isNone_none, Bool.and_self, if_true,
    Nat.ofDigitChars_ten_toDigits, decide_eq_true_eq, hv, n.ofInt?_val]

theorem number?_float (x : FiniteDouble) (hr : Delimited rest) :
    number? (x.text ++ rest) = some (.double (.finite x), rest) := by
  rw [x.text_eq, List.append_assoc, number?_text x.proper_token _ hr]
  simp only [x.token_marked, x.toDouble_token, Bool.false_eq_true, if_false]

end Reader

end SearchRequest
