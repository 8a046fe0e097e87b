import Mathlib.Algebra.Order.Ring.Nat
import Mathlib.Tactic.Ring
import SearchRequest.Number.Numeral

/-! # Exact rounding

The rank of a ratio depends on the ratio alone, and the rank of a size is the rank that it came
from. Hence a numeral is rounded in the same way however its coefficient is padded with zeros.
-/

namespace SearchRequest

theorem roundDiv_mul_right (n d : ℕ) {c : ℕ} (h : 0 < c) :
    roundDiv (n * c) (d * c) = roundDiv n d := by
  simp only [roundDiv, Nat.mul_div_mul_right _ _ h, Nat.mul_mod_mul_right, ← mul_assoc,
    Nat.mul_lt_mul_right h]

theorem roundDiv_mul_self (n : ℕ) {d : ℕ} (h : 0 < d) : roundDiv (n * d) d = n := by
  simp [roundDiv, h]

theorem bitLength_le_of_lt {n k : ℕ} (h : n < 2 ^ k) : bitLength n ≤ k := by
  unfold bitLength
  split
  · exact Nat.zero_le k
  · next hn => exact (Nat.log2_lt hn).mpr h

theorem bitLength_eq_of_le_of_lt {n k : ℕ} (hl : 2 ^ k ≤ n) (hu : n < 2 ^ (k + 1)) :
    bitLength n = k + 1 := by
  have hn : n ≠ 0 := (Nat.lt_of_lt_of_le (Nat.two_pow_pos k) hl).ne'
  rw [bitLength, if_neg hn, (Nat.log2_eq_iff hn).mpr ⟨hl, hu⟩]

namespace Precision

variable (p : Precision)

theorem blockLength_pos : 0 < p.blockLength :=
  Nat.two_pow_pos p.fraction

theorem rank_mul_right (num den : ℕ) {c : ℕ} (h : 0 < c) :
    p.rank (num * c) (den * c) = p.rank num den := by
  have hq : num * c * Nat.pow 2 p.quantum = num * Nat.pow 2 p.quantum * c := by ring
  have hd (x : ℕ) : den * c * x = den * x * c := by ring
  simp only [rank, hq, hd, Nat.mul_div_mul_right _ _ h, roundDiv_mul_right _ _ h]

/-- Sizes of one block have the same number of binary digits. -/
theorem bitLength_block {m : ℕ} (j : ℕ) (h : m < p.blockLength) :
    bitLength ((m + p.blockLength) * 2 ^ j) = p.fraction + 1 + j := by
  have hb : p.blockLength = 2 ^ p.fraction := rfl
  rw [show p.fraction + 1 + j = p.fraction + j + 1 by omega]
  apply bitLength_eq_of_le_of_lt
  · rw [pow_add, hb]
    exact Nat.mul_le_mul_right _ (Nat.le_add_left _ _)
  · rw [show p.fraction + j + 1 = p.fraction + 1 + j by omega, pow_add, pow_succ]
    exact Nat.mul_lt_mul_of_pos_right (by omega) (Nat.two_pow_pos j)

theorem size_pos {r : ℕ} (h : r ≠ 0) : 0 < p.size r := by
  simp only [size]
  split
  · exact Nat.pos_of_ne_zero h
  · exact Nat.mul_pos (Nat.add_pos_right _ p.blockLength_pos) (Nat.two_pow_pos _)

theorem size_lt {r k : ℕ} (h : r < (k + 1) * p.blockLength) : p.size r < 2 ^ (p.fraction + k) := by
  have hb : p.blockLength = 2 ^ p.fraction := rfl
  have hm := Nat.mod_lt r p.blockLength_pos
  have hk : r / p.blockLength < k + 1 := (Nat.div_lt_iff_lt_mul p.blockLength_pos).mpr h
  simp only [size]
  split
  · next hz =>
    have hr := (Nat.div_eq_zero_iff.mp hz).resolve_left p.blockLength_pos.ne'
    exact lt_of_lt_of_le hr (Nat.pow_le_pow_right (by decide) (by omega))
  · next hz =>
    obtain ⟨j, hj⟩ := Nat.exists_eq_succ_of_ne_zero hz
    rw [hj, Nat.succ_sub_one]
    calc (r % p.blockLength + p.blockLength) * 2 ^ j
        < (2 * p.blockLength) * 2 ^ j := Nat.mul_lt_mul_of_pos_right (by omega) (Nat.two_pow_pos _)
      _ = 2 ^ (p.fraction + 1 + j) := by rw [hb, pow_add, pow_succ]; ring
      _ ≤ 2 ^ (p.fraction + k) := Nat.pow_le_pow_right (by decide) (by omega)

/-- Rounding leaves every size where it is. -/
theorem rank_size (r : ℕ) : p.rank (p.size r) (Nat.pow 2 p.quantum) = r := by
  have hq : 0 < Nat.pow 2 p.quantum := Nat.two_pow_pos _
  have hr := Nat.div_add_mod' r p.blockLength
  have hm := Nat.mod_lt r p.blockLength_pos
  simp only [rank, size, Nat.mul_div_cancel _ hq]
  split
  · next hz =>
    have hlt : r < p.blockLength := (Nat.div_eq_zero_iff.mp hz).resolve_left p.blockLength_pos.ne'
    have he : bitLength r - (p.fraction + 1) = 0 := by
      have := bitLength_le_of_lt hlt
      omega
    rw [he]
    simpa using roundDiv_mul_self r hq
  · next hz =>
    obtain ⟨j, hj⟩ := Nat.exists_eq_succ_of_ne_zero hz
    have hd : 0 < Nat.pow 2 p.quantum * Nat.pow 2 j := Nat.mul_pos hq (Nat.two_pow_pos _)
    have he : bitLength ((r % p.blockLength + p.blockLength) * Nat.pow 2 j) -
        (p.fraction + 1) = j := by
      rw [Nat.pow_eq, bitLength_block p j hm]
      omega
    have hs (a b c : ℕ) : a * b * c = a * (c * b) := by ring
    rw [hj, Nat.succ_mul] at hr
    rw [hj, Nat.succ_sub_one, he, hs, roundDiv_mul_self _ hd]
    omega

end Precision

namespace Numeral

variable (p : Precision) (negative : Bool)

theorem width_le_iff {n : Numeral} {k : ℕ} (h : 0 < k) : n.width ≤ k ↔ n.coefficient < 10 ^ k :=
  Nat.length_toDigits_le_iff (by decide) h

theorem width_mul_pow {c : ℕ} (h : c ≠ 0) (k : ℕ) (e e' : ℤ) :
    width ⟨negative, c * 10 ^ k, e⟩ = width ⟨negative, c, e'⟩ + k := by
  induction k with
  | zero => simp [width]
  | succ k ih =>
    have hc : c * 10 ^ k ≠ 0 := Nat.mul_ne_zero h (Nat.pow_pos (by decide)).ne'
    have hd := Nat.toDigits_append_toDigits (b := 10) (d := 0) (by decide) (Nat.pos_of_ne_zero hc)
      (by decide)
    simp only [width, Nat.toDigits_zero, Nat.add_zero] at hd ih ⊢
    rw [pow_succ, ← mul_assoc, Nat.mul_comm _ 10, ← hd, List.length_append, ih]
    rfl

/-- Zeros at the end of a coefficient are as good as a larger exponent. -/
theorem rank_mul_pow (c k : ℕ) (e : ℤ) :
    rank p ⟨negative, c * 10 ^ k, e - k⟩ = rank p ⟨negative, c, e⟩ := by
  rcases Nat.eq_zero_or_pos c with rfl | hc
  · simp [rank]
  have hck : c * 10 ^ k ≠ 0 := Nat.mul_ne_zero hc.ne' (Nat.pow_pos (by decide)).ne'
  have hw : ((width ⟨negative, c * 10 ^ k, e - k⟩ : ℕ) : ℤ) + (e - k) =
      width ⟨negative, c, e⟩ + e := by
    rw [width_mul_pow negative hc.ne' k _ e]
    push_cast
    ring
  simp only [rank, hw, hck, hc.ne', false_or]
  split
  · rfl
  split
  · rfl
  -- three signs: both exponents count places before the point, only the larger one, or neither
  rcases le_or_gt (k : ℤ) e with hk | hk
  · have he : e.toNat = k + (e - k).toNat := by omega
    rw [if_pos (by omega), if_pos (by omega), he, Nat.pow_eq, Nat.pow_eq, pow_add, mul_assoc]
  rw [if_neg (by omega)]
  rcases le_or_gt 0 e with h0 | h0
  · have he : k = e.toNat + (-(e - k)).toNat := by omega
    rw [if_pos h0, ← p.rank_mul_right (c * _) 1 (Nat.pow_pos (n := (-(e - k)).toNat) (a := 10)
      (by decide)), one_mul, Nat.pow_eq, Nat.pow_eq, mul_assoc, ← pow_add, ← he]
  · have he : (-(e - k)).toNat = (-e).toNat + k := by omega
    rw [if_neg (by omega), ← p.rank_mul_right c _ (Nat.pow_pos (n := k) (a := 10) (by decide)),
      Nat.pow_eq, Nat.pow_eq, ← pow_add, ← he]

end Numeral

end SearchRequest
