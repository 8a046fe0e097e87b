import SearchRequest.Document.Printer
import SearchRequest.Document.Reader

/-! # String literals read back

Each character is escaped on its own, and its escape is read as that character whatever follows.
-/

namespace SearchRequest

variable {c : Char} {rest : List Char}

namespace Json

/-- The cases of an escape: two quoted characters, five letters, a code, or the character. -/
theorem escape_cases (c : Char) :
    (∃ e, Reader.escaped? e = some c ∧ e ≠ 'u' ∧ escape c = ['\\', e]) ∨
    (c.toNat < 0x20 ∧ escape c =
      ['\\', 'u', '0', '0', Nat.digitChar (c.toNat / 16), Nat.digitChar (c.toNat % 16)]) ∨
    (0x20 ≤ c.toNat ∧ c ≠ '"' ∧ c ≠ '\\' ∧ escape c = [c]) := by
  by_cases h : c ∈ ['"', '\\', '\x08', '\x0c', '\n', '\r', '\t']
  · left
    simp only [List.mem_cons, List.not_mem_nil, or_false] at h
    rcases h with rfl | rfl | rfl | rfl | rfl | rfl | rfl
    · exact ⟨'"', by decide⟩
    · exact ⟨'\\', by decide⟩
    · exact ⟨'b', by decide⟩
    · exact ⟨'f', by decide⟩
    · exact ⟨'n', by decide⟩
    · exact ⟨'r', by decide⟩
    · exact ⟨'t', by decide⟩
  · right
    simp only [List.mem_cons, List.not_mem_nil, or_false, not_or] at h
    by_cases hc : c.toNat < 0x20
    · exact .inl ⟨hc, by simp [escape, h, hc]⟩
    · have he : escape c = [c] := by simp [escape, h, hc]
      obtain ⟨hquote, hslash, -⟩ := h
      exact .inr ⟨by omega, hquote, hslash, he⟩

end Json

namespace Reader

open Json

theorem hexDigit?_digitChar {d : Nat} (h : d < 16) : hexDigit? (Nat.digitChar d) = some d := by
  revert d
  decide

theorem hex4?_control (h : c.toNat < 0x20) :
    hex4? '0' '0' (Nat.digitChar (c.toNat / 16)) (Nat.digitChar (c.toNat % 16)) =
      some c.toNat := by
  have h0 : hexDigit? '0' = some 0 := by decide
  simp only [hex4?, h0, hexDigit?_digitChar (show c.toNat / 16 < 16 by omega),
    hexDigit?_digitChar (show c.toNat % 16 < 16 by omega), Option.bind_eq_bind, Option.bind_some,
    Option.pure_def, Option.some.injEq]
  omega

theorem stringBody?_escape (c : Char) (rest : List Char) :
    stringBody? (escape c ++ rest) = (stringBody? rest).map fun r => (c :: r.1, r.2) := by
  rcases escape_cases c with ⟨e, he, hu, hx⟩ | ⟨hc, hx⟩ | ⟨hc, hq, hb, hx⟩
  · rw [hx, List.cons_append, List.cons_append, List.nil_append, stringBody?, he]
    · intro a b c d s hc; exact absurd hc hu
  · rw [hx]
    simp only [List.cons_append, List.nil_append]
    rw [stringBody?, hex4?_control hc]
    have hh : isHigh c.toNat = false := by simp [isHigh]; omega
    have hl : isLow c.toNat = false := by simp [isLow]; omega
    simp [hh, hl]
  · rw [hx, List.singleton_append, stringBody?]
    · simp [hb, Nat.not_lt.mpr hc]
    all_goals simp [hq, hb]

theorem stringBody?_flatMap (cs rest : List Char) :
    stringBody? (cs.flatMap escape ++ '"' :: rest) = some (cs, rest) := by
  induction cs with
  | nil => simp [stringBody?]
  | cons c cs ih => rw [List.flatMap_cons, List.append_assoc, stringBody?_escape, ih]; rfl

end Reader

end SearchRequest
