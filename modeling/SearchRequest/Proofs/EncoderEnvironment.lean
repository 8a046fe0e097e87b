import Mathlib.Data.Nat.Digits.Defs
import SearchRequest.Encoding.Config
import SearchRequest.Proofs.Blanks
import SearchRequest.Proofs.Grammar

/-! # Encoder configuration from the environment

The width is a decimal number below `2 ^ 64`, after a plus sign or nothing, with blanks around it.
Whatever else it is set to is an error, and that is the only one.
-/

namespace SearchRequest

/-! ## Variables -/

namespace Environment

variable {env : Environment} {name value : String}

/-- The variable holds this text, as UTF-8. -/
def Sets (env : Environment) (name value : String) : Prop :=
  Keyed.get? name env.entries = some value.toUTF8

theorem text?_eq_some_iff : env.text? name = some value ↔ env.Sets name value := by
  rw [text?, Option.bind_eq_some_iff, Sets]
  constructor
  · rintro ⟨bytes, hbytes, h⟩
    rw [String.fromUTF8?] at h
    split at h
    · cases h
      exact hbytes
    · cases h
  · intro h
    refine ⟨value.toUTF8, h, ?_⟩
    exact dif_pos value.isValidUTF8

theorem text?_eq_none_iff : env.text? name = none ↔ ∀ value, ¬ env.Sets name value := by
  simp only [Option.eq_none_iff_forall_ne_some, ne_eq, text?_eq_some_iff]

end Environment

/-! ## Counts -/

namespace EncoderConfig

variable {s digits : List Char} {n : ℕ}

/-- What digits stand for, with the last one for the ones. -/
def decimal (digits : List Char) : ℕ :=
  Nat.ofDigits 10 (digits.reverse.map fun c => c.toNat - '0'.toNat)

/-- The text of a number: digits after a plus sign or nothing. -/
inductive Count : List Char → ℕ → Prop
  | plain {digits : List Char} : Grammar.Digits digits → Count digits (decimal digits)
  | plus {digits : List Char} : Grammar.Digits digits → Count ('+' :: digits) (decimal digits)

/-- The text after a plus sign, or all of it. -/
def unsigned : List Char → List Char
  | '+' :: rest => rest
  | s => s

theorem unsigned_of_ne (h : ∀ rest, s ≠ '+' :: rest) : unsigned s = s := by
  unfold unsigned
  split
  · next rest => exact absurd rfl (h rest)
  · rfl

theorem unsigned_of_digits (h : Grammar.Digits digits) : unsigned digits = digits := by
  refine unsigned_of_ne fun rest hs => ?_
  subst hs
  exact absurd (h.2 '+' List.mem_cons_self) (by decide)

theorem count_iff : Count s n ↔ Grammar.Digits (unsigned s) ∧ n = decimal (unsigned s) := by
  constructor
  · rintro (h | h)
    · rw [unsigned_of_digits h]
      exact ⟨h, rfl⟩
    · exact ⟨h, rfl⟩
  · rintro ⟨h, rfl⟩
    unfold unsigned at h ⊢
    split at h
    · exact .plus h
    · exact .plain h

theorem ofDigitChars_eq (s : List Char) : Nat.ofDigitChars 10 s 0 = decimal s := by
  induction s using List.reverseRecOn with
  | nil => rfl
  | append_singleton s c ih =>
    rw [decimal, List.reverse_concat, List.map_cons, Nat.ofDigits_cons, ← decimal, ← ih,
      Nat.ofDigitChars_append, Nat.ofDigitChars_cons, Nat.ofDigitChars_nil, Nat.add_comm]

theorem readCount?_eq (s : List Char) : readCount? s =
    if Grammar.Digits (unsigned s) ∧ decimal (unsigned s) < UInt64.size
    then some (.ofNat (decimal (unsigned s))) else none := by
  simp only [Grammar.digits_iff, ← ofDigitChars_eq, and_assoc]
  unfold readCount?
  dsimp only
  split
  · rfl
  · next h => rw [unsigned_of_ne h]

theorem readCount?_eq_some_iff {k : UInt64} : readCount? s = some k ↔ Count s k.toNat := by
  rw [readCount?_eq, count_iff]
  constructor
  · intro h
    split at h
    · next hd =>
      cases h
      exact ⟨hd.1, UInt64.toNat_ofNat_of_lt hd.2⟩
    · cases h
  · rintro ⟨hd, hk⟩
    rw [← hk, if_pos ⟨hd, k.toNat_lt⟩, UInt64.ofNat_toNat]

theorem readCount?_eq_none_iff : readCount? s = none ↔ ¬ ∃ n < 2 ^ 64, Count s n := by
  rw [readCount?_eq]
  constructor
  · rintro h ⟨n, hn, hc⟩
    obtain ⟨hd, rfl⟩ := count_iff.mp hc
    rw [if_pos ⟨hd, hn⟩] at h
    cases h
  · intro h
    exact if_neg fun hd => h ⟨_, hd.2, count_iff.mpr ⟨hd.1, rfl⟩⟩

example : readCount? "18446744073709551615".toList = some 18446744073709551615 ∧
    readCount? "18446744073709551616".toList = none := by
  decide

/-! ## Both variables -/

/-- The text is that of a number, with blanks around it. -/
def Width (given : String) (n : ℕ) : Prop :=
  ∃ body, Surrounds given.toList body ∧ Bare body ∧ Count body n

/-- The text switches something on. -/
def Affirms (given : String) : Prop :=
  given = "1" ∨ List.Forall₂ SameLetter given.toList "true".toList

theorem width_iff {given : String} : Width given n ↔ Count (trimBlank given.toList) n := by
  constructor
  · rintro ⟨body, hs, hb, hc⟩
    rwa [trimBlank_eq_iff.mpr ⟨hs, hb⟩]
  · intro h
    obtain ⟨hs, hb⟩ := trimBlank_eq_iff.mp (rfl : trimBlank given.toList = _)
    exact ⟨_, hs, hb, h⟩

variable {env : Environment}

theorem isYes_text?_iff (name : String) : ((env.text? name).map isYes).getD false = true ↔
    ∃ given, env.Sets name given ∧ Affirms given := by
  simp only [← Environment.text?_eq_some_iff, Affirms, ← isYes_iff]
  cases env.text? name <;> simp

theorem isYes_pretty_iff : ((env.text? "ESDSL_PRETTY").map isYes).getD false = true ↔
    ∃ given, env.Sets "ESDSL_PRETTY" given ∧ Affirms given :=
  isYes_text?_iff "ESDSL_PRETTY"

theorem ofEnvironment_eq_error_iff {e : RequestError} : ofEnvironment env = .error e ↔
    ∃ given, env.text? "ESDSL_INDENT" = some given ∧
      readCount? (trimBlank given.toList) = none ∧ e = .width given := by
  rw [ofEnvironment]
  cases env.text? "ESDSL_INDENT" with
  | none => simp
  | some given => cases h : readCount? (trimBlank given.toList) <;> simp [h, eq_comm]

theorem ofEnvironment_eq_ok_iff {config : EncoderConfig} : ofEnvironment env = .ok config ↔
    ((∃ given, env.text? "ESDSL_INDENT" = some given ∧
        readCount? (trimBlank given.toList) = some config.indent) ∨
      env.text? "ESDSL_INDENT" = none ∧ config.indent = 2) ∧
    ((env.text? "ESDSL_PRETTY").map isYes).getD false = config.pretty := by
  obtain ⟨pretty, indent⟩ := config
  rw [ofEnvironment]
  cases env.text? "ESDSL_INDENT" with
  | none => simp [eq_comm, and_comm]
  | some given =>
    cases h : readCount? (trimBlank given.toList) <;> simp [h, eq_comm, and_comm]

/-- The configuration is an error just if the width is set to a text that, without the blanks at
both ends, is no number below `2 ^ 64` in ASCII digits after a plus sign or nothing. Whatever else
is set does not matter for that. Otherwise it has that number, or 2 if none is set, and is pretty
just if that is set to one or to true in any letter case. -/
theorem ofEnvironment_eq_iff (env : Environment) :
    (∀ e, ofEnvironment env = .error e ↔ ∃ given, env.Sets "ESDSL_INDENT" given ∧
      (¬ ∃ n < 2 ^ 64, Width given n) ∧ e = .width given) ∧
    ∀ config, ofEnvironment env = .ok config ↔
      ((∃ given, env.Sets "ESDSL_INDENT" given ∧ Width given config.indent.toNat) ∨
        (∀ given, ¬ env.Sets "ESDSL_INDENT" given) ∧ config.indent = 2) ∧
      (config.pretty = true ↔ ∃ given, env.Sets "ESDSL_PRETTY" given ∧ Affirms given) := by
  constructor
  · intro e
    simp only [ofEnvironment_eq_error_iff, Environment.text?_eq_some_iff, readCount?_eq_none_iff,
      width_iff]
  · intro config
    rw [← isYes_pretty_iff, Bool.coe_iff_coe, eq_comm (a := config.pretty)]
    simp only [ofEnvironment_eq_ok_iff, Environment.text?_eq_some_iff,
      Environment.text?_eq_none_iff, readCount?_eq_some_iff, width_iff]

end EncoderConfig

end SearchRequest
