import SearchRequest.Encoding.Encode
import SearchRequest.Proofs.Nulls
import SearchRequest.Proofs.Results

/-! # One verdict for all encoders

Encoding into memory, encoding into a writer and handing the document to a serializer look for
a null each on their own. They all refuse the same documents, with the same message, and a writer
has received nothing by then.
-/

namespace SearchRequest

open Logged

/-- A writer that accepts every chunk, whatever it has received before. -/
class Writer.Accepting (ω : Type) [Writer ω] : Prop where
  accepts (w : ω) (chunk : List UInt8) : (write w chunk).1 = .ok ()

instance : Writer.Accepting (List UInt8) := ⟨fun _ _ => rfl⟩

theorem Writer.writeAll_accepted {ω : Type} [Writer ω] [Accepting ω] (w : ω)
    (pieces : List String) : (writeAll w pieces).1 = .ok () := by
  induction pieces generalizing w with
  | nil => rfl
  | cons piece pieces ih =>
    have hp := Accepting.accepts w (utf8 piece)
    rw [writeAll]
    split
    · exact ih _
    · next he => rw [he] at hp; cases hp

namespace Envelope

variable {e : Envelope} {path : String} {ω : Type} [Writer ω]

section Rejected

variable (h : e.document.nullPath? = some path)
include h

theorem serialize_rejected : e.serialize = .error (.null path) := by
  simp [serialize, Value.checked, h]

theorem encode_rejected (config : EncoderConfig) (l : Logger) :
    (e.encode config).result l = .error (.encoding (.null path)) := by
  simp [encode, h]

theorem writeTo_rejected (config : EncoderConfig) (w : ω) (l : Logger) :
    (e.writeTo config w).result l = (.error (.encoding (.null path)), w) := by
  simp [writeTo, h]

end Rejected

section Accepted

variable (h : e.document.nullPath? = none)
include h

theorem serialize_accepted : e.serialize = .ok e.document := by
  simp [serialize, Value.checked, h]

theorem encode_accepted (config : EncoderConfig) (l : Logger) :
    (e.encode config).result l = .ok (e.document.text config.layout) := by
  simp [encode, h]

theorem writeTo_accepted [Writer.Accepting ω] (config : EncoderConfig) (w : ω) (l : Logger) :
    ((e.writeTo config w).result l).1 = .ok () := by
  have hw := Writer.writeAll_accepted w (e.document.pieces config.layout)
  simp only [writeTo, h]
  split
  · rfl
  · next he => rw [he] at hw; cases hw

end Accepted

/-- A document is encoded exactly if it holds no null. Otherwise every encoder fails with the same
fault, and a writer of whatever kind is as it was before. -/
theorem encoders_agree (e : Envelope) (config : EncoderConfig) (l : Logger) :
    ((∃ text, (e.encode config).result l = .ok text) ↔ ¬ e.document.json.HoldsNull) ∧
    (e.document.json.HoldsNull → ∃ path,
      e.serialize = .error (.null path) ∧
      (e.encode config).result l = .error (.encoding (.null path)) ∧
      e.compactText.result l = .error (.encoding (.null path)) ∧
      e.prettyText.result l = .error (.encoding (.null path)) ∧
      ∀ (ω : Type) [Writer ω] (w : ω),
        (e.writeTo config w).result l = (.error (.encoding (.null path)), w)) ∧
    (¬ e.document.json.HoldsNull →
      (∃ v, e.serialize = .ok v ∧ e.compactText.result l = .ok v.compact) ∧
      (∃ text, e.prettyText.result l = .ok text) ∧
      ∀ (ω : Type) [Writer ω] [Writer.Accepting ω] (w : ω),
        ((e.writeTo config w).result l).1 = .ok ()) := by
  have accepted (h : ¬ e.document.json.HoldsNull) : e.document.nullPath? = none :=
    e.document.nullPath?_eq_none_iff.mpr h
  have rejected (h : e.document.json.HoldsNull) : ∃ path, e.document.nullPath? = some path :=
    Value.exists_nullPath? (not_not_intro h)
  refine ⟨⟨?_, ?_⟩, ?_, ?_⟩
  · rintro ⟨text, ht⟩ h
    obtain ⟨path, hp⟩ := rejected h
    rw [encode_rejected hp] at ht
    cases ht
  · exact fun h => ⟨_, encode_accepted (accepted h) config l⟩
  · intro h
    obtain ⟨path, hp⟩ := rejected h
    exact ⟨path, serialize_rejected hp, encode_rejected hp _ l, encode_rejected hp _ l,
      encode_rejected hp _ l, fun ω _ w => writeTo_rejected hp config w l⟩
  · intro h
    have hp := accepted h
    exact ⟨⟨_, serialize_accepted hp, encode_accepted hp _ l⟩, ⟨_, encode_accepted hp _ l⟩,
      fun ω _ _ w => writeTo_accepted hp config w l⟩

end Envelope

end SearchRequest
