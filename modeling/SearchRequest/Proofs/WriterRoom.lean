import SearchRequest.Proofs.ByteOrder
import SearchRequest.Proofs.Verdict

/-! # Writers with room for some bytes

A writer with room for some bytes takes part of a chunk and then fails, so it cuts a document at
any byte, inside a piece or between two. What it holds depends only on all that was to be written,
not on how that was divided into pieces, and each piece into calls. In memory there is always room,
so to write there and to read the text back is to encode.
-/

namespace SearchRequest

open Logged Writer

namespace Writer

/-- The bytes of pieces in a row. -/
def allBytes (pieces : List String) : List UInt8 :=
  pieces.flatMap utf8

theorem utf8_join (pieces : List String) : utf8 (String.join pieces) = allBytes pieces := by
  have hb : utf8 = fun s => s.toList.flatMap String.utf8EncodeChar := funext utf8_eq
  rw [utf8_eq, String.toList_join, List.flatMap_assoc, allBytes, hb]

theorem fromUTF8?_utf8 (s : String) : String.fromUTF8? (utf8 s).toByteArray = some s := by
  have hb : (utf8 s).toByteArray = s.toUTF8 := by
    refine ByteArray.ext (Array.toList_inj.mp ?_)
    rw [List.toList_data_toByteArray, utf8, ByteArray.toList, toList_loop]
    rfl
  rw [hb]
  exact dif_pos s.isValidUTF8

/-- In memory no piece is refused. -/
theorem writeAll_memory (bytes : List UInt8) (pieces : List String) :
    writeAll bytes pieces = (.ok (), bytes ++ allBytes pieces) := by
  induction pieces generalizing bytes with
  | nil => rw [writeAll, allBytes, List.flatMap_nil, List.append_nil]
  | cons piece pieces ih =>
    have hw : write bytes (utf8 piece) = (.ok (), bytes ++ utf8 piece) := rfl
    rw [writeAll, hw, allBytes, List.flatMap_cons, ← allBytes, ← List.append_assoc]
    exact ih _

end Writer

namespace ByteWriter

variable {w w' : ByteWriter} {chunk : List UInt8} {reason : String} {n : Nat}

theorem take_nil (w : ByteWriter) : w.take [] = w := by
  simp [take]

theorem take_of_room_eq_zero (h : w.room = 0) (chunk : List UInt8) : w.take chunk = w := by
  cases w
  cases h
  simp [take]

theorem take_take (w : ByteWriter) (chunk rest : List UInt8) :
    (w.take chunk).take rest = w.take (chunk ++ rest) := by
  simp [take, List.take_append, Nat.sub_sub]

/-! ## One chunk -/

/-- One call takes as much of a chunk as there is room for, and fails if there is no room at all. -/
def offer (w : ByteWriter) (chunk : List UInt8) : Except String Nat × ByteWriter :=
  if w.room = 0 then (.error w.failure, w) else (.ok (min chunk.length w.room), w.take chunk)

theorem offer_of_room_eq_zero (h : w.room = 0) (chunk : List UInt8) :
    w.offer chunk = (.error w.failure, w) :=
  if_pos h

theorem offer_of_room_ne_zero (h : w.room ≠ 0) (chunk : List UInt8) :
    w.offer chunk = (.ok (min chunk.length w.room), w.take chunk) :=
  if_neg h

theorem pos_of_offer (hc : chunk ≠ []) (h : w.offer chunk = (.ok n, w')) : 0 < n := by
  have hl : 0 < chunk.length := List.length_pos_iff.mpr hc
  rw [offer] at h
  split at h
  · cases h
  · cases h
    omega

/-- Call after call, each with what the ones before have left, until all is taken or one fails. -/
def offerAll (w : ByteWriter) (chunk : List UInt8) : Except String Unit × ByteWriter :=
  if _hc : chunk = [] then (.ok (), w)
  else
    match _h : w.offer chunk with
    | (.ok n, w) => offerAll w (chunk.drop n)
    | (.error reason, w) => (.error reason, w)
termination_by chunk.length
decreasing_by
  have hl : 0 < chunk.length := List.length_pos_iff.mpr _hc
  have hn : 0 < n := pos_of_offer _hc _h
  rw [List.length_drop]
  omega

theorem offerAll_nil (w : ByteWriter) : w.offerAll [] = (.ok (), w) := by
  rw [offerAll, dif_pos rfl]

theorem offerAll_of_offer_error (hc : chunk ≠ []) (h : w.offer chunk = (.error reason, w')) :
    w.offerAll chunk = (.error reason, w') := by
  rw [offerAll, dif_neg hc]
  split
  · next h' => cases h.symm.trans h'
  · next h' => cases h.symm.trans h'; rfl

theorem offerAll_of_offer_ok (hc : chunk ≠ []) (h : w.offer chunk = (.ok n, w')) :
    w.offerAll chunk = w'.offerAll (chunk.drop n) := by
  rw [offerAll, dif_neg hc]
  split
  · next h' => cases h.symm.trans h'; rfl
  · next h' => cases h.symm.trans h'

theorem write_eq (w : ByteWriter) (chunk : List UInt8) : write w chunk =
    (if chunk.length ≤ w.room then .ok () else .error w.failure, w.take chunk) := by
  by_cases h : chunk.length ≤ w.room <;> simp [write, fits, h]

/-- A chunk is accepted exactly if the calls take all of it. -/
theorem write_eq_offerAll (w : ByteWriter) (chunk : List UInt8) :
    write w chunk = w.offerAll chunk := by
  rw [write_eq]
  by_cases hc : chunk = []
  · subst hc
    rw [offerAll_nil, take_nil]
    exact congrArg (·, w) (if_pos (Nat.zero_le _))
  have hl : 0 < chunk.length := List.length_pos_iff.mpr hc
  by_cases hr : w.room = 0
  · have hfit : ¬ chunk.length ≤ w.room := by omega
    rw [offerAll_of_offer_error hc (offer_of_room_eq_zero hr chunk), if_neg hfit,
      take_of_room_eq_zero hr]
  rw [offerAll_of_offer_ok hc (offer_of_room_ne_zero hr chunk)]
  -- the first call takes all there is room for, and a second one can only find no more room
  by_cases hfit : chunk.length ≤ w.room
  · rw [if_pos hfit, Nat.min_eq_left hfit, List.drop_length, offerAll_nil]
  · have hleft : chunk.drop (min chunk.length w.room) ≠ [] := by
      rw [ne_eq, List.drop_eq_nil_iff]
      omega
    have hfull : (w.take chunk).room = 0 := Nat.sub_eq_zero_of_le (Nat.le_of_not_le hfit)
    rw [if_neg hfit, offerAll_of_offer_error hleft (offer_of_room_eq_zero hfull _)]
    rfl

/-! ## Chunks in a row -/

/-- A chunk that does not fit leaves no room for what comes after it. -/
theorem take_append_of_room_lt (h : w.room < chunk.length) (rest : List UInt8) :
    w.take (chunk ++ rest) = w.take chunk := by
  rw [← take_take]
  exact take_of_room_eq_zero (Nat.sub_eq_zero_of_le (Nat.le_of_lt h)) rest

/-- By induction on the pieces: one that fits leaves room for the others, and nothing is written
after one that does not. -/
theorem writeAll_eq (w : ByteWriter) (pieces : List String) : writeAll w pieces =
    (if (allBytes pieces).length ≤ w.room then .ok () else .error w.failure,
      w.take (allBytes pieces)) := by
  induction pieces generalizing w with
  | nil =>
    rw [writeAll, allBytes, List.flatMap_nil, take_nil]
    exact congrArg (·, w) (if_pos (Nat.zero_le _)).symm
  | cons piece pieces ih =>
    rw [writeAll, write_eq, allBytes, List.flatMap_cons, ← allBytes, List.length_append]
    by_cases h : (utf8 piece).length ≤ w.room
    · have hr : (allBytes pieces).length ≤ (w.take (utf8 piece)).room ↔
          (utf8 piece).length + (allBytes pieces).length ≤ w.room := by
        change _ ≤ w.room - (utf8 piece).length ↔ _
        omega
      rw [if_pos h]
      simp only [ih, hr, take_take]
      rfl
    · have hr : ¬ (utf8 piece).length + (allBytes pieces).length ≤ w.room := by omega
      rw [if_neg h, if_neg hr, take_append_of_room_lt (Nat.lt_of_not_le h)]

/-- The division of a text into pieces does not matter. -/
theorem writeAll_congr {pieces pieces' : List String} (h : String.join pieces = String.join pieces')
    (w : ByteWriter) : writeAll w pieces = writeAll w pieces' := by
  rw [writeAll_eq, writeAll_eq, ← utf8_join, ← utf8_join, h]

end ByteWriter

/-! ## Documents -/

namespace Envelope

variable {e : Envelope}

theorem writeTo_eq (h : e.document.nullPath? = none) (config : EncoderConfig) (w : ByteWriter)
    (l : Logger) : (e.writeTo config w).result l =
      (if (utf8 (e.document.text config.layout)).length ≤ w.room then .ok ()
        else .error (.encoding (.writer w.failure)),
      w.take (utf8 (e.document.text config.layout))) := by
  have hb : utf8 (e.document.text config.layout) = allBytes (e.document.pieces config.layout) :=
    utf8_join _
  rw [hb, writeTo, h]
  simp only [ByteWriter.writeAll_eq]
  by_cases hl : (allBytes (e.document.pieces config.layout)).length ≤ w.room
  · rw [if_pos hl, if_pos hl]
    rfl
  · rw [if_neg hl, if_neg hl]
    rfl

section Memory

variable (e : Envelope) (config : EncoderConfig)

/-- What memory holds once a text was written there, and what that gave. -/
def kept (bytes : List UInt8) : Except RequestError String → Except RequestError Unit × List UInt8
  | .ok text => (.ok (), bytes ++ utf8 text)
  | .error error => (.error error, bytes)

/-- The text that memory holds. -/
def readBack : Except RequestError Unit × List UInt8 → Except RequestError String
  | (.ok (), bytes) => .ok ((String.fromUTF8? bytes.toByteArray).getD "")
  | (.error error, _) => .error error

theorem readBack_kept (r : Except RequestError String) : readBack (kept [] r) = r := by
  cases r with
  | ok text => rw [kept, readBack, List.nil_append, fromUTF8?_utf8]; rfl
  | error error => rfl

/-- Writing into memory leaves the bytes of the text that encoding gives, fails as that does, and
reports the same. -/
theorem writeTo_memory (bytes : List UInt8) :
    e.writeTo config bytes = kept bytes <$> e.encode config := by
  have hb : utf8 (e.document.text config.layout) = allBytes (e.document.pieces config.layout) :=
    utf8_join _
  unfold writeTo encode
  cases e.document.nullPath? with
  | some path => rfl
  | none =>
    simp only [writeAll_memory, ← hb]
    rfl

/-- To encode is to write into memory and to read the text back. -/
theorem encode_eq_readBack :
    e.encode config = readBack <$> e.writeTo config ([] : List UInt8) := by
  have hid : readBack ∘ kept [] = id := funext readBack_kept
  rw [writeTo_memory, ← comp_map, hid, id_map]

end Memory

/-- A document with a null is refused before a byte is written. Any other is written completely
exactly if there is room for all bytes of its text; with less room, the writer holds as many of them
from the start as there was room for, and its failure is returned. Neither the calls that take a
chunk nor the pieces that make up a text matter. -/
theorem writeTo_cut (e : Envelope) (config : EncoderConfig) (room : Nat) (failure : String)
    (l l' : Logger) :
    (e.document.json.HoldsNull →
      ∃ fault w, (e.writeTo config (⟨room, failure, []⟩ : ByteWriter)).result l =
        (.error fault, w) ∧ w.bytes = []) ∧
    (¬ e.document.json.HoldsNull →
      ∃ text result w, (e.encode config).result l' = .ok text ∧
        (e.writeTo config (⟨room, failure, []⟩ : ByteWriter)).result l = (result, w) ∧
        (result = .ok () ↔ (utf8 text).length ≤ room) ∧
        ((utf8 text).length ≤ room → w.bytes = utf8 text) ∧
        (room < (utf8 text).length →
          result = .error (.encoding (.writer failure)) ∧ w.bytes = (utf8 text).take room)) ∧
    ∀ w : ByteWriter, (∀ chunk, write w chunk = w.offerAll chunk) ∧
      ∀ pieces pieces', String.join pieces = String.join pieces' →
        writeAll w pieces = writeAll w pieces' := by
  refine ⟨?_, ?_, ?_⟩
  · intro h
    obtain ⟨path, hp⟩ := Value.exists_nullPath? (not_not_intro h)
    exact ⟨_, _, writeTo_rejected hp config _ l, rfl⟩
  · intro h
    have hp : e.document.nullPath? = none := e.document.nullPath?_eq_none_iff.mpr h
    refine ⟨_, _, _, encode_accepted hp config l', writeTo_eq hp config _ l, ?_, ?_, ?_⟩
    · refine ⟨fun hok => Decidable.byContradiction fun hl => ?_, fun hl => if_pos hl⟩
      rw [if_neg hl] at hok
      cases hok
    · intro hl
      exact List.take_of_length_le hl
    · intro hl
      exact ⟨if_neg (Nat.not_le_of_lt hl), rfl⟩
  · exact fun w => ⟨w.write_eq_offerAll, fun pieces pieces' h => ByteWriter.writeAll_congr h w⟩

end Envelope

end SearchRequest
