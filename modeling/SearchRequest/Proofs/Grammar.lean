import SearchRequest.Proofs.RoundTrip
import SearchRequest.Proofs.Verdict

/-! # Well-formed text

The grammar of JSON, as rules on characters of their own. What is printed follows them, and reading
it back gives the document, so that the text of a request stands for one document only.
-/

namespace SearchRequest

open Reader

namespace Grammar

def Hex (c : Char) : Prop :=
  c ∈ "0123456789abcdefABCDEF".toList

/-- A character inside a string, or what stands for one. -/
inductive Letter : List Char → Prop where
  | plain {c} : 0x20 ≤ c.toNat → c ≠ '"' → c ≠ '\\' → Letter [c]
  | short {c} : c ∈ ['"', '\\', '/', 'b', 'f', 'n', 'r', 't'] → Letter ['\\', c]
  | code {a b c d} : Hex a → Hex b → Hex c → Hex d → Letter ['\\', 'u', a, b, c, d]

inductive Inside : List Char → Prop where
  | nil : Inside []
  | cons {u s} : Letter u → Inside s → Inside (u ++ s)

def Digits (s : List Char) : Prop :=
  s ≠ [] ∧ ∀ c ∈ s, c.isDigit = true

instance (s : List Char) : Decidable (Digits s) :=
  inferInstanceAs (Decidable (_ ∧ _))

/-- The digits before the point: zero alone, or digits that do not start with zero. -/
def Whole (s : List Char) : Prop :=
  Digits s ∧ (s.head? = some '0' → s = ['0'])

inductive Fraction : List Char → Prop where
  | none : Fraction []
  | digits {s} : Digits s → Fraction ('.' :: s)

inductive Exponent : List Char → Prop where
  | none : Exponent []
  | digits {e sign s} : e ∈ ['e', 'E'] → sign ∈ [[], ['+'], ['-']] → Digits s →
      Exponent (e :: (sign ++ s))

inductive Number : List Char → Prop where
  | parts {sign whole fraction exponent} : sign ∈ [[], ['-']] → Whole whole → Fraction fraction →
      Exponent exponent → Number (sign ++ (whole ++ fraction ++ exponent))

mutual

inductive Spells : List Char → Prop where
  | null : Spells ['n', 'u', 'l', 'l']
  | true : Spells ['t', 'r', 'u', 'e']
  | false : Spells ['f', 'a', 'l', 's', 'e']
  | number {s} : Number s → Spells s
  | string {s} : Inside s → Spells ('"' :: (s ++ ['"']))
  | emptyArray {ws} : Blank ws → Spells ('[' :: (ws ++ [']']))
  | array {s} : Items s → Spells ('[' :: (s ++ [']']))
  | emptyObject {ws} : Blank ws → Spells ('\x7b' :: (ws ++ ['\x7d']))
  | object {s} : Entries s → Spells ('\x7b' :: (s ++ ['\x7d']))

/-- One item or more, with commas between them. -/
inductive Items : List Char → Prop where
  | last {l s r} : Blank l → Spells s → Blank r → Items (l ++ (s ++ r))
  | more {l s r t} : Blank l → Spells s → Blank r → Items t → Items (l ++ (s ++ (r ++ ',' :: t)))

/-- One entry or more, with commas between them. -/
inductive Entries : List Char → Prop where
  | last {l s r} : Blank l → Pair s → Blank r → Entries (l ++ (s ++ r))
  | more {l s r t} : Blank l → Pair s → Blank r → Entries t → Entries (l ++ (s ++ (r ++ ',' :: t)))

inductive Pair : List Char → Prop where
  | colon {k l r s} : Inside k → Blank l → Blank r → Spells s →
      Pair ('"' :: (k ++ '"' :: (l ++ ':' :: (r ++ s))))

end

/-- A JSON text: a value with white space around it. -/
def Text (s : List Char) : Prop :=
  ∃ l v r, s = l ++ (v ++ r) ∧ Blank l ∧ Spells v ∧ Blank r

theorem hex_digitChar {d : Nat} (h : d < 16) : Hex (Nat.digitChar d) := by
  revert d
  unfold Hex
  decide

theorem letter_escape (c : Char) : Letter (Json.escape c) := by
  rcases Json.escape_cases c with ⟨e, he, -, hx⟩ | ⟨hc, hx⟩ | ⟨hc, hq, hb, hx⟩ <;> rw [hx]
  · refine .short ?_
    by_contra hn
    simp only [List.mem_cons, List.not_mem_nil, or_false, not_or] at hn
    simp [escaped?, hn] at he
  · have h0 : Hex '0' := hex_digitChar (d := 0) (by decide)
    exact .code h0 h0 (hex_digitChar (by omega)) (hex_digitChar (by omega))
  · exact .plain hc hq hb

theorem inside_escape (cs : List Char) : Inside (cs.flatMap Json.escape) := by
  induction cs with
  | nil => exact .nil
  | cons c cs ih => exact .cons (letter_escape c) ih

theorem digits_iff {s : List Char} : Digits s ↔ s ≠ [] ∧ s.all Char.isDigit = true := by
  rw [Digits, List.all_eq_true]

theorem digits_toDigits (n : Nat) : Digits (Nat.toDigits 10 n) :=
  ⟨Nat.toDigits_ne_nil, fun _ hc => Nat.isDigit_of_mem_toDigits (by decide) (by decide) hc⟩

theorem number_token {t : Token} (h : t.Proper) (negative : Bool) :
    Number (signText negative ++ t.text) := by
  have hs : signText negative ∈ [[], ['-']] := by cases negative <;> simp [signText]
  refine .parts hs ⟨⟨h.whole_ne, h.whole_digit⟩, h.leading⟩ ?_ ?_
  · unfold Token.fractionText
    split
    · exact .none
    · next hf => exact .digits ⟨by simpa using hf, h.fraction_digit⟩
  · unfold Token.exponentText
    split
    · exact .none
    · next e _ =>
      have hs : [if e < 0 then '-' else '+'] ∈ [[], ['+'], ['-']] := by split <;> simp
      exact .digits (by simp) hs (digits_toDigits e.natAbs)

section Trees

variable {layout : Layout} {depth : Nat}

theorem items_chars {x : Json} {xs : List Json}
    (h : ∀ y ∈ x :: xs, Spells (y.chars layout depth)) {l r : List Char} (hl : Blank l)
    (hr : Blank r) :
    Items (l ++ (x.chars layout depth ++ (Json.itemChars layout depth xs ++ r))) := by
  induction xs generalizing x l with
  | nil => exact .last hl (h x List.mem_cons_self) hr
  | cons y xs ih =>
    have ht := ih (fun z hz => h z (List.mem_cons_of_mem _ hz)) (layout.blank_lineChars depth)
    have hx := Items.more hl (h x List.mem_cons_self) blank_nil ht
    simpa using hx

theorem pair_chars {e : String × Json} (h : Spells (e.2.chars layout depth)) :
    Pair (Json.pairChars layout depth e) :=
  .colon (inside_escape e.1.toList) blank_nil layout.blank_gap h

theorem entries_chars {e : String × Json} {es : List (String × Json)}
    (h : ∀ d ∈ e :: es, Spells (d.2.chars layout depth)) {l r : List Char} (hl : Blank l)
    (hr : Blank r) :
    Entries (l ++ (Json.pairChars layout depth e ++ (Json.entryChars layout depth es ++ r))) := by
  induction es generalizing e l with
  | nil => exact .last hl (pair_chars (h e List.mem_cons_self)) hr
  | cons d es ih =>
    have ht := ih (fun c hc => h c (List.mem_cons_of_mem _ hc)) (layout.blank_lineChars depth)
    have he := Entries.more hl (pair_chars (h e List.mem_cons_self)) blank_nil ht
    simpa using he

theorem spells_chars (layout : Layout) (x : Json) (depth : Nat) :
    Spells (x.chars layout depth) := by
  induction x generalizing depth with
  | null => exact .null
  | bool b =>
    cases b with
    | false => exact .false
    | true => exact .true
  | int n =>
    rw [Json.chars_int, n.text_toList]
    exact .number (number_token n.proper_token _)
  | float x =>
    rw [Json.chars_float, x.text_eq]
    exact .number (number_token x.proper_token _)
  | str s =>
    rw [Json.chars_str]
    exact .string (inside_escape s.toList)
  | arr xs ih =>
    cases xs with
    | nil =>
      rw [Json.chars_arr_nil]
      exact .emptyArray blank_nil
    | cons x xs =>
      have hi := items_chars (fun y hy => ih y hy (depth + 1)) (layout.blank_lineChars (depth + 1))
        (layout.blank_lineChars depth)
      simpa using Spells.array hi
  | obj es ih =>
    cases es with
    | nil =>
      rw [Json.chars_obj_nil]
      exact .emptyObject blank_nil
    | cons e es =>
      have hi := entries_chars (fun d hd => ih d hd (depth + 1))
        (layout.blank_lineChars (depth + 1)) (layout.blank_lineChars depth)
      simpa using Spells.object hi

end Trees

theorem text_json (layout : Layout) (x : Json) : Text (x.text layout).toList := by
  refine ⟨[], x.chars layout 0, [], ?_, blank_nil, spells_chars layout x 0, blank_nil⟩
  rw [List.nil_append, List.append_nil]
  exact x.text_toList layout

theorem text_value (layout : Layout) (v : Value) : Text (v.text layout).toList :=
  text_json layout v.json

end Grammar

theorem Value.text_injective {layout : Layout} {v w : Value} (h : v.text layout = w.text layout) :
    v = w := by
  have hv := v.read?_text layout
  rw [h, w.read?_text] at hv
  exact (Option.some.inj hv).symm

namespace Envelope

variable {e : Envelope} {config : EncoderConfig} {l : Logger} {text : String}

/-- Only the text of the document is ever returned. -/
theorem eq_text_of_encode (h : (e.encode config).result l = .ok text) :
    text = e.document.text config.layout := by
  cases hp : e.document.nullPath? with
  | none =>
    rw [encode_accepted hp] at h
    exact (Except.ok.inj h).symm
  | some path =>
    rw [encode_rejected hp] at h
    cases h

/-- The text of a request is well formed, reads back as its document, and is the text of no other
document under the same configuration. -/
theorem encode_reads_back (h : ¬ e.document.json.HoldsNull) (config : EncoderConfig) (l : Logger) :
    ∃ text, (e.encode config).result l = .ok text ∧ Grammar.Text text.toList ∧
      Value.read? text = some e.document ∧
      ∀ (other : Envelope) (l : Logger), (other.encode config).result l = .ok text →
        other.document = e.document := by
  have hp : e.document.nullPath? = none := e.document.nullPath?_eq_none_iff.mpr h
  refine ⟨e.document.text config.layout, encode_accepted hp config l, Grammar.text_value _ _,
    e.document.read?_text _, ?_⟩
  intro other l ho
  exact Value.text_injective (eq_text_of_encode ho).symm

/-- A request for one exact value. -/
def ofTerm (field : String) (v : Value) : Envelope :=
  around (some (.leaf (.term (.of ⟨field, v⟩))))

/-- With a quote, a backslash and a control, and with line breaks but no indentation. -/
theorem encode_reads_back_term :
    ∃ text, ((ofTerm "a\"b" (.str "\\\x07")).encode ⟨true, 0⟩).result {} = .ok text ∧
      Grammar.Text text.toList ∧
      Value.read? text = some (ofTerm "a\"b" (.str "\\\x07")).document := by
  have h : ¬ (ofTerm "a\"b" (.str "\\\x07")).document.json.HoldsNull := by decide
  obtain ⟨text, ht, hg, hr, -⟩ := encode_reads_back h ⟨true, 0⟩ {}
  exact ⟨text, ht, hg, hr⟩

end Envelope

end SearchRequest
