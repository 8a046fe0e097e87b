import SearchRequest.Proofs.Grammar
import SearchRequest.Proofs.Lexemes

/-! # Layouts

Indented text is compact text with blanks between its lexemes. What stands in string literals, blanks
and braces among it, is the same in every layout.
-/

namespace SearchRequest

namespace Lexeme

/-- A text without the spaces and line breaks outside of its literals. -/
def squeeze (text : String) : String :=
  String.ofList (((ofText text).filter fun l => !l.isBlank).flatMap Lexeme.text)

/-- The insides of the literals of a text, in order. -/
def literals (text : String) : List (List Char) :=
  (ofText text).filterMap literal?

theorem literal?_eq_none {l : Lexeme} (h : l.isBlank = true) : l.literal? = none := by
  cases l with
  | mark c => rfl
  | _ => simp [isBlank] at h

theorem literals_eq (text : String) :
    literals text = ((ofText text).filter fun l => !l.isBlank).filterMap literal? := by
  rw [List.filterMap_filter, literals]
  congr 1
  funext l
  cases h : l.isBlank with
  | true => exact literal?_eq_none h
  | false => rfl

theorem flatMap_text_marks (s : List Char) : (s.map mark).flatMap text = s := by
  rw [List.flatMap_map]
  exact List.flatMap_singleton' s

end Lexeme

namespace Json

open Lexeme

section Compact

variable (depth : Nat) {xs : List Json} {es : List (String × Json)}

theorem flatMap_text_itemLexemes
    (h : ∀ x ∈ xs, ∀ depth, x.lexemes.flatMap Lexeme.text = x.chars .compact depth) :
    (itemLexemes xs).flatMap Lexeme.text = itemChars .compact depth xs := by
  induction xs with
  | nil => rfl
  | cons x xs ih =>
    have hx := h x List.mem_cons_self depth
    have hxs := ih fun y hy => h y (List.mem_cons_of_mem x hy)
    simp [itemLexemes, hx, hxs, Lexeme.text, Layout.lineChars, Layout.line]

theorem flatMap_text_entryLexemes
    (h : ∀ e ∈ es, ∀ depth, e.2.lexemes.flatMap Lexeme.text = e.2.chars .compact depth) :
    (entryLexemes es).flatMap Lexeme.text = entryChars .compact depth es := by
  induction es with
  | nil => rfl
  | cons e es ih =>
    have he := h e List.mem_cons_self depth
    have hes := ih fun d hd => h d (List.mem_cons_of_mem e hd)
    simp [entryLexemes, pairChars, he, hes, Lexeme.text, Layout.lineChars, Layout.line, Layout.gap]

/-- Compact text is nothing but its lexemes. -/
theorem flatMap_text_lexemes (x : Json) (depth : Nat) :
    x.lexemes.flatMap Lexeme.text = x.chars .compact depth := by
  induction x generalizing depth with
  | null => rfl
  | bool b => cases b <;> rfl
  | int n => rw [lexemes, flatMap_text_marks, chars_int]
  | float x => rw [lexemes, flatMap_text_marks, chars_float]
  | str s => simp [lexemes, Lexeme.text]
  | arr xs ih =>
    cases xs with
    | nil => simp [lexemes, Lexeme.text]
    | cons x xs =>
      have hx := ih x List.mem_cons_self (depth + 1)
      have hxs := flatMap_text_itemLexemes (depth + 1) fun y hy => ih y (List.mem_cons_of_mem x hy)
      simp [lexemes, hx, hxs, Lexeme.text, Layout.lineChars, Layout.line]
  | obj es ih =>
    cases es with
    | nil => simp [lexemes, Lexeme.text]
    | cons e es =>
      have he := ih e List.mem_cons_self (depth + 1)
      have hes := flatMap_text_entryLexemes (depth + 1) fun d hd => ih d (List.mem_cons_of_mem e hd)
      simp [lexemes, pairChars, he, hes, Lexeme.text, Layout.lineChars, Layout.line, Layout.gap]

end Compact

theorem squeeze_text (layout : Layout) (x : Json) : squeeze (x.text layout) = x.text .compact := by
  rw [squeeze, ofText_text, x.flatMap_text_lexemes 0, ← text_toList, String.ofList_toList]

example : squeeze ((obj [("a \" b", arr [null, str ": "])]).text (.indented 2)) =
    "\x7b\"a \\\" b\":[null,\": \"]\x7d" := by
  decide

theorem literals_text (layout : Layout) (x : Json) :
    literals (x.text layout) = x.lexemes.filterMap literal? := by
  rw [literals_eq, ofText_text]

end Json

namespace Envelope

/-- Under every configuration the text of a request is its compact text with spaces and line breaks
outside of literals, and with the same literals. So any two of its texts differ only there. -/
theorem layouts_agree {e : Envelope} (h : ¬ e.document.json.HoldsNull) :
    ∃ compact, (∀ l, e.compactText.result l = .ok compact) ∧
      (∀ (config : EncoderConfig) (l : Logger), ∃ text, (e.encode config).result l = .ok text ∧
        Lexeme.squeeze text = compact ∧ Lexeme.literals text = Lexeme.literals compact) ∧
      ∀ (config config' : EncoderConfig) (l l' : Logger) (text text' : String),
        (e.encode config).result l = .ok text → (e.encode config').result l' = .ok text' →
        Lexeme.squeeze text = Lexeme.squeeze text' ∧
          Lexeme.literals text = Lexeme.literals text' := by
  have hp : e.document.nullPath? = none := e.document.nullPath?_eq_none_iff.mpr h
  have hs (layout : Layout) : Lexeme.squeeze (e.document.text layout) = e.document.compact :=
    Json.squeeze_text layout e.document.json
  have hl (layout : Layout) : Lexeme.literals (e.document.text layout) =
      e.document.json.lexemes.filterMap Lexeme.literal? :=
    Json.literals_text layout e.document.json
  refine ⟨e.document.compact, fun l => encode_accepted hp {} l, fun config l => ?_, ?_⟩
  · exact ⟨_, encode_accepted hp config l, hs _, (hl _).trans (hl .compact).symm⟩
  · intro config config' l l' text text' ht ht'
    rw [eq_text_of_encode ht, eq_text_of_encode ht', hs, hs, hl, hl]
    exact ⟨rfl, rfl⟩

/-- A literal that holds a quote, a backslash, braces, spaces and a line break. -/
theorem layouts_agree_term : ∃ compact text text',
      ((ofTerm "a \"b" (.str "\\ \x7b \n \x7d")).compactText).result {} = .ok compact ∧
      ((ofTerm "a \"b" (.str "\\ \x7b \n \x7d")).encode ⟨true, 0⟩).result {} = .ok text ∧
      ((ofTerm "a \"b" (.str "\\ \x7b \n \x7d")).encode ⟨true, 4⟩).result {} = .ok text' ∧
      Lexeme.squeeze text = compact ∧ Lexeme.squeeze text' = compact ∧
      Lexeme.literals text = Lexeme.literals text' := by
  have h : ¬ (ofTerm "a \"b" (.str "\\ \x7b \n \x7d")).document.json.HoldsNull := by decide
  obtain ⟨compact, hc, ht, hd⟩ := layouts_agree h
  obtain ⟨text, ht0, hs0, -⟩ := ht ⟨true, 0⟩ {}
  obtain ⟨text', ht4, hs4, -⟩ := ht ⟨true, 4⟩ {}
  exact ⟨compact, text, text', hc {}, ht0, ht4, hs0, hs4, (hd _ _ {} {} _ _ ht0 ht4).2⟩

end Envelope

end SearchRequest
