import SearchRequest.Proofs.Printing
import SearchRequest.Proofs.Trees

/-! # Lexemes

A scan of a text, from left to right, that knows nothing of JSON but where string literals begin and
end. Outside of literals each character stands for itself. What a printed tree is scanned into does
not depend on its layout, blanks apart.
-/

namespace SearchRequest

/-- A string literal by what is between its quotes, a literal that the text breaks off, or a
character outside of literals. -/
inductive Lexeme where
  | literal (inside : List Char)
  | unclosed (inside : List Char)
  | mark (c : Char)
  deriving DecidableEq

namespace Lexeme

def text : Lexeme → List Char
  | literal inside => '"' :: (inside ++ ['"'])
  | unclosed inside => '"' :: inside
  | mark c => [c]

/-- A space or a line break outside of literals. -/
def isBlank (l : Lexeme) : Bool :=
  l = mark ' ' || l = mark '\n'

def literal? : Lexeme → Option (List Char)
  | literal inside => some inside
  | unclosed _ | mark _ => none

/-- Where a scan stands: outside of literals, or in one with the characters read of it, and there
perhaps behind a backslash. -/
inductive Mode where
  | outside
  | inside (read : List Char)
  | escaped (read : List Char)

namespace Mode

def next : Mode → Char → Mode
  | outside, c => if c = '"' then inside [] else outside
  | inside read, c =>
    if c = '"' then outside
    else if c = '\\' then escaped (read ++ [c])
    else inside (read ++ [c])
  | escaped read, c => inside (read ++ [c])

/-- The lexeme that a character completes. -/
def complete : Mode → Char → List Lexeme
  | outside, c => if c = '"' then [] else [mark c]
  | inside read, c => if c = '"' then [literal read] else []
  | escaped _, _ => []

/-- The literal that the end of the text breaks off. -/
def broken : Mode → List Lexeme
  | outside => []
  | inside read | escaped read => [unclosed read]

def pending : Mode → List Char
  | outside => []
  | inside read | escaped read => '"' :: read

def scan : Mode → List Char → List Lexeme
  | _, [] => []
  | m, c :: s => m.complete c ++ (m.next c).scan s

/-- Where a scan stands at the end. -/
def after (m : Mode) (s : List Char) : Mode :=
  s.foldl next m

end Mode

def ofText (text : String) : List Lexeme :=
  Mode.scan .outside text.toList ++ (Mode.after .outside text.toList).broken

namespace Mode

variable (m : Mode) (s t : List Char)

theorem scan_append : m.scan (s ++ t) = m.scan s ++ (m.after s).scan t := by
  induction s generalizing m with
  | nil => rfl
  | cons c s ih =>
    rw [List.cons_append, scan, ih, scan, List.append_assoc, after, after, List.foldl_cons]

theorem after_append : m.after (s ++ t) = (m.after s).after t :=
  List.foldl_append

theorem flatMap_text_complete (c : Char) :
    (m.complete c).flatMap text ++ (m.next c).pending = m.pending ++ [c] := by
  cases m with
  | outside =>
    by_cases hq : c = '"' <;> simp [complete, next, pending, text, hq]
  | inside read =>
    by_cases hq : c = '"' <;> by_cases hb : c = '\\' <;>
      simp_all [complete, next, pending, text]
  | escaped read => simp [complete, next, pending]

theorem flatMap_text_scan : (m.scan s ++ (m.after s).broken).flatMap text = m.pending ++ s := by
  induction s generalizing m with
  | nil => cases m <;> simp [scan, after, broken, pending, text]
  | cons c s ih =>
    have hc := m.flatMap_text_complete c
    rw [scan, after, List.foldl_cons, ← after, List.append_assoc, List.flatMap_append, ih,
      ← List.append_assoc, hc, List.append_assoc, List.singleton_append]

end Mode

/-- A scan loses nothing: the lexemes of any text make it up again. -/
theorem flatMap_text_ofText (text : String) : (ofText text).flatMap Lexeme.text = text.toList :=
  Mode.flatMap_text_scan .outside text.toList

/-! ## Words -/

/-- A character that words are made of: no quote, no blank, no colon and no brace. -/
def Plain (c : Char) : Prop :=
  c ∉ ['"', ' ', '\n', ':', '\x7b', '\x7d']

instance (c : Char) : Decidable (Plain c) :=
  inferInstanceAs (Decidable (c ∉ _))

section Words

variable {c : Char} {s : List Char}

theorem Plain.unmarked (h : Plain c) : c ≠ '"' ∧ (mark c).isBlank = false := by
  simp only [Plain, List.mem_cons, not_or] at h
  simp [isBlank, h]

theorem plain_of_isDigit (h : c.isDigit = true) : Plain c := by
  intro hm
  simp only [List.mem_cons, List.not_mem_nil, or_false] at hm
  rcases hm with rfl | rfl | rfl | rfl | rfl | rfl <;> exact absurd h (by decide)

theorem plain_token {t : Token} (h : t.Proper) (negative : Bool) :
    ∀ c ∈ signText negative ++ t.text, Plain c := by
  have hs : ∀ c ∈ signText negative, Plain c := by cases negative <;> simp [signText, Plain]
  have hf : ∀ c ∈ t.fractionText, Plain c := by
    unfold Token.fractionText
    split
    · exact List.forall_mem_nil _
    · exact List.forall_mem_cons.mpr
        ⟨by decide, fun c hc => plain_of_isDigit (h.fraction_digit c hc)⟩
  have he : ∀ c ∈ t.exponentText, Plain c := by
    unfold Token.exponentText
    split
    · exact List.forall_mem_nil _
    · next e _ =>
      have hd : ∀ c ∈ Nat.toDigits 10 e.natAbs, Plain c := fun c hc =>
        plain_of_isDigit (Nat.isDigit_of_mem_toDigits (by decide) (by decide) hc)
      have hx : Plain (if e < 0 then '-' else '+') := by split <;> decide
      exact List.forall_mem_cons.mpr ⟨by decide, List.forall_mem_cons.mpr ⟨hx, hd⟩⟩
  intro c hc
  rw [Token.text, List.mem_append, List.mem_append, List.mem_append] at hc
  rcases hc with hc | (hc | hc) | hc
  · exact hs c hc
  · exact plain_of_isDigit (h.whole_digit c hc)
  · exact hf c hc
  · exact he c hc

end Words

/-! ## Characters between blanks -/

/-- Between literals these characters are these lexemes, apart from blanks. -/
structure Lexed (s : List Char) (ls : List Lexeme) : Prop where
  scan : (Mode.scan .outside s).filter (fun l => !l.isBlank) = ls
  closed : Mode.after .outside s = .outside

namespace Lexed

variable {s t : List Char} {ls ms : List Lexeme} {c : Char}

theorem nil : Lexed [] [] :=
  ⟨rfl, rfl⟩

theorem append (h : Lexed s ls) (h' : Lexed t ms) : Lexed (s ++ t) (ls ++ ms) where
  scan := by rw [Mode.scan_append, List.filter_append, h.scan, h.closed, h'.scan]
  closed := by rw [Mode.after_append, h.closed, h'.closed]

theorem ofText {text : String} (h : Lexed text.toList ls) :
    (Lexeme.ofText text).filter (fun l => !l.isBlank) = ls := by
  rw [Lexeme.ofText, h.closed, Mode.broken, List.append_nil, h.scan]

theorem mark (hq : c ≠ '"') (hb : (Lexeme.mark c).isBlank = false) : Lexed [c] [.mark c] where
  scan := by simp [Mode.scan, Mode.complete, hq, hb]
  closed := if_neg hq

theorem blank (hb : (Lexeme.mark c).isBlank = true) : Lexed [c] [] := by
  have hq : c ≠ '"' := by
    rintro rfl
    exact absurd hb (by decide)
  exact ⟨by simp [Mode.scan, Mode.complete, hq, hb], if_neg hq⟩

theorem word (h : ∀ c ∈ s, Plain c) : Lexed s (s.map .mark) := by
  induction s with
  | nil => exact nil
  | cons c s ih =>
    obtain ⟨hq, hb⟩ := (h c List.mem_cons_self).unmarked
    exact (mark hq hb).append (ih fun d hd => h d (List.mem_cons_of_mem c hd))

theorem blanks (h : ∀ c ∈ s, (Lexeme.mark c).isBlank = true) : Lexed s [] := by
  induction s with
  | nil => exact nil
  | cons c s ih =>
    exact (blank (h c List.mem_cons_self)).append (ih fun d hd => h d (List.mem_cons_of_mem c hd))

end Lexed

namespace Mode

/-- No escape ends the literal that it stands in. -/
theorem scan_escape (read : List Char) (c : Char) :
    (inside read).scan (Json.escape c) = [] ∧
      (inside read).after (Json.escape c) = inside (read ++ Json.escape c) := by
  rcases Json.escape_cases c with ⟨e, he, hu, hx⟩ | ⟨hc, hx⟩ | ⟨hc, hq, hb, hx⟩
  · rw [hx]
    simp [scan, after, complete, next]
  · have hd {d : Nat} (h : d < 16) : Nat.digitChar d ≠ '"' ∧ Nat.digitChar d ≠ '\\' := by
      revert d
      decide
    have h0 := hd (show c.toNat / 16 < 16 by omega)
    have h1 := hd (show c.toNat % 16 < 16 by omega)
    rw [hx]
    simp [scan, after, complete, next, h0, h1]
  · rw [hx]
    simp [scan, after, complete, next, hq, hb]

theorem scan_escapes (read cs : List Char) :
    (inside read).scan (cs.flatMap Json.escape) = [] ∧
      (inside read).after (cs.flatMap Json.escape) = inside (read ++ cs.flatMap Json.escape) := by
  induction cs generalizing read with
  | nil => exact ⟨rfl, by rw [List.flatMap_nil, List.append_nil]; rfl⟩
  | cons c cs ih =>
    obtain ⟨hs, ha⟩ := scan_escape read c
    obtain ⟨hs', ha'⟩ := ih (read ++ Json.escape c)
    rw [List.flatMap_cons, scan_append, after_append, hs, ha, hs', ha', List.append_assoc]
    exact ⟨rfl, rfl⟩

end Mode

theorem Lexed.literal (s : String) :
    Lexed ('"' :: (Json.inside s ++ ['"'])) [.literal (Json.inside s)] := by
  obtain ⟨hs, ha⟩ := Mode.scan_escapes [] s.toList
  have hq : Mode.scan .outside ('"' :: (Json.inside s ++ ['"'])) = [.literal (Json.inside s)] := by
    change Mode.scan (.inside []) (Json.inside s ++ ['"']) = _
    rw [Mode.scan_append, Json.inside, hs, ha]
    rfl
  refine ⟨by rw [hq]; rfl, ?_⟩
  change Mode.after (.inside []) (Json.inside s ++ ['"']) = _
  rw [Mode.after_append, Json.inside, ha]
  rfl

end Lexeme

/-! ## Trees -/

namespace Json

open Lexeme

mutual

def lexemes : Json → List Lexeme
  | null => ['n', 'u', 'l', 'l'].map .mark
  | bool b => (if b then ['t', 'r', 'u', 'e'] else ['f', 'a', 'l', 's', 'e']).map .mark
  | int n => n.text.toList.map .mark
  | float x => x.text.map .mark
  | str s => [.literal (inside s)]
  | arr [] => [.mark '[', .mark ']']
  | arr (x :: xs) => .mark '[' :: (x.lexemes ++ (itemLexemes xs ++ [.mark ']']))
  | obj [] => [.mark '\x7b', .mark '\x7d']
  | obj ((k, x) :: es) =>
    .mark '\x7b' :: .literal (inside k) :: .mark ':' ::
      (x.lexemes ++ (entryLexemes es ++ [.mark '\x7d']))

/-- The items after the first. -/
def itemLexemes : List Json → List Lexeme
  | [] => []
  | x :: xs => .mark ',' :: (x.lexemes ++ itemLexemes xs)

/-- The entries after the first. -/
def entryLexemes : List (String × Json) → List Lexeme
  | [] => []
  | (k, x) :: es =>
    .mark ',' :: .literal (inside k) :: .mark ':' :: (x.lexemes ++ entryLexemes es)

end

theorem plain_int (n : Integer) : ∀ c ∈ n.text.toList, Plain c := by
  rw [n.text_toList]
  exact plain_token n.proper_token _

theorem plain_float (x : FiniteDouble) : ∀ c ∈ x.text, Plain c := by
  rw [x.text_eq]
  exact plain_token x.proper_token _

section Layouts

variable {layout : Layout} (depth : Nat) {xs : List Json} {es : List (String × Json)}

theorem lexed_line : Lexed (layout.lineChars depth) [] := by
  refine .blanks fun c hc => ?_
  cases layout with
  | compact => simp [Layout.lineChars, Layout.line] at hc
  | indented width =>
    simp only [Layout.lineChars, Layout.line, String.toList_ofList, List.mem_cons,
      List.mem_replicate] at hc
    rcases hc with rfl | ⟨-, rfl⟩ <;> rfl

theorem lexed_gap : Lexed layout.gap [] := by
  cases layout with
  | compact => exact .nil
  | indented width => exact .blank rfl

theorem lexed_items (h : ∀ x ∈ xs, ∀ depth, Lexed (x.chars layout depth) x.lexemes) :
    Lexed (itemChars layout depth xs) (itemLexemes xs) := by
  induction xs with
  | nil => exact .nil
  | cons x xs ih =>
    have comma : Lexed [','] [.mark ','] := .mark (by decide) (by decide)
    have hx := h x List.mem_cons_self depth
    have hxs := ih fun y hy => h y (List.mem_cons_of_mem x hy)
    rw [itemChars_cons, itemLexemes]
    exact comma.append ((lexed_line depth).append (hx.append hxs))

theorem lexed_pair {e : String × Json} (h : Lexed (e.2.chars layout depth) e.2.lexemes) :
    Lexed (pairChars layout depth e) (.literal (inside e.1) :: .mark ':' :: e.2.lexemes) := by
  have colon : Lexed [':'] [.mark ':'] := .mark (by decide) (by decide)
  have gap : Lexed layout.gap [] := lexed_gap
  have hp := (Lexed.literal e.1).append (colon.append (gap.append h))
  rwa [List.cons_append, List.append_assoc] at hp

theorem lexed_entries (h : ∀ e ∈ es, ∀ depth, Lexed (e.2.chars layout depth) e.2.lexemes) :
    Lexed (entryChars layout depth es) (entryLexemes es) := by
  induction es with
  | nil => exact .nil
  | cons e es ih =>
    have comma : Lexed [','] [.mark ','] := .mark (by decide) (by decide)
    have he := lexed_pair depth (h e List.mem_cons_self depth)
    have hes := ih fun d hd => h d (List.mem_cons_of_mem e hd)
    rw [entryChars_cons, entryLexemes]
    exact comma.append ((lexed_line depth).append (he.append hes))

/-- In every layout and at every depth, a tree is the same lexemes. -/
theorem lexed_chars (x : Json) (depth : Nat) : Lexed (x.chars layout depth) x.lexemes := by
  have bracket (c : Char) (hc : c ∈ ['[', ']', '\x7b', '\x7d']) : Lexed [c] [.mark c] := by
    simp only [List.mem_cons, List.not_mem_nil, or_false] at hc
    rcases hc with rfl | rfl | rfl | rfl <;> exact .mark (by decide) (by decide)
  induction x generalizing depth with
  | null =>
    rw [chars_null, lexemes]
    exact .word (by simp [Plain])
  | bool b =>
    rw [chars_bool, lexemes]
    exact .word (by cases b <;> simp [Plain])
  | int n =>
    rw [chars_int, lexemes]
    exact .word (plain_int n)
  | float x =>
    rw [chars_float, lexemes]
    exact .word (plain_float x)
  | str s =>
    rw [chars_str, lexemes]
    exact .literal s
  | arr xs ih =>
    have opening := bracket '[' (by decide)
    have closing := bracket ']' (by decide)
    cases xs with
    | nil =>
      rw [chars_arr_nil, lexemes]
      exact opening.append closing
    | cons x xs =>
      have hx := ih x List.mem_cons_self (depth + 1)
      have hxs := lexed_items (depth + 1) fun y hy => ih y (List.mem_cons_of_mem x hy)
      rw [chars_arr_cons, lexemes]
      exact opening.append ((lexed_line (depth + 1)).append
        (hx.append (hxs.append ((lexed_line depth).append closing))))
  | obj es ih =>
    have opening := bracket '\x7b' (by decide)
    have closing := bracket '\x7d' (by decide)
    cases es with
    | nil =>
      rw [chars_obj_nil, lexemes]
      exact opening.append closing
    | cons e es =>
      have he := lexed_pair (depth + 1) (ih e List.mem_cons_self (depth + 1))
      have hes := lexed_entries (depth + 1) fun d hd => ih d (List.mem_cons_of_mem e hd)
      rw [chars_obj_cons, lexemes]
      exact opening.append ((lexed_line (depth + 1)).append
        (he.append (hes.append ((lexed_line depth).append closing))))

theorem ofText_text (x : Json) :
    (ofText (x.text layout)).filter (fun l => !l.isBlank) = x.lexemes := by
  have h : Lexed (x.chars layout 0) x.lexemes := x.lexed_chars 0
  rw [← x.text_toList] at h
  exact h.ofText

end Layouts

end Json

end SearchRequest
