import SearchRequest.Proofs.NumberText
import SearchRequest.Proofs.StringText

/-! # The characters of a printed tree

What the pieces of a tree spell, part by part: a container is its brackets around its items or
entries, with white space where the layout breaks a line.
-/

namespace SearchRequest

namespace Reader

def Blank (s : List Char) : Prop :=
  ∀ c ∈ s, isSpace c = true

variable {ws s : List Char} {c : Char}

theorem isSpace_iff : isSpace c = true ↔ c = ' ' ∨ c = '\n' ∨ c = '\r' ∨ c = '\t' := by
  simp only [isSpace, Bool.or_eq_true, decide_eq_true_eq, or_assoc]

@[simp] theorem blank_nil : Blank [] := nofun

theorem skipSpace_blank (h : Blank ws) (s : List Char) : skipSpace (ws ++ s) = skipSpace s := by
  rw [skipSpace, List.dropWhile_append_of_pos h, skipSpace]

theorem skipSpace_cons (h : isSpace c = false) : skipSpace (c :: s) = c :: s := by
  simp [skipSpace, h]

/-- A number ends where white space, a comma or a closing bracket follows. -/
theorem delimited_blank (h : Blank ws) (hc : c = ',' ∨ c = ']' ∨ c = '\x7d') :
    Delimited (ws ++ c :: s) := by
  intro d hd
  cases ws with
  | nil =>
    cases hd
    rcases hc with rfl | rfl | rfl <;> decide
  | cons b ws =>
    cases hd
    rcases isSpace_iff.mp (h d List.mem_cons_self) with rfl | rfl | rfl | rfl <;> decide

end Reader

namespace Layout

open Reader

variable (layout : Layout)

def lineChars (depth : Nat) : List Char :=
  (layout.line depth).toList

theorem blank_lineChars (depth : Nat) : Blank (layout.lineChars depth) := by
  intro c hc
  cases layout with
  | compact => simp [lineChars, line] at hc
  | indented width =>
    simp only [lineChars, line, String.toList_ofList, List.mem_cons, List.mem_replicate] at hc
    rcases hc with rfl | ⟨-, rfl⟩ <;> rfl

/-- The white space after a colon. -/
def gap : List Char :=
  match layout with
  | compact => []
  | indented _ => [' ']

theorem blank_gap : Blank layout.gap := by
  cases layout <;> simp [gap, Blank, isSpace]

theorem colon_toList : layout.colon.toList = ':' :: layout.gap := by
  cases layout <;> simp [colon, gap]

end Layout

namespace Json

attribute [local simp] pieces itemPieces entryPieces

variable (layout : Layout) (depth : Nat)

def chars (x : Json) : List Char :=
  (x.pieces layout depth).flatMap String.toList

def itemChars (xs : List Json) : List Char :=
  (itemPieces layout depth xs).flatMap String.toList

def entryChars (es : List (String × Json)) : List Char :=
  (entryPieces layout depth es).flatMap String.toList

theorem text_toList (x : Json) : (x.text layout).toList = x.chars layout 0 :=
  String.toList_join

/-- The inside of a string literal. -/
def inside (s : String) : List Char :=
  s.toList.flatMap escape

theorem quote_toList (s : String) : (quote s).toList = '"' :: (inside s ++ ['"']) :=
  String.toList_ofList

@[simp] theorem chars_null : null.chars layout depth = ['n', 'u', 'l', 'l'] := rfl

@[simp] theorem chars_bool (b : Bool) : (bool b).chars layout depth =
    if b then ['t', 'r', 'u', 'e'] else ['f', 'a', 'l', 's', 'e'] := by
  cases b <;> rfl

@[simp] theorem chars_int (n : Integer) : (int n).chars layout depth = n.text.toList := by
  simp [chars]

@[simp] theorem chars_float (x : FiniteDouble) : (float x).chars layout depth = x.text := by
  simp [chars]

@[simp] theorem chars_str (s : String) :
    (str s).chars layout depth = '"' :: (inside s ++ ['"']) := by
  simp [chars, quote_toList]

@[simp] theorem chars_arr_nil : (arr []).chars layout depth = ['[', ']'] := by
  simp [chars]

@[simp] theorem chars_arr_cons (x : Json) (xs : List Json) : (arr (x :: xs)).chars layout depth =
    '[' :: (layout.lineChars (depth + 1) ++ (x.chars layout (depth + 1) ++
      (itemChars layout (depth + 1) xs ++ (layout.lineChars depth ++ [']'])))) := by
  simp [chars, itemChars, Layout.lineChars]

@[simp] theorem itemChars_nil : itemChars layout depth [] = [] := rfl

@[simp] theorem itemChars_cons (x : Json) (xs : List Json) : itemChars layout depth (x :: xs) =
    ',' :: (layout.lineChars depth ++ (x.chars layout depth ++ itemChars layout depth xs)) := by
  simp [chars, itemChars, Layout.lineChars]

/-- A key, its colon, and the value. -/
def pairChars (e : String × Json) : List Char :=
  '"' :: (inside e.1 ++ '"' :: ':' :: (layout.gap ++ e.2.chars layout depth))

@[simp] theorem chars_obj_nil : (obj []).chars layout depth = ['\x7b', '\x7d'] := by
  simp [chars]

@[simp] theorem chars_obj_cons (e : String × Json) (es : List (String × Json)) :
    (obj (e :: es)).chars layout depth =
    '\x7b' :: (layout.lineChars (depth + 1) ++ (pairChars layout (depth + 1) e ++
      (entryChars layout (depth + 1) es ++ (layout.lineChars depth ++ ['\x7d'])))) := by
  simp [chars, pairChars, entryChars, Layout.lineChars, Layout.colon_toList, quote_toList]

@[simp] theorem entryChars_nil : entryChars layout depth [] = [] := rfl

@[simp] theorem entryChars_cons (e : String × Json) (es : List (String × Json)) :
    entryChars layout depth (e :: es) = ',' :: (layout.lineChars depth ++
      (pairChars layout depth e ++ entryChars layout depth es)) := by
  simp [chars, pairChars, entryChars, Layout.lineChars, Layout.colon_toList, quote_toList]

end Json

end SearchRequest
