import SearchRequest.Proofs.Printing
import SearchRequest.Proofs.Trees

/-! # Documents read back

Reading what was printed gives the value again, in either layout. The characters of a value are fuel
enough for it, whatever follows, as long as a number at the end is delimited.
-/

namespace SearchRequest

namespace Keyed

variable {α : Type} {k : String} {x : α} {es : List (String × α)}

theorem insert_of_forall_lt (h : ∀ e ∈ es, e.1 < k) : insert k x es = es ++ [(k, x)] := by
  induction es with
  | nil => rfl
  | cons e es ih =>
    have he := h e List.mem_cons_self
    have hne : k ≠ e.1 := by
      rintro rfl
      exact String.lt_irrefl _ he
    rw [insert, if_neg (String.lt_asymm he), if_neg hne,
      ih fun d hd => h d (List.mem_cons_of_mem _ hd), List.cons_append]

end Keyed

namespace Object

theorem entries_foldl_insert (es : List (String × Value)) (o : Object)
    (h : Keyed.Ascending (o.entries ++ es.map Value.under)) :
    (es.foldl (fun o e => o.insert e.1 e.2) o).entries = o.entries ++ es.map Value.under := by
  induction es generalizing o with
  | nil => simp
  | cons e es ih =>
    obtain ⟨-, -, hbefore⟩ := List.pairwise_append.mp h
    have hlt : ∀ d ∈ o.entries, d.1 < e.1 := fun d hd =>
      hbefore d hd (Value.under e) List.mem_cons_self
    have hi : (o.insert e.1 e.2).entries = o.entries ++ [Value.under e] :=
      Keyed.insert_of_forall_lt hlt
    have hl : o.entries ++ (e :: es).map Value.under =
        (o.insert e.1 e.2).entries ++ es.map Value.under := by simp [hi]
    rw [hl] at h ⊢
    exact ih _ h

/-- Ascending entries are the object that they make. -/
theorem ofList_eq {o : Object} {es : List (String × Value)} (h : o.entries = es.map Value.under) :
    ofList es = o := by
  have ha : Keyed.Ascending ((∅ : Object).entries ++ es.map Value.under) := h ▸ o.keys
  exact Object.ext ((entries_foldl_insert es ∅ ha).trans h.symm)

end Object

namespace Reader

open Json Layout

variable {layout : Layout} {depth fuel : Nat} {ws rest : List Char}

/-- Reading the characters of the value gives it back. -/
def Reads (layout : Layout) (v : Value) : Prop :=
  ∀ {depth fuel : Nat} {rest : List Char}, Delimited rest →
    (v.json.chars layout depth).length ≤ fuel →
      value? fuel (v.json.chars layout depth ++ rest) = some (v, rest)

theorem value?_blank (h : Blank ws) (s : List Char) : value? fuel (ws ++ s) = value? fuel s := by
  cases fuel with
  | zero => rfl
  | succ fuel => rw [value?, value?, skipSpace_blank h]

theorem isSpace_number {c : Char} (h : c = '-' ∨ c.isDigit = true) : isSpace c = false := by
  rw [Bool.eq_false_iff]
  intro hc
  rcases isSpace_iff.mp hc with rfl | rfl | rfl | rfl <;> exact absurd h (by decide)

theorem value?_number {c : Char} {s : List Char} (h : c = '-' ∨ c.isDigit = true) :
    value? (fuel + 1) (c :: s) = number? (c :: s) := by
  rw [value?, skipSpace_cons (isSpace_number h)]
  split <;> first | rfl | (next he => cases he; exact absurd h (by decide))

/-! ## Containers

One item or entry is read at a time; the character after it says whether more are to come. -/

section Containers

variable {v : Value} {s t : List Char} (hws : Blank ws)
include hws

theorem items?_last (hv : value? fuel (s ++ t) = some (v, t)) (ht : skipSpace t = ']' :: rest) :
    items? (fuel + 1) (ws ++ (s ++ t)) = some ([v], rest) := by
  rw [items?, value?_blank hws, hv]
  simp only [ht]

theorem items?_more (hv : value? fuel (s ++ t) = some (v, t)) (ht : skipSpace t = ',' :: rest) :
    items? (fuel + 1) (ws ++ (s ++ t)) = (items? fuel rest).map fun r => (v :: r.1, r.2) := by
  rw [items?, value?_blank hws, hv]
  simp only [ht]

variable {k : String} (hv : value? fuel (v.json.chars layout depth ++ t) = some (v, t))
include hv

theorem entries?_last (ht : skipSpace t = '\x7d' :: rest) :
    entries? (fuel + 1) (ws ++ (pairChars layout depth (k, v.json) ++ t)) =
      some ([(k, v)], rest) := by
  simp only [pairChars, List.cons_append, List.append_assoc]
  rw [entries?, skipSpace_blank hws, skipSpace_cons (by rfl)]
  simp only [stringBody?_flatMap, inside, skipSpace_cons (show isSpace ':' = false from rfl),
    value?_blank layout.blank_gap, hv, ht, String.ofList_toList]

theorem entries?_more (ht : skipSpace t = ',' :: rest) :
    entries? (fuel + 1) (ws ++ (pairChars layout depth (k, v.json) ++ t)) =
      (entries? fuel rest).map fun r => ((k, v) :: r.1, r.2) := by
  simp only [pairChars, List.cons_append, List.append_assoc]
  rw [entries?, skipSpace_blank hws, skipSpace_cons (by rfl)]
  simp only [stringBody?_flatMap, inside, skipSpace_cons (show isSpace ':' = false from rfl),
    value?_blank layout.blank_gap, hv, ht, String.ofList_toList]

end Containers

theorem skipSpace_closing {c : Char} (h : isSpace c = false) :
    skipSpace (layout.lineChars depth ++ c :: rest) = c :: rest := by
  rw [skipSpace_blank (layout.blank_lineChars depth), skipSpace_cons h]

theorem delimited_closing {c : Char} (h : c = ']' ∨ c = '\x7d') :
    Delimited (layout.lineChars depth ++ c :: rest) :=
  delimited_blank (layout.blank_lineChars depth) (.inr h)

theorem delimited_comma : Delimited (',' :: rest) :=
  delimited_blank blank_nil (.inl rfl)

theorem items?_chars {v : Value} {vs : List Value} (h : ∀ w ∈ v :: vs, Reads layout w)
    (depth outer : Nat) (rest : List Char) (hws : Blank ws)
    (hf : (v.json.chars layout depth).length +
      (itemChars layout depth (vs.map (·.json))).length < fuel) :
    items? fuel (ws ++ (v.json.chars layout depth ++ (itemChars layout depth (vs.map (·.json)) ++
      (layout.lineChars outer ++ ']' :: rest)))) = some (v :: vs, rest) := by
  induction vs generalizing v fuel ws with
  | nil =>
    obtain ⟨fuel, rfl⟩ : ∃ k, fuel = k + 1 := ⟨fuel - 1, by omega⟩
    have hv : Reads layout v := h v List.mem_cons_self
    exact items?_last hws (hv (delimited_closing (.inl rfl)) (by omega)) (skipSpace_closing rfl)
  | cons w vs ih =>
    obtain ⟨fuel, rfl⟩ : ∃ k, fuel = k + 1 := ⟨fuel - 1, by omega⟩
    have hv : Reads layout v := h v List.mem_cons_self
    simp only [List.map_cons, itemChars_cons, List.cons_append, List.length_cons,
      List.length_append, List.append_assoc] at hf ⊢
    rw [items?_more hws (hv delimited_comma (by omega)) (skipSpace_cons rfl),
      ih (fun u hu => h u (List.mem_cons_of_mem _ hu)) (layout.blank_lineChars depth) (by omega)]
    rfl

theorem length_chars_le_pair (layout : Layout) (depth : Nat) (e : String × Value) :
    (e.2.json.chars layout depth).length ≤ (pairChars layout depth (Value.under e)).length := by
  simp only [pairChars, Value.under, List.length_cons, List.length_append]
  omega

theorem entries?_chars {e : String × Value} {es : List (String × Value)}
    (h : ∀ d ∈ e :: es, Reads layout d.2) (depth outer : Nat) (rest : List Char) (hws : Blank ws)
    (hf : (pairChars layout depth (Value.under e)).length +
      (entryChars layout depth (es.map Value.under)).length < fuel) :
    entries? fuel (ws ++ (pairChars layout depth (Value.under e) ++
      (entryChars layout depth (es.map Value.under) ++
        (layout.lineChars outer ++ '\x7d' :: rest)))) = some (e :: es, rest) := by
  -- an entry costs one unit of fuel, and its comma alone pays for it
  induction es generalizing e fuel ws with
  | nil =>
    obtain ⟨fuel, rfl⟩ : ∃ k, fuel = k + 1 := ⟨fuel - 1, by omega⟩
    have hv : Reads layout e.2 := h e List.mem_cons_self
    have hl := length_chars_le_pair layout depth e
    exact entries?_last hws (hv (delimited_closing (.inr rfl)) (by omega)) (skipSpace_closing rfl)
  | cons d es ih =>
    obtain ⟨fuel, rfl⟩ : ∃ k, fuel = k + 1 := ⟨fuel - 1, by omega⟩
    have hv : Reads layout e.2 := h e List.mem_cons_self
    have hl := length_chars_le_pair layout depth e
    simp only [List.map_cons, entryChars_cons, List.cons_append, List.length_cons,
      List.length_append, List.append_assoc] at hf ⊢
    rw [Value.under, entries?_more hws (hv delimited_comma (by omega)) (skipSpace_cons rfl),
      ih (fun u hu => h u (List.mem_cons_of_mem _ hu)) (layout.blank_lineChars depth) (by omega)]
    rfl

/-! ## Values -/

theorem token_head {t : Token} (h : t.Proper) (negative : Bool) :
    ∃ c s, signText negative ++ t.text = c :: s ∧ (c = '-' ∨ c.isDigit = true) := by
  cases negative with
  | true => exact ⟨'-', _, rfl, .inl rfl⟩
  | false =>
    obtain ⟨c, cs, hc⟩ := List.exists_cons_of_ne_nil h.whole_ne
    refine ⟨c, cs ++ t.fractionText ++ t.exponentText, by simp [signText, Token.text, hc], .inr ?_⟩
    exact h.whole_digit c (hc ▸ List.mem_cons_self)

/-- No value starts with white space, nor with the bracket that closes an empty array. -/
theorem chars_head (layout : Layout) (depth : Nat) (x : Json) :
    ∃ c s, x.chars layout depth = c :: s ∧ isSpace c = false ∧ c ≠ ']' := by
  have number {s : List Char} (h : ∃ c cs, s = c :: cs ∧ (c = '-' ∨ c.isDigit = true)) :
      ∃ c cs, s = c :: cs ∧ isSpace c = false ∧ c ≠ ']' := by
    obtain ⟨c, cs, rfl, hc⟩ := h
    exact ⟨c, cs, rfl, isSpace_number hc, by rintro rfl; exact absurd hc (by decide)⟩
  cases x with
  | null => exact ⟨'n', _, chars_null .., by decide⟩
  | bool b => cases b <;> simp [isSpace]
  | int n => exact number (by simpa [n.text_toList] using token_head n.proper_token _)
  | float x => exact number (by simpa [x.text_eq] using token_head x.proper_token _)
  | str s => exact ⟨'"', _, chars_str .., by decide⟩
  | arr xs => cases xs <;> simp [isSpace]
  | obj es => cases es <;> simp [isSpace]

theorem reads_token {v : Value} {t : Token} (h : t.Proper) {negative : Bool} {s : List Char}
    (hc : ∀ depth, v.json.chars layout depth = s) (hs : s = signText negative ++ t.text)
    (hn : ∀ rest, Delimited rest → number? (s ++ rest) = some (v, rest)) : Reads layout v := by
  intro depth fuel rest hr hf
  obtain ⟨c, cs, ht, hd⟩ := token_head h negative
  rw [hc] at hf ⊢
  rw [← hn rest hr, hs, ht]
  rw [hs, ht] at hf
  obtain ⟨fuel, rfl⟩ : ∃ k, fuel = k + 1 := ⟨fuel - 1, by simp at hf; omega⟩
  exact value?_number hd

/-- The text of a value takes fuel, so there is some. -/
theorem exists_fuel {x : Json} (h : (x.chars layout depth).length ≤ fuel) : ∃ k, fuel = k + 1 := by
  obtain ⟨c, s, hc, -⟩ := chars_head layout depth x
  rw [hc, List.length_cons] at h
  exact ⟨fuel - 1, by omega⟩

theorem value?_array {c : Char} {s t : List Char} {vs : List Value} (hs : skipSpace s = c :: t)
    (hc : c ≠ ']') (hi : items? fuel (c :: t) = some (vs, rest)) :
    value? (fuel + 1) ('[' :: s) = some (.arr vs, rest) := by
  rw [value?, skipSpace_cons (by rfl)]
  simp only [hs]
  split
  · next he => cases he; exact absurd rfl hc
  · rw [hi]; rfl

theorem value?_object {c : Char} {s t : List Char} {es : List (String × Value)}
    (hs : skipSpace s = c :: t) (hc : c ≠ '\x7d') (hi : entries? fuel (c :: t) = some (es, rest)) :
    value? (fuel + 1) ('\x7b' :: s) = some (.obj (.ofList es), rest) := by
  rw [value?, skipSpace_cons (by rfl)]
  simp only [hs]
  split
  · next he => cases he; exact absurd rfl hc
  · rw [hi]; rfl

theorem reads_arr {vs : List Value} (h : ∀ v ∈ vs, Reads layout v) : Reads layout (.arr vs) := by
  intro depth fuel rest hr hf
  obtain ⟨fuel, rfl⟩ := exists_fuel hf
  cases vs with
  | nil => simp [Value.arr, value?, skipSpace_cons, isSpace]
  | cons v vs =>
    simp only [Value.arr, List.map_cons, chars_arr_cons, List.cons_append, List.length_cons,
      List.length_append, List.append_assoc] at hf ⊢
    obtain ⟨c, s, hc, hs, hb⟩ := chars_head layout (depth + 1) v.json
    have hi := items?_chars h (depth + 1) depth rest blank_nil (show _ < fuel by omega)
    rw [hc] at hi ⊢
    exact value?_array (by rw [skipSpace_blank (layout.blank_lineChars _)]; exact skipSpace_cons hs)
      hb hi

/-- Entries are read in any order; the object that they make has them in its own. -/
theorem value?_entries {es : List (String × Value)} (h : ∀ e ∈ es, Reads layout e.2)
    (depth : Nat) (rest : List Char)
    (hf : ((Json.obj (es.map Value.under)).chars layout depth).length ≤ fuel) :
    value? fuel ((Json.obj (es.map Value.under)).chars layout depth ++ rest) =
      some (.obj (.ofList es), rest) := by
  obtain ⟨fuel, rfl⟩ := exists_fuel hf
  cases es with
  | nil => simp [value?, skipSpace_cons, isSpace, Object.ofList]
  | cons e es =>
    simp only [List.map_cons, chars_obj_cons, List.cons_append, List.length_cons,
      List.length_append, List.append_assoc] at hf ⊢
    have hi := entries?_chars h (depth + 1) depth rest blank_nil (show _ < fuel by omega)
    exact value?_object (c := '"') (by rw [skipSpace_blank (layout.blank_lineChars _)]; rfl)
      (by decide) hi

theorem reads_obj {o : Object} {es : List (String × Value)} (ho : o.entries = es.map Value.under)
    (h : ∀ e ∈ es, Reads layout e.2) : Reads layout (.obj o) := by
  intro depth fuel rest hr hf
  have hx : (Value.obj o).json = .obj (es.map Value.under) := congrArg Json.obj ho
  rw [hx] at hf ⊢
  rw [value?_entries h depth rest hf, Object.ofList_eq ho]

theorem reads_value (layout : Layout) (v : Value) : Reads layout v := by
  induction v with
  | null =>
    intro depth fuel rest hr hf
    obtain ⟨fuel, rfl⟩ := exists_fuel hf
    simp [Value.null, value?, skipSpace_cons, isSpace]
  | bool b =>
    intro depth fuel rest hr hf
    obtain ⟨fuel, rfl⟩ := exists_fuel hf
    cases b <;> simp [Value.bool, value?, skipSpace_cons, isSpace]
  | int n =>
    exact reads_token n.proper_token (chars_int layout · n) n.text_toList fun _ => number?_int n
  | float x =>
    exact reads_token x.proper_token (chars_float layout · x) x.text_eq fun _ => number?_float x
  | str s =>
    intro depth fuel rest hr hf
    obtain ⟨fuel, rfl⟩ := exists_fuel hf
    simp [Value.str, value?, skipSpace_cons, isSpace, inside, stringBody?_flatMap]
  | arr vs ih => exact reads_arr ih
  | obj o es ho ih => exact reads_obj ho ih

end Reader

/-- A tree is read from its text if it is read from its characters, whatever the fuel. -/
theorem Json.read?_text {x : Json} {layout : Layout} {v : Value}
    (h : ∀ fuel, (x.chars layout 0).length ≤ fuel →
      Reader.value? fuel (x.chars layout 0 ++ []) = some (v, [])) :
    Value.read? (x.text layout) = some v := by
  have hv := h (2 * (x.chars layout 0).length + 2) (by omega)
  rw [List.append_nil] at hv
  rw [Value.read?, x.text_toList layout]
  simp only [hv]
  rfl

theorem Value.read?_text (layout : Layout) (v : Value) : read? (v.text layout) = some v :=
  Json.read?_text fun _ hf => Reader.reads_value layout v nofun hf

/-- A key that is listed twice keeps its last value. -/
theorem Value.read?_text_entries (layout : Layout) (es : List (String × Value)) :
    read? ((Json.obj (es.map under)).text layout) = some (.obj (.ofList es)) :=
  Json.read?_text fun _ hf =>
    Reader.value?_entries (fun e _ => Reader.reads_value layout e.2) 0 [] hf

end SearchRequest
