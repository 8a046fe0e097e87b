import SearchRequest.Proofs.ByteOrder
import SearchRequest.Proofs.Grammar
import SearchRequest.Proofs.Lexemes

/-! # The order of keys in a text

The keys of an object are the literals before its colons. A scan of the lexemes of a text notes them
down, object by object, whatever order they come in. In the text of a request they ascend.
-/

namespace SearchRequest

/-- The string that a literal stands for. -/
def Lexeme.decoded (inside : List Char) : String :=
  match Reader.stringBody? (inside ++ ['"']) with
  | some (cs, _) => String.ofList cs
  | none => String.ofList inside

theorem Lexeme.decoded_inside (s : String) : decoded (Json.inside s) = s := by
  rw [decoded, Json.inside, Reader.stringBody?_flatMap]
  exact String.ofList_toList

/-- A scan for keys: the last literal, the keys so far of the objects that are open, the innermost
one first, and the keys of the objects that are closed. -/
structure KeyScan where
  literal : List Char := []
  opened : List (List String) := []
  closed : List (List String) := []

namespace KeyScan

def step (k : KeyScan) : Lexeme → KeyScan
  | .literal inside => { k with literal := inside }
  | .mark '\x7b' => { k with opened := [] :: k.opened }
  | .mark ':' => { k with opened := k.opened.modifyHead (· ++ [Lexeme.decoded k.literal]) }
  | .mark '\x7d' => { k with opened := k.opened.tail, closed := k.closed ++ k.opened.take 1 }
  | _ => k

theorem step_plain {c : Char} (h : Lexeme.Plain c) (k : KeyScan) : k.step (.mark c) = k := by
  unfold step
  split <;> simp_all [Lexeme.Plain]

theorem step_blank {l : Lexeme} (h : l.isBlank = true) (k : KeyScan) : k.step l = k := by
  simp only [Lexeme.isBlank, Bool.or_eq_true, decide_eq_true_eq] at h
  rcases h with rfl | rfl <;> rfl

theorem foldl_step_filter (ls : List Lexeme) (k : KeyScan) :
    (ls.filter fun l => !l.isBlank).foldl step k = ls.foldl step k := by
  induction ls generalizing k with
  | nil => rfl
  | cons l ls ih =>
    cases h : l.isBlank with
    | true => rw [List.filter_cons_of_neg (by simp [h]), ih, List.foldl_cons, step_blank h]
    | false => rw [List.filter_cons_of_pos (by simp [h]), List.foldl_cons, List.foldl_cons, ih]

/-- The keys of each object in a text, as they are listed. Objects are in the order of their ends. -/
def keysOf (text : String) : List (List String) :=
  ((Lexeme.ofText text).foldl step {}).closed

/-- The lexemes list these keys in the object that they stand in, and hold objects of these keys. -/
def Reads (ls : List Lexeme) (keys : List String) (lists : List (List String)) : Prop :=
  ∀ k : KeyScan, ∃ literal,
    ls.foldl step k = ⟨literal, k.opened.modifyHead (· ++ keys), k.closed ++ lists⟩

theorem modifyHead_append_nil (opened : List (List String)) :
    opened.modifyHead (· ++ []) = opened := by
  cases opened <;> simp

namespace Reads

variable {ls ms : List Lexeme} {keys keys' : List String} {lists lists' : List (List String)}

theorem of_foldl_eq (h : ∀ k, ls.foldl step k = k) : Reads ls [] [] := by
  intro k
  refine ⟨k.literal, ?_⟩
  rw [h, modifyHead_append_nil, List.append_nil]

theorem nil : Reads [] [] [] :=
  of_foldl_eq fun _ => rfl

theorem append (h : Reads ls keys lists) (h' : Reads ms keys' lists') :
    Reads (ls ++ ms) (keys ++ keys') (lists ++ lists') := by
  intro k
  obtain ⟨s, hs⟩ := h k
  obtain ⟨s', hs'⟩ := h' ⟨s, k.opened.modifyHead (· ++ keys), k.closed ++ lists⟩
  refine ⟨s', ?_⟩
  rw [List.foldl_append, hs, hs', List.modifyHead_modifyHead, List.append_assoc]
  simp only [Function.comp_def, List.append_assoc]

theorem mark {c : Char} (h : Lexeme.Plain c) : Reads [.mark c] [] [] :=
  of_foldl_eq fun k => step_plain h k

theorem word {s : List Char} (h : ∀ c ∈ s, Lexeme.Plain c) : Reads (s.map .mark) [] [] := by
  induction s with
  | nil => exact nil
  | cons c s ih =>
    exact (mark (h c List.mem_cons_self)).append (ih fun d hd => h d (List.mem_cons_of_mem c hd))

theorem string (s : List Char) : Reads [.literal s] [] [] := by
  intro k
  refine ⟨s, ?_⟩
  rw [modifyHead_append_nil, List.append_nil]
  rfl

theorem key (s : String) : Reads [.literal (Json.inside s), .mark ':'] [s] [] := by
  intro k
  refine ⟨Json.inside s, ?_⟩
  simp [step, Lexeme.decoded_inside]

/-- The keys between two braces belong to the object that these open and close. -/
theorem object (h : Reads ls keys lists) :
    Reads (.mark '\x7b' :: (ls ++ [.mark '\x7d'])) [] (lists ++ [keys]) := by
  intro k
  obtain ⟨s, hs⟩ := h (k.step (.mark '\x7b'))
  refine ⟨s, ?_⟩
  rw [List.foldl_cons, List.foldl_append, hs, modifyHead_append_nil]
  simp [step]

end Reads

end KeyScan

/-! ## Trees -/

namespace Json

mutual

/-- The keys of each object in a tree. -/
def keyLists : Json → List (List String)
  | arr xs => itemKeyLists xs
  | obj es => entryKeyLists es ++ [es.map (·.1)]
  | null | bool _ | int _ | float _ | str _ => []

def itemKeyLists : List Json → List (List String)
  | [] => []
  | x :: xs => x.keyLists ++ itemKeyLists xs

def entryKeyLists : List (String × Json) → List (List String)
  | [] => []
  | (_, x) :: es => x.keyLists ++ entryKeyLists es

end

section Reads

open KeyScan Lexeme

variable {xs : List Json} {es : List (String × Json)}

theorem reads_items (h : ∀ x ∈ xs, Reads x.lexemes [] x.keyLists) :
    Reads (itemLexemes xs) [] (itemKeyLists xs) := by
  induction xs with
  | nil => exact .nil
  | cons x xs ih =>
    have hx := h x List.mem_cons_self
    have hxs := ih fun y hy => h y (List.mem_cons_of_mem x hy)
    have comma : Reads [.mark ','] [] [] := .mark (by decide)
    rw [itemLexemes, itemKeyLists]
    exact comma.append (hx.append hxs)

theorem reads_entries (h : ∀ e ∈ es, Reads e.2.lexemes [] e.2.keyLists) :
    Reads (entryLexemes es) (es.map (·.1)) (entryKeyLists es) := by
  induction es with
  | nil => exact .nil
  | cons e es ih =>
    have he := h e List.mem_cons_self
    have hes := ih fun d hd => h d (List.mem_cons_of_mem e hd)
    have comma : Reads [.mark ','] [] [] := .mark (by decide)
    rw [entryLexemes, entryKeyLists]
    exact comma.append ((Reads.key e.1).append (he.append hes))

theorem reads_lexemes (x : Json) : Reads x.lexemes [] x.keyLists := by
  induction x with
  | null => exact .word (by simp [Plain])
  | bool b => exact .word (by cases b <;> simp [Plain])
  | int n => exact .word (plain_int n)
  | float x => exact .word (plain_float x)
  | str s => exact .string (inside s)
  | arr xs ih =>
    have opening : Reads [.mark '['] [] [] := .mark (by decide)
    have closing : Reads [.mark ']'] [] [] := .mark (by decide)
    cases xs with
    | nil => exact opening.append closing
    | cons x xs =>
      have hx := ih x List.mem_cons_self
      have hxs := reads_items fun y hy => ih y (List.mem_cons_of_mem x hy)
      have h := opening.append (hx.append (hxs.append closing))
      rw [List.append_nil (itemKeyLists xs)] at h
      exact h
  | obj es ih =>
    cases es with
    | nil => exact Reads.nil.object
    | cons e es =>
      have he := (Reads.key e.1).append (ih e List.mem_cons_self)
      have hes := reads_entries fun d hd => ih d (List.mem_cons_of_mem e hd)
      have h := (he.append hes).object
      rw [List.append_assoc, List.append_assoc] at h
      exact h

theorem keysOf_text (layout : Layout) (x : Json) : keysOf (x.text layout) = x.keyLists := by
  obtain ⟨s, hs⟩ := x.reads_lexemes {}
  rw [keysOf, ← foldl_step_filter, ofText_text, hs]
  exact List.nil_append _

example : keysOf ((obj [("b", arr [obj []]), ("a", str ":"), ("a", null)]).text (.indented 1)) =
    [[], ["b", "a", "a"]] := by
  decide

end Reads

section Ordered

variable {xs : List Json} {es : List (String × Json)} {keys : List String}

theorem mem_itemKeyLists : keys ∈ itemKeyLists xs ↔ ∃ x ∈ xs, keys ∈ x.keyLists := by
  induction xs with
  | nil => simp [itemKeyLists]
  | cons x xs ih => simp [itemKeyLists, ih]

theorem mem_entryKeyLists : keys ∈ entryKeyLists es ↔ ∃ e ∈ es, keys ∈ e.2.keyLists := by
  induction es with
  | nil => simp [entryKeyLists]
  | cons e es ih => simp [entryKeyLists, ih]

theorem Ordered.pairwise_lt {x : Json} (h : x.Ordered) (hk : keys ∈ x.keyLists) :
    keys.Pairwise (· < ·) := by
  induction h with
  | arr _ ih =>
    obtain ⟨x, hx, hk⟩ := mem_itemKeyLists.mp hk
    exact ih x hx hk
  | obj ascending _ ih =>
    rcases List.mem_append.mp hk with hk | hk
    · obtain ⟨e, he, hk⟩ := mem_entryKeyLists.mp hk
      exact ih e he hk
    · rw [List.mem_singleton.mp hk]
      exact List.pairwise_map.mpr ascending
  | _ => simp [keyLists] at hk

end Ordered

end Json

namespace Envelope

/-- In the text of a request, under every configuration, the objects are those of its document, and
each lists its keys in ascending order of their bytes, none twice. -/
theorem keys_ascend {e : Envelope} (h : ¬ e.document.json.HoldsNull) (config : EncoderConfig)
    (l : Logger) : ∃ text, (e.encode config).result l = .ok text ∧
      KeyScan.keysOf text = e.document.json.keyLists ∧
      ∀ keys ∈ KeyScan.keysOf text,
        keys.Pairwise (fun a b => Writer.utf8 a < Writer.utf8 b) ∧ keys.Nodup := by
  have hp : e.document.nullPath? = none := e.document.nullPath?_eq_none_iff.mpr h
  have ht : KeyScan.keysOf (e.document.text config.layout) = e.document.json.keyLists :=
    Json.keysOf_text config.layout e.document.json
  refine ⟨_, encode_accepted hp config l, ht, fun keys hk => ?_⟩
  rw [ht] at hk
  have ascending := e.document.ordered.pairwise_lt hk
  exact ⟨ascending.imp Writer.utf8_lt, ascending.imp fun hlt => String.ne_of_lt hlt⟩

/-- A request around a raw clause whose keys were put in one after another. -/
def ofKeys (keys : List String) : Envelope :=
  around (some (.raw (.obj (.ofList (keys.map fun k => (k, .bool true))))))

/-- In UTF-16 the last two keys would change places. -/
theorem keys_ascend_ofKeys :
    ∃ text, ((ofKeys ["😀", "\uffff", "a", "Z", "a"]).encode ⟨true, 1⟩).result {} = .ok text ∧
      KeyScan.keysOf text = [["Z", "a", "\uffff", "😀"], ["query"]] ∧
      ∀ keys ∈ KeyScan.keysOf text,
        keys.Pairwise (fun a b => Writer.utf8 a < Writer.utf8 b) ∧ keys.Nodup := by
  have h : ¬ (ofKeys ["😀", "\uffff", "a", "Z", "a"]).document.json.HoldsNull := by decide
  have hd : (ofKeys ["😀", "\uffff", "a", "Z", "a"]).document.json.keyLists =
      [["Z", "a", "\uffff", "😀"], ["query"]] := by decide
  obtain ⟨text, ht, hk, ha⟩ := keys_ascend h ⟨true, 1⟩ {}
  exact ⟨text, ht, hk.trans hd, ha⟩

end Envelope

end SearchRequest
