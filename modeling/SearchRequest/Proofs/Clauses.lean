import SearchRequest.Clause.Attachment
import SearchRequest.Proofs.Objects

/-! # Documents of compound clauses

The document of a compound clause is made from the documents of the clauses in it. What stands under
a slot of a bool, and under any other key, is told apart: no setting writes the key of a slot.
-/

namespace SearchRequest

namespace Slots

variable {α β : Type} {s t : Slots α}

def map (f : α → β) (s : Slots α) : Slots β :=
  ⟨s.must.map f, s.should.map f, s.mustNot.map f, s.filter.map f⟩

@[simp] theorem get_map (f : α → β) (s : Slots α) (slot : Slot) :
    (s.map f).get slot = (s.get slot).map f := by
  cases slot <;> rfl

theorem get_push (s : Slots α) (slot other : Slot) (a : α) :
    (s.push slot a).get other = s.get other ++ if slot = other then [a] else [] := by
  cases slot <;> cases other <;> simp [push, get]

theorem get_pushes (s : Slots α) (slot other : Slot) (as : List α) :
    (as.foldl (·.push slot ·) s).get other =
      s.get other ++ if slot = other then as else [] := by
  induction as generalizing s with
  | nil => simp
  | cons a as ih =>
    rw [List.foldl_cons, ih, get_push]
    split <;> simp

theorem forall_get_pushes {P : α → Prop} {slot : Slot} {as : List α}
    (hs : ∀ other, ∀ a ∈ s.get other, P a) (h : ∀ a ∈ as, P a) (other : Slot) :
    ∀ a ∈ (as.foldl (·.push slot ·) s).get other, P a := by
  intro a ha
  rw [get_pushes, List.mem_append] at ha
  obtain ha | ha := ha
  · exact hs other a ha
  · split at ha
    · exact h a ha
    · cases ha

theorem ext_get (h : ∀ slot, s.get slot = t.get slot) : s = t := by
  cases s; cases t
  cases h .must; cases h .should; cases h .mustNot; cases h .filter
  rfl

theorem isEmpty_iff : s.isEmpty = true ↔ ∀ slot, s.get slot = [] := by
  simp only [isEmpty, Bool.and_eq_true, List.isEmpty_iff]
  constructor
  · rintro ⟨⟨⟨hm, hs⟩, hn⟩, hf⟩ slot
    cases slot with
    | must => exact hm
    | should => exact hs
    | mustNot => exact hn
    | filter => exact hf
  · intro h
    exact ⟨⟨⟨h .must, h .should⟩, h .mustNot⟩, h .filter⟩

end Slots

/-! ## Bodies -/

namespace Clause

theorem documents_eq (cs : List Clause) : documents cs = cs.map document := by
  induction cs with
  | nil => rw [documents, List.map_nil]
  | cons c cs ih => rw [documents, ih, List.map_cons]

theorem document?_eq (c : Option Clause) : document? c = c.map document := by
  cases c <;> rw [document?] <;> rfl

theorem document_empty : empty.document = .obj ∅ := by
  rw [empty, document]

end Clause

def BoolClause.body (b : BoolClause) : Object :=
  BoolOf.body ⟨b.parts.map Clause.document, b.options⟩

def NestedClause.body (n : NestedClause) : Object :=
  NestedOf.body ⟨⟨n.parts.path, n.parts.query.document⟩, n.options⟩

def ConstantScore.body (c : ConstantScore) : Object :=
  ConstantScoreOf.body ⟨c.parts.map Clause.document, c.options⟩

namespace Clause

/-- The key of the document of a clause that is not raw. -/
def kind : Clause → String
  | leaf l => l.kind
  | bool _ => "bool"
  | nested _ => "nested"
  | constantScore _ => "constant_score"
  | raw _ => ""

/-- What the document of a clause that is not raw holds under its key. -/
def body : Clause → Object
  | leaf l => l.body
  | bool b => BoolClause.body b
  | nested n => NestedClause.body n
  | constantScore c => ConstantScore.body c
  | raw _ => ∅

theorem document_leaf (l : Leaf) :
    (leaf l).document = .entry (leaf l).kind (.obj (leaf l).body) := by
  rw [document]
  rfl

theorem document_bool (b : BoolClause) :
    (bool b).document = .entry (bool b).kind (.obj (bool b).body) := by
  obtain ⟨⟨must, should, mustNot, filter⟩, options⟩ := b
  rw [document, documents_eq, documents_eq, documents_eq, documents_eq]
  rfl

theorem document_nested (n : NestedClause) :
    (nested n).document = .entry (nested n).kind (.obj (nested n).body) := by
  obtain ⟨⟨path, query⟩, options⟩ := n
  rw [document]
  rfl

theorem document_constantScore (s : ConstantScore) :
    (constantScore s).document = .entry (constantScore s).kind (.obj (constantScore s).body) := by
  obtain ⟨filter, options⟩ := s
  rw [document, document?_eq]
  rfl

end Clause

/-! ## Slots beside options -/

theorem BoolSetting.key_ne (s : BoolSetting) (slot : Slot) : Setting.key s ≠ slot.key := by
  cases s <;> cases slot <;> simp [Setting.key, Setting.entry, Slot.key]

namespace BoolOf

variable (b : BoolOf Value) {k : String}

theorem get?_body_slot (slot : Slot) :
    b.body.get? slot.key = (Value.arr? (b.parts.get slot)).map (·.json) := by
  have ho : b.options.object.get? slot.key = none :=
    b.options.get?_eq_none fun s => s.key_ne slot
  cases slot <;> simp_all [body, Slot.all, Slot.key, Object.get?_insert?]

theorem get?_body_of_ne (h : ∀ slot : Slot, k ≠ slot.key) :
    b.body.get? k = b.options.object.get? k := by
  simp only [body, Slot.all, List.foldl_cons, List.foldl_nil]
  rw [Object.get?_insert?_ne (h .filter), Object.get?_insert?_ne (h .mustNot),
    Object.get?_insert?_ne (h .should), Object.get?_insert?_ne (h .must)]

end BoolOf

theorem BoolClause.get?_body_slot (b : BoolClause) (slot : Slot) : b.body.get? slot.key =
    if b.parts.get slot = [] then none
    else some (.arr ((b.parts.get slot).map fun c => c.document.json)) := by
  rw [body, BoolOf.get?_body_slot, Slots.get_map, Value.map_arr?]

/-! ## One clause beside options -/

namespace NestedClause

variable (n : NestedClause)

theorem get?_body_query : (body n).get? "query" = some n.parts.query.document.json := by
  rw [body, NestedOf.body, Object.get?_insert_self]

theorem get?_body_path : (body n).get? "path" = some (.str n.parts.path) := by
  rw [body, NestedOf.body, Object.get?_insert_ne (by decide), Builder.optionsWith,
    Object.get?_insert_self]
  rfl

theorem get?_body_of_ne {k : String} (hq : k ≠ "query") (hp : k ≠ "path") :
    (body n).get? k = n.options.object.get? k := by
  rw [body, NestedOf.body, Object.get?_insert_ne hq, Builder.optionsWith, Object.get?_insert_ne hp]

end NestedClause

theorem ConstantScore.get?_body_filter (s : ConstantScore) :
    (body s).get? "filter" = s.parts.map fun c => c.document.json := by
  rw [body, ConstantScoreOf.body, Object.get?_insert?, if_pos rfl,
    s.options.get?_eq_none fun o => by cases o <;> simp [Setting.key, Setting.entry],
    Option.or_none]
  exact Option.map_map ..

end SearchRequest
