import SearchRequest.Clause.Leaf
import SearchRequest.Proofs.Equality

/-! # Leaves told apart by their documents

What the constructor of a leaf was given and the options set since stand under different keys, so two
leaves of one kind have equal bodies exactly if they are equal. Two things hide a leaf: an object as
the value of a term, and a field of several terms that is called like one of their options.
-/

namespace SearchRequest

/-! ## Options beside other parts -/

/-- No setting writes this key. -/
class Setting.Avoids (ω : Type) [Setting ω] (key : String) : Prop where
  ne : ∀ o : ω, Setting.key o ≠ key

open Setting

instance : Avoids ScoreSetting "field" := ⟨fun o => by cases o; simp [key, entry]⟩

instance : Avoids LabelSetting "values" := ⟨fun o => by cases o <;> simp [key, entry]⟩

instance : Avoids LabelSetting "script" := ⟨fun o => by cases o <;> simp [key, entry]⟩

instance : Avoids TermSetting "value" := ⟨fun o => by cases o <;> simp [key, entry]⟩

instance : Avoids TermsSetSetting "terms" := ⟨fun o => by cases o <;> simp [key, entry]⟩

instance : Avoids RegexpSetting "value" := ⟨fun o => by cases o <;> simp [key, entry]⟩

instance : Avoids MatchSetting "query" := ⟨fun o => by cases o <;> simp [key, entry]⟩

instance : Avoids PhraseSetting "query" := ⟨fun o => by cases o <;> simp [key, entry]⟩

instance : Avoids PhrasePrefixSetting "query" where
  ne
    | .phrase s => Avoids.ne s
    | .maxExpansions _ => by simp [key, entry]

instance : Avoids BoolPrefixSetting "query" := ⟨fun o => by cases o <;> simp [key, entry]⟩

instance : Avoids MultiMatchSetting "query" where
  ne
    | .single s => Avoids.ne s
    | .fields _ | .slop _ | .tieBreaker _ | .strategy _ => by simp [key, entry]

instance : Avoids QueryStringSetting "query" := ⟨fun o => by cases o <;> simp [key, entry]⟩

instance : Avoids SimpleQueryStringSetting "query" := ⟨fun o => by cases o <;> simp [key, entry]⟩

namespace Builder

variable {β ω : Type} [Setting ω] {a b : Builder β ω} {k : String} {v w : Value}

theorem get?_options [Avoids ω k] (b : Builder β ω) : b.options.object.get? k = none :=
  b.options.get?_eq_none Avoids.ne

theorem optionsWith_beq [Avoids ω k] :
    (a.optionsWith k v == b.optionsWith k w) = (v == w && a.options == b.options) :=
  Object.insert_beq_insert a.get?_options b.get?_options

end Builder

theorem fieldBody_beq {f g : String} {v w : Value} :
    (fieldBody f v == fieldBody g w) = (f == g && v == w) :=
  Object.singleton_beq_singleton

/-! ## Scripts -/

theorem ScriptLanguage.value_beq {a b : ScriptLanguage} :
    (Word.value a == Word.value b) = (a == b) := by
  cases a <;> cases b <;> rfl

namespace Script

/-- What the constructor of a script writes. -/
def head (s : Script) : Object :=
  ((∅ : Object).insert "lang" (Word.value s.language)).insert s.form.key (.str s.text)

def headAndParams (s : Script) : Object :=
  s.head.insert? "params" (Value.obj? s.params)

def object (s : Script) : Object :=
  s.headAndParams.insert? "options" (Value.obj? s.options)

variable {s t : Script} {k : String}

theorem get?_head (hl : k ≠ "lang") (hk : k ≠ s.form.key) : s.head.get? k = none := by
  rw [head, Object.get?_insert_ne hk, Object.get?_insert_ne hl, Object.get?_empty]

theorem form_key_ne (f : ScriptForm) (hk : k ∈ ["lang", "params", "options"]) : f.key ≠ k := by
  rintro rfl
  revert hk
  cases f <;> decide

theorem form_key_injective {f g : ScriptForm} (h : f.key = g.key) : f = g := by
  cases f <;> cases g <;> simp_all [ScriptForm.key]

theorem get?_head_params (s : Script) : s.head.get? "params" = none :=
  get?_head (by decide) (form_key_ne s.form (by decide)).symm

theorem get?_headAndParams_options (s : Script) : s.headAndParams.get? "options" = none := by
  rw [headAndParams, Object.get?_insert?_ne (by decide)]
  exact get?_head (by decide) (form_key_ne s.form (by decide)).symm

/-- The two forms keep their text under different keys. -/
theorem head_beq : (s.head == t.head) =
    (s.form == t.form && (s.text == t.text && s.language == t.language)) := by
  have hk (l : ScriptLanguage) (f : ScriptForm) :
      ((∅ : Object).insert "lang" (Word.value l)).get? f.key = none := by
    rw [Object.get?_insert_ne (form_key_ne f (by decide)), Object.get?_empty]
  by_cases h : s.form = t.form
  · rw [beq_iff_eq.mpr h, Bool.true_and, head, head, h, Object.insert_beq_insert (hk _ _) (hk _ _),
      Value.str_beq_str, Object.singleton_beq_singleton, ScriptLanguage.value_beq]
    rfl
  · have hne : s.form.key ≠ t.form.key := fun hkk => h (form_key_injective hkk)
    rw [head, head, Object.insert_beq_insert_ne hne (hk _ _), beq_eq_false_iff_ne.mpr h,
      Bool.false_and]

theorem object_beq : (s.object == t.object) =
    (s.options == t.options && (s.params == t.params && s.head == t.head)) := by
  rw [object, object, Object.insert?_beq_insert? s.get?_headAndParams_options
      t.get?_headAndParams_options, Value.obj?_beq_obj?, headAndParams, headAndParams,
    Object.insert?_beq_insert? s.get?_head_params t.get?_head_params, Value.obj?_beq_obj?]

theorem document_beq : (s.document == t.document) = (s == t) := calc
  (Value.obj s.object == Value.obj t.object) =
      (s.options == t.options && (s.params == t.params && s.head == t.head)) := by
    rw [Value.obj_beq_obj, object_beq]
  _ = ((s.form == t.form && (s.text == t.text && s.language == t.language)) &&
      (s.params == t.params && s.options == t.options)) := by
    rw [head_beq, ← Bool.and_assoc, Bool.and_comm, Bool.and_comm (s.options == t.options)]
  _ = (s == t) := by
    rw [Bool.and_assoc, Bool.and_assoc]
    rfl

end Script

/-! ## Leaves -/

section Leaves

variable {ω : Type} [Setting ω]

theorem TermsSet.body_beq {a b : TermsSet} : (TermsSet.body a == TermsSet.body b) = (a == b) := by
  rw [TermsSet.body, TermsSet.body, fieldBody_beq, Value.obj_beq_obj, Builder.optionsWith_beq,
    Value.arr_beq_arr, ← Bool.and_assoc]
  rfl

theorem Ids.body_beq {a b : Ids} : (Ids.body a == Ids.body b) = (a == b) := by
  rw [Ids.body, Ids.body, Builder.optionsWith_beq, Value.strs_beq_strs]
  rfl

theorem Presence.body_beq {a b : Presence} : (Presence.body a == Presence.body b) = (a == b) := by
  rw [Presence.body, Presence.body, Builder.optionsWith_beq, Value.str_beq_str]
  rfl

theorem Regexp.body_beq {a b : Regexp} : (Regexp.body a == Regexp.body b) = (a == b) := by
  rw [Regexp.body, Regexp.body, fieldBody_beq, Value.obj_beq_obj, Builder.optionsWith_beq,
    Value.str_beq_str, ← Bool.and_assoc]
  rfl

theorem FieldText.body_beq [Avoids ω "query"] {a b : FieldText ω} :
    (FieldText.body a == FieldText.body b) = (a == b) := by
  rw [FieldText.body, FieldText.body, fieldBody_beq, Value.obj_beq_obj, Builder.optionsWith_beq,
    ← Bool.and_assoc]
  rfl

theorem FreeText.body_beq [Avoids ω "query"] {a b : FreeText ω} :
    (FreeText.body a == FreeText.body b) = (a == b) :=
  Builder.optionsWith_beq

theorem ScriptFilter.body_beq {a b : ScriptFilter} :
    (ScriptFilter.body a == ScriptFilter.body b) = (a == b) := by
  rw [ScriptFilter.body, ScriptFilter.body, Builder.optionsWith_beq, Script.document_beq]
  rfl

/-- A value that is no object is told apart from the object that options need around it. -/
theorem Term.body_beq {a b : Term} (ha : a.parts.value.object? = none)
    (hb : b.parts.value.object? = none) : (Term.body a == Term.body b) = (a == b) := by
  change _ = ((a.parts.field == b.parts.field && a.parts.value == b.parts.value) &&
    a.options.object == b.options.object)
  rw [Term.body, Term.body, fieldBody_beq, Bool.and_assoc, Options.isEmpty, Options.isEmpty]
  congr 1
  by_cases h : a.options.object.isEmpty = b.options.object.isEmpty
  · cases he : b.options.object.isEmpty with
    | false =>
      rw [h, he, if_neg Bool.false_ne_true, if_neg Bool.false_ne_true, Value.obj_beq_obj,
        Builder.optionsWith_beq]
      rfl
    | true =>
      rw [h, he, if_pos rfl, if_pos rfl, Object.beq_of_isEmpty (h.trans he) he, Bool.and_true]
  · rw [Object.beq_eq_false_of_isEmpty h, Bool.and_false]
    cases he : b.options.object.isEmpty with
    | false =>
      rw [eq_true_of_ne_false (ne_of_ne_of_eq h he), if_pos rfl, if_neg Bool.false_ne_true]
      exact (Value.beq_obj_eq_false ha).1
    | true =>
      rw [eq_false_of_ne_true (ne_of_ne_of_eq h he), if_pos rfl, if_neg Bool.false_ne_true]
      exact (Value.beq_obj_eq_false hb).2

/-- No option of several terms is called like their field. -/
def Terms.Apart (t : Terms) : Prop :=
  t.parts.field ≠ "boost" ∧ t.parts.field ≠ "_name"

theorem Terms.Apart.get?_options {a b : Terms} (h : b.Apart) :
    a.options.object.get? b.parts.field = none :=
  a.options.get?_eq_none fun o => by
    cases o with
    | boost => exact h.1.symm
    | name => exact h.2.symm

theorem Terms.body_beq {a b : Terms} (ha : a.Apart) (hb : b.Apart) :
    (Terms.body a == Terms.body b) = (a == b) := by
  change _ = ((a.parts.field == b.parts.field && a.parts.values == b.parts.values) &&
    a.options.object == b.options.object)
  rw [Terms.body, Terms.body, Builder.optionsWith, Builder.optionsWith]
  by_cases h : a.parts.field = b.parts.field
  · rw [h, Object.insert_beq_insert hb.get?_options hb.get?_options, Value.arr_beq_arr,
      beq_self_eq_true, Bool.true_and]
  · rw [Object.insert_beq_insert_ne h ha.get?_options, beq_eq_false_iff_ne.mpr h, Bool.false_and,
      Bool.false_and]

/-! ### Ranges -/

namespace Range

variable {a b : Range} {o p : Object}

theorem key_injective {side : Side} {x y : Bool} (h : Bound.key side x = Bound.key side y) :
    x = y := by
  cases side <;> cases x <;> cases y <;> simp_all [Bound.key]

theorem insertBound_beq {side : Side} (ho : ∀ x, o.get? (Bound.key side x) = none)
    (hp : ∀ x, p.get? (Bound.key side x) = none) :
    (a.insertBound side o == b.insertBound side p) = (a.bound side == b.bound side && o == p) := by
  rw [insertBound, insertBound]
  cases a.bound side with
  | none =>
    cases b.bound side with
    | none => rfl
    | some d => exact (Object.beq_eq_false Object.get?_insert_self (ho _)).2
  | some c =>
    cases b.bound side with
    | none => exact (Object.beq_eq_false Object.get?_insert_self (hp _)).1
    | some d =>
      change _ = ((c.inclusive == d.inclusive && c.value == d.value) && o == p)
      by_cases h : c.inclusive = d.inclusive
      · rw [h, beq_self_eq_true, Bool.true_and]
        dsimp only
        rw [h]
        exact Object.insert_beq_insert (ho _) (hp _)
      · rw [beq_eq_false_iff_ne.mpr h, Bool.false_and, Bool.false_and]
        exact Object.insert_beq_insert_ne (fun hk => h (key_injective hk)) (hp _)

theorem get?_options (r : Range) (side : Side) (x : Bool) :
    r.options.object.get? (Bound.key side x) = none :=
  r.options.get?_eq_none fun o => by
    cases o <;> cases side <;> cases x <;> simp [key, entry, Bound.key]

theorem get?_insertBound_lower (r : Range) (x : Bool) :
    (r.insertBound .lower r.options.object).get? (Bound.key .upper x) = none := by
  rw [insertBound]
  cases r.bound .lower with
  | none => exact r.get?_options .upper x
  | some d =>
    have hne : Bound.key .upper x ≠ Bound.key .lower d.inclusive := by
      cases x <;> cases d.inclusive <;> simp [Bound.key]
    rw [Object.get?_insert_ne hne]
    exact r.get?_options .upper x

theorem body_beq : (a.body == b.body) = (a == b) := by
  change _ = (a.field == b.field && (a.lower == b.lower && (a.upper == b.upper &&
    a.options.object == b.options.object)))
  rw [body, body, Object.singleton_beq_singleton, Value.obj_beq_obj, bounds, bounds,
    insertBound_beq a.get?_insertBound_lower b.get?_insertBound_lower,
    insertBound_beq (a.get?_options .lower) (b.get?_options .lower),
    Bool.and_left_comm (a.bound .upper == _)]
  rfl

end Range

/-! ### Any kind -/

namespace Leaf

/-- Neither is the value of a term an object, nor the field of several terms called like an option. -/
def Recoverable : Leaf → Prop
  | term t => t.parts.value.object? = none
  | terms t => t.Apart
  | _ => True

/-- The kinds in the order in which they are declared. -/
def kinds : List String :=
  ["match_all", "match_none", "term", "terms", "terms_set", "ids", "exists", "regexp", "range",
    "match", "match_phrase", "match_phrase_prefix", "match_bool_prefix", "multi_match",
    "query_string", "simple_query_string", "script"]

theorem getElem?_kinds (l : Leaf) : kinds[l.ctorIdx]? = some l.kind := by
  cases l <;> rfl

theorem kind_mem (l : Leaf) : l.kind ∈ kinds :=
  List.mem_of_getElem? l.getElem?_kinds

theorem kind_ne (l : Leaf) {k : String} (h : k ∉ kinds) : l.kind ≠ k :=
  ne_of_mem_of_not_mem l.kind_mem h

variable {l m : Leaf}

theorem ctorIdx_eq_of_kind (h : l.kind = m.kind) : l.ctorIdx = m.ctorIdx :=
  (List.getElem?_inj (List.getElem?_eq_some_iff.mp l.getElem?_kinds).1 (by decide)).mp
    (by rw [getElem?_kinds, getElem?_kinds, h])

theorem beq_eq_false_of_kind (h : l.kind ≠ m.kind) : (l == m) = false := by
  cases l <;> cases m <;> first | rfl | exact absurd rfl h

theorem body_beq (hl : l.Recoverable) (hm : m.Recoverable) (h : l.kind = m.kind) :
    (l.body == m.body) = (l == m) := by
  have hi := ctorIdx_eq_of_kind h
  clear h
  cases l <;> cases m <;> cases hi
  case matchAll.matchAll => rfl
  case matchNone.matchNone => rfl
  case term.term => exact Term.body_beq hl hm
  case terms.terms => exact Terms.body_beq hl hm
  case termsSet.termsSet => exact TermsSet.body_beq
  case ids.ids => exact Ids.body_beq
  case presence.presence => exact Presence.body_beq
  case regexp.regexp => exact Regexp.body_beq
  case range.range => exact Range.body_beq
  case text.text => exact FieldText.body_beq
  case phrase.phrase => exact FieldText.body_beq
  case phrasePrefix.phrasePrefix => exact FieldText.body_beq
  case boolPrefix.boolPrefix => exact FieldText.body_beq
  case multiMatch.multiMatch => exact FreeText.body_beq
  case queryString.queryString => exact FreeText.body_beq
  case simpleQueryString.simpleQueryString => exact FreeText.body_beq
  case script.script => exact ScriptFilter.body_beq

theorem document_beq (hl : l.Recoverable) (hm : m.Recoverable) :
    (l.document == m.document) = (l == m) := by
  rw [document, document, Value.entry_beq_entry, Value.obj_beq_obj]
  by_cases h : l.kind = m.kind
  · rw [beq_iff_eq.mpr h, Bool.true_and, body_beq hl hm h]
  · rw [beq_eq_false_iff_ne.mpr h, Bool.false_and, beq_eq_false_of_kind h]

end Leaf

end Leaves

end SearchRequest
