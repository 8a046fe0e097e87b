import SearchRequest.Aggregation
import SearchRequest.Clause.Conditional
import SearchRequest.Proofs.Recovery

/-! # Forms of builders

The builders that keep what is set on them as options. Each form renders in one object what its
constructor was given and the options, at a place that its constructor decides. No option gets in
the way of the constructor's entries; those hide an option only where a field shares the object.
-/

namespace SearchRequest

inductive Form
  | matchAll | matchNone | term | terms | termsSet | ids | presence | regexp
  | text | phrase | phrasePrefix | boolPrefix | multiMatch | queryString | simpleQueryString
  | script | bool | nested | constantScore | sort | nestedSort | termSource

namespace Form

/-- What the constructor is given. -/
abbrev Own : Form → Type
  | matchAll | matchNone => Unit
  | term | text | phrase | phrasePrefix | boolPrefix => FieldValue
  | terms | termsSet => FieldValues
  | ids => List String
  | regexp => FieldPattern
  | multiMatch | queryString | simpleQueryString => Value
  | script => Script
  | bool => Slots Clause
  | nested => Nesting Clause
  | constantScore => Option Clause
  | presence | sort | nestedSort | termSource => String

/-- What may be set. -/
abbrev Opt : Form → Type
  | matchAll | presence => ScoreSetting
  | matchNone => NameSetting
  | term => TermSetting
  | terms | ids | script | constantScore => LabelSetting
  | termsSet => TermsSetSetting
  | regexp => RegexpSetting
  | text => MatchSetting
  | phrase => PhraseSetting
  | phrasePrefix => PhrasePrefixSetting
  | boolPrefix => BoolPrefixSetting
  | multiMatch => MultiMatchSetting
  | queryString => QueryStringSetting
  | simpleQueryString => SimpleQueryStringSetting
  | bool => BoolSetting
  | nested => NestedSetting
  | sort => SortSetting
  | nestedSort => NestedSortSetting
  | termSource => TermSourceSetting

instance : (f : Form) → Setting f.Opt
  | matchAll | presence => inferInstanceAs (Setting ScoreSetting)
  | matchNone => inferInstanceAs (Setting NameSetting)
  | term => inferInstanceAs (Setting TermSetting)
  | terms | ids | script | constantScore => inferInstanceAs (Setting LabelSetting)
  | termsSet => inferInstanceAs (Setting TermsSetSetting)
  | regexp => inferInstanceAs (Setting RegexpSetting)
  | text => inferInstanceAs (Setting MatchSetting)
  | phrase => inferInstanceAs (Setting PhraseSetting)
  | phrasePrefix => inferInstanceAs (Setting PhrasePrefixSetting)
  | boolPrefix => inferInstanceAs (Setting BoolPrefixSetting)
  | multiMatch => inferInstanceAs (Setting MultiMatchSetting)
  | queryString => inferInstanceAs (Setting QueryStringSetting)
  | simpleQueryString => inferInstanceAs (Setting SimpleQueryStringSetting)
  | bool => inferInstanceAs (Setting BoolSetting)
  | nested => inferInstanceAs (Setting NestedSetting)
  | sort => inferInstanceAs (Setting SortSetting)
  | nestedSort => inferInstanceAs (Setting NestedSortSetting)
  | termSource => inferInstanceAs (Setting TermSourceSetting)

abbrev State (f : Form) : Type :=
  Builder f.Own f.Opt

def document : (f : Form) → f.State → Value
  | matchAll, b => (Leaf.matchAll b).document
  | matchNone, b => (Leaf.matchNone b).document
  | term, b => (Leaf.term b).document
  | terms, b => (Leaf.terms b).document
  | termsSet, b => (Leaf.termsSet b).document
  | ids, b => (Leaf.ids b).document
  | presence, b => (Leaf.presence b).document
  | regexp, b => (Leaf.regexp b).document
  | text, b => (Leaf.text b).document
  | phrase, b => (Leaf.phrase b).document
  | phrasePrefix, b => (Leaf.phrasePrefix b).document
  | boolPrefix, b => (Leaf.boolPrefix b).document
  | multiMatch, b => (Leaf.multiMatch b).document
  | queryString, b => (Leaf.queryString b).document
  | simpleQueryString, b => (Leaf.simpleQueryString b).document
  | script, b => (Leaf.script b).document
  | bool, b => (Clause.bool b).document
  | nested, b => (Clause.nested b).document
  | constantScore, b => (Clause.constantScore b).document
  | sort, b => SortEntry.document b
  | nestedSort, b => NestedSort.document b
  | termSource, b => TermSource.document b

/-- The keys on the way to the object that holds the options. -/
def home : (f : Form) → f.Own → List String
  | matchAll, _ => ["match_all"]
  | matchNone, _ => ["match_none"]
  | term, own => ["term", own.field]
  | terms, _ => ["terms"]
  | termsSet, own => ["terms_set", own.field]
  | ids, _ => ["ids"]
  | presence, _ => ["exists"]
  | regexp, own => ["regexp", own.field]
  | text, own => ["match", own.field]
  | phrase, own => ["match_phrase", own.field]
  | phrasePrefix, own => ["match_phrase_prefix", own.field]
  | boolPrefix, own => ["match_bool_prefix", own.field]
  | multiMatch, _ => ["multi_match"]
  | queryString, _ => ["query_string"]
  | simpleQueryString, _ => ["simple_query_string"]
  | script, _ => ["script"]
  | bool, _ => ["bool"]
  | nested, _ => ["nested"]
  | constantScore, _ => ["constant_score"]
  | sort, field => [field]
  | nestedSort, _ | termSource, _ => []

/-- The entries of the constructor in the object that holds the options. -/
def own : (f : Form) → f.Own → Object
  | matchAll, _ | matchNone, _ | sort, _ => ∅
  | term, own => (∅ : Object).insert "value" own.value
  | terms, own => (∅ : Object).insert own.field (.arr own.values)
  | termsSet, own => (∅ : Object).insert "terms" (.arr own.values)
  | ids, values => (∅ : Object).insert "values" (.strs values)
  | regexp, own => (∅ : Object).insert "value" (.str own.pattern)
  | text, own | phrase, own | phrasePrefix, own | boolPrefix, own =>
    (∅ : Object).insert "query" own.value
  | multiMatch, query | queryString, query | simpleQueryString, query =>
    (∅ : Object).insert "query" query
  | script, test => (∅ : Object).insert "script" test.document
  | bool, slots => BoolOf.body ⟨slots.map Clause.document, ∅⟩
  | nested, own => NestedOf.body ⟨⟨own.path, own.query.document⟩, ∅⟩
  | constantScore, filter => ConstantScoreOf.body ⟨filter.map Clause.document, ∅⟩
  | presence, field | termSource, field => (∅ : Object).insert "field" (.str field)
  | nestedSort, path => (∅ : Object).insert "path" (.str path)

/-- An entry of the constructor stands in the place of an option of this key. -/
def Hides : (f : Form) → f.Own → String → Prop
  | terms, own, key => key = own.field
  | _, _, _ => False

end Form

/-! ## Objects in objects -/

/-- The value at the end of a path of objects that each have one entry. -/
def Value.within (path : List String) (v : Value) : Value :=
  path.foldr Value.entry v

namespace Object

variable {o : Object} {k : String} {v : Value}

/-- An entry that is put into an object goes before what was there. -/
theorem get?_insert_or (l : String) : (o.insert k v).get? l =
    (((∅ : Object).insert k v).get? l).or (o.get? l) := by
  rw [get?_insert, get?_insert]
  split <;> rfl

theorem isSome_get?_singleton {l : String} :
    (((∅ : Object).insert k v).get? l).isSome = true ↔ l = k := by
  rw [get?_insert]
  split <;> simp_all

end Object

/-! ## Settings beside a constructor's entries -/

open Setting

instance : Avoids NestedSortSetting "path" := ⟨fun o => by cases o <;> simp [key, entry]⟩

instance : Avoids TermSourceSetting "field" := ⟨fun o => by cases o; simp [key, entry]⟩

namespace BoolOf

theorem get?_body_or (b : BoolOf Value) (k : String) : b.body.get? k =
    ((body ⟨b.parts, ∅⟩).get? k).or (b.options.object.get? k) := by
  by_cases h : ∃ slot : Slot, k = slot.key
  · obtain ⟨slot, rfl⟩ := h
    have ho : b.options.object.get? slot.key = none :=
      b.options.get?_eq_none fun s => s.key_ne slot
    rw [get?_body_slot, get?_body_slot, ho, Option.or_none]
  · have hk (slot : Slot) : k ≠ slot.key := fun hs => h ⟨slot, hs⟩
    rw [b.get?_body_of_ne hk, get?_body_of_ne _ hk]
    rfl

theorem get?_body_key (slots : Slots Value) (o : BoolSetting) :
    (body ⟨slots, ∅⟩).get? (key o) = none :=
  get?_body_of_ne _ o.key_ne

end BoolOf

namespace NestedOf

theorem get?_body_or (b : NestedOf Value) (k : String) : b.body.get? k =
    ((body ⟨b.parts, ∅⟩).get? k).or (b.options.object.get? k) := by
  simp only [body, Builder.optionsWith, Object.get?_insert]
  split
  · rfl
  · split <;> rfl

theorem get?_body_key (parts : Nesting Value) (o : NestedSetting) :
    (body ⟨parts, ∅⟩).get? (key o) = none := by
  rw [body, Object.get?_insert_ne (Avoids.ne o), Builder.optionsWith,
    Object.get?_insert_ne (Avoids.ne o)]
  rfl

end NestedOf

namespace ConstantScoreOf

theorem get?_body_or (b : ConstantScoreOf Value) (k : String) : b.body.get? k =
    ((body ⟨b.parts, ∅⟩).get? k).or (b.options.object.get? k) := by
  rw [body, body, Object.get?_insert?, Object.get?_insert?, Option.or_assoc]
  rfl

theorem get?_body_key (filter : Option Value) (o : LabelSetting) :
    (body ⟨filter, ∅⟩).get? (key o) = none :=
  Object.get?_insert?_ne (Avoids.ne o) filter

end ConstantScoreOf

/-! ## Documents -/

namespace Form

variable (f : Form)

/-- The constructor's entries go before the options. Only a term without options has no object to
put them in. -/
theorem exists_body (b : f.State) (h : f = term → b.options.isEmpty = false) :
    ∃ body : Object, f.document b = .within (f.home b.parts) (.obj body) ∧
      ∀ k, body.get? k = ((f.own b.parts).get? k).or (b.options.object.get? k) := by
  cases f with
  | term =>
    refine ⟨Builder.optionsWith b "value" b.parts.value, ?_, Object.get?_insert_or⟩
    rw [document, Leaf.document, Leaf.body, Term.body, if_neg (by simp [h rfl])]
    rfl
  | bool => exact ⟨_, Clause.document_bool b, BoolOf.get?_body_or _⟩
  | nested => exact ⟨_, Clause.document_nested b, NestedOf.get?_body_or _⟩
  | constantScore => exact ⟨_, Clause.document_constantScore b, ConstantScoreOf.get?_body_or _⟩
  | matchAll | matchNone | sort => exact ⟨b.options.object, rfl, fun _ => rfl⟩
  | _ => exact ⟨_, rfl, Object.get?_insert_or⟩

/-- Of all forms, only several terms let their field stand where an option may be. -/
theorem hides_iff (own : f.Own) (o : f.Opt) :
    ((f.own own).get? (key o)).isSome = true ↔ f.Hides own (key o) := by
  have avoided {ω : Type} [Setting ω] {k : String} [Avoids ω k] {v : Value} (o : ω) :
      (((∅ : Object).insert k v).get? (key o)).isSome = true ↔ False :=
    Object.isSome_get?_singleton.trans (iff_false_intro (Avoids.ne o))
  have absent {x : Option Json} (h : x = none) : x.isSome = true ↔ False :=
    iff_of_false (by simp [h]) id
  cases f with
  | matchAll | matchNone | sort => exact absent rfl
  | terms => exact Object.isSome_get?_singleton
  | bool => exact absent (BoolOf.get?_body_key _ o)
  | nested => exact absent (NestedOf.get?_body_key _ o)
  | constantScore => exact absent (ConstantScoreOf.get?_body_key _ o)
  | _ => exact avoided o

/-- A name is not written on terms of a field that is called like it. -/
example : terms.document (Builder.set (Terms.new "_name" []) (.name "a")) =
    .within ["terms"] (.obj ((∅ : Object).insert "_name" (.arr []))) := rfl

end Form

end SearchRequest
