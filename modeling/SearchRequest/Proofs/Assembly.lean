import SearchRequest.Aggregation
import SearchRequest.Clause.Basic
import SearchRequest.Proofs.Nulls

/-! # Builders assembled without nulls

A builder is assembled by its constructor and any number of setters. If all that is passed in can be
sent and every double is finite, then so can the document.
-/

namespace SearchRequest

/-- No entry of the object holds a null. -/
def Object.Sendable (o : Object) : Prop :=
  ∀ e ∈ o.entries, ¬ e.2.HoldsNull

def Double.Finite (x : Double) : Prop :=
  ∃ y, x = .finite y

namespace Object

variable {o : Object} {k : String} {v : Value}

theorem sendable_empty : (∅ : Object).Sendable := nofun

theorem Sendable.insert (h : o.Sendable) (hv : v.Sendable) : (o.insert k v).Sendable := by
  intro e he
  rcases Keyed.mem_of_mem_insert he with rfl | he
  · exact hv
  · exact h e he

theorem Sendable.insert? {v : Option Value} (h : o.Sendable) (hv : ∀ w ∈ v, w.Sendable) :
    (o.insert? k v).Sendable := by
  cases v with
  | none => exact h
  | some v => exact h.insert (hv v rfl)

end Object

namespace Value

variable {o : Object} {vs : List Value} {v : Value}

@[simp] theorem sendable_bool (b : Bool) : (bool b).Sendable := Json.not_holdsNull_bool b

@[simp] theorem sendable_int (n : Integer) : (int n).Sendable := Json.not_holdsNull_int n

@[simp] theorem sendable_str (s : String) : (str s).Sendable := Json.not_holdsNull_str s

@[simp] theorem sendable_uint32 (n : UInt32) : (uint32 n).Sendable := sendable_int _

@[simp] theorem sendable_uint64 (n : UInt64) : (uint64 n).Sendable := sendable_int _

@[simp] theorem sendable_int64 (n : Int64) : (int64 n).Sendable := sendable_int _

@[simp] theorem sendable_word {α : Type} [Word α] (a : α) : (Word.value a).Sendable :=
  sendable_str _

@[simp] theorem sendable_double {x : Double} : (double x).Sendable ↔ x.Finite := by
  cases x <;> simp [double, Double.Finite, Sendable, null]

theorem sendable_arr : (arr vs).Sendable ↔ ∀ v ∈ vs, v.Sendable := by
  simp [Sendable, arr]

theorem sendable_obj : (obj o).Sendable ↔ o.Sendable := by
  simp [Sendable, Object.Sendable, obj]

@[simp] theorem sendable_strs (ss : List String) : (strs ss).Sendable := by
  simp [strs, sendable_arr]

theorem sendable_entry {k : String} (h : v.Sendable) : (entry k v).Sendable :=
  sendable_obj.mpr (Object.sendable_empty.insert h)

theorem sendable_map? {α : Type} {f : α → Value} {a : Option α} (h : ∀ b ∈ a, (f b).Sendable) :
    ∀ w ∈ a.map f, w.Sendable := by
  intro w hw
  obtain ⟨b, hb, rfl⟩ := Option.map_eq_some_iff.mp hw
  exact h b hb

theorem sendable_map {α : Type} {f : α → Value} {as : List α} (h : ∀ a ∈ as, (f a).Sendable) :
    ∀ w ∈ as.map f, w.Sendable := by
  intro w hw
  obtain ⟨a, ha, rfl⟩ := List.mem_map.mp hw
  exact h a ha

theorem sendable_arr? (h : ∀ v ∈ vs, v.Sendable) : ∀ w ∈ arr? vs, w.Sendable := by
  intro w hw
  rw [arr?] at hw
  split at hw
  · cases hw
  · cases hw
    exact sendable_arr.mpr h

theorem sendable_obj? (h : o.Sendable) : ∀ w ∈ obj? o, w.Sendable := by
  intro w hw
  rw [obj?] at hw
  split at hw
  · cases hw
  · cases hw
    exact sendable_obj.mpr h

end Value

theorem SourceFilter.sendable_document (f : SourceFilter) : f.document.Sendable := by
  have strings (ss : List String) : ∀ w ∈ Value.arr? (ss.map .str), w.Sendable :=
    Value.sendable_arr? (by simp)
  cases f with
  | disabled => exact Value.sendable_bool false
  | fields includes excludes =>
    exact Value.sendable_obj.mpr ((Object.sendable_empty.insert? (strings _)).insert? (strings _))

/-! ## Scripts -/

namespace Script

def Call.Clean : Call → Prop
  | param _ value => value.Sendable
  | option _ _ => True

inductive Assembled : Script → Prop
  | new {form : ScriptForm} {text : String} {language : ScriptLanguage} :
      Assembled ⟨form, text, language, ∅, ∅⟩
  | call {s : Script} {c : Call} : Assembled s → c.Clean → Assembled (s.apply c)

variable {s : Script}

theorem Assembled.sections (h : s.Assembled) : s.params.Sendable ∧ s.options.Sendable := by
  induction h with
  | new => exact ⟨Object.sendable_empty, Object.sendable_empty⟩
  | @call s c hs hc ih =>
    cases c with
    | param name value => exact ⟨ih.1.insert hc, ih.2⟩
    | option name text => exact ⟨ih.1, ih.2.insert (Value.sendable_str text)⟩

theorem Assembled.sendable_document (h : s.Assembled) : s.document.Sendable := by
  obtain ⟨hp, ho⟩ := h.sections
  refine Value.sendable_obj.mpr ?_
  refine Object.Sendable.insert? ?_ (Value.sendable_obj? ho)
  refine Object.Sendable.insert? ?_ (Value.sendable_obj? hp)
  refine Object.Sendable.insert ?_ (Value.sendable_str s.text)
  exact Object.sendable_empty.insert (Value.sendable_word s.language)

end Script

/-! ## Settings -/

/-- Settings whose value can be sent if what they were given can be. -/
class CleanSetting (ω : Type) [Setting ω] where
  Clean : ω → Prop
  sendable {o : ω} : Clean o → (Setting.value o).Sendable

open CleanSetting Setting

instance : CleanSetting ScoreSetting where
  Clean
    | .boost b => b.Finite
  sendable {o} h := by cases o; simpa [value, entry] using h

instance : CleanSetting NameSetting where
  Clean _ := True
  sendable {o} _ := by cases o; simp [value, entry]

instance : CleanSetting LabelSetting where
  Clean
    | .boost b => b.Finite
    | .name _ => True
  sendable {o} h := by cases o <;> simp_all [value, entry]

instance : CleanSetting TermSetting where
  Clean
    | .boost b => b.Finite
    | _ => True
  sendable {o} h := by cases o <;> simp_all [value, entry]

instance : CleanSetting TermsSetSetting where
  Clean
    | .boost b => b.Finite
    | .minimumShouldMatchField _ => True
    | .minimumShouldMatchScript script => script.Assembled
  sendable {o} h := by
    cases o with
    | minimumShouldMatchScript script => exact h.sendable_document
    | _ => simp_all [value, entry]

instance : CleanSetting RegexpSetting where
  Clean
    | .boost b => b.Finite
    | _ => True
  sendable {o} h := by cases o <;> simp_all [value, entry]

instance : CleanSetting MatchSetting where
  Clean
    | .boost x | .cutoffFrequency x => x.Finite
    | .fuzziness v | .minimumShouldMatch v => v.Sendable
    | _ => True
  sendable {o} h := by cases o <;> simp_all [value, entry]

instance : CleanSetting PhraseSetting where
  Clean
    | .boost b => b.Finite
    | _ => True
  sendable {o} h := by cases o <;> simp_all [value, entry]

instance : CleanSetting PhrasePrefixSetting where
  Clean
    | .phrase s => Clean s
    | .maxExpansions _ => True
  sendable {o} h := by
    cases o with
    | phrase s => exact sendable (o := s) h
    | maxExpansions n => exact Value.sendable_uint32 n

instance : CleanSetting BoolPrefixSetting where
  Clean
    | .boost b => b.Finite
    | .fuzziness v | .minimumShouldMatch v => v.Sendable
    | _ => True
  sendable {o} h := by cases o <;> simp_all [value, entry]

instance : CleanSetting MultiMatchSetting where
  Clean
    | .single s => Clean s
    | .tieBreaker t => t.Finite
    | _ => True
  sendable {o} h := by
    cases o with
    | single s => exact sendable (o := s) h
    | _ => simp_all [value, entry]

instance : CleanSetting QueryStringSetting where
  Clean
    | .boost x | .tieBreaker x => x.Finite
    | _ => True
  sendable {o} h := by cases o <;> simp_all [value, entry]

instance : CleanSetting SimpleQueryStringSetting where
  Clean _ := True
  sendable {o} _ := by cases o <;> simp [value, entry]

instance : CleanSetting RangeSetting where
  Clean
    | .start v | .stop v => v.Sendable
    | .boost b => b.Finite
    | _ => True
  sendable {o} h := by cases o <;> simp_all [value, entry]

instance : CleanSetting BoolSetting where
  Clean
    | .minimumShouldMatch v => v.Sendable
    | .boost b => b.Finite
    | _ => True
  sendable {o} h := by cases o <;> simp_all [value, entry]

instance : CleanSetting InnerHitsSetting where
  Clean _ := True
  sendable {o} _ := by cases o <;> simp [value, entry]

instance : CleanSetting TermSourceSetting where
  Clean
    | .missing v => v.Sendable
  sendable {o} h := by cases o; exact h

instance : CleanSetting AggregationSetting where
  Clean
    | .missing v => v.Sendable
    | .script s => s.Assembled
    | _ => True
  sendable {o} h := by
    cases o with
    | script s => exact h.sendable_document
    | order orders =>
      simp [value, entry, Value.sendable_arr, BucketOrder.document, Value.sendable_entry]
    | _ => simp_all [value, entry]

/-! ## Leaves -/

namespace Builder

variable {β ω : Type} [Setting ω] [CleanSetting ω] {P : β → Prop} {b : Builder β ω}

inductive Assembled (P : β → Prop) : Builder β ω → Prop
  | new {parts : β} : P parts → Assembled P (.of parts)
  | set {b : Builder β ω} {o : ω} : Assembled P b → Clean o → Assembled P (b.set o)

theorem Assembled.sections (h : b.Assembled P) : P b.parts ∧ b.options.object.Sendable := by
  induction h with
  | new hp => exact ⟨hp, Object.sendable_empty⟩
  | set _ ho ih => exact ⟨ih.1, ih.2.insert (sendable ho)⟩

theorem Assembled.sendable_with {k : String} {v : Value} (h : b.Assembled P) (hv : v.Sendable) :
    (b.optionsWith k v).Sendable :=
  h.sections.2.insert hv

end Builder

theorem sendable_fieldBody {field : String} {v : Value} (h : v.Sendable) :
    (fieldBody field v).Sendable :=
  Object.sendable_empty.insert h

namespace Range

def Call.Clean : Call → Prop
  | compare _ v => v.Sendable
  | set s => CleanSetting.Clean s

inductive Assembled : Range → Prop
  | new {field : String} : Assembled { field }
  | call {r : Range} {c : Call} : Assembled r → c.Clean → Assembled (r.apply c)

variable {r : Range}

theorem bound_compare (r : Range) (c : Comparison) (v : Value) (side : Side) :
    (r.apply (.compare c v)).bound side =
      if c.side = side then some ⟨c.inclusive, v⟩ else r.bound side := by
  cases h : c.side <;> cases side <;> simp [apply, bound, h]

theorem options_compare (r : Range) (c : Comparison) (v : Value) :
    (r.apply (.compare c v)).options = r.options := by
  cases h : c.side <;> simp [apply, h]

theorem Assembled.sections (h : r.Assembled) :
    (∀ side, ∀ b ∈ r.bound side, b.value.Sendable) ∧ r.options.object.Sendable := by
  induction h with
  | new => exact ⟨fun side => by cases side <;> exact nofun, Object.sendable_empty⟩
  | @call r c _ hc ih =>
    cases c with
    | set s => exact ⟨ih.1, ih.2.insert (sendable hc)⟩
    | compare c v =>
      rw [options_compare]
      refine ⟨fun side b hb => ?_, ih.2⟩
      rw [bound_compare] at hb
      split at hb
      · cases hb; exact hc
      · exact ih.1 side b hb

theorem Assembled.sendable_bounds (h : r.Assembled) : r.bounds.Sendable := by
  have insert {side : Side} {o : Object} (ho : o.Sendable) : (r.insertBound side o).Sendable := by
    unfold insertBound
    split
    · next b hb => exact ho.insert (h.sections.1 side b hb)
    · exact ho
  exact insert (insert h.sections.2)

end Range

namespace Leaf

/-- A leaf assembled from values that can be sent. -/
def Assembled : Leaf → Prop
  | matchAll b => b.Assembled fun _ => True
  | matchNone b => b.Assembled fun _ => True
  | term b => b.Assembled fun parts => parts.value.Sendable
  | terms b => b.Assembled fun parts => ∀ v ∈ parts.values, v.Sendable
  | termsSet b => b.Assembled fun parts => ∀ v ∈ parts.values, v.Sendable
  | ids b => b.Assembled fun _ => True
  | presence b => b.Assembled fun _ => True
  | regexp b => b.Assembled fun _ => True
  | range r => r.Assembled
  | text b => b.Assembled fun parts => parts.value.Sendable
  | phrase b => b.Assembled fun parts => parts.value.Sendable
  | phrasePrefix b => b.Assembled fun parts => parts.value.Sendable
  | boolPrefix b => b.Assembled fun parts => parts.value.Sendable
  | multiMatch b => b.Assembled Value.Sendable
  | queryString b => b.Assembled Value.Sendable
  | simpleQueryString b => b.Assembled Value.Sendable
  | script b => b.Assembled Script.Assembled

theorem sendable_fieldText {ω : Type} [Setting ω] [CleanSetting ω] {t : FieldText ω}
    (h : t.Assembled fun parts => parts.value.Sendable) : (FieldText.body t).Sendable :=
  sendable_fieldBody (Value.sendable_obj.mpr (h.sendable_with h.sections.1))

theorem sendable_freeText {ω : Type} [Setting ω] [CleanSetting ω] {t : FreeText ω}
    (h : t.Assembled Value.Sendable) : (FreeText.body t).Sendable :=
  h.sendable_with h.sections.1

theorem sendable_term {t : Term} (h : t.Assembled fun parts => parts.value.Sendable) :
    (Term.body t).Sendable := by
  refine sendable_fieldBody ?_
  split
  · exact h.sections.1
  · exact Value.sendable_obj.mpr (h.sendable_with h.sections.1)

theorem Assembled.sendable_document {l : Leaf} (h : l.Assembled) : l.document.Sendable := by
  have hb : l.body.Sendable := by
    cases l with
    | matchAll b => exact h.sections.2
    | matchNone b => exact h.sections.2
    | term b => exact sendable_term h
    | terms b => exact h.sendable_with (Value.sendable_arr.mpr h.sections.1)
    | termsSet b =>
      exact sendable_fieldBody (Value.sendable_obj.mpr
        (h.sendable_with (Value.sendable_arr.mpr h.sections.1)))
    | ids b => exact h.sendable_with (Value.sendable_strs _)
    | presence b => exact h.sendable_with (Value.sendable_str _)
    | regexp b =>
      exact sendable_fieldBody (Value.sendable_obj.mpr (h.sendable_with (Value.sendable_str _)))
    | range r => exact sendable_fieldBody (Value.sendable_obj.mpr h.sendable_bounds)
    | text b => exact sendable_fieldText h
    | phrase b => exact sendable_fieldText h
    | phrasePrefix b => exact sendable_fieldText h
    | boolPrefix b => exact sendable_fieldText h
    | multiMatch b => exact sendable_freeText h
    | queryString b => exact sendable_freeText h
    | simpleQueryString b => exact sendable_freeText h
    | script b => exact h.sendable_with h.sections.1.sendable_document
  exact Value.sendable_entry (Value.sendable_obj.mpr hb)

end Leaf

/-! ## Aggregations -/

namespace Aggregation

inductive Assembled : Aggregation → Prop
  | custom {kind : String} {body : Object} : body.Sendable → Assembled (custom kind body)
  | onField {kind : FieldKind} {name : String} : Assembled (onField kind name)
  | multiTerms {sources : List TermSource} :
      (∀ t ∈ sources, t.Assembled fun _ => True) → Assembled (multiTerms sources)
  | set {a : Aggregation} {s : AggregationSetting} : Assembled a → Clean s →
      Assembled (a.apply (.set s))
  | metadata {a : Aggregation} {k : String} {v : Value} : Assembled a → v.Sendable →
      Assembled (a.apply (.metadata k v))
  | children {a : Aggregation} {named : List (String × Aggregation)} : Assembled a →
      (∀ c ∈ named, Assembled c.2) → Assembled (a.apply (.children named))

variable {a : Aggregation} {children named : List (String × Aggregation)}

theorem sendable_termSource {t : TermSource} (h : t.Assembled fun _ => True) :
    t.document.Sendable :=
  Value.sendable_obj.mpr (h.sendable_with (Value.sendable_str _))

theorem forall_mem_attach {P : String × Aggregation → Prop} (hc : ∀ c ∈ children, P c)
    (hn : ∀ c ∈ named, P c) : ∀ c ∈ attach children named, P c := by
  induction named generalizing children with
  | nil => exact hc
  | cons d named ih =>
    obtain ⟨hd, hn⟩ := List.forall_mem_cons.mp hn
    refine ih (fun c hm => ?_) hn
    rcases Keyed.mem_of_mem_insert hm with rfl | hm
    · exact hd
    · exact hc c hm

theorem sendable_childObject (h : ∀ c ∈ children, c.2.document.Sendable) :
    (childObject children).Sendable := by
  induction children with
  | nil => rw [childObject]; exact Object.sendable_empty
  | cons c children ih =>
    rw [childObject]
    exact (ih fun d hd => h d (List.mem_cons_of_mem _ hd)).insert (h c List.mem_cons_self)

theorem sendable_document (hb : a.body.Sendable) (hm : a.metadata.Sendable)
    (hc : ∀ c ∈ a.children, c.2.document.Sendable) : a.document.Sendable := by
  obtain ⟨kind, body, metadata, children⟩ := a
  rw [document]
  refine Value.sendable_obj.mpr ?_
  refine Object.Sendable.insert? ?_ (Value.sendable_obj? (sendable_childObject hc))
  refine Object.Sendable.insert? ?_ (Value.sendable_obj? hm)
  exact Object.sendable_empty.insert (Value.sendable_obj.mpr hb)

theorem Assembled.sections (h : a.Assembled) : a.body.Sendable ∧ a.metadata.Sendable ∧
    ∀ c ∈ a.children, c.2.document.Sendable := by
  induction h with
  | custom hb => exact ⟨hb, Object.sendable_empty, nofun⟩
  | onField =>
    exact ⟨Object.sendable_empty.insert (Value.sendable_str _), Object.sendable_empty, nofun⟩
  | multiTerms ht =>
    have hs := Value.sendable_map fun t h => sendable_termSource (ht t h)
    exact ⟨Object.sendable_empty.insert (Value.sendable_arr.mpr hs), Object.sendable_empty, nofun⟩
  | set _ hs ih => exact ⟨ih.1.insert (sendable hs), ih.2⟩
  | metadata _ hv ih =>
    obtain ⟨hb, hm, hc⟩ := ih
    exact ⟨hb, hm.insert hv, hc⟩
  | children _ hn ih ihn =>
    obtain ⟨hb, hm, hc⟩ := ih
    refine ⟨hb, hm, forall_mem_attach hc fun c hc => ?_⟩
    obtain ⟨hb, hm, hcc⟩ := ihn c hc
    exact sendable_document hb hm hcc

theorem Assembled.sendable_document (h : a.Assembled) : a.document.Sendable := by
  obtain ⟨hb, hm, hc⟩ := h.sections
  exact Aggregation.sendable_document hb hm hc

end Aggregation

end SearchRequest
