import SearchRequest.Proofs.AggregationRuns
import SearchRequest.Proofs.BoolRuns
import SearchRequest.Proofs.Forms
import SearchRequest.Proofs.InnerHitsRuns

/-! # Runs of settings

Whatever is set on a builder, in whatever order, each key holds the last value that was written
under it, or what it held before. So the document is known by the last values, and what the
constructor was given stays.
-/

namespace SearchRequest

/-! ## The last value of each key -/

namespace Keyed

variable {α : Type} {es : List (String × α)}

/-- Under each key, both write the same value last, or none. -/
def SameLast (es es' : List (String × α)) : Prop :=
  ∀ k, last? k es = last? k es'

theorem last?_eq_none {k : String} (h : ∀ e ∈ es, e.1 ≠ k) : last? k es = none := by
  rw [last?, List.getLast?_eq_none_iff, List.filterMap_eq_nil_iff]
  exact fun e he => if_neg (h e he).symm

end Keyed

namespace Object

/-- What stands under a key once all these entries were put in, one after another. -/
def latest? (o : Object) (es : List (String × Value)) (k : String) : Option Json :=
  ((Keyed.last? k es).map (·.json)).or (o.get? k)

theorem foldl_insert_congr {es es' : List (String × Value)} (h : Keyed.SameLast es es')
    (o : Object) : es.foldl (fun o e => o.insert e.1 e.2) o =
      es'.foldl (fun o e => o.insert e.1 e.2) o := by
  refine ext_get? fun k => ?_
  rw [get?_foldl_insert, get?_foldl_insert, h k]

theorem latest?_eq_none_iff {o : Object} {es : List (String × Value)} :
    (∀ k, o.latest? es k = none) ↔ o.isEmpty = true ∧ es = [] := by
  simp only [latest?, Option.or_eq_none_iff, Option.map_eq_none_iff, forall_and]
  rw [Keyed.forall_last?_eq_none_iff, isEmpty_iff_get?, and_comm]

end Object

namespace Options

variable {ω : Type} [Setting ω] {calls calls' : List ω}

def setAll (os : Options ω) (calls : List ω) : Options ω :=
  calls.foldl set os

theorem get?_setAll (os : Options ω) (calls : List ω) (k : String) :
    (os.setAll calls).object.get? k = os.object.latest? (calls.map Setting.entry) k := by
  have h : (os.setAll calls).object =
      (calls.map Setting.entry).foldl (fun o e => o.insert e.1 e.2) os.object := by
    induction calls generalizing os with
    | nil => rfl
    | cons call calls ih => exact ih (os.set call)
  rw [h, Object.get?_foldl_insert, Object.latest?]

theorem setAll_congr (h : Keyed.SameLast (calls.map Setting.entry) (calls'.map Setting.entry))
    (os : Options ω) : os.setAll calls = os.setAll calls' := by
  refine ext_get? fun k => ?_
  rw [get?_setAll, get?_setAll, Object.latest?, Object.latest?, h k]

theorem isEmpty_setAll (os : Options ω) :
    (os.setAll calls).isEmpty = true ↔ os.isEmpty = true ∧ calls = [] := by
  rw [isEmpty, Object.isEmpty_iff_get?, ← List.map_eq_nil_iff (f := Setting.entry)]
  exact (forall_congr' fun k => by rw [get?_setAll]).trans Object.latest?_eq_none_iff

end Options

namespace Builder

variable {β ω : Type} [Setting ω]

def setAll (b : Builder β ω) (calls : List ω) : Builder β ω :=
  calls.foldl set b

theorem setAll_eq (b : Builder β ω) (calls : List ω) :
    b.setAll calls = ⟨b.parts, b.options.setAll calls⟩ := by
  induction calls generalizing b with
  | nil => rfl
  | cons call calls ih => exact ih (b.set call)

theorem setAll_congr {calls calls' : List ω}
    (h : Keyed.SameLast (calls.map Setting.entry) (calls'.map Setting.entry))
    (b : Builder β ω) : b.setAll calls = b.setAll calls' := by
  rw [setAll_eq, setAll_eq, Options.setAll_congr h]

end Builder

/-! ## Options of any form -/

theorem Form.exists_body_setAll (f : Form) (b : f.State) (calls : List f.Opt)
    (h : f = .term → calls ≠ []) :
    ∃ body : Object, f.document (b.setAll calls) = .within (f.home b.parts) (.obj body) ∧
      ∀ k, body.get? k = ((f.own b.parts).get? k).or
        (b.options.object.latest? (calls.map Setting.entry) k) := by
  have ht (hf : f = .term) : (b.options.setAll calls).isEmpty = false :=
    eq_false_of_ne_true fun he => h hf ((Options.isEmpty_setAll _).mp he).2
  obtain ⟨body, hd, hk⟩ := f.exists_body ⟨b.parts, b.options.setAll calls⟩ ht
  refine ⟨body, by rw [Builder.setAll_eq, hd], fun k => ?_⟩
  rw [hk, Options.get?_setAll]

/-! ## The two forms of a term -/

theorem Value.within_injective {path : List String} {v w : Value}
    (h : within path v = within path w) : v = w := by
  induction path with
  | nil => exact h
  | cons k path ih =>
    have hj : Json.obj [(k, (within path v).json)] = .obj [(k, (within path w).json)] :=
      congrArg json h
    exact ih (Value.ext (by simpa using hj))

/-- No object holds itself. -/
theorem Object.obj_ne {o : Object} {k : String} {v : Value} (h : o.get? k = some v.json) :
    v ≠ .obj o := by
  rintro rfl
  have hm := List.sizeOf_lt_of_mem (Keyed.mem_of_get? h)
  simp only [Value.obj, Prod.mk.sizeOf_spec, Json.obj.sizeOf_spec] at hm
  omega

namespace Term

variable {field : String} {value : Value} {calls : List TermSetting}

theorem exists_body_setAll (h : calls ≠ []) : ∃ body : Object,
    Form.term.document (Builder.setAll (new field value) calls) =
      .within ["term", field] (.obj body) ∧
    body.get? "value" = some value.json := by
  obtain ⟨body, hd, hk⟩ := Form.term.exists_body_setAll (new field value) calls fun _ => h
  exact ⟨body, hd, by rw [hk]; rfl⟩

theorem document_eq_value_iff : Form.term.document (Builder.setAll (new field value) calls) =
    .within ["term", field] value ↔ calls = [] := by
  constructor
  · intro hs
    by_contra h
    -- the object around the value holds the value, so it is another one
    obtain ⟨body, hd, hv⟩ := exists_body_setAll h
    exact Object.obj_ne hv (Value.within_injective (hs.symm.trans hd))
  · rintro rfl
    rfl

end Term

/-! ## Calls that set -/

/-- A bool makes no more of such calls than any builder does. -/
theorem BoolClause.run_set (b : BoolClause) (calls : List BoolSetting) (l : Logger) :
    (b.run (calls.map .set)).result l = Builder.setAll b calls := by
  rw [run_result, List.foldl_map]
  rfl

namespace NestedSort

/-- What a call sets. An absent filter sets nothing. -/
def Call.setting? : Call → Option NestedSortSetting
  | filter c => c.map fun c => .filter c.document
  | maxChildren n => some (.maxChildren n)
  | nested inner => some (.nested (document inner))

theorem foldl_apply (n : NestedSort) (calls : List Call) :
    calls.foldl apply n = Builder.setAll n (calls.filterMap Call.setting?) := by
  induction calls generalizing n with
  | nil => rfl
  | cons call calls ih =>
    rw [List.foldl_cons, ih]
    cases call with
    | filter c => cases c <;> rfl
    | maxChildren | nested => rfl

end NestedSort

/-! ## Inner hits -/

namespace InnerHits

theorem run_set (h : InnerHits) (calls : List InnerHitsSetting) :
    h.run (calls.map .set) = { h with options := h.options.setAll calls } := by
  induction calls generalizing h with
  | nil => rfl
  | cons call calls ih => exact ih (h.apply (.set call))

/-- No setting writes where the query, the sort entries or the source filter stand. -/
theorem last?_settings {k : String} (hk : k ∈ ["query", "sort", "_source"])
    (calls : List InnerHitsSetting) : Keyed.last? k (calls.map Setting.entry) = none := by
  refine Keyed.last?_eq_none fun e he => ?_
  obtain ⟨o, _, rfl⟩ := List.mem_map.mp he
  rintro rfl
  cases o <;> simp [Setting.entry] at hk

theorem get?_body_run_set (h : InnerHits) (calls : List InnerHitsSetting) (k : String) :
    (h.run (calls.map .set)).body.get? k = h.body.latest? (calls.map Setting.entry) k := by
  rw [run_set, Object.latest?, get?_body, get?_body, Options.get?_setAll, Object.latest?]
  by_cases hk : k ∈ ["query", "sort", "_source"]
  · rw [last?_settings hk]
    rfl
  · simp only [List.mem_cons, List.not_mem_nil, or_false, not_or] at hk
    simp only [hk, if_false, Option.none_or]

end InnerHits

/-! ## Scripts -/

namespace Script

def run (s : Script) (calls : List Call) : Script :=
  calls.foldl apply s

namespace Call

def param? : Call → Option (String × Value)
  | param name value => some (name, value)
  | option _ _ => none

def option? : Call → Option (String × Value)
  | param _ _ => none
  | option name text => some (name, .str text)

end Call

theorem run_eq (s : Script) (calls : List Call) : s.run calls = { s with
    params := (calls.filterMap Call.param?).foldl (fun o e => o.insert e.1 e.2) s.params
    options := (calls.filterMap Call.option?).foldl (fun o e => o.insert e.1 e.2) s.options } := by
  induction calls generalizing s with
  | nil => rfl
  | cons call calls ih =>
    rw [run, List.foldl_cons, ← run, ih]
    cases call <;> rfl

theorem get?_object_lang (s : Script) :
    s.object.get? "lang" = some (Word.value s.language).json := by
  rw [object, Object.get?_insert?_ne (by decide), headAndParams, Object.get?_insert?_ne (by decide),
    head, Object.get?_insert_ne (form_key_ne s.form (by decide)).symm, Object.get?_insert_self]

theorem get?_object_text (s : Script) : s.object.get? s.form.key = some (.str s.text) := by
  rw [object, Object.get?_insert?_ne (form_key_ne s.form (by decide)), headAndParams,
    Object.get?_insert?_ne (form_key_ne s.form (by decide)), head, Object.get?_insert_self]
  rfl

theorem get?_object_params (s : Script) :
    s.object.get? "params" = (Value.obj? s.params).map (·.json) := by
  rw [object, Object.get?_insert?_ne (by decide), headAndParams, Object.get?_insert?, if_pos rfl,
    get?_head_params, Option.or_none]

theorem get?_object_options (s : Script) :
    s.object.get? "options" = (Value.obj? s.options).map (·.json) := by
  rw [object, Object.get?_insert?, if_pos rfl, get?_headAndParams_options, Option.or_none]

theorem run_congr {calls calls' : List Call}
    (hp : Keyed.SameLast (calls.filterMap Call.param?) (calls'.filterMap Call.param?))
    (ho : Keyed.SameLast (calls.filterMap Call.option?) (calls'.filterMap Call.option?))
    (s : Script) : s.run calls = s.run calls' := by
  rw [run_eq, run_eq, Object.foldl_insert_congr hp, Object.foldl_insert_congr ho]

/-- The sections hold the last values, beside what the constructor wrote. -/
theorem exists_sections_run (s : Script) (calls : List Call) :
    ∃ body params options : Object, (s.run calls).document = .obj body ∧
      body.get? "lang" = some (Word.value s.language).json ∧
      body.get? s.form.key = some (.str s.text) ∧
      body.get? "params" = (Value.obj? params).map (·.json) ∧
      body.get? "options" = (Value.obj? options).map (·.json) ∧
      (∀ k, params.get? k = s.params.latest? (calls.filterMap Call.param?) k) ∧
      ∀ k, options.get? k = s.options.latest? (calls.filterMap Call.option?) k := by
  have h := s.run_eq calls
  refine ⟨(s.run calls).object, (s.run calls).params, (s.run calls).options, rfl, ?_, ?_,
    get?_object_params _, get?_object_options _, fun k => ?_, fun k => ?_⟩
  · rw [get?_object_lang, h]
  · have ht := get?_object_text (s.run calls)
    rwa [h] at ht ⊢
  · rw [h]
    exact Object.get?_foldl_insert
  · rw [h]
    exact Object.get?_foldl_insert

end Script

/-! ## Aggregations -/

namespace Aggregation

variable {calls calls' : List Call}

/-- No setting writes where a constructor puts its parameter. -/
theorem last?_settings {k : String} (hk : k ∈ ["field", "path", "terms"]) (calls : List Call) :
    Keyed.last? k (calls.flatMap Call.settings) = none := by
  refine Keyed.last?_eq_none fun e he => ?_
  obtain ⟨call, _, he⟩ := List.mem_flatMap.mp he
  cases call with
  | set o =>
    rw [List.mem_singleton.mp he]
    rintro rfl
    cases o <;> simp [Setting.entry] at hk
  | metadata | children => cases he

theorem run_congr (hs : Keyed.SameLast (calls.flatMap Call.settings) (calls'.flatMap Call.settings))
    (hn : Keyed.SameLast (calls.flatMap Call.notes) (calls'.flatMap Call.notes))
    (hc : calls.flatMap Call.named = calls'.flatMap Call.named) (a : Aggregation) :
    a.run calls = a.run calls' := by
  rw [run_eq, run_eq, Object.foldl_insert_congr hs, Object.foldl_insert_congr hn, hc]

/-- The parameters and the metadata hold the last values, and the parameter that the constructor was
given stays. -/
theorem exists_sections_run (a : Aggregation) (calls : List Call)
    (h : a.kind ≠ "meta" ∧ a.kind ≠ "aggs") :
    ∃ node body metadata : Object, (a.run calls).document = .obj node ∧
      node.get? a.kind = some (.obj body.entries) ∧
      node.get? "meta" = (Value.obj? metadata).map (·.json) ∧
      (∀ k ∈ ["field", "path", "terms"], body.get? k = a.body.get? k) ∧
      (∀ k, body.get? k = a.body.latest? (calls.flatMap Call.settings) k) ∧
      ∀ k, metadata.get? k = a.metadata.latest? (calls.flatMap Call.notes) k := by
  have hr := a.run_eq calls
  have hk : (a.run calls).kind = a.kind := by rw [hr]
  have hb (k : String) : (a.run calls).body.get? k =
      a.body.latest? (calls.flatMap Call.settings) k := by
    rw [hr]
    exact Object.get?_foldl_insert
  have hm (k : String) : (a.run calls).metadata.get? k =
      a.metadata.latest? (calls.flatMap Call.notes) k := by
    rw [hr]
    exact Object.get?_foldl_insert
  refine ⟨(a.run calls).node, (a.run calls).body, (a.run calls).metadata, document_eq _, ?_, ?_,
    fun k hp => ?_, hb, hm⟩
  · rw [← hk]
    exact get?_node_kind (hk ▸ h)
  · exact get?_node_meta (hk ▸ h)
  · rw [hb, Object.latest?, last?_settings hp]
    rfl

/-- A kind with a constructor of its own is called like no other part, so after every run the
parameter that the constructor was given is shown. -/
theorem exists_sections_run_of_kind {kind p : String} (hk : kind ∈ Json.aggregationKinds)
    (hp : p ∈ ["field", "path", "terms"]) (v : Value) (calls : List Call) :
    ∃ node body metadata : Object,
      ((custom kind ((∅ : Object).insert p v)).run calls).document = .obj node ∧
      node.get? kind = some (.obj body.entries) ∧
      node.get? "meta" = (Value.obj? metadata).map (·.json) ∧
      body.get? p = some v.json ∧
      (∀ k, body.get? k =
        ((∅ : Object).insert p v).latest? (calls.flatMap Call.settings) k) ∧
      ∀ k, metadata.get? k = (Keyed.last? k (calls.flatMap Call.notes)).map (·.json) := by
  let a := custom kind ((∅ : Object).insert p v)
  have ha : a.kind ≠ "meta" ∧ a.kind ≠ "aggs" := kind_ne hk
  obtain ⟨node, body, metadata, hd, hnode, hmeta, hgiven, hbody, hnotes⟩ :=
    a.exists_sections_run calls ha
  refine ⟨node, body, metadata, hd, hnode, hmeta, ?_, hbody, fun k => ?_⟩
  · rw [hgiven p hp]
    exact Object.get?_insert_self
  · rw [hnotes]
    exact Option.or_none

theorem exists_sections_run_onField (kind : FieldKind) (name : String) (calls : List Call) :
    ∃ node body metadata : Object, ((onField kind name).run calls).document = .obj node ∧
      node.get? kind.name = some (.obj body.entries) ∧
      node.get? "meta" = (Value.obj? metadata).map (·.json) ∧
      body.get? kind.parameter = some (.str name) ∧
      (∀ k, body.get? k = (onField kind name).body.latest? (calls.flatMap Call.settings) k) ∧
      ∀ k, metadata.get? k = (Keyed.last? k (calls.flatMap Call.notes)).map (·.json) := by
  have hp : kind.parameter ∈ ["field", "path", "terms"] := by cases kind <;> decide
  exact exists_sections_run_of_kind (name_mem_aggregationKinds kind) hp (.str name) calls

theorem exists_sections_run_multiTerms (sources : List TermSource) (calls : List Call) :
    ∃ node body metadata : Object, ((multiTerms sources).run calls).document = .obj node ∧
      node.get? "multi_terms" = some (.obj body.entries) ∧
      node.get? "meta" = (Value.obj? metadata).map (·.json) ∧
      body.get? "terms" = some (Value.arr (sources.map TermSource.document)).json ∧
      (∀ k, body.get? k = (multiTerms sources).body.latest? (calls.flatMap Call.settings) k) ∧
      ∀ k, metadata.get? k = (Keyed.last? k (calls.flatMap Call.notes)).map (·.json) := by
  have hk : "multi_terms" ∈ Json.aggregationKinds := by decide
  exact exists_sections_run_of_kind hk (by decide) _ calls

end Aggregation

/-! ## Any builder -/

/-- Runs of settings on all builders: two that end on the same value for each key make the same
document, and the document shows the last value of each key. -/
structure LastValuesWin : Prop where
  form_congr (f : Form) (b : f.State) (calls calls' : List f.Opt) :
    Keyed.SameLast (calls.map Setting.entry) (calls'.map Setting.entry) →
    f.document (b.setAll calls) = f.document (b.setAll calls')
  /-- What the constructor was given is shown before what was set. -/
  form_shown (f : Form) (b : f.State) (calls : List f.Opt) : (f = .term → calls ≠ []) →
    ∃ body : Object, f.document (b.setAll calls) = .within (f.home b.parts) (.obj body) ∧
      ∀ k, body.get? k = ((f.own b.parts).get? k).or
        (b.options.object.latest? (calls.map Setting.entry) k)
  /-- The constructor takes the key of an option only where a field is called like the option. -/
  form_hides (f : Form) (own : f.Own) (o : f.Opt) :
    ((f.own own).get? (Setting.key o)).isSome = true ↔ f.Hides own (Setting.key o)
  term_short (field : String) (value : Value) (calls : List TermSetting) :
    Form.term.document (Builder.setAll (Term.new field value) calls) =
      .within ["term", field] value ↔ calls = []
  term_long (field : String) (value : Value) (calls : List TermSetting) : calls ≠ [] →
    ∃ body : Object, Form.term.document (Builder.setAll (Term.new field value) calls) =
      .within ["term", field] (.obj body) ∧ body.get? "value" = some value.json
  bool_run (b : BoolClause) (calls : List BoolSetting) (l : Logger) :
    (b.run (calls.map .set)).result l = Builder.setAll b calls
  nestedSort_run (n : NestedSort) (calls : List NestedSort.Call) :
    calls.foldl NestedSort.apply n = Builder.setAll n (calls.filterMap NestedSort.Call.setting?)
  innerHits_congr (h : InnerHits) (calls calls' : List InnerHitsSetting) :
    Keyed.SameLast (calls.map Setting.entry) (calls'.map Setting.entry) →
    (h.run (calls.map .set)).document = (h.run (calls'.map .set)).document
  innerHits_shown (h : InnerHits) (calls : List InnerHitsSetting) :
    ∃ body : Object, (h.run (calls.map .set)).document = .obj body ∧
      (∀ k ∈ ["query", "sort", "_source"], body.get? k = h.body.get? k) ∧
      ∀ k, body.get? k = h.body.latest? (calls.map Setting.entry) k
  script_congr (s : Script) (calls calls' : List Script.Call) :
    Keyed.SameLast (calls.filterMap Script.Call.param?) (calls'.filterMap Script.Call.param?) →
    Keyed.SameLast (calls.filterMap Script.Call.option?) (calls'.filterMap Script.Call.option?) →
    (s.run calls).document = (s.run calls').document
  script_shown (s : Script) (calls : List Script.Call) :
    ∃ body params options : Object, (s.run calls).document = .obj body ∧
      body.get? "lang" = some (Word.value s.language).json ∧
      body.get? s.form.key = some (.str s.text) ∧
      body.get? "params" = (Value.obj? params).map (·.json) ∧
      body.get? "options" = (Value.obj? options).map (·.json) ∧
      (∀ k, params.get? k = s.params.latest? (calls.filterMap Script.Call.param?) k) ∧
      ∀ k, options.get? k = s.options.latest? (calls.filterMap Script.Call.option?) k
  aggregation_congr (a : Aggregation) (calls calls' : List Aggregation.Call) :
    Keyed.SameLast (calls.flatMap Aggregation.Call.settings)
      (calls'.flatMap Aggregation.Call.settings) →
    Keyed.SameLast (calls.flatMap Aggregation.Call.notes)
      (calls'.flatMap Aggregation.Call.notes) →
    calls.flatMap Aggregation.Call.named = calls'.flatMap Aggregation.Call.named →
    (a.run calls).document = (a.run calls').document
  aggregation_shown (a : Aggregation) (calls : List Aggregation.Call) :
    a.kind ≠ "meta" ∧ a.kind ≠ "aggs" →
    ∃ node body metadata : Object, (a.run calls).document = .obj node ∧
      node.get? a.kind = some (.obj body.entries) ∧
      node.get? "meta" = (Value.obj? metadata).map (·.json) ∧
      (∀ k ∈ ["field", "path", "terms"], body.get? k = a.body.get? k) ∧
      (∀ k, body.get? k = a.body.latest? (calls.flatMap Aggregation.Call.settings) k) ∧
      ∀ k, metadata.get? k = a.metadata.latest? (calls.flatMap Aggregation.Call.notes) k

/-- On every builder the last value of each key wins, and what the constructor was given stays; only
a field of several terms takes the place of an option that is called like it. A term shows its value
alone exactly if nothing was set on it. -/
theorem last_value_wins : LastValuesWin where
  form_congr f b calls calls' hs := by rw [Builder.setAll_congr hs]
  form_shown := Form.exists_body_setAll
  form_hides := Form.hides_iff
  term_short _ _ _ := Term.document_eq_value_iff
  term_long _ _ _ := Term.exists_body_setAll
  bool_run := BoolClause.run_set
  nestedSort_run := NestedSort.foldl_apply
  innerHits_congr h calls calls' hs := by
    rw [InnerHits.run_set, InnerHits.run_set, Options.setAll_congr hs]
  innerHits_shown h calls := by
    refine ⟨_, InnerHits.document_eq_body _, fun k hk => ?_, h.get?_body_run_set calls⟩
    rw [InnerHits.get?_body_run_set, Object.latest?, InnerHits.last?_settings hk]
    rfl
  script_congr s calls calls' hp ho := by rw [Script.run_congr hp ho]
  script_shown := Script.exists_sections_run
  aggregation_congr a calls calls' hs hn hc := by rw [Aggregation.run_congr hs hn hc]
  aggregation_shown := Aggregation.exists_sections_run

end SearchRequest
