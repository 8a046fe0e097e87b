import SearchRequest.Proofs.Absence
import SearchRequest.Proofs.RequestForm

/-! # Constant scores and their filters

A constant score without a filter is absent wherever a clause may be left out, unless its caller
finished it as a clause before it was handed over. If no caller does so, every constant score in a
document has a filter, wherever clauses stand in the document.
-/

namespace SearchRequest

open Json Logged

variable {p q : Part} {l : Logger}

/-! ## Where clauses stand -/

/-- The objects of a request in which clauses stand. -/
inductive Place | clause | innerHits | nestedSort | sort | request

namespace Json

/-- One tree is a part of another, and is or may hold clauses. What a caller passes in as a value is
no such part. -/
inductive Inside : Place → Json → Place → Json → Prop
  | slot (slot : Slot) {body : List (String × Json)} {xs : List Json} {x : Json} :
      Keyed.get? slot.key body = some (arr xs) → x ∈ xs →
      Inside .clause x .clause (obj [("bool", obj body)])
  | inner {body : List (String × Json)} {x : Json} : Keyed.get? "query" body = some x →
      Inside .clause x .clause (obj [("nested", obj body)])
  | innerHits {body : List (String × Json)} {x : Json} : Keyed.get? "inner_hits" body = some x →
      Inside .innerHits x .clause (obj [("nested", obj body)])
  | filter {body : List (String × Json)} {x : Json} : Keyed.get? "filter" body = some x →
      Inside .clause x .clause (obj [("constant_score", obj body)])
  | hitsQuery {es : List (String × Json)} {x : Json} : Keyed.get? "query" es = some x →
      Inside .clause x .innerHits (obj es)
  | hitsSort {es : List (String × Json)} {xs : List Json} {x : Json} :
      Keyed.get? "sort" es = some (arr xs) → x ∈ xs → Inside .sort x .innerHits (obj es)
  | context {field : String} {body : List (String × Json)} {x : Json} :
      Keyed.get? "nested" body = some x → Inside .nestedSort x .sort (obj [(field, obj body)])
  | sortFilter {es : List (String × Json)} {x : Json} : Keyed.get? "filter" es = some x →
      Inside .clause x .nestedSort (obj es)
  | deeper {es : List (String × Json)} {x : Json} : Keyed.get? "nested" es = some x →
      Inside .nestedSort x .nestedSort (obj es)
  | query {es : List (String × Json)} {x : Json} : Keyed.get? "query" es = some x →
      Inside .clause x .request (obj es)
  | sort {es : List (String × Json)} {xs : List Json} {x : Json} :
      Keyed.get? "sort" es = some (arr xs) → x ∈ xs → Inside .sort x .request (obj es)

/-- The clause stands in the tree, at any depth. -/
inductive Stands (c : Json) : Place → Json → Prop
  | here : Stands c .clause c
  | inside {p q : Place} {x y : Json} : Inside q y p x → Stands c q y → Stands c p x

/-- Every constant score in the tree has a filter. -/
def Filtered (p : Place) (x : Json) : Prop :=
  ∀ body, Stands (obj [("constant_score", obj body)]) p x → ∃ y, Keyed.get? "filter" body = some y

variable {x : Json} {k : String} {body es : List (String × Json)}

theorem Filtered.of_inside {p : Place}
    (hx : ∀ body, p = .clause → x = obj [("constant_score", obj body)] →
      ∃ y, Keyed.get? "filter" body = some y)
    (hi : ∀ q y, Inside q y p x → Filtered q y) : Filtered p x := by
  intro body h
  cases h with
  | here => exact hx body rfl rfl
  | inside hin h => exact hi _ _ hin body h

/-- A clause of a kind that holds no clauses. -/
theorem filtered_leaf (h : k ∉ ["bool", "nested", "constant_score"]) :
    Filtered .clause (obj [(k, obj body)]) := by
  refine .of_inside ?_ ?_
  · rintro body' - hk
    cases hk
    simp at h
  · intro q y hi
    cases hi <;> simp at h

theorem filtered_empty : Filtered .clause (obj []) :=
  .of_inside (fun _ _ => nofun) fun _ _ => nofun

theorem filtered_bool
    (h : ∀ (slot : Slot) (xs : List Json), Keyed.get? slot.key body = some (arr xs) →
      ∀ x ∈ xs, Filtered .clause x) :
    Filtered .clause (obj [("bool", obj body)]) := by
  refine .of_inside ?_ ?_
  · rintro body' - hk
    simp at hk
  · intro q y hi
    generalize hb : obj [("bool", obj body)] = x at hi
    cases hi with
    | slot _ hs hy =>
      simp at hb
      subst hb
      exact h _ _ hs _ hy
    | _ => simp at hb

theorem filtered_nested (hq : ∀ x ∈ Keyed.get? "query" body, Filtered .clause x)
    (hh : ∀ x ∈ Keyed.get? "inner_hits" body, Filtered .innerHits x) :
    Filtered .clause (obj [("nested", obj body)]) := by
  refine .of_inside ?_ ?_
  · rintro body' - hk
    simp at hk
  · intro q y hi
    generalize hb : obj [("nested", obj body)] = x at hi
    cases hi with
    | inner hy =>
      simp at hb
      subst hb
      exact hq _ hy
    | innerHits hy =>
      simp at hb
      subst hb
      exact hh _ hy
    | _ => simp at hb

theorem filtered_constantScore (hx : Keyed.get? "filter" body = some x)
    (h : Filtered .clause x) : Filtered .clause (obj [("constant_score", obj body)]) := by
  refine .of_inside ?_ ?_
  · rintro body' - hk
    cases hk
    exact ⟨x, hx⟩
  · intro q y hi
    generalize hb : obj [("constant_score", obj body)] = z at hi
    cases hi with
    | filter hy =>
      simp at hb
      subst hb
      cases hx.symm.trans hy
      exact h
    | _ => simp at hb

theorem filtered_innerHits (hq : ∀ x ∈ Keyed.get? "query" es, Filtered .clause x)
    (hs : ∀ xs, Keyed.get? "sort" es = some (arr xs) → ∀ x ∈ xs, Filtered .sort x) :
    Filtered .innerHits (obj es) := by
  refine .of_inside (fun _ => nofun) fun q y hi => ?_
  cases hi with
  | hitsQuery hy => exact hq _ hy
  | hitsSort hs' hy => exact hs _ hs' _ hy

theorem filtered_nestedSort (hf : ∀ x ∈ Keyed.get? "filter" es, Filtered .clause x)
    (hn : ∀ x ∈ Keyed.get? "nested" es, Filtered .nestedSort x) :
    Filtered .nestedSort (obj es) := by
  refine .of_inside (fun _ => nofun) fun q y hi => ?_
  cases hi with
  | sortFilter hy => exact hf _ hy
  | deeper hy => exact hn _ hy

theorem filtered_sort (h : ∀ x ∈ Keyed.get? "nested" body, Filtered .nestedSort x) :
    Filtered .sort (obj [(k, obj body)]) := by
  refine .of_inside (fun _ => nofun) fun q y hi => ?_
  cases hi with
  | context hy => exact h _ hy

theorem filtered_request (hq : ∀ x ∈ Keyed.get? "query" es, Filtered .clause x)
    (hs : ∀ xs, Keyed.get? "sort" es = some (arr xs) → ∀ x ∈ xs, Filtered .sort x) :
    Filtered .request (obj es) := by
  refine .of_inside (fun _ => nofun) fun q y hi => ?_
  cases hi with
  | query hy => exact hq _ hy
  | sort hs' hy => exact hs _ hs' _ hy

end Json

/-! ## What is built -/

def Clause.Filtered (c : Clause) : Prop :=
  Json.Filtered .clause c.document.json

def SortEntry.Filtered (s : SortEntry) : Prop :=
  Json.Filtered .sort s.document.json

/-- All constant scores in what the builder holds have filters. -/
def Part.Filtered : (p : Part) → p.State → Prop
  | offer, o => ∀ c ∈ o.clause?, c.Filtered
  | offers, os => ∀ o ∈ os, ∀ c ∈ o.clause?, c.Filtered
  | bool, b => ∀ slot, ∀ c ∈ b.parts.get slot, c.Filtered
  | nested, n => n.parts.query.Filtered ∧
      ∀ x ∈ n.options.object.get? "inner_hits", Json.Filtered .innerHits x
  | constantScore, s => ∀ c ∈ s.parts, c.Filtered
  | innerHits, h => (∀ v ∈ h.query, Json.Filtered .clause v.json) ∧ ∀ s ∈ h.sorts, s.Filtered
  | nestedSort, n => (∀ x ∈ n.options.object.get? "filter", Json.Filtered .clause x) ∧
      ∀ x ∈ n.options.object.get? "nested", Json.Filtered .nestedSort x
  | sort, s => ∀ x ∈ s.options.object.get? "nested", Json.Filtered .nestedSort x
  | sorts, ss => ∀ s ∈ ss, s.Filtered
  | envelope, e => (∀ c ∈ e.query, c.Filtered) ∧ ∀ s ∈ e.sorts, s.Filtered

theorem Leaf.filtered (l : Leaf) : (Clause.leaf l).Filtered := by
  rw [Clause.Filtered, Clause.document_leaf]
  refine filtered_leaf fun hk => ?_
  have h : ∀ k ∈ ["bool", "nested", "constant_score"], k ∉ Leaf.kinds := by decide
  exact h _ hk l.kind_mem

theorem Clause.filtered_empty : Clause.empty.Filtered := by
  rw [Clause.Filtered, document_empty]
  exact Json.filtered_empty

theorem filtered_getD {c : Option Clause} (h : ∀ d ∈ c, d.Filtered) : (c.getD .empty).Filtered := by
  cases c with
  | none => exact Clause.filtered_empty
  | some c => exact h c rfl

/-- A list that is written only if it has items. -/
theorem forall_mem_of_eq_arr {α : Type} {P : Json → Prop} {f : α → Json} {as : List α}
    {xs : List Json} (hxs : (if as = [] then none else some (arr (as.map f))) = some (arr xs))
    (h : ∀ a ∈ as, P (f a)) : ∀ x ∈ xs, P x := by
  split at hxs
  · cases hxs
  · cases hxs
    exact List.forall_mem_map.mpr h

theorem Clause.filtered_bool {b : BoolClause} (h : Part.bool.Filtered b) :
    (Clause.bool b).Filtered := by
  rw [Clause.Filtered, document_bool]
  refine Json.filtered_bool fun slot xs hxs => ?_
  rw [← Object.get?, body, BoolClause.get?_body_slot] at hxs
  exact forall_mem_of_eq_arr hxs (h slot)

theorem Clause.filtered_nested {n : NestedClause} (h : Part.nested.Filtered n) :
    (Clause.nested n).Filtered := by
  rw [Clause.Filtered, document_nested]
  refine Json.filtered_nested (fun x hx => ?_) (fun x hx => ?_)
  · rw [← Object.get?, body, NestedClause.get?_body_query] at hx
    cases hx
    exact h.1
  · rw [← Object.get?, body, NestedClause.get?_body_of_ne n (by decide) (by decide)] at hx
    exact h.2 x hx

theorem Clause.filtered_constantScore {s : ConstantScore} {c : Clause} (hc : s.parts = some c)
    (h : c.Filtered) : (Clause.constantScore s).Filtered := by
  rw [Clause.Filtered, document_constantScore]
  refine Json.filtered_constantScore (x := c.document.json) ?_ h
  rw [← Object.get?, body, ConstantScore.get?_body_filter, hc, Option.map_some]

theorem SortEntry.filtered {s : SortEntry} (h : Part.sort.Filtered s) : s.Filtered :=
  filtered_sort h

theorem NestedSort.filtered {n : NestedSort} (h : Part.nestedSort.Filtered n) :
    Json.Filtered .nestedSort (NestedSort.document n).json := by
  refine filtered_nestedSort (fun x hx => ?_) (fun x hx => ?_)
  · rw [← Object.get?, Builder.optionsWith, Object.get?_insert_ne (by decide)] at hx
    exact h.1 x hx
  · rw [← Object.get?, Builder.optionsWith, Object.get?_insert_ne (by decide)] at hx
    exact h.2 x hx

/-- No setting of inner hits writes a clause or sort entries. -/
theorem InnerHits.filtered {h : InnerHits} (hf : Part.innerHits.Filtered h) :
    Json.Filtered .innerHits h.document.json := by
  have free {k : String} (hk : k ∈ ["query", "sort"]) : h.options.object.get? k = none := by
    refine h.options.get?_eq_none fun o => ?_
    rintro rfl
    cases o <;> simp [Setting.key, Setting.entry] at hk
  refine filtered_innerHits (fun x hx => ?_) (fun xs hxs => ?_)
  · rw [← Object.get?, Object.get?_insert?_ne (by decide), Object.get?_insert?_ne (by decide),
      Object.get?_insert?, if_pos rfl, free (by decide), Option.or_none] at hx
    obtain ⟨v, hv, rfl⟩ := Option.map_eq_some_iff.mp hx
    exact hf.1 v hv
  · rw [← Object.get?, Object.get?_insert?_ne (by decide), Object.get?_insert?, if_pos rfl,
      Object.get?_insert?_ne (by decide), free (by decide), Option.or_none, Value.map_arr?] at hxs
    exact forall_mem_of_eq_arr hxs hf.2

theorem Envelope.filtered {e : Envelope} (h : Part.envelope.Filtered e) :
    Json.Filtered .request e.document.json := by
  refine filtered_request (fun x hx => ?_) (fun xs hxs => ?_)
  · rw [← Object.get?, get?_body_query] at hx
    obtain ⟨c, hc, rfl⟩ := Option.map_eq_some_iff.mp hx
    exact h.1 c hc
  · rw [← Object.get?, get?_body_sort] at hxs
    exact forall_mem_of_eq_arr hxs h.2

/-! ## One step -/

/-- An option holds what was set last under its key, or what it held before. -/
theorem Options.forall_get?_set {ω : Type} [Setting ω] {os : Options ω} {o : ω} {k : String}
    {P : Json → Prop} (h : ∀ x ∈ os.object.get? k, P x)
    (ho : Setting.key o = k → P (Setting.value o).json) : ∀ x ∈ (os.set o).object.get? k, P x := by
  intro x hx
  rw [set, Object.get?_insert] at hx
  split at hx
  · next hk =>
    cases hx
    exact ho hk.symm
  · exact h x hx

/-- No raw clause is passed in, and no constant score is finished before it has a filter. -/
def Expression.Settled : {p : Part} → Expression p → Prop
  | _, origin (.raw _) => False
  | _, origin _ => True
  | _, change _ e => e.Settled
  | _, hold (.finished .constantScore) e => e.isAbsent = false ∧ e.Settled
  | _, hold _ e => e.Settled
  | _, join _ e arg => e.Settled ∧ arg.Settled

theorem Kind.filtered_clause (k : Kind p) {s : p.State} (h : p.Filtered s) (hs : ¬ p.Absent s) :
    (k.clause s).Filtered := by
  cases k with
  | bool => exact Clause.filtered_bool h
  | nested => exact Clause.filtered_nested h
  | constantScore =>
    obtain ⟨c, hc⟩ := Option.ne_none_iff_exists'.mp hs
    exact Clause.filtered_constantScore hc (h c hc)

theorem Kind.clause?_building_iff (k : Kind p) (s : p.State) :
    (Offer.building (k.clause s)).clause? = some (k.clause s) ↔ ¬ p.Absent s := by
  cases k with
  | bool => exact iff_of_true (by simp [clause, Offer.clause?]) id
  | nested => exact iff_of_true (by simp [clause, Offer.clause?]) id
  | constantScore =>
    obtain ⟨_ | c, options⟩ := s
    · simp [clause, Offer.clause?, Part.Absent]
    · simp [clause, Offer.clause?, Part.Absent]

theorem Origin.filtered (o : Origin p) (h : (Expression.origin o).Settled) : p.Filtered o.run := by
  cases o with
  | absent => exact forall_mem_none
  | leaf x =>
    intro c hc
    cases hc
    exact x.filtered
  | conditional c =>
    intro d hd
    rw [run, Offer.clause?_optional_leaf] at hd
    obtain ⟨x, _, rfl⟩ := Option.map_eq_some_iff.mp hd
    exact x.filtered
  | raw v => exact h.elim
  | noOffers => exact List.forall_mem_nil _
  | bool => exact fun slot => by cases slot <;> exact List.forall_mem_nil _
  | innerHits => exact ⟨forall_mem_none, List.forall_mem_nil _⟩
  | nestedSort => exact ⟨forall_mem_none, forall_mem_none⟩
  | sort => exact forall_mem_none
  | sortWithMode field order mode =>
    refine Options.forall_get?_set (Options.forall_get?_set forall_mem_none fun hk => ?_) fun hk => ?_
    · simp [Setting.key, Setting.entry] at hk
    · simp [Setting.key, Setting.entry] at hk
  | noSorts => exact List.forall_mem_nil _
  | envelope => exact ⟨forall_mem_none, List.forall_mem_nil _⟩
  | aggs named => exact ⟨forall_mem_none, List.forall_mem_nil _⟩

theorem Change.filtered (c : Change p) {s : p.State} (h : p.Filtered s) : p.Filtered (c.run s) := by
  cases c with
  | bool | constantScore | innerHits => exact h
  | offset | size | trackTotalHits | aggs => exact h
  | source c => cases c <;> exact h
  | innerSource c => cases c <;> exact h
  | scoreMode | ignoreUnmapped | boost =>
    refine ⟨h.1, Options.forall_get?_set h.2 fun hk => ?_⟩
    simp [Setting.key, Setting.entry] at hk
  | maxChildren n =>
    refine ⟨Options.forall_get?_set h.1 fun hk => ?_, Options.forall_get?_set h.2 fun hk => ?_⟩
    · simp [Setting.key, Setting.entry] at hk
    · simp [Setting.key, Setting.entry] at hk
  | order | mode =>
    refine Options.forall_get?_set h fun hk => ?_
    simp [Setting.key, Setting.entry] at hk

theorem Holder.filtered (x : Holder p q) {e : Expression p} (hx : (Expression.hold x e).Settled)
    (h : p.Filtered e.value) : q.Filtered (x.run e.value) := by
  cases x with
  | some | keptIf | keptWith | converted => exact fun c hc => h c (mem_clause?_run _ hc)
  | building k =>
    intro c hc
    obtain rfl := Offer.mem_clause?_building hc
    exact k.filtered_clause h ((k.clause?_building_iff _).mp hc)
  | finished k =>
    intro c hc
    rw [run, Offer.clause?] at hc
    cases hc
    refine k.filtered_clause h ?_
    cases k with
    | bool => exact id
    | nested => exact id
    | constantScore =>
      rw [← Expression.isAbsent_iff, hx.1]
      exact Bool.false_ne_true
  | nested path => exact ⟨filtered_getD h, forall_mem_none⟩
  | constantScore => exact h
  | envelope =>
    refine ⟨fun c hc => ?_, List.forall_mem_nil _⟩
    cases hc
    exact filtered_getD h

theorem Joint.filtered (j : Joint p q) {s : p.State} {a : q.State} (hs : p.Filtered s)
    (ha : q.Filtered a) : p.Filtered ((j.run s a).result l) := by
  cases j with
  | offer => exact List.forall_mem_append.mpr ⟨hs, List.forall_mem_singleton.mpr ha⟩
  | add slot =>
    rw [run, BoolClause.apply, BoolClause.add_result]
    exact Slots.forall_get_pushes hs fun c hc => ha c (Option.mem_toList.mp hc)
  | addAll slot =>
    rw [run, BoolClause.apply, BoolClause.addAll_result]
    refine Slots.forall_get_pushes hs fun c hc => ?_
    rw [List.filterMap_map] at hc
    obtain ⟨o, ho, hc⟩ := List.mem_filterMap.mp hc
    exact ha o ho c hc
  | innerHits => exact ⟨hs.1, Options.forall_get?_set hs.2 fun _ => InnerHits.filtered ha⟩
  | innerQuery =>
    rw [run, result_pure]
    cases hc : Offer.clause? a with
    | none => exact hs
    | some c =>
      refine ⟨fun v hv => ?_, hs.2⟩
      cases hv
      exact ha c hc
  | innerSort =>
    exact ⟨hs.1, List.forall_mem_append.mpr
      ⟨hs.2, List.forall_mem_singleton.mpr (SortEntry.filtered ha)⟩⟩
  | filter =>
    rw [run, result_pure]
    cases hc : Offer.clause? a with
    | none => exact hs
    | some c =>
      refine ⟨Options.forall_get?_set hs.1 fun _ => ha c hc, Options.forall_get?_set hs.2 fun hk => ?_⟩
      simp [Setting.key, Setting.entry] at hk
  | deeper =>
    refine ⟨Options.forall_get?_set hs.1 fun hk => ?_,
      Options.forall_get?_set hs.2 fun _ => NestedSort.filtered ha⟩
    simp [Setting.key, Setting.entry] at hk
  | context => exact Options.forall_get?_set hs fun _ => NestedSort.filtered ha
  | entry =>
    exact List.forall_mem_append.mpr ⟨hs, List.forall_mem_singleton.mpr (SortEntry.filtered ha)⟩
  | query =>
    rw [run, result_pure]
    cases hc : Offer.clause? a with
    | none => exact hs
    | some c =>
      refine ⟨fun d hd => ?_, hs.2⟩
      cases hd
      exact ha c hc
  | sort =>
    exact ⟨hs.1, List.forall_mem_append.mpr
      ⟨hs.2, List.forall_mem_singleton.mpr (SortEntry.filtered ha)⟩⟩
  | sortAll => exact ⟨hs.1, List.forall_mem_append.mpr ⟨hs.2, ha⟩⟩

/-! ## Whole expressions -/

namespace Expression

theorem Settled.of_hold {x : Holder p q} {e : Expression p} (h : (hold x e).Settled) :
    e.Settled := by
  cases x with
  | finished k =>
    cases k with
    | constantScore => exact h.2
    | bool | nested => exact h
  | _ => exact h

/-- By induction on the expression: what each constructor and setter takes has filters, and so has
what it makes. -/
theorem Settled.filtered {e : Expression p} (h : e.Settled) : p.Filtered e.value := by
  induction e with
  | origin o => exact o.filtered h
  | change c e ih => exact c.filtered (ih h)
  | hold x e ih => exact x.filtered h (ih h.of_hold)
  | join j e arg ihe iha =>
    rw [value_join]
    exact j.filtered (ihe h.1) (iha h.2)

/-- A finished clause is always there, so handing it over agrees with handing over its builder only
where the builder is not absent. -/
theorem clause?_building_eq_finished_iff (k : Kind p) (e : Expression p) :
    (hold (.building k) e).value.clause? = (hold (.finished k) e).value.clause? ↔
      e.isAbsent = false := by
  have hf : (hold (.finished k) e).value.clause? = some (k.clause e.value) := by
    rw [value_hold, Holder.run, Offer.clause?]
  rw [hf, value_hold, Holder.run, k.clause?_building_iff, ← isAbsent_iff, Bool.not_eq_true]

/-- A builder and the clause finished from it are the same where a clause is taken exactly if the
builder is not absent. Where no raw clause is passed in and no absent constant score is finished,
every constant score has a filter, in each clause handed over and wherever clauses stand in a
request. -/
theorem constantScores_have_filters (k : Kind p) (b : Expression p) (c : Expression .offer)
    (e : Expression .envelope) (l : Logger) :
    (((hold (.building k) b).eval.result l).clause? =
      ((hold (.finished k) b).eval.result l).clause? ↔ b.isAbsent = false) ∧
    (c.Settled → ∀ d ∈ (c.eval.result l).clause?, Json.Filtered .clause d.document.json) ∧
    (e.Settled → Json.Filtered .request (Envelope.document (e.eval.result l)).json) := by
  refine ⟨?_, ?_, ?_⟩
  · rw [eval_result, eval_result]
    exact clause?_building_eq_finished_iff k b
  · intro h d hd
    rw [eval_result] at hd
    exact h.filtered d hd
  · intro h
    rw [eval_result]
    exact Envelope.filtered h.filtered

/-- A constant score with a filter, finished before it is handed over. -/
def finishedScore : Expression .offer :=
  hold (.finished .constantScore) (hold .constantScore (origin (.leaf (.presence (.new "a")))))

/-- A constant score around nothing, which is dropped, beside one with a filter. -/
def requestWithScore : Expression .envelope :=
  let nothing := hold (.building .constantScore) (hold .constantScore (origin .absent))
  hold .envelope (hold (.building .bool)
    (join (.add .filter) (join (.add .must) (origin .bool) nothing) finishedScore))

theorem constantScores_have_filters_finishedScore :
    finishedScore.Settled ∧ requestWithScore.Settled ∧
    Stands (obj [("constant_score", obj [("filter", obj [("exists", obj [("field", str "a")])])])])
      .request (Envelope.document (requestWithScore.eval.result {})).json ∧
    (∀ c ∈ (finishedScore.eval.result {}).clause?, Json.Filtered .clause c.document.json) ∧
    Json.Filtered .request (Envelope.document (requestWithScore.eval.result {})).json := by
  have hc : finishedScore.Settled := ⟨rfl, trivial⟩
  have he : requestWithScore.Settled := ⟨⟨trivial, trivial⟩, hc⟩
  obtain ⟨-, filtered, filteredRequest⟩ := constantScores_have_filters .constantScore
    (hold .constantScore (origin .absent)) finishedScore requestWithScore {}
  refine ⟨hc, he, ?_, filtered hc, filteredRequest he⟩
  exact .inside (.query rfl) (.inside (.slot .filter rfl (.head _)) .here)

/-- A constant score around nothing, finished and then required by a request. -/
def finishedNothing : Expression .envelope :=
  hold .envelope (hold (.finished .constantScore) (hold .constantScore (origin .absent)))

theorem not_filtered_finishedNothing :
    ¬ Json.Filtered .request (Envelope.document (finishedNothing.eval.result {})).json := by
  intro h
  obtain ⟨x, hx⟩ := h [] (.inside (.query rfl) .here)
  cases hx

end Expression

end SearchRequest
