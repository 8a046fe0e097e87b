import Mathlib.Data.Option.Basic
import SearchRequest.Proofs.Assembly
import SearchRequest.Proofs.Envelopes
import SearchRequest.Proofs.Leaves

/-! # The form of a request

What a request looks like, as predicates on JSON trees that do not mention the builders. Clauses hold
clauses, and aggregations hold aggregations, to any depth.
-/

namespace SearchRequest

namespace Json

inductive IsString : Json → Prop
  | str {s : String} : IsString (str s)

/-- A list of strings, at least one. -/
inductive IsStrings : Json → Prop
  | arr {xs : List Json} (nonempty : xs ≠ []) (strings : ∀ x ∈ xs, IsString x) :
      IsStrings (arr xs)

/-- Any fields, at least one. -/
inductive IsInhabited : Json → Prop
  | obj {es : List (String × Json)} (nonempty : es ≠ []) : IsInhabited (obj es)

mutual

/-- An object under the name of a kind. Only three kinds hold clauses. -/
inductive IsClause : Json → Prop
  | leaf {kind : String} {body : List (String × Json)} (known : kind ∈ Leaf.kinds) :
      IsClause (obj [(kind, obj body)])
  | bool {body : List (String × Json)}
      (slots : ∀ k ∈ ["must", "should", "must_not", "filter"], ∀ x ∈ Keyed.get? k body,
        IsClauses x) :
      IsClause (obj [("bool", obj body)])
  | nested {body : List (String × Json)} {path : String} {query : Json}
      (hasPath : Keyed.get? "path" body = some (str path))
      (hasQuery : Keyed.get? "query" body = some query) (inner : IsQuery query) :
      IsClause (obj [("nested", obj body)])
  | constantScore {body : List (String × Json)}
      (filter : ∀ x ∈ Keyed.get? "filter" body, IsClause x) :
      IsClause (obj [("constant_score", obj body)])

/-- A list of clauses, at least one. -/
inductive IsClauses : Json → Prop
  | arr {xs : List Json} (nonempty : xs ≠ []) (clauses : ∀ x ∈ xs, IsClause x) :
      IsClauses (arr xs)

/-- A clause, or the empty object in its place. -/
inductive IsQuery : Json → Prop
  | empty : IsQuery (obj [])
  | clause {x : Json} (h : IsClause x) : IsQuery x

end

inductive IsSortEntry : Json → Prop
  | obj {field : String} {body : List (String × Json)} : IsSortEntry (obj [(field, obj body)])

inductive IsSorts : Json → Prop
  | arr {xs : List Json} (nonempty : xs ≠ []) (entries : ∀ x ∈ xs, IsSortEntry x) :
      IsSorts (arr xs)

inductive IsSource : Json → Prop
  | disabled : IsSource (bool false)
  | fields {es : List (String × Json)}
      (lists : ∀ e ∈ es, e.1 ∈ ["includes", "excludes"] ∧ IsStrings e.2) : IsSource (obj es)

/-- The kinds of aggregations that have a constructor. -/
def aggregationKinds : List String :=
  ["terms", "multi_terms", "nested", "avg", "min", "max", "sum", "stats", "extended_stats",
    "cardinality"]

mutual

/-- An object under the name of one kind, beside metadata and children. -/
inductive IsNode : Json → Prop
  | obj {es : List (String × Json)} {kind : String} {body : List (String × Json)}
      (distinct : Keyed.Ascending es) (known : kind ∈ aggregationKinds)
      (hasKind : (kind, obj body) ∈ es) (keys : ∀ e ∈ es, e.1 ∈ [kind, "meta", "aggs"])
      (metadata : ∀ x ∈ Keyed.get? "meta" es, IsInhabited x)
      (children : ∀ x ∈ Keyed.get? "aggs" es, IsNodes x) : IsNode (obj es)

/-- Nodes under their names, at least one. -/
inductive IsNodes : Json → Prop
  | obj {es : List (String × Json)} (nonempty : es ≠ []) (nodes : ∀ e ∈ es, IsNode e.2) :
      IsNodes (obj es)

end

inductive IsRequest : Json → Prop
  | obj {es : List (String × Json)}
      (keys : ∀ e ∈ es, e.1 ∈ ["query", "from", "size", "sort", "_source", "track_total_hits",
        "aggs"])
      (query : ∀ x ∈ Keyed.get? "query" es, IsQuery x)
      (sort : ∀ x ∈ Keyed.get? "sort" es, IsSorts x)
      (source : ∀ x ∈ Keyed.get? "_source" es, IsSource x)
      (aggs : ∀ x ∈ Keyed.get? "aggs" es, IsNodes x) : IsRequest (obj es)

end Json

open Json

/-! ## Entries of objects and lists -/

namespace Object

variable {o : Object} {k : String} {e : String × Json}

theorem mem_insert? {v : Option Value} (h : e ∈ (o.insert? k v).entries) :
    (e.1 = k ∧ e.2 ∈ v.map (·.json)) ∨ e ∈ o.entries := by
  cases v with
  | none => exact .inr h
  | some v =>
    rcases Keyed.mem_of_mem_insert h with rfl | h
    · exact .inl ⟨rfl, rfl⟩
    · exact .inr h

theorem fst_mem_of_get? {keys : List String} (h : ∀ k ∉ keys, o.get? k = none)
    (he : e ∈ o.entries) : e.1 ∈ keys := by
  by_contra hk
  have hn := h e.1 hk
  rw [get?, Keyed.get?_of_mem o.keys he] at hn
  cases hn

end Object

/-- A list that is written only if it has items is a list of at least one. -/
theorem forall_mem_arr {α : Type} {P Q : Json → Prop} {f : α → Json} {as : List α}
    (arr : ∀ {xs : List Json}, xs ≠ [] → (∀ x ∈ xs, P x) → Q (.arr xs)) (h : ∀ a ∈ as, P (f a)) :
    ∀ x ∈ (if as = [] then none else some (Json.arr (as.map f))), Q x := by
  intro x hx
  split at hx
  · cases hx
  · next hne =>
    cases hx
    exact arr (fun hn => hne (List.map_eq_nil_iff.mp hn)) (List.forall_mem_map.mpr h)

theorem Value.isStrings_of_mem {ss : List String} {x : Json}
    (h : x ∈ (arr? (ss.map str)).map (·.json)) : IsStrings x := by
  rw [map_arr?] at h
  exact forall_mem_arr .arr (fun s _ => .str) x h

theorem Value.isInhabited_of_mem {o : Object} {x : Json} (h : x ∈ (obj? o).map (·.json)) :
    IsInhabited x := by
  obtain ⟨es, _, _⟩ := o
  cases es with
  | nil => cases h
  | cons e es =>
    cases h
    exact .obj (List.cons_ne_nil e es)

/-! ## Parts without clauses -/

theorem SortEntry.isSortEntry (s : SortEntry) : IsSortEntry s.document.json :=
  .obj

theorem SourceFilter.isSource (f : SourceFilter) : IsSource f.document.json := by
  cases f with
  | disabled => exact .disabled
  | fields includes excludes =>
    refine .fields fun e he => ?_
    rcases Object.mem_insert? he with ⟨hk, hx⟩ | he
    · exact ⟨by simp [hk], Value.isStrings_of_mem hx⟩
    · rcases Object.mem_insert? he with ⟨hk, hx⟩ | he
      · exact ⟨by simp [hk], Value.isStrings_of_mem hx⟩
      · cases he

/-! ## Aggregations -/

namespace Aggregation

/-- Assembled without a kind of its own. -/
inductive Standard : Aggregation → Prop
  | onField {kind : FieldKind} {name : String} : Standard (onField kind name)
  | multiTerms {sources : List TermSource} : Standard (multiTerms sources)
  | set {a : Aggregation} {s : AggregationSetting} : Standard a → Standard (a.apply (.set s))
  | metadata {a : Aggregation} {k : String} {v : Value} : Standard a →
      Standard (a.apply (.metadata k v))
  | children {a : Aggregation} {named : List (String × Aggregation)} : Standard a →
      (∀ c ∈ named, Standard c.2) → Standard (a.apply (.children named))

variable {a : Aggregation} {children : List (String × Aggregation)}

theorem mem_childObject {e : String × Json} (h : e ∈ (childObject children).entries) :
    ∃ c ∈ children, e = (c.1, c.2.document.json) := by
  induction children with
  | nil =>
    rw [childObject] at h
    cases h
  | cons c children ih =>
    rw [childObject] at h
    rcases Keyed.mem_of_mem_insert h with rfl | h
    · exact ⟨c, List.mem_cons_self, rfl⟩
    · obtain ⟨d, hd, rfl⟩ := ih h
      exact ⟨d, List.mem_cons_of_mem c hd, rfl⟩

theorem isNodes {x : Json} (hc : ∀ c ∈ children, IsNode c.2.document.json)
    (h : x ∈ (Value.obj? (childObject children)).map (·.json)) : IsNodes x := by
  rw [obj?_childObject] at h
  split at h
  · cases h
  · next hne =>
    cases h
    refine .obj ?_ fun e he => ?_
    · cases children with
      | nil => exact absurd rfl hne
      | cons c children =>
        rw [childObject]
        exact Keyed.insert_ne_nil
    · obtain ⟨c, hm, rfl⟩ := mem_childObject he
      exact hc c hm

/-- The entries of the document: the kind, and the other parts where there are any. -/
def node (a : Aggregation) : Object :=
  (((∅ : Object).insert a.kind (.obj a.body)).insert? "meta" (Value.obj? a.metadata)).insert?
    "aggs" (Value.obj? (childObject a.children))

theorem document_eq (a : Aggregation) : a.document = .obj a.node := by
  obtain ⟨kind, body, metadata, children⟩ := a
  rw [document]
  rfl

theorem fst_mem_of_mem_node {e : String × Json} (h : e ∈ a.node.entries) :
    e.1 ∈ [a.kind, "meta", "aggs"] := by
  rcases Object.mem_insert? h with ⟨hk, _⟩ | h
  · simp [hk]
  · rcases Object.mem_insert? h with ⟨hk, _⟩ | h
    · simp [hk]
    · rcases Keyed.mem_of_mem_insert h with rfl | h
      · simp
      · cases h

theorem get?_node_kind (h : a.kind ≠ "meta" ∧ a.kind ≠ "aggs") :
    a.node.get? a.kind = some (.obj a.body.entries) := by
  rw [node, Object.get?_insert?_ne h.2, Object.get?_insert?_ne h.1, Object.get?_insert_self]
  rfl

theorem get?_node_meta (h : a.kind ≠ "meta" ∧ a.kind ≠ "aggs") :
    a.node.get? "meta" = (Value.obj? a.metadata).map (·.json) := by
  rw [node, Object.get?_insert?_ne (by decide), Object.get?_insert?, if_pos rfl,
    Object.get?_insert_ne h.1.symm, Object.get?_empty, Option.or_none]

theorem get?_node_aggs (h : a.kind ≠ "meta" ∧ a.kind ≠ "aggs") :
    a.node.get? "aggs" = (Value.obj? (childObject a.children)).map (·.json) := by
  rw [node, Object.get?_insert?, if_pos rfl, Object.get?_insert?_ne (by decide),
    Object.get?_insert_ne h.2.symm, Object.get?_empty, Option.or_none]

/-- No kind with a constructor is called like the metadata or the children. -/
theorem kind_ne (h : a.kind ∈ aggregationKinds) : a.kind ≠ "meta" ∧ a.kind ≠ "aggs" := by
  constructor <;> refine ne_of_mem_of_not_mem h ?_ <;> decide

theorem isNode (h : a.kind ∈ aggregationKinds) (hc : ∀ c ∈ a.children, IsNode c.2.document.json) :
    IsNode a.document.json := by
  have hk := kind_ne h
  rw [document_eq]
  refine .obj a.node.keys h (Keyed.mem_of_get? (get?_node_kind hk)) (fun e => fst_mem_of_mem_node)
    (fun x hx => ?_) (fun x hx => ?_)
  · rw [← Object.get?, get?_node_meta hk] at hx
    exact Value.isInhabited_of_mem hx
  · rw [← Object.get?, get?_node_aggs hk] at hx
    exact isNodes hc hx

theorem name_mem_aggregationKinds (kind : FieldKind) : kind.name ∈ aggregationKinds := by
  cases kind <;> decide

theorem Standard.sections (h : a.Standard) :
    a.kind ∈ aggregationKinds ∧ ∀ c ∈ a.children, IsNode c.2.document.json := by
  induction h with
  | onField => exact ⟨name_mem_aggregationKinds _, nofun⟩
  | multiTerms => exact ⟨show "multi_terms" ∈ aggregationKinds by decide, nofun⟩
  | set _ ih => exact ih
  | metadata _ ih => exact ih
  | children _ _ ih ihn =>
    refine ⟨ih.1, forall_mem_attach ih.2 fun c hc => ?_⟩
    obtain ⟨hk, hcc⟩ := ihn c hc
    exact isNode hk hcc

theorem Standard.isNode (h : a.Standard) : IsNode a.document.json :=
  Aggregation.isNode h.sections.1 h.sections.2

end Aggregation

/-! ## Clauses -/

theorem Leaf.isClause (l : Leaf) : IsClause l.document.json :=
  .leaf l.kind_mem

theorem Clause.isQuery_empty : IsQuery Clause.empty.document.json := by
  rw [document_empty]
  exact .empty

namespace Clause

theorem isClause_bool {b : BoolClause}
    (h : ∀ slot, ∀ c ∈ b.parts.get slot, IsClause c.document.json) :
    IsClause (bool b).document.json := by
  have slot (s : Slot) : ∀ x ∈ b.body.get? s.key, IsClauses x := by
    rw [BoolClause.get?_body_slot]
    exact forall_mem_arr .arr (h s)
  rw [document_bool]
  refine .bool fun k hk => ?_
  obtain ⟨s, rfl⟩ : ∃ s : Slot, k = s.key := by
    simp only [List.mem_cons, List.not_mem_nil, or_false] at hk
    obtain rfl | rfl | rfl | rfl := hk
    · exact ⟨.must, rfl⟩
    · exact ⟨.should, rfl⟩
    · exact ⟨.mustNot, rfl⟩
    · exact ⟨.filter, rfl⟩
  exact slot s

theorem isClause_nested {n : NestedClause} (h : IsQuery n.parts.query.document.json) :
    IsClause (nested n).document.json := by
  rw [document_nested]
  exact .nested (NestedClause.get?_body_path n) (NestedClause.get?_body_query n) h

theorem isClause_constantScore {s : ConstantScore} (h : ∀ c ∈ s.parts, IsClause c.document.json) :
    IsClause (constantScore s).document.json := by
  rw [document_constantScore]
  refine .constantScore ?_
  rw [← Object.get?, body, ConstantScore.get?_body_filter]
  exact Option.forall_mem_map.mpr h

end Clause

theorem Envelope.isRequest {e : Envelope} (hq : ∀ c ∈ e.query, IsQuery c.document.json)
    (ha : ∀ a ∈ e.aggs, IsNode a.2.document.json) : IsRequest e.document.json := by
  refine .obj (fun f => Object.fst_mem_of_get? fun k => e.get?_body_eq_none) ?_ ?_ ?_ ?_
  · rw [← Object.get?, get?_body_query]
    exact Option.forall_mem_map.mpr hq
  · rw [← Object.get?, get?_body_sort]
    exact forall_mem_arr .arr fun s _ => s.isSortEntry
  · rw [← Object.get?, get?_body_source]
    exact Option.forall_mem_map.mpr fun f _ => f.isSource
  · rw [← Object.get?, get?_body_aggs, ← Aggregation.obj?_childObject]
    exact fun x => Aggregation.isNodes ha

end SearchRequest
