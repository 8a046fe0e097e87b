import SearchRequest.Proofs.Expression
import SearchRequest.Proofs.RequestForm

/-! # Requests of the right form

A request has the right form if its caller writes no clause and no aggregation by hand. Every builder
on the way holds clauses that have it, and an empty one only where a clause has to stand.
-/

namespace SearchRequest

open Json Logged

variable {p q : Part} {l : Logger}

/-! ## What is passed in -/

def Origin.Standard : Origin p → Prop
  | raw _ => False
  | aggs named => ∀ a ∈ named, a.2.Standard
  | _ => True

def Change.Standard : Change p → Prop
  | aggs named => ∀ a ∈ named, a.2.Standard
  | _ => True

/-- No raw clause and no aggregation of a custom kind is passed in. -/
def Expression.Standard : {p : Part} → Expression p → Prop
  | _, origin o => o.Standard
  | _, change c e => c.Standard ∧ e.Standard
  | _, hold _ e => e.Standard
  | _, join _ e arg => e.Standard ∧ arg.Standard

/-! ## What is built -/

def Clause.Conforms (c : Clause) : Prop :=
  IsClause c.document.json

/-- Everything that the builder holds has the form that its document needs. -/
def Part.Conforms : (p : Part) → p.State → Prop
  | offer, o => ∀ c ∈ o.clause?, c.Conforms
  | offers, os => ∀ o ∈ os, ∀ c ∈ o.clause?, c.Conforms
  | bool, b => ∀ slot, ∀ c ∈ b.parts.get slot, c.Conforms
  | nested, n => IsQuery n.parts.query.document.json
  | constantScore, s => ∀ c ∈ s.parts, c.Conforms
  | envelope, e => (∀ c ∈ e.query, IsQuery c.document.json) ∧ ∀ a ∈ e.aggs, IsNode a.2.document.json
  | innerHits, _ | nestedSort, _ | sort, _ | sorts, _ => True

theorem Kind.conforms_clause (k : Kind p) {s : p.State} (h : p.Conforms s) :
    (k.clause s).Conforms := by
  cases k with
  | bool => exact Clause.isClause_bool h
  | nested => exact Clause.isClause_nested h
  | constantScore => exact Clause.isClause_constantScore h

/-- Where a clause has to stand, the empty one takes the place of an absent one. -/
theorem isQuery_getD {c : Option Clause} (h : ∀ d ∈ c, d.Conforms) :
    IsQuery (c.getD .empty).document.json := by
  cases c with
  | none => exact Clause.isQuery_empty
  | some c => exact .clause (h c rfl)

/-! ## One step -/

theorem Origin.conforms (o : Origin p) (h : o.Standard) : p.Conforms o.run := by
  cases o with
  | absent => exact nofun
  | leaf x =>
    intro c hc
    cases hc
    exact x.isClause
  | conditional c =>
    intro d hd
    rw [run, Offer.clause?_optional_leaf] at hd
    obtain ⟨x, _, rfl⟩ := Option.map_eq_some_iff.mp hd
    exact x.isClause
  | raw v => exact h.elim
  | noOffers => exact List.forall_mem_nil _
  | bool => exact fun slot => by cases slot <;> exact List.forall_mem_nil _
  | envelope => exact ⟨nofun, List.forall_mem_nil _⟩
  | aggs named =>
    refine ⟨nofun, ?_⟩
    exact Aggregation.forall_mem_attach (List.forall_mem_nil _) fun a ha => (h a ha).isNode
  | innerHits | nestedSort | sort | sortWithMode | noSorts => trivial

theorem Change.conforms (c : Change p) (h : c.Standard) {s : p.State} (hs : p.Conforms s) :
    p.Conforms (c.run s) := by
  cases c with
  | bool | scoreMode | ignoreUnmapped | boost | constantScore => exact hs
  | offset | size | trackTotalHits => exact hs
  | source c => cases c <;> exact hs
  | aggs named =>
    refine ⟨hs.1, ?_⟩
    exact Aggregation.forall_mem_attach hs.2 fun a ha => (h a ha).isNode
  | innerHits | innerSource | maxChildren | order | mode => trivial

theorem Holder.conforms (x : Holder p q) {s : p.State} (hs : p.Conforms s) :
    q.Conforms (x.run s) := by
  cases x with
  | some | keptIf | keptWith | converted => exact fun c hc => hs c (mem_clause?_run _ hc)
  | building k =>
    intro c hc
    rw [Offer.mem_clause?_building hc]
    exact k.conforms_clause hs
  | finished k =>
    intro c hc
    rw [run, Offer.clause?] at hc
    cases hc
    exact k.conforms_clause hs
  | nested path => exact isQuery_getD hs
  | constantScore => exact hs
  | envelope =>
    refine ⟨fun c hc => ?_, List.forall_mem_nil _⟩
    cases hc
    exact isQuery_getD hs

theorem Joint.conforms (j : Joint p q) {s : p.State} {a : q.State} (hs : p.Conforms s)
    (ha : q.Conforms a) : p.Conforms ((j.run s a).result l) := by
  cases j with
  | offer => exact List.forall_mem_append.mpr ⟨hs, List.forall_mem_singleton.mpr ha⟩
  | add slot =>
    rw [run, BoolClause.apply, BoolClause.add_result]
    exact Slots.forall_get_pushes hs fun c hc => ha c (Option.mem_toList.mp hc)
  | addAll slot =>
    rw [run, BoolClause.apply, BoolClause.addAll_result]
    refine Slots.forall_get_pushes hs fun c hc => ?_
    rw [List.filterMap_map] at hc
    obtain ⟨o, ho, hc⟩ := List.mem_filterMap.mp hc
    exact ha o ho c hc
  | query =>
    rw [run, result_pure]
    cases hc : Offer.clause? a with
    | none => exact hs
    | some c =>
      refine ⟨fun d hd => ?_, hs.2⟩
      cases hd
      exact .clause (ha c hc)
  | innerHits | sort | sortAll => exact hs
  | innerQuery | innerSort | filter | deeper | context | entry => trivial

/-! ## Whole requests -/

namespace Expression

/-- By induction on the expression: each constructor and setter keeps the form. -/
theorem Standard.conforms {e : Expression p} (h : e.Standard) : p.Conforms e.value := by
  induction e with
  | origin o => exact o.conforms h
  | change c e ih => exact c.conforms h.1 (ih h.2)
  | hold x e ih => exact x.conforms (ih h)
  | join j e arg ihe iha =>
    rw [value_join]
    exact j.conforms (ihe h.1) (iha h.2)

/-- A request without handwritten parts has the form of a request, in all its clauses, sort entries
and aggregations. -/
theorem document_isRequest {e : Expression .envelope} (h : e.Standard) (l : Logger) :
    IsRequest (Envelope.document (e.eval.result l)).json := by
  rw [eval_result]
  exact Envelope.isRequest h.conforms.1 h.conforms.2

/-- A sorted request for a nested clause over nothing, with one aggregation in another. -/
def sortedRequest : Expression .envelope :=
  let nothing := hold (.building .nested) (hold (.nested "p") (origin .absent))
  let query := hold (.building .bool) (join (.add .must) (origin .bool) nothing)
  let terms := (Aggregation.onField .terms "a").apply
    (.children [("highest", .onField .max "b")])
  change (.aggs [("values", terms)]) (join .sort (hold .envelope query) (origin (.sort "a")))

theorem document_isRequest_sortedRequest : sortedRequest.Standard ∧
    IsRequest (Envelope.document (sortedRequest.eval.result {})).json := by
  have h : sortedRequest.Standard := by
    refine ⟨?_, ⟨trivial, trivial⟩, trivial⟩
    exact List.forall_mem_singleton.mpr
      (.children .onField (List.forall_mem_singleton.mpr .onField))
  exact ⟨h, document_isRequest h {}⟩

end Expression

end SearchRequest
