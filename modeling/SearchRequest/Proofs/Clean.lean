import SearchRequest.Proofs.Assembly
import SearchRequest.Proofs.Clauses
import SearchRequest.Proofs.Expression
import SearchRequest.Proofs.Verdict

/-! # Requests without nulls

No builder writes a null of its own accord: every part of a request that is assembled from values
that can be sent, and from finite doubles, can be sent.
-/

namespace SearchRequest

open CleanSetting Logged

variable {p q : Part} {l : Logger}

/-! ## What is passed in -/

def ConditionalLeaf.Clean : ConditionalLeaf → Prop
  | termIf _ value _ | termWith _ value _ => value.Sendable
  | termsIf _ values _ | termsWith _ values _ => ∀ v ∈ values, v.Sendable
  | arrayWith _ values _ => ∀ v ∈ values, v.Sendable
  | presenceIf _ _ | presenceWith _ _ => True

def Origin.Clean : Origin p → Prop
  | leaf l => l.Assembled
  | conditional c => c.Clean
  | raw v => v.Sendable
  | aggs named => ∀ a ∈ named, a.2.Assembled
  | _ => True

def Change.Clean : Change p → Prop
  | bool s => CleanSetting.Clean s
  | boost b => b.Finite
  | constantScore s => CleanSetting.Clean s
  | innerHits s => CleanSetting.Clean s
  | aggs named => ∀ a ∈ named, a.2.Assembled
  | _ => True

/-- No value, raw clause or body that is passed in holds a null, and every double is finite. -/
def Expression.Clean : {p : Part} → Expression p → Prop
  | _, origin o => o.Clean
  | _, change c e => c.Clean ∧ e.Clean
  | _, hold _ e => e.Clean
  | _, join _ e arg => e.Clean ∧ arg.Clean

/-! ## What is built -/

def Clause.Sendable (c : Clause) : Prop :=
  c.document.Sendable

def SortEntry.Sendable (s : SortEntry) : Prop :=
  s.options.object.Sendable

/-- Nothing that the builder holds is or holds a null. -/
def Part.Sendable : (p : Part) → p.State → Prop
  | offer, o => ∀ c ∈ o.clause?, c.Sendable
  | offers, os => ∀ o ∈ os, ∀ c ∈ o.clause?, c.Sendable
  | bool, b => (∀ slot, ∀ c ∈ b.parts.get slot, c.Sendable) ∧ b.options.object.Sendable
  | nested, n => n.parts.query.Sendable ∧ n.options.object.Sendable
  | constantScore, c => (∀ d ∈ c.parts, d.Sendable) ∧ c.options.object.Sendable
  | innerHits, h => (∀ v ∈ h.query, v.Sendable) ∧ (∀ s ∈ h.sorts, s.Sendable) ∧
      h.options.object.Sendable
  | nestedSort, n => n.options.object.Sendable
  | sort, s => s.Sendable
  | sorts, ss => ∀ s ∈ ss, s.Sendable
  | envelope, e => (∀ c ∈ e.query, c.Sendable) ∧ (∀ s ∈ e.sorts, s.Sendable) ∧
      ∀ a ∈ e.aggs, a.2.document.Sendable

theorem sendable_leaf {x : Leaf} (h : x.Assembled) : (Clause.leaf x).Sendable := by
  rw [Clause.Sendable, Clause.document]
  exact h.sendable_document

theorem sendable_raw {v : Value} (h : v.Sendable) : (Clause.raw v).Sendable := by
  rw [Clause.Sendable, Clause.document]
  exact h

theorem sendable_emptyClause : Clause.empty.Sendable :=
  sendable_raw (Value.sendable_obj.mpr Object.sendable_empty)

theorem SortEntry.Sendable.document {s : SortEntry} (h : s.Sendable) : s.document.Sendable :=
  Value.sendable_entry (Value.sendable_obj.mpr h)

theorem sendable_sorts {ss : List SortEntry} (h : ∀ s ∈ ss, s.Sendable) :
    ∀ v ∈ Value.arr? (ss.map SortEntry.document), v.Sendable :=
  Value.sendable_arr? (Value.sendable_map fun s hs => (h s hs).document)

theorem sendable_source (f : Option SourceFilter) :
    ∀ v ∈ f.map SourceFilter.document, v.Sendable :=
  Value.sendable_map? fun f _ => f.sendable_document

theorem NestedSort.sendable_document {n : NestedSort} (h : n.options.object.Sendable) :
    n.document.Sendable :=
  Value.sendable_obj.mpr (h.insert (Value.sendable_str _))

theorem InnerHits.sendable_document {h : InnerHits} (hs : Part.innerHits.Sendable h) :
    h.document.Sendable := by
  obtain ⟨hq, hss, ho⟩ := hs
  refine Value.sendable_obj.mpr ?_
  refine Object.Sendable.insert? ?_ (sendable_source h.source)
  refine Object.Sendable.insert? ?_ (sendable_sorts hss)
  exact ho.insert? hq

theorem BoolOf.sendable_body {b : BoolOf Value}
    (h : ∀ slot, ∀ v ∈ b.parts.get slot, v.Sendable) (ho : b.options.object.Sendable) :
    b.body.Sendable := by
  have slot (s : Slot) : ∀ v ∈ Value.arr? (b.parts.get s), v.Sendable := Value.sendable_arr? (h s)
  refine Object.Sendable.insert? ?_ (slot .filter)
  refine Object.Sendable.insert? ?_ (slot .mustNot)
  refine Object.Sendable.insert? ?_ (slot .should)
  exact ho.insert? (slot .must)

theorem Kind.sendable_clause (k : Kind p) {s : p.State} (h : p.Sendable s) :
    (k.clause s).Sendable := by
  cases k with
  | bool =>
    obtain ⟨⟨must, should, mustNot, filter⟩, options⟩ := s
    obtain ⟨hs, ho⟩ := h
    rw [Kind.clause, Clause.Sendable, Clause.document]
    refine Value.sendable_entry (Value.sendable_obj.mpr ?_)
    refine BoolOf.sendable_body (fun slot v hv => ?_) ho
    obtain ⟨c, hc, rfl⟩ : ∃ c ∈ Slots.get ⟨must, should, mustNot, filter⟩ slot, c.document = v := by
      cases slot <;> simpa [Slots.get, Clause.documents_eq] using hv
    exact hs slot c hc
  | nested =>
    obtain ⟨⟨path, query⟩, options⟩ := s
    rw [Kind.clause, Clause.Sendable, Clause.document]
    exact Value.sendable_entry (Value.sendable_obj.mpr
      ((h.2.insert (Value.sendable_str path)).insert h.1))
  | constantScore =>
    obtain ⟨filter, options⟩ := s
    rw [Kind.clause, Clause.Sendable, Clause.document, Clause.document?_eq]
    exact Value.sendable_entry (Value.sendable_obj.mpr (h.2.insert? (Value.sendable_map? h.1)))

namespace Envelope

theorem sendable_document {e : Envelope} (h : Part.envelope.Sendable e) : e.document.Sendable := by
  obtain ⟨hq, hs, ha⟩ := h
  have query : ∀ v ∈ e.query.map Clause.document, v.Sendable := Value.sendable_map? hq
  have number (n : Option UInt64) : ∀ v ∈ n.map Value.uint64, v.Sendable :=
    Value.sendable_map? fun n _ => Value.sendable_uint64 n
  have track : ∀ v ∈ e.trackTotalHits.map Value.bool, v.Sendable :=
    Value.sendable_map? fun b _ => Value.sendable_bool b
  have children := Value.sendable_obj? (Aggregation.sendable_childObject ha)
  have hb : e.body.Sendable := by
    refine Object.Sendable.insert? ?_ children
    refine Object.Sendable.insert? ?_ track
    refine Object.Sendable.insert? ?_ (sendable_source e.source)
    refine Object.Sendable.insert? ?_ (sendable_sorts hs)
    refine Object.Sendable.insert? ?_ (number e.size)
    refine Object.Sendable.insert? ?_ (number e.offset)
    exact Object.sendable_empty.insert? query
  exact Value.sendable_obj.mpr hb

end Envelope

/-! ## One step -/

theorem ConditionalLeaf.assembled {c : ConditionalLeaf} (h : c.Clean) : c.leaf.Assembled := by
  cases c with
  | arrayWith field values predicate => exact .new fun v hv => h v (Array.mem_toList_iff.mp hv)
  | presenceIf field condition => exact .new trivial
  | presenceWith field predicate => exact .new trivial
  | _ => exact .new h

theorem Origin.sendable (o : Origin p) (h : o.Clean) : p.Sendable o.run := by
  cases o with
  | absent => simp [Part.Sendable, run, Offer.clause?]
  | leaf x => simpa [Part.Sendable, run, Offer.clause?] using sendable_leaf h
  | conditional c =>
    simp only [Part.Sendable, run, Offer.clause?_optional_leaf, c.leaf?_eq]
    split
    · exact forall_mem_none
    · intro d hd
      cases hd
      exact sendable_leaf (ConditionalLeaf.assembled h)
  | raw v => simpa [Part.Sendable, run, Offer.clause?] using sendable_raw h
  | noOffers => exact List.forall_mem_nil _
  | bool => exact ⟨fun slot => by cases slot <;> exact List.forall_mem_nil _, Object.sendable_empty⟩
  | innerHits => exact ⟨forall_mem_none, List.forall_mem_nil _, Object.sendable_empty⟩
  | nestedSort path => exact Object.sendable_empty
  | sort field => exact Object.sendable_empty
  | sortWithMode field order mode =>
    exact (Object.sendable_empty.insert (Value.sendable_word order)).insert
      (Value.sendable_word mode)
  | noSorts => exact List.forall_mem_nil _
  | envelope => exact ⟨forall_mem_none, List.forall_mem_nil _, List.forall_mem_nil _⟩
  | aggs named =>
    refine ⟨forall_mem_none, List.forall_mem_nil _, ?_⟩
    exact Aggregation.forall_mem_attach (List.forall_mem_nil _)
      fun a ha => (h a ha).sendable_document

theorem Change.sendable (c : Change p) (h : c.Clean) {s : p.State} (hs : p.Sendable s) :
    p.Sendable (c.run s) := by
  cases c with
  | bool s => exact ⟨hs.1, hs.2.insert (CleanSetting.sendable h)⟩
  | scoreMode m => exact ⟨hs.1, hs.2.insert (Value.sendable_word m)⟩
  | ignoreUnmapped b => exact ⟨hs.1, hs.2.insert (Value.sendable_bool b)⟩
  | boost b => exact ⟨hs.1, hs.2.insert (Value.sendable_double.mpr h)⟩
  | constantScore s => exact ⟨hs.1, hs.2.insert (CleanSetting.sendable h)⟩
  | innerHits s =>
    obtain ⟨hq, hss, ho⟩ := hs
    exact ⟨hq, hss, ho.insert (CleanSetting.sendable h)⟩
  | innerSource c => cases c <;> exact hs
  | maxChildren n => exact Object.Sendable.insert hs (Value.sendable_uint32 n)
  | order o => exact Object.Sendable.insert hs (Value.sendable_word o)
  | mode m => exact Object.Sendable.insert hs (Value.sendable_word m)
  | offset n => exact hs
  | size n => exact hs
  | source c => cases c <;> exact hs
  | trackTotalHits b => exact hs
  | aggs named =>
    obtain ⟨hq, hss, has⟩ := hs
    refine ⟨hq, hss, ?_⟩
    exact Aggregation.forall_mem_attach has fun a ha => (h a ha).sendable_document

theorem getD_sendable {c : Option Clause} (h : ∀ d ∈ c, d.Sendable) :
    (c.getD .empty).Sendable := by
  cases c with
  | none => exact sendable_emptyClause
  | some c => exact h c rfl

theorem Holder.sendable (x : Holder p q) {s : p.State} (hs : p.Sendable s) :
    q.Sendable (x.run s) := by
  cases x with
  | some | keptIf | keptWith | converted => exact fun c hc => hs c (mem_clause?_run _ hc)
  | building k =>
    intro c hc
    rw [Offer.mem_clause?_building hc]
    exact k.sendable_clause hs
  | finished k =>
    intro c hc
    rw [run, Offer.clause?] at hc
    cases hc
    exact k.sendable_clause hs
  | nested path => exact ⟨getD_sendable hs, Object.sendable_empty⟩
  | constantScore => exact ⟨hs, Object.sendable_empty⟩
  | envelope =>
    refine ⟨fun c hc => ?_, List.forall_mem_nil _, List.forall_mem_nil _⟩
    cases hc
    exact getD_sendable hs

theorem forall_mem_concat {α : Type} {P : α → Prop} {as : List α} {a : α} (h : ∀ b ∈ as, P b)
    (ha : P a) : ∀ b ∈ as ++ [a], P b :=
  List.forall_mem_append.mpr ⟨h, List.forall_mem_singleton.mpr ha⟩

/-- A setter that takes a part keeps it, keeps its document, or drops it. -/
theorem Joint.sendable (j : Joint p q) {s : p.State} {a : q.State} (hs : p.Sendable s)
    (ha : q.Sendable a) : p.Sendable ((j.run s a).result l) := by
  cases j with
  | offer => exact forall_mem_concat hs ha
  | add slot =>
    rw [run, BoolClause.apply, BoolClause.add_result]
    exact ⟨Slots.forall_get_pushes hs.1 fun c hc => ha c (Option.mem_toList.mp hc), hs.2⟩
  | addAll slot =>
    rw [run, BoolClause.apply, BoolClause.addAll_result]
    refine ⟨Slots.forall_get_pushes hs.1 fun c hc => ?_, hs.2⟩
    rw [List.filterMap_map] at hc
    obtain ⟨o, ho, hc⟩ := List.mem_filterMap.mp hc
    exact ha o ho c hc
  | innerHits => exact ⟨hs.1, hs.2.insert (InnerHits.sendable_document ha)⟩
  | innerQuery =>
    rw [run, result_pure]
    cases hc : Offer.clause? a with
    | none => exact hs
    | some c =>
      refine ⟨fun v hv => ?_, hs.2⟩
      cases hv
      exact ha c hc
  | innerSort =>
    obtain ⟨hq, hss, ho⟩ := hs
    exact ⟨hq, forall_mem_concat hss ha, ho⟩
  | filter =>
    rw [run, result_pure]
    cases hc : Offer.clause? a with
    | none => exact hs
    | some c => exact Object.Sendable.insert hs (ha c hc)
  | deeper => exact Object.Sendable.insert hs (NestedSort.sendable_document ha)
  | context => exact Object.Sendable.insert hs (NestedSort.sendable_document ha)
  | entry => exact forall_mem_concat hs ha
  | query =>
    rw [run, result_pure]
    cases hc : Offer.clause? a with
    | none => exact hs
    | some c =>
      refine ⟨fun d hd => ?_, hs.2⟩
      cases hd
      exact ha c hc
  | sort =>
    obtain ⟨hq, hss, has⟩ := hs
    exact ⟨hq, forall_mem_concat hss ha, has⟩
  | sortAll =>
    obtain ⟨hq, hss, has⟩ := hs
    exact ⟨hq, List.forall_mem_append.mpr ⟨hss, ha⟩, has⟩

/-! ## Whole requests -/

namespace Expression

/-- By induction on the expression: each constructor and setter keeps nulls out. -/
theorem Clean.sendable {e : Expression p} (h : e.Clean) : p.Sendable e.value := by
  induction e with
  | origin o => exact o.sendable h
  | change c e ih => exact c.sendable h.1 (ih h.2)
  | hold x e ih => exact x.sendable (ih h)
  | join j e arg ihe iha =>
    rw [value_join]
    exact j.sendable (ihe h.1) (iha h.2)

/-- A request assembled from what can be sent is encoded under every configuration. -/
theorem encode_of_clean {e : Expression .envelope} (h : e.Clean) (l : Logger) :
    ¬ (Envelope.document (e.eval.result l)).json.HoldsNull ∧
    ∀ (config : EncoderConfig) (l' : Logger), ∃ text,
      (Envelope.encode (e.eval.result l) config).result l' = .ok text := by
  have hs : (Envelope.document (e.eval.result l)).Sendable := by
    rw [eval_result]
    exact Envelope.sendable_document h.sendable
  have hp : (Envelope.document (e.eval.result l)).nullPath? = none :=
    (Value.nullPath?_eq_none_iff _).mpr hs
  constructor
  · exact hs
  · intro config l'
    exact ⟨_, Envelope.encode_accepted hp config l'⟩

/-- A term with a score, after a constant score around nothing. -/
def scoredTerm : Expression .envelope :=
  let nothing := hold (.building .constantScore) (hold .constantScore (origin .absent))
  let term := (Builder.of ⟨"a", .str "b"⟩).set (.boost (.finite ⟨false, 0, by decide⟩))
  hold .envelope (hold (.building .bool) (join (.add .must)
    (join (.add .must) (origin .bool) nothing) (origin (.leaf (.term term)))))

theorem encode_of_clean_scoredTerm : scoredTerm.Clean ∧
    ∃ text, (Envelope.encode (scoredTerm.eval.result {}) {}).result {} = .ok text := by
  have h : scoredTerm.Clean :=
    ⟨⟨trivial, trivial⟩, .set (.new (Value.sendable_str "b")) ⟨_, rfl⟩⟩
  exact ⟨h, (encode_of_clean h {}).2 {} {}⟩

end Expression

end SearchRequest
