import SearchRequest.Proofs.Absence
import SearchRequest.Proofs.Verdict

/-! # Clauses in contexts

A builder makes nothing of a clause but its document, whether it keeps the clause or renders it at
once. So a clause may be replaced by another with the same document in any context, and in
particular by the raw clause of its document.
-/

namespace SearchRequest

open Logged

variable {p q : Part} {l l' : Logger}

/-! ## Builders that show the same -/

/-- The same builder but for the clauses in it, which have the same documents. -/
def Part.Alike : (p : Part) → p.State → p.State → Prop
  | offer, o, o' => o.clause?.map Clause.document = o'.clause?.map Clause.document
  | offers, os, os' => (os.filterMap Offer.clause?).map Clause.document =
      (os'.filterMap Offer.clause?).map Clause.document
  | bool, b, b' => b.parts.map Clause.document = b'.parts.map Clause.document ∧
      b.options = b'.options
  | nested, n, n' => n.parts.path = n'.parts.path ∧
      n.parts.query.document = n'.parts.query.document ∧ n.options = n'.options
  | constantScore, s, s' => s.parts.map Clause.document = s'.parts.map Clause.document ∧
      s.options = s'.options
  | envelope, e, e' => ∃ query, e' = { e with query } ∧
      e.query.map Clause.document = query.map Clause.document
  | _, s, s' => s = s'

/-- A clause is absent on both sides or on neither. -/
theorem clause_cases {c c' : Option Clause} (h : c.map Clause.document = c'.map Clause.document) :
    c = none ∧ c' = none ∨ ∃ d d', c = some d ∧ c' = some d' ∧ d.document = d'.document := by
  cases c <;> cases c' <;> simp_all

theorem getD_document {c c' : Option Clause} (h : c.map Clause.document = c'.map Clause.document) :
    (c.getD .empty).document = (c'.getD .empty).document := by
  obtain ⟨rfl, rfl⟩ | ⟨d, d', rfl, rfl, hd⟩ := clause_cases h
  · rfl
  · exact hd

theorem Slots.map_pushes {α β : Type} (f : α → β) (s : Slots α) (slot : Slot) (as : List α) :
    (as.foldl (·.push slot ·) s).map f = (as.map f).foldl (·.push slot ·) (s.map f) := by
  refine ext_get fun other => ?_
  rw [get_map, get_pushes, get_pushes, get_map, List.map_append]
  split <;> rfl

namespace Part.Alike

theorem refl (s : p.State) : p.Alike s s := by
  cases p with
  | bool | constantScore => exact ⟨rfl, rfl⟩
  | nested => exact ⟨rfl, rfl, rfl⟩
  | envelope => exact ⟨_, rfl, rfl⟩
  | _ => exact rfl

/-! ### Documents -/

theorem document_bool {b b' : BoolClause} (h : bool.Alike b b') :
    (Clause.bool b).document = (Clause.bool b').document := by
  rw [Clause.document_bool, Clause.document_bool, Clause.body, Clause.body, BoolClause.body,
    BoolClause.body, h.1, h.2]
  rfl

theorem document_nested {n n' : NestedClause} (h : nested.Alike n n') :
    (Clause.nested n).document = (Clause.nested n').document := by
  obtain ⟨hpath, hquery, ho⟩ := h
  rw [Clause.document_nested, Clause.document_nested, Clause.body, Clause.body, NestedClause.body,
    NestedClause.body, hpath, hquery, ho]
  rfl

theorem document_constantScore {s s' : ConstantScore} (h : constantScore.Alike s s') :
    (Clause.constantScore s).document = (Clause.constantScore s').document := by
  rw [Clause.document_constantScore, Clause.document_constantScore, Clause.body, Clause.body,
    ConstantScore.body, ConstantScore.body, h.1, h.2]
  rfl

theorem document_envelope {e e' : Envelope} (h : envelope.Alike e e') :
    e.document = e'.document := by
  obtain ⟨query, rfl, hq⟩ := h
  rw [Envelope.document, Envelope.document, Envelope.body, Envelope.body, hq]

theorem documents {s s' : p.State} (h : p.Alike s s') : p.documents s = p.documents s' := by
  cases p with
  | offer =>
    obtain ⟨hs, hs'⟩ | ⟨d, d', hs, hs', hd⟩ := clause_cases h
    · simp only [Part.documents, hs, hs']
    · simp only [Part.documents, hs, hs', Option.toList_some, List.map_cons, hd, List.map_nil]
  | offers => exact h
  | bool => exact congrArg ([·]) (document_bool h)
  | nested => exact congrArg ([·]) (document_nested h)
  | constantScore => exact congrArg ([·]) (document_constantScore h)
  | envelope => exact congrArg ([·]) (document_envelope h)
  | innerHits | nestedSort | sort | sorts => exact congrArg _ h

theorem document_clause {s s' : p.State} (k : Kind p) (h : p.Alike s s') :
    (k.clause s).document = (k.clause s').document := by
  cases k with
  | bool => exact document_bool h
  | nested => exact document_nested h
  | constantScore => exact document_constantScore h

/-! ### One step -/

theorem set {n n' : NestedClause} (o : NestedSetting) (h : nested.Alike n n') :
    nested.Alike (Builder.set n o) (Builder.set n' o) := by
  obtain ⟨hpath, hquery, ho⟩ := h
  exact ⟨hpath, hquery, congrArg (Options.set · o) ho⟩

theorem change {s s' : p.State} (c : Change p) (h : p.Alike s s') :
    p.Alike (c.run s) (c.run s') := by
  cases c with
  | bool o | constantScore o => exact ⟨h.1, congrArg (Options.set · o) h.2⟩
  | scoreMode | ignoreUnmapped | boost => exact set _ h
  | innerHits | innerSource | maxChildren | order | mode => exact congrArg (Change.run _) h
  | offset | size | trackTotalHits | aggs =>
    obtain ⟨query, rfl, hq⟩ := h
    exact ⟨query, rfl, hq⟩
  | source c =>
    obtain ⟨query, rfl, hq⟩ := h
    cases c <;> exact ⟨query, rfl, hq⟩

/-- A clause under construction is handed over on both sides or on neither. -/
theorem building {s s' : p.State} (k : Kind p) (h : p.Alike s s') :
    offer.Alike (.building (k.clause s)) (.building (k.clause s')) := by
  cases k with
  | bool => exact congrArg some (document_bool h)
  | nested => exact congrArg some (document_nested h)
  | constantScore =>
    obtain ⟨_, options⟩ := s
    obtain ⟨_, options'⟩ := s'
    obtain ⟨rfl, rfl⟩ | ⟨d, d', rfl, rfl, hd⟩ := clause_cases h.1
    · rfl
    · exact congrArg some (document_constantScore h)

end Part.Alike

/-- A predicate may tell clauses apart that have the same document. -/
def Holder.Blind : Holder p q → Prop
  | keptWith _ => False
  | _ => True

namespace Part.Alike

theorem hold {s s' : p.State} (x : Holder p q) (hx : x.Blind) (h : p.Alike s s') :
    q.Alike (x.run s) (x.run s') := by
  cases x with
  | some => simpa [Part.Alike, Holder.run] using h
  | keptIf condition =>
    cases condition with
    | false => exact rfl
    | true => simpa [Part.Alike, Holder.run, keepIf] using h
  | keptWith predicate => exact hx.elim
  | converted => simpa [Part.Alike, Holder.run] using h
  | building k => exact building k h
  | finished k => exact congrArg Option.some (document_clause k h)
  | nested path => exact ⟨rfl, getD_document h, rfl⟩
  | constantScore => exact ⟨h, rfl⟩
  | envelope => exact ⟨_, rfl, congrArg Option.some (getD_document h)⟩

theorem join {s s' : p.State} {a a' : q.State} (j : Joint p q) (h : p.Alike s s')
    (ha : q.Alike a a') : p.Alike ((j.run s a).result l) ((j.run s' a').result l') := by
  cases j with
  | offer =>
    simp only [Part.Alike, Joint.run, result_pure, List.filterMap_append, List.map_append] at h ⊢
    rw [h, List.append_cancel_left_eq]
    obtain ⟨hc, hc'⟩ | ⟨d, d', hc, hc', hd⟩ := clause_cases ha <;> simp [*]
  | add slot =>
    rw [Joint.run, BoolClause.apply, BoolClause.add_result, Joint.run, BoolClause.apply,
      BoolClause.add_result]
    refine ⟨?_, h.2⟩
    rw [Slots.map_pushes, Slots.map_pushes, h.1, ← Option.toList_map, ← Option.toList_map]
    exact congrArg (fun c => (Option.toList c).foldl _ _) ha
  | addAll slot =>
    rw [Joint.run, BoolClause.apply, BoolClause.addAll_result, Joint.run, BoolClause.apply,
      BoolClause.addAll_result]
    refine ⟨?_, h.2⟩
    rw [Slots.map_pushes, Slots.map_pushes, h.1, List.filterMap_map, List.filterMap_map]
    exact congrArg (fun cs => List.foldl _ _ cs) ha
  | innerQuery =>
    cases h
    obtain ⟨hc, hc'⟩ | ⟨d, d', hc, hc', hd⟩ := clause_cases ha
    · simp only [Part.Alike, Joint.run, result_pure, hc, hc', InnerHits.apply]
    · simp only [Part.Alike, Joint.run, result_pure, hc, hc', InnerHits.apply, hd]
  | filter =>
    cases h
    obtain ⟨hc, hc'⟩ | ⟨d, d', hc, hc', hd⟩ := clause_cases ha
    · simp only [Part.Alike, Joint.run, result_pure, hc, hc', NestedSort.apply]
    · simp only [Part.Alike, Joint.run, result_pure, hc, hc', NestedSort.apply, hd]
  | query =>
    obtain ⟨query, rfl, hq⟩ := h
    obtain ⟨hc, hc'⟩ | ⟨d, d', hc, hc', hd⟩ := clause_cases ha
    · simp only [Joint.run, result_pure, hc, hc', Envelope.apply]
      exact ⟨query, rfl, hq⟩
    · simp only [Joint.run, result_pure, hc, hc', Envelope.apply]
      exact ⟨some d', rfl, congrArg some hd⟩
  | innerHits =>
    cases ha
    exact set _ h
  | sort | sortAll =>
    cases ha
    obtain ⟨query, rfl, hq⟩ := h
    exact ⟨query, rfl, hq⟩
  | innerSort | deeper | context | entry =>
    cases h
    cases ha
    exact refl _

end Part.Alike

/-! ## Contexts -/

/-- An expression with a hole for a clause, at any depth, beside anything else. -/
inductive Context : Part → Type
  | hole : Context .offer
  | change {p : Part} (c : Change p) (x : Context p) : Context p
  | hold {p q : Part} (h : Holder p q) (blind : h.Blind) (x : Context p) : Context q
  | receiver {p q : Part} (j : Joint p q) (x : Context p) (arg : Expression q) : Context p
  | argument {p q : Part} (j : Joint p q) (e : Expression p) (x : Context q) : Context p

namespace Context

/-- What is built with this in the hole. -/
def fill (o : Offer) : {p : Part} → Context p → Logged p.State
  | _, hole => return o
  | _, change c x => return c.run (← x.fill o)
  | _, hold h _ x => return h.run (← x.fill o)
  | _, receiver j x arg => do
    let s ← x.fill o
    let a ← arg.eval
    j.run s a
  | _, argument j e x => do
    let s ← e.eval
    let a ← x.fill o
    j.run s a

/-- The expression with another one in the hole. -/
def plug (inner : Expression .offer) : {p : Part} → Context p → Expression p
  | _, hole => inner
  | _, change c x => .change c (x.plug inner)
  | _, hold h _ x => .hold h (x.plug inner)
  | _, receiver j x arg => .join j (x.plug inner) arg
  | _, argument j e x => .join j e (x.plug inner)

section Fill

variable {o o' : Offer}

theorem fill_receiver (j : Joint p q) (x : Context p) (arg : Expression q) :
    ((receiver j x arg).fill o).result l = (j.run ((x.fill o).result l) arg.value).result {} := by
  rw [fill, result_bind, result_bind, arg.eval_result, j.result_run]

theorem fill_argument (j : Joint p q) (e : Expression p) (x : Context q) :
    ((argument j e x).fill o).result l =
      (j.run e.value ((x.fill o).result (e.eval.logger l))).result {} := by
  rw [fill, result_bind, result_bind, e.eval_result, j.result_run]

theorem value_plug (inner : Expression .offer) (x : Context p) :
    (x.plug inner).value = (x.fill inner.value).result l := by
  induction x generalizing l with
  | hole => rfl
  | change c x ih => exact congrArg c.run ih
  | hold h blind x ih => exact congrArg h.run ih
  | receiver j x arg ih => rw [plug, Expression.value_join, fill_receiver, ih]
  | argument j e x ih => rw [plug, Expression.value_join, fill_argument, ih]

/-- By induction on the context: no builder on the way out sees more than the document. -/
theorem alike_fill (ho : Part.offer.Alike o o') (x : Context p) :
    p.Alike ((x.fill o).result l) ((x.fill o').result l') := by
  induction x generalizing l l' with
  | hole => exact ho
  | change c x ih => exact .change c ih
  | hold h blind x ih => exact .hold h blind ih
  | receiver j x arg ih =>
    rw [fill_receiver, fill_receiver]
    exact .join j ih (.refl _)
  | argument j e x ih =>
    rw [fill_argument, fill_argument]
    exact .join j (.refl _) ih

end Fill

end Context

/-- The result of encoding depends on the document alone. -/
theorem Envelope.encode_congr {e e' : Envelope} (h : e.document = e'.document)
    (config : EncoderConfig) : (e.encode config).result l = (e'.encode config).result l' := by
  cases hp : e.document.nullPath? with
  | some path => rw [encode_rejected hp, encode_rejected (h ▸ hp)]
  | none => rw [encode_accepted hp, encode_accepted (h ▸ hp), h]

namespace Context

/-- In every context a clause and the raw clause of its document have the same outcome: the same
documents are built, and a request is encoded to the same text or refused with the same error.
Filled with what an expression builds, a context builds what the expression plugged into it does. -/
theorem raw_transparent (c : Clause) :
    (∀ (p : Part) (x : Context p) (l l' : Logger),
      p.documents ((x.fill (.finished c)).result l) =
        p.documents ((x.fill (.finished (.raw c.document))).result l')) ∧
    (∀ (x : Context .envelope) (config : EncoderConfig) (l l' : Logger),
      (x.fill (.finished c) >>= (Envelope.encode · config)).result l =
        (x.fill (.finished (.raw c.document)) >>= (Envelope.encode · config)).result l') ∧
    ∀ (p : Part) (x : Context p) (inner : Expression .offer) (l l' : Logger),
      (x.plug inner).eval.result l = (x.fill (inner.eval.result l')).result l' := by
  have hc : Part.offer.Alike (.finished c) (.finished (.raw c.document)) := by
    simp only [Part.Alike, Offer.clause?, Option.map_some, Clause.document]
  refine ⟨?_, ?_, ?_⟩
  · intro p x l l'
    exact (alike_fill hc x).documents
  · intro x config l l'
    rw [result_bind, result_bind]
    exact Envelope.encode_congr (alike_fill hc x).document_envelope config
  · intro p x inner l l'
    rw [Expression.eval_result, Expression.eval_result, value_plug]

end Context

end SearchRequest
