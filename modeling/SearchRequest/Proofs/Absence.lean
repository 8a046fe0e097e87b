import SearchRequest.Proofs.Envelopes
import SearchRequest.Proofs.Expression

/-! # Absent clauses

Deleting every setter call that received an absent clause, at whatever depth, changes no document.
Where a clause is required, the empty object stands for an absent one.
-/

namespace SearchRequest

open Logged

variable {p q : Part} {l l' : Logger}

/-! ## Absence -/

/-- There is no clause in what was built. -/
def Part.Absent : (p : Part) → p.State → Prop
  | offer, o => o.clause? = none
  | constantScore, c => c.parts = none
  | _, _ => False

namespace Expression

/-- Whether a clause is absent, told from how it is written: it was never there, was not kept, or
is a constant score around one that is absent. A finished clause is always there. -/
def isAbsent : {p : Part} → Expression p → Bool
  | _, origin .absent => true
  | _, origin (.conditional c) => c.failed
  | _, origin _ => false
  | _, change _ e => e.isAbsent
  | _, hold .some e => e.isAbsent
  | _, hold (.keptIf condition) e => !condition || e.isAbsent
  | _, hold (.keptWith predicate) e => !predicate e.value || e.isAbsent
  | _, hold .converted e => e.isAbsent
  | _, hold (.building _) e => e.isAbsent
  | _, hold .constantScore e => e.isAbsent
  | _, hold _ _ => false
  | _, join _ _ _ => false

theorem isAbsent_iff (e : Expression p) : e.isAbsent = true ↔ p.Absent e.value := by
  induction e with
  | origin o =>
    cases o with
    | conditional c => simp [isAbsent, Part.Absent, Origin.run, c.leaf?_eq]
    | _ => simp [isAbsent, Part.Absent, Origin.run, Offer.clause?]
  | change c e ih =>
    rw [isAbsent, ih]
    cases c <;> rfl
  | hold h e ih =>
    cases h with
    | some => simpa [isAbsent, Part.Absent, Holder.run] using ih
    | keptIf b => cases b <;> simp [isAbsent, ih, Part.Absent, Holder.run, keepIf, Offer.clause?]
    | keptWith f =>
      cases h : f e.value <;>
        simp [isAbsent, ih, Part.Absent, Holder.run, keepWith, keepIf, Offer.clause?, h]
    | converted => simpa [isAbsent, Part.Absent, Holder.run] using ih
    | building k =>
      rw [isAbsent, ih]
      cases k with
      | constantScore => exact Offer.clause?_constantScore_eq_none_iff.symm
      | _ => simp [Part.Absent, Holder.run, Kind.clause, Offer.clause?]
    | constantScore => exact ih
    | _ => simp [isAbsent, Part.Absent, Holder.run, Offer.clause?]
  | join j e arg => cases j <;> simp [isAbsent, Part.Absent]

end Expression

/-! ## Deleting calls -/

/-- The same builder. Lists may differ in absent clauses, which no call makes use of. -/
def Part.Agree : (p : Part) → p.State → p.State → Prop
  | offers, os, os' => os.filterMap Offer.clause? = os'.filterMap Offer.clause?
  | _, s, s' => s = s'

/-- The documents of a builder, of what was handed over, or of the clauses in a list. -/
def Part.documents : (p : Part) → p.State → List Value
  | offer, o => o.clause?.toList.map Clause.document
  | offers, os => (os.filterMap Offer.clause?).map Clause.document
  | bool, b => [Clause.document (.bool b)]
  | nested, n => [Clause.document (.nested n)]
  | constantScore, c => [Clause.document (.constantScore c)]
  | innerHits, h => [h.document]
  | nestedSort, n => [NestedSort.document n]
  | sort, s => [SortEntry.document s]
  | sorts, ss => ss.map SortEntry.document
  | envelope, e => [e.document]

namespace Part.Agree

variable {s s' s'' : p.State}

theorem refl (s : p.State) : p.Agree s s := by
  cases p <;> rfl

theorem trans (h : p.Agree s s') (h' : p.Agree s' s'') : p.Agree s s'' := by
  cases p <;> exact Eq.trans h h'

theorem absent_iff (h : p.Agree s s') : p.Absent s ↔ p.Absent s' := by
  cases p with
  | offers => rfl
  | _ => exact iff_of_eq (congrArg (Part.Absent _) h)

theorem documents (h : p.Agree s s') : p.documents s = p.documents s' := by
  cases p with
  | offers => exact congrArg (List.map Clause.document) h
  | _ => exact congrArg (Part.documents _) h

theorem change (c : Change p) (h : p.Agree s s') : p.Agree (c.run s) (c.run s') := by
  cases c <;> exact congrArg (Change.run _) h

theorem hold {s s' : q.State} (x : Holder q p) (h : q.Agree s s') :
    p.Agree (x.run s) (x.run s') := by
  cases x with
  | building k => cases k <;> exact congrArg _ h
  | finished k => cases k <;> exact congrArg _ h
  | _ => exact congrArg _ h

theorem join {a a' : q.State} (j : Joint p q) (h : p.Agree s s') (ha : q.Agree a a') :
    p.Agree ((j.run s a).result l) ((j.run s' a').result l) := by
  -- only lists can differ: where one is extended, and where one is spent on a slot
  cases j with
  | offer =>
    cases ha
    simp only [Part.Agree, Joint.run, result_pure, List.filterMap_append] at h ⊢
    rw [h]
  | addAll slot =>
    cases h
    have hc : (a.map Offer.clause?).filterMap id = (a'.map Offer.clause?).filterMap id := by
      rw [List.filterMap_map, List.filterMap_map]
      exact ha
    simp only [Part.Agree, Joint.run, BoolClause.apply, BoolClause.addAll_result, hc]
  | _ => cases h; cases ha; exact refl _

/-- A setter that receives an absent clause leaves its receiver as it was. -/
theorem join_absent {a : q.State} (j : Joint p q) (s : p.State) (ha : q.Absent a) :
    p.Agree s ((j.run s a).result l) := by
  cases q with
  | offer =>
    have hc : Offer.clause? a = none := ha
    cases j <;> simp [Part.Agree, Joint.run, BoolClause.apply, BoolClause.add_result,
      InnerHits.apply, NestedSort.apply, Envelope.apply, hc]
  | constantScore => cases j
  | _ => exact ha.elim

end Part.Agree

namespace Expression

/-- The expression without the setter calls that received an absent clause. -/
def erase : {p : Part} → Expression p → Expression p
  | _, origin o => origin o
  | _, change c e => change c e.erase
  | _, hold h e => hold h e.erase
  | _, join j e arg => if arg.isAbsent then e.erase else join j e.erase arg.erase

/-- No setter call receives an absent clause. -/
def Filled : {p : Part} → Expression p → Prop
  | _, origin _ => True
  | _, change _ e => e.Filled
  | _, hold _ e => e.Filled
  | _, join _ e arg => e.Filled ∧ arg.Filled ∧ arg.isAbsent = false

theorem agree_erase (e : Expression p) : p.Agree e.erase.value e.value := by
  induction e with
  | origin o => exact .refl _
  | change c e ih => exact .change c ih
  | hold h e ih => exact .hold h ih
  | join j e arg ihe iha =>
    rw [erase, value_join]
    split
    · next h => exact ihe.trans (.join_absent j _ (arg.isAbsent_iff.mp h))
    · rw [value_join]
      exact .join j ihe iha

theorem isAbsent_erase (e : Expression p) : e.erase.isAbsent = e.isAbsent := by
  rw [Bool.eq_iff_iff, isAbsent_iff, isAbsent_iff]
  exact e.agree_erase.absent_iff

theorem filled_erase (e : Expression p) : e.erase.Filled := by
  induction e with
  | origin o => trivial
  | change c e ih => exact ih
  | hold h e ih => exact ih
  | join j e arg ihe iha =>
    rw [erase]
    split
    · exact ihe
    · next h => exact ⟨ihe, iha, by rw [isAbsent_erase]; simpa using h⟩

/-! ## Absence through layers -/

/-- What may stand around a clause without making it present. -/
inductive Layer where
  | some
  | constantScore (settings : List LabelSetting)

def Layer.around (e : Expression .offer) : Layer → Expression .offer
  | some => hold .some e
  | constantScore settings => hold (.building .constantScore)
      (settings.foldl (fun e s => change (.constantScore s) e) (hold .constantScore e))

theorem isAbsent_settings (settings : List LabelSetting) (e : Expression .constantScore) :
    (settings.foldl (fun e s => change (.constantScore s) e) e).isAbsent = e.isAbsent := by
  induction settings generalizing e with
  | nil => rfl
  | cons s settings ih => exact ih _

theorem isAbsent_layers (layers : List Layer) (e : Expression .offer) :
    (layers.foldl Layer.around e).isAbsent = e.isAbsent := by
  induction layers generalizing e with
  | nil => rfl
  | cons layer layers ih =>
    rw [List.foldl_cons, ih]
    cases layer with
    | some => rfl
    | constantScore settings => exact isAbsent_settings settings _

/-! ## Required clauses -/

/-- The required clause was absent, and no later one took its place. -/
inductive Hollow : {p : Part} → Expression p → Prop
  | nested {path : String} {e : Expression .offer} : e.isAbsent = true →
      Hollow (hold (.nested path) e)
  | envelope {e : Expression .offer} : e.isAbsent = true → Hollow (hold .envelope e)
  | change {p : Part} {c : Change p} {e : Expression p} : Hollow e → Hollow (change c e)
  | join {p q : Part} {j : Joint p q} {e : Expression p} {arg : Expression q} : Hollow e →
      (q = .offer → arg.isAbsent = true) → Hollow (join j e arg)

end Expression

/-- The empty clause stands where one is required. -/
def Part.Hollow : (p : Part) → p.State → Prop
  | nested, n => n.parts.query = .empty
  | envelope, e => e.query = some .empty
  | _, _ => True

theorem NestedClause.get?_query {n : NestedClause} (h : n.parts.query = .empty) :
    ∃ body, (Clause.nested n).document = .entry "nested" (.obj body) ∧
      body.get? "query" = some (.obj []) := by
  refine ⟨_, Clause.document_nested n, ?_⟩
  rw [Clause.body, get?_body_query, h, Clause.document_empty]
  rfl

theorem Envelope.get?_query {e : Envelope} (h : e.query = some .empty) :
    e.body.get? "query" = some (.obj []) := by
  rw [get?_body_query, h, Option.map_some, Clause.document_empty]
  rfl

namespace Expression

theorem Hollow.value {e : Expression p} (h : e.Hollow) : p.Hollow e.value := by
  induction h with
  | @nested path e h =>
    have hc : Offer.clause? e.value = none := e.isAbsent_iff.mp h
    simp [Part.Hollow, Holder.run, NestedClause.over, hc]
  | @envelope e h =>
    have hc : Offer.clause? e.value = none := e.isAbsent_iff.mp h
    simp [Part.Hollow, Holder.run, Envelope.around, hc]
  | @change _ c _ _ ih =>
    cases c with
    | source c => cases c <;> exact ih
    | _ => exact ih
  | @join _ _ j _ arg _ ha ih =>
    rw [value_join]
    cases j with
    | query => exact Part.Agree.join_absent .query _ ((isAbsent_iff arg).mp (ha rfl)) ▸ ih
    | _ => exact ih

theorem Hollow.result {e : Expression p} (h : e.Hollow) (l : Logger) :
    p.Hollow (e.eval.result l) := by
  rw [eval_result]
  exact h.value

theorem absent_result (e : Expression p) (l : Logger) :
    p.Absent (e.eval.result l) ↔ e.isAbsent = true := by
  rw [eval_result, isAbsent_iff]

theorem documents_erase (e : Expression p) (l l' : Logger) :
    p.documents (e.erase.eval.result l) = p.documents (e.eval.result l') := by
  rw [eval_result, eval_result]
  exact e.agree_erase.documents

/-- Absence can be told from an expression. The calls that received an absent clause can all be
deleted, and every builder has the documents it had before. No number of layers around an absent
clause makes it present; where a clause is required, it is rendered as the empty object. -/
theorem absence_leaves_no_trace :
    (∀ (e : Expression .offer) (l : Logger),
      e.isAbsent = true ↔ (e.eval.result l).clause? = none) ∧
    (∀ (p : Part) (e : Expression p) (l l' : Logger),
      e.erase.Filled ∧ p.documents (e.erase.eval.result l) = p.documents (e.eval.result l')) ∧
    (∀ (e : Expression .offer) (layers : List Layer) (l l' : Logger),
      ((layers.foldl Layer.around e).eval.result l).clause? = none ↔
        (e.eval.result l').clause? = none) ∧
    (∀ (e : Expression .nested) (l : Logger), e.Hollow →
      ∃ body, (Clause.nested (e.eval.result l)).document = .entry "nested" (.obj body) ∧
        body.get? "query" = some (.obj [])) ∧
    ∀ (e : Expression .envelope) (l : Logger), e.Hollow →
      (e.eval.result l).body.get? "query" = some (.obj []) := by
  refine ⟨?_, ?_, ?_, ?_, ?_⟩
  · intro e l
    exact (e.absent_result l).symm
  · intro p e l l'
    exact ⟨e.filled_erase, e.documents_erase l l'⟩
  · intro e layers l l'
    have h := (layers.foldl Layer.around e).absent_result l
    rw [isAbsent_layers] at h
    exact h.trans (e.absent_result l').symm
  · intro e l h
    exact NestedClause.get?_query (h.result l)
  · intro e l h
    exact Envelope.get?_query (h.result l)

end Expression

end SearchRequest
