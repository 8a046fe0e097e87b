import SearchRequest.Proofs.SettingRuns

/-! # Conditional constructors

A predicate decides about a clause as a whole. It is asked once, about the field and all of the
value or list, and what it does not keep is absent wherever a clause is taken. What it keeps is the
clause of the plain constructor.
-/

namespace SearchRequest

section Keep

variable {m : Type → Type} [Monad m] {α β : Type} (a : α)

theorem keepIf_eq_none_iff {condition : Bool} : keepIf a condition = none ↔ condition = false := by
  cases condition <;> simp [keepIf]

theorem map_keepIf (f : α → β) (condition : Bool) :
    (keepIf a condition).map f = keepIf (f a) condition := by
  cases condition <;> rfl

/-- Both ways to write a condition on the answer of a predicate. -/
theorem ite_eq_keepIf (answer : m Bool) :
    (do if ← answer then return some a else return none) = (do return keepIf a (← answer)) :=
  bind_congr fun b => by cases b <;> rfl

end Keep

/-- It does not matter whether values become JSON before or after an array is made a list. -/
theorem Terms.ofArray_map {ν : Type} [ToValue ν] (field : String) (values : Array ν) :
    ofArray field (values.map toValue) = new field (values.toList.map toValue) := by
  rw [ofArray, Array.toList_map]

/-- A predicate that keeps a list of what it was asked about. -/
def noted {α : Type} (p : α → Bool) (a : α) : StateM (List α) Bool := do
  modify (· ++ [a])
  return p a

/-- What a constructor with a predicate is given besides the predicate, with values of any type that
can become JSON. -/
inductive Candidate : Type 1 where
  | term {ν : Type} [ToValue ν] (field : String) (value : ν)
  | terms {ν : Type} [ToValue ν] (field : String) (values : List ν)
  | array {ν : Type} [ToValue ν] (field : String) (values : Array ν)
  | presence (field : String)

namespace Candidate

def form : Candidate → Form
  | term .. => .term
  | terms .. | array .. => .terms
  | presence _ => .presence

/-- What the predicate is asked about. -/
abbrev Item : Candidate → Type
  | @term ν _ _ _ => String × ν
  | @terms ν _ _ _ => String × List ν
  | @array ν _ _ _ => String × Array ν
  | presence _ => String

/-- All of what was given. -/
def item : (c : Candidate) → c.Item
  | term field value => (field, value)
  | terms field values => (field, values)
  | array field values => (field, values)
  | presence field => field

/-- What the constructor without a condition makes of it. -/
def plain : (c : Candidate) → c.form.State
  | term field value => Term.new field (toValue value)
  | terms field values => Terms.new field (values.map toValue)
  | array field values => Terms.ofArray field (values.map toValue)
  | presence field => Presence.new field

def newWith {m : Type → Type} [Monad m] :
    (c : Candidate) → (c.Item → m Bool) → m (Option c.form.State)
  | term field value, p => Term.newWith field value fun f v => p (f, v)
  | terms field values, p => Terms.newWith field values fun f vs => p (f, vs)
  | array field values, p => Terms.ofArrayWith field values fun f vs => p (f, vs)
  | presence field, p => Presence.newWith field p

def leaf : (c : Candidate) → c.form.State → Leaf
  | term .., b => .term b
  | terms .., b | array .., b => .terms b
  | presence _, b => .presence b

/-- The document of the plain clause, with all values in the given order. -/
def written : Candidate → Value
  | term field value => .within ["term", field] (toValue value)
  | terms field values => .within ["terms", field] (.arr (values.map toValue))
  | array field values => .within ["terms", field] (.arr (values.toList.map toValue))
  | presence field => .within ["exists", "field"] (.str field)

variable (c : Candidate)

/-- The outcome, and what the predicate was asked about. -/
def trial (p : c.Item → Bool) : Option c.form.State × List c.Item :=
  (c.newWith (noted p)).run []

/-- An outcome handed over as a clause. Options are set on it if it is not absent. -/
def offer (settings : List c.form.Opt) (o : Option c.form.State) : Offer :=
  .optional ((o.map (Builder.setAll · settings)).map fun b => .building (.leaf (c.leaf b)))

/-! ## Outcomes -/

/-- Whatever effects the predicate has, they happen once. -/
theorem newWith_eq {m : Type → Type} [Monad m] (p : c.Item → m Bool) :
    c.newWith p = do return keepIf c.plain (← p c.item) := by
  cases c with
  | array field values => rfl
  | _ => exact ite_eq_keepIf ..

theorem trial_eq (p : c.Item → Bool) :
    c.trial p = (keepIf c.plain (p c.item), [c.item]) := by
  rw [trial, newWith_eq]
  rfl

theorem document_plain : (Clause.leaf (c.leaf c.plain)).document = c.written := by
  cases c with
  | array field values => rw [leaf, plain, Terms.ofArray_map, Clause.document]; rfl
  | _ => rw [Clause.document]; rfl

/-! ## Outcomes handed over -/

theorem clause?_offer (settings : List c.form.Opt) (condition : Bool) :
    (c.offer settings (keepIf c.plain condition)).clause? =
      keepIf (.leaf (c.leaf (c.plain.setAll settings))) condition := by
  rw [offer, map_keepIf, map_keepIf]
  cases condition <;> simp [keepIf, Offer.clause?]

end Candidate

theorem BoolClause.add_keepIf (b : BoolClause) (slot : Slot) (c : Clause) (condition : Bool)
    (l : Logger) : (b.add slot (keepIf c condition)).result l =
      if condition then { b with parts := b.parts.push slot c } else b := by
  rw [add_result]
  cases condition <;> rfl

/-- A constructor with a predicate asks it once, about the field and all of the value or list as it
was given, of whatever type. The outcome is absent if the answer is no, and else the clause of the
plain constructor. A bool appends that clause, with any options that were set on it, or stays as it
is. The two constructors for lists agree, and a condition in place of the predicate decides in the
same way. -/
theorem clauses_kept_whole :
    (∀ (c : Candidate) (m : Type → Type) [Monad m] (p : c.Item → m Bool),
      c.newWith p = do return keepIf c.plain (← p c.item)) ∧
    (∀ (c : Candidate) (p : c.Item → Bool),
      c.trial p = (keepIf c.plain (p c.item), [c.item]) ∧
      ((c.trial p).1 = none ↔ p c.item = false) ∧
      (Clause.leaf (c.leaf c.plain)).document = c.written ∧
      ∀ (settings : List c.form.Opt) (b : BoolClause) (slot : Slot) (l : Logger),
        (b.add slot (c.offer settings (c.trial p).1).clause?).result l =
          if p c.item then
            { b with parts := b.parts.push slot (.leaf (c.leaf (c.plain.setAll settings))) }
          else b) ∧
    (∀ (ν : Type) [ToValue ν] (m : Type → Type) [Monad m] (field : String) (values : List ν)
      (p : String → List ν → m Bool),
      Terms.ofArrayWith field values.toArray (fun f vs => p f vs.toList) =
        Terms.newWith field values p) ∧
    ∀ (field : String) (value : Value) (values : List Value) (condition : Bool),
      Term.newIf field value condition = keepIf (.new field value) condition ∧
      Terms.newIf field values condition = keepIf (.new field values) condition ∧
      Presence.newIf field condition = keepIf (.new field) condition := by
  refine ⟨fun c _ _ p => c.newWith_eq p, fun c p => ?_, fun _ _ _ _ field values p => ?_,
    fun _ _ _ _ => ⟨rfl, rfl, rfl⟩⟩
  · rw [c.trial_eq p]
    refine ⟨rfl, keepIf_eq_none_iff c.plain, c.document_plain, fun settings b slot l => ?_⟩
    rw [c.clause?_offer, b.add_keepIf]
  · have ha := Terms.ofArray_map field values.toArray
    rw [Terms.ofArrayWith, ha]
    exact (ite_eq_keepIf (Terms.new field (values.map toValue)) (p field values)).symm

/-- An empty list is asked about like any other. -/
example : (Candidate.terms "tags" ([] : List String)).trial (fun i => !i.2.isEmpty) =
    (none, [("tags", [])]) :=
  rfl

end SearchRequest
