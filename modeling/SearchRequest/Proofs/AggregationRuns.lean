import SearchRequest.Proofs.EnvelopeRuns
import SearchRequest.Proofs.RequestForm

/-! # Runs on an aggregation

After any run of calls, from any constructor, the parameters, the metadata and the children of an
aggregation each hold the last value that was given under a name. All three stand in the document
exactly if the kind is not called like one of the two other parts.
-/

namespace SearchRequest

/-! ## The size of objects -/

theorem Keyed.length_insert {α : Type} {k : String} {x : α} {es : List (String × α)}
    (h : get? k es = none) : (insert k x es).length = es.length + 1 := by
  induction es with
  | nil => rfl
  | cons e es ih =>
    rw [get?] at h
    split at h
    · cases h
    · next hne =>
      rw [insert, if_neg hne]
      split
      · rfl
      · exact congrArg (· + 1) (ih h)

namespace Object

variable {o : Object} {k : String} {v w : Value}

theorem size_empty : (∅ : Object).size = 0 := rfl

theorem size_insert (h : o.get? k = none) : (o.insert k v).size = o.size + 1 :=
  Keyed.length_insert h

theorem size_insert? (h : o.get? k = none) (v : Option Value) :
    (o.insert? k v).size = o.size + v.toList.length := by
  cases v with
  | none => rfl
  | some v => exact size_insert h

theorem insert_insert : (o.insert k v).insert k w = o.insert k w := by
  refine ext_get? fun l => ?_
  rw [get?_insert, get?_insert, get?_insert]
  split <;> rfl

theorem insert_insert? (k' : String) (m : Option Value) :
    ((o.insert k v).insert? k' m).insert k w = (o.insert? k' m).insert k w := by
  refine ext_get? fun l => ?_
  rw [get?_insert, get?_insert, get?_insert?, get?_insert?]
  split
  · rfl
  · next hl => rw [get?_insert_ne hl]

theorem isEmpty_iff_get? : o.isEmpty = true ↔ ∀ k, o.get? k = none := by
  rw [isEmpty, List.isEmpty_iff]
  constructor
  · intro h k
    rw [get?, h, Keyed.get?]
  · intro h
    refine List.eq_nil_iff_forall_not_mem.mpr fun e he => ?_
    exact Keyed.get?_eq_none_iff.mp (h e.1) e he rfl

end Object

namespace Aggregation

/-! ## The parts of a document -/

/-- The kind, the metadata and the children all stand under their names, and nothing else does,
exactly if the kind has a name of its own. -/
theorem parts_stand_iff (a : Aggregation) :
    (a.node.get? a.kind = some (.obj a.body.entries) ∧
      a.node.get? "meta" = (Value.obj? a.metadata).map (·.json) ∧
      a.node.get? "aggs" = (Value.obj? (childObject a.children)).map (·.json) ∧
      a.node.size = 1 + (Value.obj? a.metadata).toList.length +
        (Value.obj? (childObject a.children)).toList.length) ↔
    a.kind ≠ "meta" ∧ a.kind ≠ "aggs" := by
  constructor
  · rintro ⟨hb, hm, hc, hs⟩
    -- a part of the kind's name leaves one key too few, and without such a part there is one too many
    constructor
    · intro hk
      cases hv : Value.obj? a.metadata with
      | none =>
        rw [hk, hm, hv] at hb
        cases hb
      | some v =>
        have hn : a.node = ((∅ : Object).insert "meta" v).insert? "aggs"
            (Value.obj? (childObject a.children)) := by
          rw [node, hk, hv, Object.insert?, Object.insert_insert]
        rw [hn, Object.size_insert? rfl, Object.size_insert rfl, hv] at hs
        simp only [Object.size_empty, Option.toList_some, List.length_singleton] at hs
        omega
    · intro hk
      cases hv : Value.obj? (childObject a.children) with
      | none =>
        rw [hk, hc, hv] at hb
        cases hb
      | some v =>
        have hn : a.node = ((∅ : Object).insert? "meta" (Value.obj? a.metadata)).insert "aggs" v := by
          rw [node, hk, hv]
          exact Object.insert_insert? ..
        have ha : ((∅ : Object).insert? "meta" (Value.obj? a.metadata)).get? "aggs" = none := by
          rw [Object.get?_insert?_ne (by decide), Object.get?_empty]
        rw [hn, Object.size_insert ha, Object.size_insert? rfl, hv] at hs
        simp only [Object.size_empty, Option.toList_some, List.length_singleton] at hs
        omega
  · intro h
    refine ⟨get?_node_kind h, get?_node_meta h, get?_node_aggs h, ?_⟩
    rw [node, Object.size_insert?, Object.size_insert?]
    · rfl
    · rw [Object.get?_insert_ne h.1.symm, Object.get?_empty]
    · rw [Object.get?_insert?_ne (by decide), Object.get?_insert_ne h.2.symm, Object.get?_empty]

/-! ## What calls give -/

/-- The constructors, each with what it is given. -/
inductive Start where
  | onField (kind : FieldKind) (name : String)
  | multiTerms (sources : List TermSource)
  | custom (kind : String) (parameters : Object)

def Start.aggregation : Start → Aggregation
  | onField kind name => .onField kind name
  | multiTerms sources => .multiTerms sources
  | custom kind parameters => .custom kind parameters

namespace Call

def settings : Call → List (String × Value)
  | set s => [Setting.entry s]
  | metadata _ _ | children _ => []

def notes : Call → List (String × Value)
  | metadata key value => [(key, value)]
  | set _ | children _ => []

def named : Call → List (String × Aggregation)
  | children named => named
  | set _ | metadata _ _ => []

end Call

def run (a : Aggregation) (calls : List Call) : Aggregation :=
  calls.foldl apply a

/-! ## A run -/

/-- A run adds to each part what its calls give to that part, and leaves the kind. -/
theorem run_eq (a : Aggregation) (calls : List Call) : a.run calls =
    { kind := a.kind
      body := (calls.flatMap Call.settings).foldl (fun o e => o.insert e.1 e.2) a.body
      metadata := (calls.flatMap Call.notes).foldl (fun o e => o.insert e.1 e.2) a.metadata
      children := attach a.children (calls.flatMap Call.named) } := by
  induction calls generalizing a with
  | nil => cases a; rfl
  | cons call calls ih =>
    rw [run, List.foldl_cons, ← run, ih]
    cases call with
    | set s => rfl
    | metadata key value => rfl
    | children named => simp [apply, Call.settings, Call.notes, Call.named, attach_attach]

section Parts

variable (start : Start) (calls : List Call)

theorem kind_run : (start.aggregation.run calls).kind = start.aggregation.kind := by
  rw [run_eq]

theorem get?_body_run (key : String) : (start.aggregation.run calls).body.get? key =
    ((Keyed.last? key (calls.flatMap Call.settings)).map (·.json)).or
      (start.aggregation.body.get? key) := by
  rw [run_eq]
  exact Object.get?_foldl_insert

theorem get?_metadata_run (key : String) : (start.aggregation.run calls).metadata.get? key =
    (Keyed.last? key (calls.flatMap Call.notes)).map (·.json) := by
  have hs : start.aggregation.metadata = ∅ := by cases start <;> rfl
  rw [run_eq, hs, Object.get?_foldl_insert, Object.get?_empty, Option.or_none]

theorem children_run : (start.aggregation.run calls).children =
    attach [] (calls.flatMap Call.named) := by
  have hs : start.aggregation.children = [] := by cases start <;> rfl
  rw [run_eq, hs]

theorem get?_children_run (name : String) :
    (childObject (start.aggregation.run calls).children).get? name =
      (Keyed.last? name (calls.flatMap Call.named)).map fun a => a.document.json := by
  rw [children_run, get?_childObject, get?_attach_nil]

/-- Metadata is shown only if a call gave some. -/
theorem obj?_metadata_run : Value.obj? (start.aggregation.run calls).metadata =
    if calls.flatMap Call.notes = [] then none
    else some (.obj (start.aggregation.run calls).metadata) := by
  refine if_congr ?_ rfl rfl
  rw [Object.isEmpty_iff_get?, ← Keyed.forall_last?_eq_none_iff]
  refine forall_congr' fun key => ?_
  rw [get?_metadata_run, Option.map_eq_none_iff]

/-- Children are shown only if a call attached some. -/
theorem obj?_children_run : Value.obj? (childObject (start.aggregation.run calls).children) =
    if calls.flatMap Call.named = [] then none
    else some (.obj (childObject (start.aggregation.run calls).children)) := by
  refine if_congr ?_ rfl rfl
  rw [Object.isEmpty_iff_get?, ← Keyed.forall_last?_eq_none_iff]
  refine forall_congr' fun name => ?_
  rw [get?_children_run, Option.map_eq_none_iff]

end Parts

/-- After any run of calls, the parameters hold the last value of each setting beside what the
constructor gave, the metadata the last value of each note, and the children the last aggregation of
each name. These three parts make up the document, and none of them takes the place of another,
exactly if the kind is called neither `meta` nor `aggs`. -/
theorem parts_of_run (start : Start) (calls : List Call) :
    ∃ body metadata children node : Object,
      (start.aggregation.run calls).document = .obj node ∧
      (∀ key, body.get? key = ((Keyed.last? key (calls.flatMap Call.settings)).map (·.json)).or
        (start.aggregation.body.get? key)) ∧
      (∀ key, metadata.get? key =
        (Keyed.last? key (calls.flatMap Call.notes)).map (·.json)) ∧
      (∀ name, children.get? name =
        (Keyed.last? name (calls.flatMap Call.named)).map fun a => a.document.json) ∧
      ((node.get? start.aggregation.kind = some (.obj body.entries) ∧
        node.get? "meta" = (if calls.flatMap Call.notes = [] then none
          else some (.obj metadata.entries)) ∧
        node.get? "aggs" = (if calls.flatMap Call.named = [] then none
          else some (.obj children.entries)) ∧
        node.size = 1 + (if calls.flatMap Call.notes = [] then 0 else 1) +
          if calls.flatMap Call.named = [] then 0 else 1) ↔
        start.aggregation.kind ≠ "meta" ∧ start.aggregation.kind ≠ "aggs") := by
  let a := start.aggregation.run calls
  refine ⟨a.body, a.metadata, childObject a.children, a.node, document_eq a, ?_, ?_, ?_, ?_⟩
  · exact get?_body_run start calls
  · exact get?_metadata_run start calls
  · exact get?_children_run start calls
  · have h := parts_stand_iff a
    rw [obj?_metadata_run, obj?_children_run, kind_run] at h
    split_ifs at h ⊢ <;> exact h

/-- A node with parameters and metadata, of a kind called like the metadata. -/
def kindCalledMeta : Aggregation :=
  (custom "meta" ((∅ : Object).insert "a" (.bool true))).run [.metadata "k" (.bool true)]

/-- A node with parameters and a child, of a kind called like the children. -/
def kindCalledAggs : Aggregation :=
  (custom "aggs" ((∅ : Object).insert "a" (.bool true))).run [.children [("x", .onField .avg "f")]]

/-- Neither shows its parameters. -/
theorem parameters_lost :
    kindCalledMeta.node.get? kindCalledMeta.kind ≠ some (.obj kindCalledMeta.body.entries) ∧
    kindCalledAggs.node.get? kindCalledAggs.kind ≠ some (.obj kindCalledAggs.body.entries) := by
  have hm : kindCalledMeta.node.get? kindCalledMeta.kind = some (.obj [("k", .bool true)]) := rfl
  have ha : kindCalledAggs.node.get? kindCalledAggs.kind =
      some (.obj [("x", .obj [("avg", .obj [("field", .str "f")])])]) := rfl
  have hb : kindCalledMeta.body.entries = [("a", .bool true)] := rfl
  have hb' : kindCalledAggs.body.entries = [("a", .bool true)] := rfl
  constructor
  · simp [hm, hb]
  · simp [ha, hb']

end Aggregation

end SearchRequest
