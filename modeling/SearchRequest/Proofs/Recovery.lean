import SearchRequest.Proofs.Clauses
import SearchRequest.Proofs.Leaves

/-! # Clauses told apart by their documents

A clause is known by its document, to any depth: the kind is the one key, and the clauses that a
clause holds stand apart from its options. A raw document may hide any clause, but an empty one
stands only where a clause is missing.
-/

namespace SearchRequest

open Setting

instance : Setting.Avoids LabelSetting "filter" := ⟨fun o => by cases o <;> simp [key, entry]⟩

instance : Setting.Avoids NestedSetting "path" := ⟨fun o => by cases o <;> simp [key, entry]⟩

instance : Setting.Avoids NestedSetting "query" := ⟨fun o => by cases o <;> simp [key, entry]⟩

/-! ## Bodies over written clauses -/

theorem Slot.key_injective {s t : Slot} (h : s.key = t.key) : s = t := by
  cases s <;> cases t <;> simp_all [Slot.key]

/-- Each slot is compared on its own, since no entry stands under its key yet. -/
theorem slots_beq (f g : Slot → Option Value) {slots : List Slot} (hd : slots.Nodup) {o p : Object}
    (ho : ∀ s ∈ slots, o.get? s.key = none) (hp : ∀ s ∈ slots, p.get? s.key = none) :
    (slots.foldl (fun o s => o.insert? s.key (f s)) o ==
      slots.foldl (fun p s => p.insert? s.key (g s)) p) =
    (slots.all (fun s => f s == g s) && o == p) := by
  induction slots generalizing o p with
  | nil => rfl
  | cons s slots ih =>
    obtain ⟨hs, hd⟩ := List.nodup_cons.mp hd
    have apart {t : Slot} (ht : t ∈ slots) : t.key ≠ s.key := by
      intro h
      cases Slot.key_injective h
      exact hs ht
    have later {o : Object} {v : Option Value} (h : ∀ t ∈ s :: slots, o.get? t.key = none) :
        ∀ t ∈ slots, (o.insert? s.key v).get? t.key = none := by
      intro t ht
      rw [Object.get?_insert?_ne (apart ht)]
      exact h t (List.mem_cons_of_mem s ht)
    rw [List.foldl_cons, List.foldl_cons, ih hd (later ho) (later hp),
      Object.insert?_beq_insert? (ho s List.mem_cons_self) (hp s List.mem_cons_self),
      List.all_cons, ← Bool.and_assoc, Bool.and_comm (slots.all _)]

theorem BoolOf.body_beq {a b : BoolOf Value} : (BoolOf.body a == BoolOf.body b) =
    (Slot.all.all (fun s => a.parts.get s == b.parts.get s) && a.options == b.options) := by
  have unwritten (b : BoolOf Value) : ∀ s ∈ Slot.all, b.options.object.get? s.key = none := by
    intro s _
    exact b.options.get?_eq_none fun o => o.key_ne s
  rw [BoolOf.body, BoolOf.body, slots_beq _ _ (by decide) (unwritten a) (unwritten b)]
  simp only [Value.arr?_beq_arr?]
  rfl

theorem NestedOf.body_beq {a b : NestedOf Value} : (NestedOf.body a == NestedOf.body b) =
    (a.parts.query == b.parts.query && (a.parts.path == b.parts.path && a.options == b.options)) := by
  have apart (b : NestedOf Value) :
      (b.optionsWith "path" (.str b.parts.path)).get? "query" = none := by
    rw [Builder.optionsWith, Object.get?_insert_ne (by decide), Builder.get?_options]
  rw [NestedOf.body, NestedOf.body, Object.insert_beq_insert (apart a) (apart b),
    Builder.optionsWith_beq, Value.str_beq_str]

theorem ConstantScoreOf.body_beq {a b : ConstantScoreOf Value} :
    (ConstantScoreOf.body a == ConstantScoreOf.body b) =
      (a.parts == b.parts && a.options == b.options) :=
  Object.insert?_beq_insert? a.get?_options b.get?_options

/-! ## Clauses -/

namespace Clause

/-- No clause in the tree is raw, unless it stands for a missing one, and every leaf in it is known by
its document. -/
inductive Recoverable : Clause → Prop
  | leaf {l : Leaf} (h : l.Recoverable) : Recoverable (leaf l)
  | bool {b : BoolClause} (h : ∀ slot, ∀ c ∈ b.parts.get slot, Recoverable c) :
      Recoverable (bool b)
  | nested {n : NestedClause} (h : Recoverable n.parts.query) : Recoverable (nested n)
  | constantScore {s : ConstantScore} (h : ∀ c ∈ s.parts, Recoverable c) :
      Recoverable (constantScore s)
  | missing : Recoverable (raw (.obj ∅))

variable {c d : Clause}

theorem Recoverable.shape (h : c.Recoverable) :
    c = .empty ∨ c.document = .entry c.kind (.obj c.body) := by
  cases h with
  | missing => exact .inl rfl
  | leaf => exact .inr (document_leaf _)
  | bool => exact .inr (document_bool _)
  | nested => exact .inr (document_nested _)
  | constantScore => exact .inr (document_constantScore _)

/-- Documents of different kinds differ: they have different keys, or only one of them has a key. -/
theorem document_beq_eq_false (hc : c.Recoverable) (hd : d.Recoverable) (h : c.kind ≠ d.kind) :
    (c.document == d.document) = false := by
  obtain rfl | hc := hc.shape <;> obtain rfl | hd := hd.shape
  · exact absurd rfl h
  · rw [hd, document_empty]
    rfl
  · rw [hc, document_empty]
    rfl
  · rw [hc, hd, Value.entry_beq_entry, beq_eq_false_iff_ne.mpr h, Bool.false_and]

theorem document_beq_of_kind (hc : c.document = .entry c.kind (.obj c.body))
    (hd : d.document = .entry d.kind (.obj d.body)) (h : c.kind = d.kind) :
    (c.document == d.document) = (c.body == d.body) := by
  rw [hc, hd, Value.entry_beq_entry, beq_iff_eq.mpr h, Bool.true_and,
    Value.obj_beq_obj]

theorem map_document_beq {cs ds : List Clause}
    (h : ∀ c ∈ cs, ∀ d ∈ ds, (c.document == d.document) = (c == d)) :
    (cs.map document == ds.map document) = allSame cs ds := by
  induction cs generalizing ds with
  | nil => cases ds <;> rfl
  | cons c cs ih =>
    cases ds with
    | nil => rfl
    | cons d ds =>
      obtain ⟨hc, hcs⟩ := List.forall_mem_cons.mp h
      rw [List.map_cons, List.map_cons, List.cons_beq_cons, hc d List.mem_cons_self,
        ih fun c hc d hd => hcs c hc d (List.mem_cons_of_mem _ hd), allSame]
      rfl

theorem map?_document_beq {c d : Option Clause}
    (h : ∀ x ∈ c, ∀ y ∈ d, (x.document == y.document) = (x == y)) :
    (c.map document == d.map document) = optionSame c d := by
  cases c <;> cases d
  · rfl
  · rfl
  · rfl
  · exact h _ rfl _ rfl

/-! ### Clauses of one kind -/

theorem document_beq_bool {a b : BoolClause}
    (h : ∀ slot, ∀ c ∈ a.parts.get slot, ∀ d ∈ b.parts.get slot,
      (c.document == d.document) = (c == d)) :
    ((bool a).document == (bool b).document) = (bool a == bool b) := by
  have slotwise : (bool a == bool b) =
      (Slot.all.all (fun s => allSame (a.parts.get s) (b.parts.get s)) &&
        a.options == b.options) := by
    obtain ⟨⟨must, should, mustNot, filter⟩, options⟩ := a
    change same _ _ = _
    rw [same]
    simp [Slot.all, Slots.get, Bool.and_assoc]
  rw [slotwise, document_beq_of_kind (document_bool a) (document_bool b) rfl, body, body,
    BoolClause.body, BoolClause.body, BoolOf.body_beq]
  congr 2
  funext s
  rw [Slots.get_map, Slots.get_map, map_document_beq (h s)]

theorem document_beq_nested {m n : NestedClause}
    (h : (m.parts.query.document == n.parts.query.document) = (m.parts.query == n.parts.query)) :
    ((nested m).document == (nested n).document) = (nested m == nested n) := by
  have partwise : (nested m == nested n) =
      ((m.parts.path == n.parts.path && m.parts.query == n.parts.query) &&
        m.options == n.options) := by
    obtain ⟨⟨path, query⟩, options⟩ := m
    change same _ _ = _
    rw [same]
    rfl
  rw [partwise, document_beq_of_kind (document_nested m) (document_nested n) rfl, body, body,
    NestedClause.body, NestedClause.body, NestedOf.body_beq, h, Bool.and_assoc, Bool.and_left_comm]

theorem document_beq_constantScore {s t : ConstantScore}
    (h : ∀ c ∈ s.parts, ∀ d ∈ t.parts, (c.document == d.document) = (c == d)) :
    ((constantScore s).document == (constantScore t).document) =
      (constantScore s == constantScore t) := by
  have partwise : (constantScore s == constantScore t) =
      (optionSame s.parts t.parts && s.options == t.options) := by
    obtain ⟨filter, options⟩ := s
    change same _ _ = _
    rw [same]
  rw [partwise, document_beq_of_kind (document_constantScore s) (document_constantScore t) rfl,
    body, body, ConstantScore.body, ConstantScore.body, ConstantScoreOf.body_beq,
    map?_document_beq h]

/-! ### Clauses of any kind -/

theorem beq_eq_false_of_kind (h : c.kind ≠ d.kind) : (c == d) = false := by
  cases c <;> cases d
  case leaf.leaf => exact Leaf.beq_eq_false_of_kind h
  all_goals first | rfl | exact absurd rfl h

theorem document_beq_of_kind_ne (hc : c.Recoverable) (hd : d.Recoverable) (h : c.kind ≠ d.kind) :
    (c.document == d.document) = (c == d) := by
  rw [document_beq_eq_false hc hd h, beq_eq_false_of_kind h]

/-- Clauses have equal documents exactly if they are equal: the same kinds, parts and options, and the
same clauses in the same slots, in the same order. -/
theorem document_beq_document (hc : c.Recoverable) (hd : d.Recoverable) :
    (c.document == d.document) = (c == d) := by
  -- By induction on one tree, with the other one of any kind at each step.
  induction hc generalizing d with
  | @leaf l hl =>
    have other := document_beq_of_kind_ne (.leaf hl) hd
    cases hd with
    | leaf hm =>
      rw [document, document, Leaf.document_beq hl hm]
      rfl
    | bool | nested | constantScore | missing =>
      exact other (l.kind_ne (by simp [Leaf.kinds, kind]))
  | @bool a ha iha =>
    have other := document_beq_of_kind_ne (.bool ha) hd
    cases hd with
    | bool hb => exact document_beq_bool fun slot c hc d hd => iha slot c hc (hb slot d hd)
    | @leaf l => exact other (l.kind_ne (by simp [Leaf.kinds, kind])).symm
    | nested | constantScore | missing => exact other (by simp [kind])
  | @nested m hm ih =>
    have other := document_beq_of_kind_ne (.nested hm) hd
    cases hd with
    | nested hn => exact document_beq_nested (ih hn)
    | @leaf l => exact other (l.kind_ne (by simp [Leaf.kinds, kind])).symm
    | bool | constantScore | missing => exact other (by simp [kind])
  | @constantScore s hs ih =>
    have other := document_beq_of_kind_ne (.constantScore hs) hd
    cases hd with
    | constantScore ht => exact document_beq_constantScore fun c hc d hd => ih c hc (ht d hd)
    | @leaf l => exact other (l.kind_ne (by simp [Leaf.kinds, kind])).symm
    | bool | nested | missing => exact other (by simp [kind])
  | missing =>
    have other := document_beq_of_kind_ne .missing hd
    cases hd with
    | missing => rfl
    | @leaf l => exact other (l.kind_ne (by simp [Leaf.kinds, kind])).symm
    | bool | nested | constantScore => exact other (by simp [kind])

/-- The slot of a clause shows, also for a nested clause over nothing. -/
theorem documents_of_slots_differ :
    let inner : Clause := nested (NestedClause.over "p" none)
    let term : Clause := leaf (.term (.of ⟨"a", .str "b"⟩))
    let c := bool ⟨{ must := [term, inner] }, ∅⟩
    let d := bool ⟨{ must := [term], filter := [inner] }, ∅⟩
    c.Recoverable ∧ d.Recoverable ∧ (c.document == d.document) = false := by
  intro inner term c d
  have hi : inner.Recoverable := .nested .missing
  have ht : term.Recoverable := .leaf rfl
  have hc : c.Recoverable := .bool fun slot => by
    cases slot with
    | must => exact List.forall_mem_cons.mpr ⟨ht, List.forall_mem_singleton.mpr hi⟩
    | should | mustNot | filter => exact List.forall_mem_nil _
  have hd : d.Recoverable := .bool fun slot => by
    cases slot with
    | must => exact List.forall_mem_singleton.mpr ht
    | filter => exact List.forall_mem_singleton.mpr hi
    | should | mustNot => exact List.forall_mem_nil _
  exact ⟨hc, hd, (document_beq_document hc hd).trans rfl⟩

/-- A term on an object reads like a term that has a name. -/
example :
    let short : Clause :=
      leaf (.term (.of ⟨"a", .obj (.ofList [("_name", .str "n"), ("value", .str "b")])⟩))
    let long : Clause := leaf (.term (Builder.set (.of ⟨"a", .str "b"⟩) (.name "n")))
    (short.document == long.document) = true ∧ (short == long) = false :=
  ⟨rfl, rfl⟩

end Clause

end SearchRequest
