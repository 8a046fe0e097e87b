import SearchRequest.Proofs.Delivery

/-! # Dropped clauses

Some calls take a clause and do without an absent one. What they drop can be listed from an
expression, in the order of the calls. A slot of a bool reports each clause that it drops. Inner
hits, a nested sort and a request drop theirs without a report.
-/

namespace SearchRequest

open Logged

variable {α β : Type} {p q : Part}

/-! ## Issued records -/

namespace Logged

/-- Under every logger the computation reports these records, in this order, and does nothing else
to the logger. -/
def Issues (x : Logged α) (rs : List Record) : Prop :=
  ∀ l : Logger, x.logger l = l.run (rs.map .report)

namespace Issues

variable {rs qs : List Record}

theorem pure (a : α) : Issues (pure a) [] :=
  fun _ => rfl

theorem report (level : Level) (target message : String) :
    Issues (SearchRequest.report level target message) [⟨level, target, message⟩] :=
  fun _ => rfl

theorem bind {x : Logged α} {f : α → Logged β} (hx : x.Issues rs)
    (hf : ∀ l, (f (x.result l)).Issues qs) : (x >>= f).Issues (rs ++ qs) := by
  intro l
  have h : (x >>= f).logger l = (f (x.result l)).logger (x.logger l) := rfl
  rw [h, hf l, hx l, List.map_append]
  exact List.foldl_append.symm

theorem bind_pure {x : Logged α} (hx : x.Issues rs) (f : α → β) :
    (do return f (← x) : Logged β).Issues rs := by
  have h : (do return f (← x) : Logged β).Issues (rs ++ []) :=
    hx.bind fun l => .pure (f (x.result l))
  rwa [List.append_nil] at h

theorem output {x : Logged α} (h : x.Issues rs) (l : Logger) (sink : Sink) :
    (x.logger l).output sink = l.output sink ++
      if l.sink = sink then rs.filter (Logger.Passes l.level l.debug ·) else [] := by
  rw [h l, l.output_run_reports]

end Issues

end Logged

/-! ## Merge points -/

/-- Where a clause is taken, and an absent one is done without. -/
inductive MergePoint where
  | slot (slot : Slot)
  | innerQuery
  | nestedFilter
  | query

namespace MergePoint

variable (point : MergePoint) (points points' : List MergePoint)

/-- What is reported of a clause that is dropped there. -/
def record? : MergePoint → Option Record
  | slot s =>
    some ⟨.trace, "esdsl_query::query::compound", "dropping absent clause from bool." ++ s.key⟩
  | _ => none

/-- What is reported of clauses that are dropped one after another. -/
def records : List Record :=
  points.filterMap record?

theorem records_append : records (points ++ points') = records points ++ records points' :=
  List.filterMap_append

theorem level_of_mem_records {r : Record} (h : r ∈ records points) : r.level = .trace := by
  obtain ⟨point, -, hr⟩ := List.mem_filterMap.mp h
  cases point with
  | slot s => rw [← Option.some.inj hr]
  | _ => cases hr

/-- Nothing but the level trace lets these records pass, and it lets all of them pass. -/
theorem filter_passes_records (level : Level) (debug : Bool) :
    (records points).filter (Logger.Passes level debug ·) =
      if level = .trace then records points else [] := by
  have hp (r : Record) (hr : r ∈ records points) :
      Logger.Passes level debug r ↔ level = .trace :=
    Logger.passes_iff_of_trace (level_of_mem_records points hr)
  split
  · next h => exact List.filter_eq_self.mpr fun r hr => decide_eq_true ((hp r hr).mpr h)
  · next h =>
    refine List.filter_eq_nil_iff.mpr fun r hr hd => h ?_
    exact (hp r hr).mp (of_decide_eq_true hd)

theorem length_records_iff :
    (records points).length = points.length ↔ ∀ point ∈ points, ∃ s, point = slot s := by
  have h (point : MergePoint) : point.record?.isSome ↔ ∃ s, point = slot s := by
    cases point <;> simp [record?]
  rw [records, List.filterMap_length_eq_length]
  exact forall₂_congr fun point _ => h point

/-- The merge point, once for each absent clause. -/
def dropped (cs : List (Option Clause)) : List MergePoint :=
  .replicate (cs.countP Option.isNone) point

theorem dropped_cons (c : Option Clause) (cs : List (Option Clause)) :
    point.dropped (c :: cs) = point.dropped [c] ++ point.dropped cs := by
  rw [dropped, dropped, dropped, List.replicate_append_replicate, ← List.countP_append]
  rfl

theorem records_dropped (h : point.record? = none) (cs : List (Option Clause)) :
    records (point.dropped cs) = [] :=
  List.filterMap_replicate_of_none h

end MergePoint

open MergePoint (records)

/-- The merge point at which a call takes what it is handed, if it is for clauses. -/
def Joint.point? : Joint p q → Option MergePoint
  | add slot | addAll slot => some (.slot slot)
  | innerQuery => some .innerQuery
  | filter => some .nestedFilter
  | query => some .query
  | _ => none

/-- The clauses that are handed over. -/
def Part.handed : (p : Part) → p.State → List (Option Clause)
  | offer, o => [o.clause?]
  | offers, os => os.map Offer.clause?
  | _, _ => []

/-- What a call drops of what it is handed. -/
def Joint.dropped (j : Joint p q) (a : q.State) : List MergePoint :=
  (j.point?.map (·.dropped (q.handed a))).getD []

/-- What the calls of an expression drop, in the order of the calls. -/
def Expression.dropped : {p : Part} → Expression p → List MergePoint
  | _, origin _ => []
  | _, change _ e => e.dropped
  | _, hold _ e => e.dropped
  | _, join j e arg => e.dropped ++ (arg.dropped ++ j.dropped arg.value)

/-! ## Reports of what is dropped -/

namespace BoolClause

variable (b : BoolClause) (slot : Slot)

theorem issues_add (c : Option Clause) :
    (b.add slot c).Issues (records ((MergePoint.slot slot).dropped [c])) := by
  cases c with
  | some c => exact .pure _
  | none => exact .bind (.report _ _ _) fun _ => .pure b

theorem issues_addAll (cs : List (Option Clause)) :
    (b.addAll slot cs).Issues (records ((MergePoint.slot slot).dropped cs)) := by
  induction cs generalizing b with
  | nil => exact .pure b
  | cons c cs ih =>
    rw [MergePoint.dropped_cons, MergePoint.records_append]
    exact .bind (b.issues_add slot c) fun _ => ih _

end BoolClause

theorem Joint.issues_run (j : Joint p q) (s : p.State) (a : q.State) :
    (j.run s a).Issues (records (j.dropped a)) := by
  have silent {point : MergePoint} (h : point.record? = none) (s : p.State)
      (cs : List (Option Clause)) : Issues (pure s) (records (point.dropped cs)) :=
    (point.records_dropped h cs).symm ▸ .pure s
  cases j with
  | add slot => exact BoolClause.issues_add s slot (Offer.clause? a)
  | addAll slot => exact BoolClause.issues_addAll s slot (a.map Offer.clause?)
  | innerQuery | filter | query => exact silent rfl _ _
  | _ => exact .pure _

namespace Expression

theorem issues_eval (e : Expression p) : e.eval.Issues (records e.dropped) := by
  induction e with
  | origin o => exact .pure _
  | change c e ih => exact ih.bind_pure c.run
  | hold h e ih => exact ih.bind_pure h.run
  | join j e arg ihe iha =>
    rw [dropped, MergePoint.records_append, MergePoint.records_append]
    refine ihe.bind fun l => iha.bind fun l' => ?_
    rw [arg.eval_result]
    exact j.issues_run _ _

theorem dropped_join (j : Joint p .offer) (e : Expression p) (arg : Expression .offer) :
    (join j e arg).dropped =
      e.dropped ++ (arg.dropped ++ if arg.isAbsent then j.point?.toList else []) := by
  have ha : arg.isAbsent = true ↔ Offer.clause? arg.value = none := arg.isAbsent_iff
  have h : j.dropped arg.value = if arg.isAbsent then j.point?.toList else [] := by
    rw [Joint.dropped, Part.handed]
    cases hc : Offer.clause? arg.value <;> cases j.point? <;> simp [MergePoint.dropped, ha, hc]
  rw [dropped, h]

/-- At level trace, an expression reports exactly the absent clauses that were handed to the slots
of a bool, one by one, in the order of the calls. At any other level none of these records passes.
So each dropped clause has a record if and only if all of them were handed to slots. A call that is
handed a clause drops it just if it is absent. -/
theorem dropped_clauses_reported (e : Expression p) (l : Logger) (sink : Sink) :
    (e.eval.logger l).output sink = l.output sink ++
      (if l.sink = sink ∧ l.level = .trace then records e.dropped else []) ∧
    ((records e.dropped).length = e.dropped.length ↔
      ∀ point ∈ e.dropped, ∃ slot, point = .slot slot) ∧
    ∀ (j : Joint p .offer) (arg : Expression .offer), (join j e arg).dropped =
      e.dropped ++ (arg.dropped ++ if arg.isAbsent then j.point?.toList else []) := by
  refine ⟨?_, MergePoint.length_records_iff e.dropped, fun j arg => dropped_join j e arg⟩
  rw [e.issues_eval.output, MergePoint.filter_passes_records, ite_and]

/-- Inner hits, a nested sort and a request each drop an absent clause at level trace, and none of
them reports it. -/
theorem dropped_without_report :
    let hits : Expression .innerHits := .join .innerQuery (.origin .innerHits) (.origin .absent)
    let sort : Expression .nestedSort :=
      .join .filter (.origin (.nestedSort "path")) (.origin .absent)
    let request : Expression .envelope := .join .query (.origin .envelope) (.origin .absent)
    let l : Logger := { level := .trace }
    (hits.dropped.length = 1 ∧ (hits.eval.logger l).received = []) ∧
      (sort.dropped.length = 1 ∧ (sort.eval.logger l).received = []) ∧
      request.dropped.length = 1 ∧ (request.eval.logger l).received = [] :=
  ⟨⟨rfl, rfl⟩, ⟨rfl, rfl⟩, rfl, rfl⟩

end Expression

end SearchRequest
