import Mathlib.Data.List.DropRight
import SearchRequest.Proofs.LogIndependence
import SearchRequest.Proofs.Runs

/-! # Delivery of records

What a sink receives over a run of calls is told from the calls alone: a record goes to the sink
that was set last, if the level and the debug flag that the calls before it have led to let it pass.
The two gates on its way ask for the same.
-/

namespace SearchRequest

/-- A level above debug becomes debug once that is switched on. -/
def Level.loweredIf (level : Level) (switched : Bool) : Level :=
  if switched = true ∧ .debug < level then .debug else level

@[simp] theorem Level.loweredIf_false (level : Level) : level.loweredIf false = level :=
  if_neg fun h => Bool.false_ne_true h.1

theorem Level.loweredIf_loweredIf (level : Level) (a b : Bool) :
    (level.loweredIf a).loweredIf b = level.loweredIf (a || b) := by
  cases level <;> cases a <;> cases b <;> rfl

namespace Logger

def run (l : Logger) (calls : List Call) : Logger :=
  calls.foldl apply l

/-- The records that have gone to a sink, in order. -/
def output (l : Logger) : Sink → List Record
  | .facade => l.received
  | .stderr => l.written

/-! ## What calls give -/

namespace Call

def level? : Call → Option Level
  | setLevel level => some level
  | _ => none

def debug? : Call → Option Bool
  | setDebug debug => some debug
  | _ => none

def sink? : Call → Option Sink
  | setSink sink => some sink
  | _ => none

def switchesOn : Call → Bool
  | setDebug debug => debug
  | _ => false

/-- The record that is issued, by a report or straight to delivery. -/
def record? : Call → Option Record
  | report r | deliver r => some r
  | _ => none

end Call

/-- The calls since the last one that set a level, or all of them. -/
def sinceLevel (calls : List Call) : List Call :=
  calls.rtakeWhile fun call => call.level?.isNone

/-- The level that was set last, lowered to debug if debug was switched on since. -/
def levelAfter (start : Level) (calls : List Call) : Level :=
  ((calls.filterMap Call.level?).getLast?.getD start).loweredIf
    ((sinceLevel calls).any Call.switchesOn)

def settingsAfter (start : Settings) (calls : List Call) : Settings where
  level := levelAfter start.level calls
  debug := (calls.filterMap Call.debug?).getLast?.getD start.debug
  sink := (calls.filterMap Call.sink?).getLast?.getD start.sink

/-- A record of at least the level passes, and one for debugging also while the debug flag is on. -/
def Passes (level : Level) (debug : Bool) (r : Record) : Prop :=
  (r.level ≠ .off ∧ level ≤ r.level) ∨ (r.level = .debug ∧ debug = true)

instance (level : Level) (debug : Bool) (r : Record) : Decidable (Passes level debug r) :=
  inferInstanceAs (Decidable (_ ∨ _))

/-- At level off, debug mode is all that lets a record pass. -/
theorem passes_off_iff (debug : Bool) (r : Record) :
    Passes .off debug r ↔ r.level = .debug ∧ debug = true := by
  refine or_iff_right fun ⟨hne, hle⟩ => hne ?_
  cases h : r.level with
  | off => rfl
  | _ => rw [h] at hle; exact absurd hle (by decide)

/-- The least severe records pass at the least level only. -/
theorem passes_iff_of_trace {level : Level} {debug : Bool} {r : Record} (h : r.level = .trace) :
    Passes level debug r ↔ level = .trace := by
  rw [Passes, h]
  cases level <;> decide +revert

/-- The record that a call sends to a sink, if there is one. -/
def sent (sink : Sink) (s : Settings) (call : Call) : List Record :=
  match call.record? with
  | some r => if s.sink = sink ∧ Passes s.level s.debug r then [r] else []
  | none => []

/-- The records that calls send to a sink, each under the settings that the calls before led to. -/
def delivered (sink : Sink) (start : Settings) (calls : List Call) : List Record :=
  calls.zipIdx.flatMap fun p => sent sink (settingsAfter start (calls.take p.2)) p.1

/-! ## Gates -/

section Gates

variable (l : Logger) (r : Record)

theorem wants_iff : l.wants r.level = true ↔ Passes l.level l.debug r := by
  simp only [wants, Passes, enables, Bool.or_eq_true, Bool.and_eq_true, decide_eq_true_eq]
  exact or_comm

theorem delivers_iff :
    r.level.facade?.isSome = true ∧
      (l.enables r.level = true ∨ (r.level = .debug ∧ l.debug = true)) ↔
      Passes l.level l.debug r := by
  simp only [Passes, enables, Level.isSome_facade?_iff, Bool.and_eq_true, decide_eq_true_eq]
  constructor
  · rintro ⟨_, h | h⟩
    · exact .inl h
    · exact .inr h
  · rintro (h | h)
    · exact ⟨h.1, .inl h⟩
    · exact ⟨by simp [h.1], .inr h⟩

theorem deliver_of_not_passes (h : ¬ Passes l.level l.debug r) : l.deliver r = l :=
  if_neg (mt (l.delivers_iff r).mp h)

/-- The first gate keeps nothing back that the second one would let through. -/
theorem report_eq_deliver : l.report r = l.deliver r := by
  rw [report]
  split
  · rfl
  · next h => exact (l.deliver_of_not_passes r (mt (l.wants_iff r).mpr h)).symm

theorem output_deliver (sink : Sink) : (l.deliver r).output sink =
    l.output sink ++ if l.sink = sink ∧ Passes l.level l.debug r then [r] else [] := by
  by_cases h : Passes l.level l.debug r
  · rw [deliver, if_pos ((l.delivers_iff r).mpr h)]
    cases hs : l.sink <;> cases sink <;> simp [output, h]
  · rw [l.deliver_of_not_passes r h, if_neg fun hn => h hn.2, List.append_nil]

end Gates

/-! ## One call -/

section Step

variable (l : Logger) (call : Call)

theorem output_apply (sink : Sink) :
    (l.apply call).output sink = l.output sink ++ sent sink l.settings call := by
  cases call with
  | report r =>
    rw [apply, report_eq_deliver]
    exact l.output_deliver r sink
  | deliver r => exact l.output_deliver r sink
  | _ => cases sink <;> exact (List.append_nil _).symm

theorem debug_apply : (l.apply call).debug = call.debug?.getD l.debug := by
  cases call with
  | report r => exact congrArg Settings.debug (l.settings_report r)
  | deliver r => exact congrArg Settings.debug (l.settings_deliver r)
  | _ => rfl

theorem sink_apply : (l.apply call).sink = call.sink?.getD l.sink := by
  cases call with
  | report r => exact congrArg Settings.sink (l.settings_report r)
  | deliver r => exact congrArg Settings.sink (l.settings_deliver r)
  | _ => rfl

theorem level_apply_of_level {level : Level} (h : call.level? = some level) :
    (l.apply call).level = level := by
  cases call with
  | setLevel _ => exact Option.some.inj h
  | _ => cases h

theorem level_apply_of_none (h : call.level? = none) :
    (l.apply call).level = l.level.loweredIf call.switchesOn := by
  cases call with
  | setLevel _ => cases h
  | setDebug debug => rfl
  | setSink sink => exact l.level.loweredIf_false.symm
  | report r =>
    exact (congrArg Settings.level (l.settings_report r)).trans l.level.loweredIf_false.symm
  | deliver r =>
    exact (congrArg Settings.level (l.settings_deliver r)).trans l.level.loweredIf_false.symm

end Step

/-! ## A run -/

section Run

variable (l : Logger) (calls : List Call)

theorem run_concat (call : Call) : l.run (calls ++ [call]) = (l.run calls).apply call :=
  List.foldl_append

/-- By induction from the last call, because switching debug on counts from the last level on. -/
theorem level_run : (l.run calls).level = levelAfter l.level calls := by
  induction calls using List.reverseRecOn with
  | nil => exact l.level.loweredIf_false.symm
  | append_singleton calls call ih =>
    rw [run_concat]
    cases h : call.level? with
    | some level =>
      have hs : sinceLevel (calls ++ [call]) = [] :=
        List.rtakeWhile_concat_neg _ _ _ (by rw [h]; exact Bool.false_ne_true)
      simp [level_apply_of_level _ _ h, levelAfter, hs, h]
    | none =>
      have hs : sinceLevel (calls ++ [call]) = sinceLevel calls ++ [call] :=
        List.rtakeWhile_concat_pos _ _ _ (by rw [h]; rfl)
      rw [level_apply_of_none _ _ h, ih, levelAfter, levelAfter, Level.loweredIf_loweredIf, hs]
      simp [h]

theorem settings_run : (l.run calls).settings = settingsAfter l.settings calls := by
  have hd := latest_of_run (·.debug) debug_apply l calls
  have hs := latest_of_run (·.sink) sink_apply l calls
  exact Settings.ext (l.level_run calls) hd hs

theorem output_run (sink : Sink) :
    (l.run calls).output sink = l.output sink ++ delivered sink l.settings calls := by
  have h := added_of_run (output · sink) (fun l call => l.output_apply call sink) l calls
  rw [delivered]
  simp only [← settings_run]
  exact h

end Run

/-! ## A run of reports -/

section Reports

variable (l : Logger) (rs : List Record)

theorem settings_run_reports : (l.run (rs.map .report)).settings = l.settings := by
  induction rs generalizing l with
  | nil => rfl
  | cons r rs ih => exact (ih (l.report r)).trans (l.settings_report r)

/-- No report changes what passes, so the records that pass are told from the start. -/
theorem output_run_reports (sink : Sink) : (l.run (rs.map .report)).output sink =
    l.output sink ++ if l.sink = sink then rs.filter (Passes l.level l.debug ·) else [] := by
  induction rs generalizing l with
  | nil => simp [run]
  | cons r rs ih =>
    have hs := l.settings_report r
    have hlevel : (l.report r).level = l.level := congrArg Settings.level hs
    have hdebug : (l.report r).debug = l.debug := congrArg Settings.debug hs
    have hsink : (l.report r).sink = l.sink := congrArg Settings.sink hs
    have hr : (l.run ((r :: rs).map .report)).output sink =
        ((l.report r).run (rs.map .report)).output sink := rfl
    rw [hr, ih, hlevel, hdebug, hsink, report_eq_deliver, output_deliver, List.append_assoc]
    by_cases h : l.sink = sink <;> by_cases hp : Passes l.level l.debug r <;> simp [h, hp]

end Reports

example : delivered .facade ⟨.info, false, .facade⟩
    [.report ⟨.debug, "t", "a"⟩, .setDebug true, .report ⟨.debug, "t", "b"⟩, .setLevel .off,
      .report ⟨.debug, "t", "c"⟩, .report ⟨.error, "t", "d"⟩, .setDebug false,
      .setSink .stderr, .setLevel .trace, .report ⟨.error, "t", "e"⟩] =
    [⟨.debug, "t", "b"⟩, ⟨.debug, "t", "c"⟩] :=
  rfl

end Logger

end SearchRequest
