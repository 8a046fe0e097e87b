import SearchRequest.Proofs.Delivery

/-! # Level and debug mode

The more severe a record is, the more levels let it pass, and at level off none passes. Debug mode
overrides the level, for records of the debug level alone. Switching it on also lowers a level above
debug, and switching it off does not raise it again, so both together are neutral only where there
was nothing to lower.
-/

namespace SearchRequest

theorem Level.loweredIf_true_le (level : Level) : level.loweredIf true ≤ .debug := by
  cases level <;> decide

theorem Level.loweredIf_true_of_le {level : Level} (h : level ≤ .debug) :
    level.loweredIf true = level :=
  if_neg fun hn => Nat.not_lt_of_le h hn.2

namespace Logger

variable (l : Logger) (r : Record) (calls : List Call) (sink : Sink)

/-- The records that calls add to what has gone to a sink. -/
def gained : List Record :=
  ((l.run calls).output sink).drop (l.output sink).length

theorem gained_eq : l.gained calls sink = delivered sink l.settings calls := by
  rw [gained, output_run, List.drop_left]

theorem gained_congr {l l' : Logger} (h : l.settings = l'.settings) :
    l.gained calls sink = l'.gained calls sink := by
  rw [gained_eq, gained_eq, h]

theorem gained_report : l.gained [.report r] sink =
    if l.sink = sink ∧ Passes l.level l.debug r then [r] else [] := by
  have h : (l.run [.report r]).output sink =
      l.output sink ++ if l.sink = sink ∧ Passes l.level l.debug r then [r] else [] :=
    (congrArg (output · sink) (l.report_eq_deliver r)).trans (l.output_deliver r sink)
  rw [gained, h, List.drop_left]

theorem gained_report_eq_nil (h : ¬ Passes l.level l.debug r) :
    l.gained [.report r] sink = [] := by
  rw [gained_report]
  exact if_neg fun hp => h hp.2

/-! ## Severity -/

/-- Debug mode is on while the level is above debug. -/
def Overridden : Prop :=
  l.debug = true ∧ .debug < l.level

instance : Decidable l.Overridden :=
  inferInstanceAs (Decidable (_ ∧ _))

theorem passes_iff (h : ¬ (r.level = .debug ∧ l.Overridden)) :
    Passes l.level l.debug r ↔ r.level ≠ .off ∧ l.level ≤ r.level := by
  constructor
  · rintro (hp | ⟨hr, hd⟩)
    · exact hp
    · refine ⟨by simp [hr], ?_⟩
      by_contra hlt
      rw [hr] at hlt
      exact h ⟨hr, hd, Nat.lt_of_not_le hlt⟩
  · exact .inl

theorem gained_report_eq (h : ¬ (r.level = .debug ∧ l.Overridden)) : l.gained [.report r] sink =
    if l.sink = sink ∧ r.level ≠ .off ∧ l.level ≤ r.level then [r] else [] := by
  rw [gained_report]
  simp only [l.passes_iff r h]

theorem mem_gained_of_le {r r' : Record} (h : ¬ (r.level = .debug ∧ l.Overridden))
    (hr : r ∈ l.gained [.report r] sink) (hle : r.level ≤ r'.level) (hne : r'.level ≠ .off) :
    r' ∈ l.gained [.report r'] sink := by
  rw [gained_report_eq l r sink h] at hr
  split at hr
  · next hp =>
    obtain ⟨hsink, _, hlevel⟩ := hp
    have hp' : Passes l.level l.debug r' := .inl ⟨hne, Nat.le_trans hlevel hle⟩
    rw [gained_report, if_pos ⟨hsink, hp'⟩]
    exact List.mem_singleton_self r'
  · cases hr

section Step

variable {l : Logger} {call : Call} {calls : List Call}

/-- Only a level that is set leads to a level above debug in debug mode. -/
theorem not_overridden_apply (h : ¬ l.Overridden) (hc : call.level? = none) :
    ¬ (l.apply call).Overridden := by
  rintro ⟨hd, hlt⟩
  rw [debug_apply] at hd
  rw [level_apply_of_none _ _ hc] at hlt
  cases hs : call.switchesOn with
  | true =>
    rw [hs] at hlt
    exact Nat.not_le_of_lt hlt l.level.loweredIf_true_le
  | false =>
    rw [hs, Level.loweredIf_false] at hlt
    refine h ⟨?_, hlt⟩
    cases call with
    | setDebug debug => exact absurd (hs.symm.trans hd) Bool.false_ne_true
    | _ => exact hd

theorem not_overridden_run (h : ¬ l.Overridden) (hc : ∀ call ∈ calls, call.level? = none) :
    ¬ (l.run calls).Overridden := by
  induction calls generalizing l with
  | nil => exact h
  | cons call calls ih =>
    obtain ⟨hcall, hcalls⟩ := List.forall_mem_cons.mp hc
    exact ih (not_overridden_apply h hcall) hcalls

end Step

/-- What of a record decides whether this logger lets it pass is how severe it is, but for the
exception that debug mode makes. -/
structure SeverityDecides (l : Logger) : Prop where
  passes (r : Record) (sink : Sink) : ¬ (r.level = .debug ∧ l.Overridden) →
    l.gained [.report r] sink =
      if l.sink = sink ∧ r.level ≠ .off ∧ l.level ≤ r.level then [r] else []
  nothing_off (r : Record) (sink : Sink) : l.level = .off →
    ¬ (r.level = .debug ∧ l.debug = true) → l.gained [.report r] sink = []
  more_severe (r r' : Record) (sink : Sink) : ¬ (r.level = .debug ∧ l.Overridden) →
    r ∈ l.gained [.report r] sink → r.level ≤ r'.level → r'.level ≠ .off →
    r' ∈ l.gained [.report r'] sink
  /-- Only setting a level makes an exception. -/
  not_overridden (later : List Call) : ¬ l.Overridden →
    (∀ call ∈ later, call.level? = none) → ¬ (l.run later).Overridden

/-- In every state that calls lead to from an environment, a record passes if the level lets it, so
with any more severe level it passes too, and at level off none does. The one exception is left to
debug mode: records for debugging while the level is above debug. Only setting a level leads to a
state in which there is such an exception. -/
theorem severity_decides (env : Environment) (calls : List Call) :
    SeverityDecides ((ofConfig (.ofEnvironment env)).run calls) where
  passes r sink := gained_report_eq _ r sink
  nothing_off r sink hl h := by
    refine gained_report_eq_nil _ r sink fun hp => h ?_
    rw [hl, passes_off_iff] at hp
    exact hp
  more_severe r r' sink := mem_gained_of_le _ sink
  not_overridden later := not_overridden_run

/-- A warning passes at level warn, and so does an error. At level off an error does not, and to
switch debug on there makes no exception. -/
theorem severity_decides_warn :
    let warn : Record := ⟨.warn, "t", "m"⟩
    let error : Record := ⟨.error, "t", "m"⟩
    let l := (ofConfig (.ofEnvironment {})).run [.setLevel .warn]
    let off := (ofConfig (.ofEnvironment {})).run [.setLevel .off]
    l.gained [.report warn] .facade = [warn] ∧ error ∈ l.gained [.report error] .facade ∧
      off.gained [.report error] .facade = [] ∧ ¬ (off.run [.setDebug true]).Overridden := by
  intro warn error l off
  have h := severity_decides {} [.setLevel .warn]
  have ho := severity_decides {} [.setLevel .off]
  have hw : l.gained [.report warn] .facade = [warn] := h.passes warn .facade (by decide)
  have hmem : warn ∈ l.gained [.report warn] .facade := by
    rw [hw]
    exact List.mem_singleton_self warn
  have hswitch : ∀ call ∈ [Call.setDebug true], call.level? = none := by simp [Call.level?]
  exact ⟨hw, h.more_severe warn error .facade (by decide) hmem (by decide) (by decide),
    ho.nothing_off error .facade rfl (by decide),
    ho.not_overridden [.setDebug true] (by decide) hswitch⟩

/-- After debug was switched on, a record for debugging passes at level off, and it passes at level
warn where a more severe one does not. -/
theorem overridden_passes :
    let debug : Record := ⟨.debug, "t", "m"⟩
    let info : Record := ⟨.info, "t", "m"⟩
    let l := (ofConfig (.ofEnvironment {})).run [.setDebug true, .setLevel .off]
    let l' := (ofConfig (.ofEnvironment {})).run [.setDebug true, .setLevel .warn]
    (l.level = .off ∧ l.gained [.report debug] .facade = [debug]) ∧
      l'.gained [.report debug] .facade = [debug] ∧ debug.level ≤ info.level ∧
      l'.gained [.report info] .facade = [] := by
  decide

/-! ## Switching debug on and off -/

/-- Debug switched on, records reported, and debug switched off. -/
def switched (between : List Record) : Logger :=
  ((l.setDebug true).run (between.map .report)).setDebug false

theorem settings_switched (between : List Record) :
    (l.switched between).settings = ⟨l.level.loweredIf true, false, l.sink⟩ := by
  have h := (l.setDebug true).settings_run_reports between
  have hlevel := congrArg Settings.level h
  have hsink := congrArg Settings.sink h
  exact Settings.ext ((Level.loweredIf_false _).trans hlevel) rfl hsink

theorem gained_switched (between : List Record) (h : l.debug = false) :
    (l.switched between).gained calls sink =
      (l.setLevel (l.level.loweredIf true)).gained calls sink := by
  refine gained_congr calls sink ((l.settings_switched between).trans ?_)
  rw [← h]
  rfl

/-- A record for debugging tells a lowered level from the one before. -/
theorem level_le_of_gained_switched (between : List Record) (h : l.debug = false)
    (heq : (l.switched between).gained [.report ⟨.debug, "", ""⟩] l.sink =
      l.gained [.report ⟨.debug, "", ""⟩] l.sink) : l.level ≤ .debug := by
  by_contra hlt
  have hn : ¬ Passes l.level l.debug ⟨.debug, "", ""⟩ := by
    rintro (hp | hp)
    · exact hlt hp.2
    · exact Bool.false_ne_true (h.symm.trans hp.2)
  have hp : Passes (l.setLevel (l.level.loweredIf true)).level l.debug ⟨.debug, "", ""⟩ :=
    .inl ⟨by decide, l.level.loweredIf_true_le⟩
  rw [gained_switched _ _ _ _ h, gained_report, if_pos ⟨rfl, hp⟩,
    l.gained_report_eq_nil _ _ hn] at heq
  cases heq

/-- Switching debug on and later off again, with any reports in between, leaves what a state without
debug mode lets pass as it is, but for a level above debug, which is lowered to debug. So it is
neutral for the levels trace and debug, and for no other. -/
theorem debug_on_and_off (l : Logger) (between : List Record) (h : l.debug = false) :
    (∀ (later : List Call) (sink : Sink), (l.switched between).gained later sink =
      (l.setLevel (l.level.loweredIf true)).gained later sink) ∧
    ((∀ (later : List Record) (sink : Sink),
        (l.switched between).gained (later.map .report) sink =
          l.gained (later.map .report) sink) ↔ l.level ≤ .debug) := by
  refine ⟨fun later sink => l.gained_switched later sink between h, ?_, ?_⟩
  · intro heq
    exact l.level_le_of_gained_switched between h (heq [⟨.debug, "", ""⟩] l.sink)
  · intro hle later sink
    rw [l.gained_switched _ sink between h, Level.loweredIf_true_of_le hle]
    rfl

/-- At level trace nothing was lowered. -/
theorem debug_on_and_off_trace :
    let l : Logger := { level := .trace }
    let r : Record := ⟨.trace, "t", "m"⟩
    l.debug = false ∧ l.level ≤ .debug ∧
      (l.switched [r]).gained [.report r] .facade = l.gained [.report r] .facade :=
  ⟨rfl, by decide, (debug_on_and_off { level := .trace } [⟨.trace, "t", "m"⟩] rfl).2.mpr
    (by decide) [⟨.trace, "t", "m"⟩] .facade⟩

/-- At level info a record for debugging passes after debug was switched on and off, and did not
pass before. -/
theorem debug_on_and_off_lowers :
    let l : Logger := {}
    let r : Record := ⟨.debug, "t", "m"⟩
    l.debug = false ∧ (l.switched []).gained [.report r] .facade = [r] ∧
      l.gained [.report r] .facade = [] := by
  decide

end Logger

end SearchRequest
