import SearchRequest.Logging.Config
import SearchRequest.Proofs.EncoderEnvironment

/-! # Logging configuration from the environment

Each name of a level, a format or a sink is recognised with its letters in any case and with blanks
around it, and nothing else is. The configuration is decided variable by variable: only the level
looks at a second one, the debug switch, and only if no level is recognised in its own.
-/

namespace SearchRequest

/-! ## Names -/

/-- The text is one of these names, with its letters in any case and with blanks around it. -/
def Spells (names : List String) (text : String) : Prop :=
  ∃ name ∈ names, Respells name text

theorem nameForm_mem_iff {names : List String} (h : ∀ name ∈ names, nameForm name = name)
    (text : String) : nameForm text ∈ names ↔ Spells names text := by
  constructor
  · intro ht
    exact ⟨_, ht, (nameForm_eq_iff (h _ ht)).mp rfl⟩
  · rintro ⟨name, hn, hr⟩
    rwa [(nameForm_eq_iff (h name hn)).mpr hr]

/-- The function recognises each value by its names, however these are spelled. -/
structure Recognises {α : Type} (parse? : String → Option α) (names : α → List String) : Prop where
  eq_some_iff (text : String) (a : α) : parse? text = some a ↔ Spells (names a) text
  respelled {s t : String} (h : Respells s t) : parse? t = parse? s

/-- To look up the form of a text recognises all names that are forms. -/
theorem Recognises.of_ofName? {α : Type} {ofName? : String → Option α} {names : α → List String}
    (h : ∀ name a, ofName? name = some a ↔ name ∈ names a)
    (hn : ∀ a, ∀ name ∈ names a, nameForm name = name) :
    Recognises (fun text => ofName? (nameForm text)) names where
  eq_some_iff text a := by rw [h, nameForm_mem_iff (hn a)]
  respelled h := congrArg ofName? h.nameForm_eq

def Level.names : Level → List String
  | trace => ["trace"]
  | debug => ["debug"]
  | info => ["info"]
  | warn => ["warn", "warning"]
  | error => ["error"]
  | off => ["off", "none"]

theorem Level.ofName?_eq_some_iff (name : String) (level : Level) :
    ofName? name = some level ↔ name ∈ level.names := by
  constructor
  · intro h
    unfold ofName? at h
    split at h <;> cases h <;> decide
  · revert name
    cases level <;> decide

theorem Level.recognises : Recognises parse? names :=
  .of_ofName? ofName?_eq_some_iff fun level => by cases level <;> decide

def Format.names : Format → List String
  | compact => ["compact"]
  | json => ["json"]

theorem Format.ofName?_eq_some_iff (name : String) (format : Format) :
    ofName? name = some format ↔ name ∈ format.names := by
  constructor
  · intro h
    unfold ofName? at h
    split at h <;> cases h <;> decide
  · revert name
    cases format <;> decide

theorem Format.recognises : Recognises parse? names :=
  .of_ofName? ofName?_eq_some_iff fun format => by cases format <;> decide

def Sink.names : Sink → List String
  | facade => ["facade", "log"]
  | stderr => ["stderr"]

theorem Sink.ofName?_eq_some_iff (name : String) (sink : Sink) :
    ofName? name = some sink ↔ name ∈ sink.names := by
  constructor
  · intro h
    unfold ofName? at h
    split at h <;> cases h <;> decide
  · revert name
    cases sink <;> decide

theorem Sink.recognises : Recognises parse? names :=
  .of_ofName? ofName?_eq_some_iff fun sink => by cases sink <;> decide

/-! ## Variables -/

namespace Environment

/-- The variable is set to one of these names, however it is spelled. -/
def Names (env : Environment) (key : String) (names : List String) : Prop :=
  ∃ given, env.Sets key given ∧ Spells names given

/-- An environment that sets a level, and nothing else. -/
def ofLevel (given : String) : Environment :=
  ⟨[("ESDSL_LOG_LEVEL", given.toUTF8)]⟩

theorem sets_ofLevel (given : String) : (ofLevel given).Sets "ESDSL_LOG_LEVEL" given :=
  rfl

end Environment

namespace Recognises

variable {α : Type} {parse? : String → Option α} {names : α → List String}
  {env env' : Environment} {key : String} {fallback a : α}

theorem bind_text?_eq_some_iff (h : Recognises parse? names) :
    (env.text? key).bind parse? = some a ↔ env.Names key (names a) := by
  simp only [Option.bind_eq_some_iff, Environment.text?_eq_some_iff, h.eq_some_iff,
    Environment.Names]

theorem getD_eq_iff (h : Recognises parse? names) :
    ((env.text? key).bind parse?).getD fallback = a ↔
      env.Names key (names a) ∨ (∀ b, ¬ env.Names key (names b)) ∧ a = fallback := by
  simp only [← h.bind_text?_eq_some_iff]
  cases (env.text? key).bind parse? with
  | none => simp [eq_comm]
  | some b => simp

theorem bind_text?_congr (h : Recognises parse? names)
    (hr : Option.Rel Respells (env.text? key) (env'.text? key)) :
    (env'.text? key).bind parse? = (env.text? key).bind parse? := by
  generalize env.text? key = x, env'.text? key = y at hr ⊢
  cases hr with
  | none => rfl
  | some hr => exact h.respelled hr

end Recognises

/-! ## The configuration -/

namespace LogConfig

variable {env env' : Environment}

theorem debug_ofEnvironment (env : Environment) :
    (ofEnvironment env).debug = ((env.text? "ESDSL_DEBUG").map isYes).getD false := by
  unfold ofEnvironment
  rfl

theorem level_ofEnvironment (env : Environment) :
    (ofEnvironment env).level = ((env.text? "ESDSL_LOG_LEVEL").bind Level.parse?).getD
      (if (ofEnvironment env).debug then .debug else .info) := by
  unfold ofEnvironment
  rfl

theorem format_ofEnvironment (env : Environment) : (ofEnvironment env).format =
    ((env.text? "ESDSL_LOG_FORMAT").bind Format.parse?).getD .compact := by
  unfold ofEnvironment
  rfl

theorem sink_ofEnvironment (env : Environment) : (ofEnvironment env).sink =
    ((env.text? "ESDSL_LOG_SINK").bind Sink.parse?).getD .facade := by
  unfold ofEnvironment
  rfl

/-- To spell a name in another way configures nothing else. -/
theorem ofEnvironment_congr (hd : env'.text? "ESDSL_DEBUG" = env.text? "ESDSL_DEBUG")
    (h : ∀ key ∈ ["ESDSL_LOG_LEVEL", "ESDSL_LOG_FORMAT", "ESDSL_LOG_SINK"],
      Option.Rel Respells (env.text? key) (env'.text? key)) :
    ofEnvironment env' = ofEnvironment env := by
  have hl := Level.recognises.bind_text?_congr (h "ESDSL_LOG_LEVEL" (by decide))
  have hf := Format.recognises.bind_text?_congr (h "ESDSL_LOG_FORMAT" (by decide))
  have hs := Sink.recognises.bind_text?_congr (h "ESDSL_LOG_SINK" (by decide))
  simp only [ofEnvironment, hd, hl, hf, hs]

/-- The debug switch, the format and the sink are told from one variable each, and the level from
its own if that names one, else from the debug switch. In which case a name is written and with
what blanks around it makes no difference to what is recognised, and none to what an environment
configures. -/
theorem ofEnvironment_decided (env : Environment) :
    ((ofEnvironment env).debug = true ↔
      ∃ given, env.Sets "ESDSL_DEBUG" given ∧ EncoderConfig.Affirms given) ∧
    (∀ format, (ofEnvironment env).format = format ↔
      env.Names "ESDSL_LOG_FORMAT" format.names ∨
        (∀ other : Format, ¬ env.Names "ESDSL_LOG_FORMAT" other.names) ∧ format = .compact) ∧
    (∀ sink, (ofEnvironment env).sink = sink ↔
      env.Names "ESDSL_LOG_SINK" sink.names ∨
        (∀ other : Sink, ¬ env.Names "ESDSL_LOG_SINK" other.names) ∧ sink = .facade) ∧
    (∀ level, (ofEnvironment env).level = level ↔
      env.Names "ESDSL_LOG_LEVEL" level.names ∨
        (∀ other : Level, ¬ env.Names "ESDSL_LOG_LEVEL" other.names) ∧
          level = if (ofEnvironment env).debug then .debug else .info) ∧
    (∀ s t : String, Respells s t → Level.parse? t = Level.parse? s ∧
      Format.parse? t = Format.parse? s ∧ Sink.parse? t = Sink.parse? s) ∧
    ∀ env' : Environment, env'.text? "ESDSL_DEBUG" = env.text? "ESDSL_DEBUG" →
      (∀ key ∈ ["ESDSL_LOG_LEVEL", "ESDSL_LOG_FORMAT", "ESDSL_LOG_SINK"],
        Option.Rel Respells (env.text? key) (env'.text? key)) →
      ofEnvironment env' = ofEnvironment env := by
  refine ⟨?_, fun format => ?_, fun sink => ?_, fun level => ?_, fun s t h => ?_,
    fun env' => ofEnvironment_congr⟩
  · rw [debug_ofEnvironment]
    exact EncoderConfig.isYes_text?_iff "ESDSL_DEBUG"
  · rw [format_ofEnvironment]
    exact Format.recognises.getD_eq_iff
  · rw [sink_ofEnvironment]
    exact Sink.recognises.getD_eq_iff
  · rw [level_ofEnvironment]
    exact Level.recognises.getD_eq_iff
  · exact ⟨Level.recognises.respelled h, Format.recognises.respelled h,
      Sink.recognises.respelled h⟩

/-- A second name of the level warn, with capitals, a wide space and a line break. -/
theorem ofEnvironment_decided_warning :
    Respells "warning" "\u2003WarninG\n" ∧
    Level.parse? "\u2003WarninG\n" = Level.parse? "warning" ∧
    (ofEnvironment (.ofLevel "warning")).level = .warn ∧
    ofEnvironment (.ofLevel "\u2003WarninG\n") = ofEnvironment (.ofLevel "warning") := by
  have hr : Respells "warning" "\u2003WarninG\n" := (nameForm_eq_iff (by decide)).mp (by decide)
  have hself : Respells "warning" "warning" := (nameForm_eq_iff (by decide)).mp (by decide)
  obtain ⟨-, -, -, hlevel, hparse, hcongr⟩ := ofEnvironment_decided (.ofLevel "warning")
  refine ⟨hr, (hparse _ _ hr).1, (hlevel .warn).mpr (.inl ?_), hcongr _ rfl ?_⟩
  · exact ⟨"warning", Environment.sets_ofLevel _, "warning", by decide, hself⟩
  · intro key hk
    simp only [List.mem_cons, List.not_mem_nil, or_false] at hk
    rcases hk with rfl | rfl | rfl
    · rw [Environment.text?_eq_some_iff.mpr (Environment.sets_ofLevel _),
        Environment.text?_eq_some_iff.mpr (Environment.sets_ofLevel _)]
      exact .some hr
    · exact .none
    · exact .none

end LogConfig

end SearchRequest
