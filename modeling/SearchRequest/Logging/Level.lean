import SearchRequest.Text.Blank

/-! # Levels, formats and sinks

How severe a record is, and how and where it is written. Each is read from its name in any letter
case, with white space around it.
-/

namespace SearchRequest

/-- Levels from the least severe on. No record is as severe as `off`. -/
inductive Level | trace | debug | info | warn | error | off
  deriving DecidableEq

namespace Level

def all : List Level := [trace, debug, info, warn, error, off]

def severity : Level → Nat
  | trace => 0
  | debug => 1
  | info => 2
  | warn => 3
  | error => 4
  | off => 5

instance : LE Level := ⟨fun a b => a.severity ≤ b.severity⟩

instance : LT Level := ⟨fun a b => a.severity < b.severity⟩

instance (a b : Level) : Decidable (a ≤ b) := inferInstanceAs (Decidable (a.severity ≤ b.severity))

instance (a b : Level) : Decidable (a < b) := inferInstanceAs (Decidable (a.severity < b.severity))

def name : Level → String
  | trace => "TRACE"
  | debug => "DEBUG"
  | info => "INFO"
  | warn => "WARN"
  | error => "ERROR"
  | off => "OFF"

def initial : Level → Char
  | trace => 'T'
  | debug => 'D'
  | info => 'I'
  | warn => 'W'
  | error => 'E'
  | off => 'O'

def ofName? : String → Option Level
  | "trace" => some trace
  | "debug" => some debug
  | "info" => some info
  | "warn" | "warning" => some warn
  | "error" => some error
  | "off" | "none" => some off
  | _ => none

def parse? (text : String) : Option Level :=
  ofName? (nameForm text)

end Level

/-- The levels of the facade. It has none for `off`. -/
inductive FacadeLevel | trace | debug | info | warn | error
  deriving DecidableEq

def FacadeLevel.name : FacadeLevel → String
  | trace => "TRACE"
  | debug => "DEBUG"
  | info => "INFO"
  | warn => "WARN"
  | error => "ERROR"

/-- The level under which the facade takes records of a level. -/
def Level.facade? : Level → Option FacadeLevel
  | trace => some .trace
  | debug => some .debug
  | info => some .info
  | warn => some .warn
  | error => some .error
  | off => none

theorem Level.isSome_facade?_iff {level : Level} : level.facade?.isSome = true ↔ level ≠ .off := by
  cases level <;> simp [facade?]

/-- How a record becomes a line. -/
inductive Format | compact | json
  deriving DecidableEq

namespace Format

def ofName? : String → Option Format
  | "compact" => some compact
  | "json" => some json
  | _ => none

def parse? (text : String) : Option Format :=
  ofName? (nameForm text)

end Format

/-- Where records go: to the facade of the embedding program, or to the standard error stream. -/
inductive Sink | facade | stderr
  deriving DecidableEq

namespace Sink

def ofName? : String → Option Sink
  | "facade" | "log" => some facade
  | "stderr" => some stderr
  | _ => none

def parse? (text : String) : Option Sink :=
  ofName? (nameForm text)

end Sink

end SearchRequest
