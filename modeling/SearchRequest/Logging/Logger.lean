import SearchRequest.Logging.Config
import SearchRequest.Logging.Record

/-! # The logger

The state of logging, and what has come out of it. A record passes two gates: whoever reports it
asks whether it is wanted before the message is made, and delivery asks again.
-/

namespace SearchRequest

structure Logger where
  level : Level := .info
  debug : Bool := false
  sink : Sink := .facade
  /-- What the facade has received, in order. -/
  received : List Record := []
  /-- What has gone to the standard error stream, in order. -/
  written : List Record := []

namespace Logger

def ofConfig (config : LogConfig) : Logger :=
  { level := config.level, debug := config.debug, sink := config.sink }

variable (l : Logger)

def enables (level : Level) : Bool :=
  level ≠ .off && l.level ≤ level

/-- Whether the message of a record of this level is made at all. -/
def wants (level : Level) : Bool :=
  (level = .debug && l.debug) || l.enables level

def setLevel (level : Level) : Logger :=
  { l with level }

/-- Switching debug on also lowers the level to debug; switching it off leaves the level. -/
def setDebug (debug : Bool) : Logger :=
  { l with debug, level := if debug ∧ .debug < l.level then .debug else l.level }

def setSink (sink : Sink) : Logger :=
  { l with sink }

/-- Deliver a record to the sink, if the facade has its level and that level passes. -/
def deliver (r : Record) : Logger :=
  if r.level.facade?.isSome ∧ (l.enables r.level ∨ (r.level = .debug ∧ l.debug)) then
    match l.sink with
    | .facade => { l with received := l.received ++ [r] }
    | .stderr => { l with written := l.written ++ [r] }
  else l

/-- Deliver a record if it is wanted. -/
def report (r : Record) : Logger :=
  if l.wants r.level then l.deliver r else l

inductive Call where
  | setLevel (level : Level)
  | setDebug (debug : Bool)
  | setSink (sink : Sink)
  | report (r : Record)
  | deliver (r : Record)

def apply (l : Logger) : Call → Logger
  | .setLevel level => l.setLevel level
  | .setDebug debug => l.setDebug debug
  | .setSink sink => l.setSink sink
  | .report r => l.report r
  | .deliver r => l.deliver r

end Logger

/-- A computation that may report records. -/
abbrev Logged := StateM Logger

def report (level : Level) (target message : String) : Logged Unit :=
  modify (·.report ⟨level, target, message⟩)

end SearchRequest
