import SearchRequest.Environment
import SearchRequest.Logging.Level

/-! # Logging configuration

Each part is decided by a variable of its own. A level that is not recognised follows the debug
switch.
-/

namespace SearchRequest

structure LogConfig where
  debug : Bool := false
  level : Level := .info
  format : Format := .compact
  sink : Sink := .facade
  deriving DecidableEq

def LogConfig.ofEnvironment (env : Environment) : LogConfig :=
  let debug := ((env.text? "ESDSL_DEBUG").map isYes).getD false
  { debug
    level := ((env.text? "ESDSL_LOG_LEVEL").bind Level.parse?).getD
      (if debug then .debug else .info)
    format := ((env.text? "ESDSL_LOG_FORMAT").bind Format.parse?).getD .compact
    sink := ((env.text? "ESDSL_LOG_SINK").bind Sink.parse?).getD .facade }

end SearchRequest
