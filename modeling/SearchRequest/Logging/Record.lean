import SearchRequest.Document.Printer
import SearchRequest.Logging.Level

/-! # Log records

A record and its two line forms. The time stamp is given, since it is all that two lines of one
record differ in.
-/

namespace SearchRequest

structure Record where
  level : Level
  target : String
  message : String
  deriving DecidableEq

namespace Record

/-- The time, the initial of the level, the target if there is one, and the message as it is. -/
def compactLine (stamp : String) (r : Record) : String :=
  stamp ++ " " ++ r.level.initial.toString ++ " " ++
    (if r.target.isEmpty then "" else r.target ++ ": ") ++ r.message

/-- A JSON object with its keys in this order. -/
def jsonLine (stamp : String) (r : Record) : String :=
  "\x7b\"timestamp\":" ++ Json.quote stamp ++ ",\"level\":" ++ Json.quote r.level.name ++
    ",\"target\":" ++ Json.quote r.target ++ ",\"message\":" ++ Json.quote r.message ++ "\x7d"

end Record

namespace Format

def line : Format → String → Record → String
  | compact => Record.compactLine
  | json => Record.jsonLine

/-- What a stream shows of records: the line of each one, with the time at which it was written, and
a line break after it. -/
def text (format : Format) (stamps : Nat → String) (rs : List Record) : String :=
  String.join (rs.mapIdx fun i r => format.line (stamps i) r ++ "\n")

end Format

end SearchRequest
