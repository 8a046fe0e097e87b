import SearchRequest.Clause.Attachment
import SearchRequest.Document.Null
import SearchRequest.Encoding.Config
import SearchRequest.Encoding.Writer
import SearchRequest.Envelope

/-! # Encoding

A request is encoded only if its document holds no null, and that is found out before anything is
written. Both outcomes are reported to the logger.
-/

namespace SearchRequest

/-- The value itself, if it can be sent. -/
def Value.checked (v : Value) : Except EncodeFault Value :=
  match v.nullPath? with
  | some path => .error (.null path)
  | none => .ok v

namespace Clause

def serialize (c : Clause) : Except EncodeFault Value :=
  c.document.checked

end Clause

/-- A sort entry on its own is not checked. -/
def SortEntry.serialize (s : SortEntry) : Except EncodeFault Value :=
  .ok s.document

/-- A script on its own is not checked. -/
def Script.serialize (s : Script) : Except EncodeFault Value :=
  .ok s.document

/-- An aggregation on its own is not checked. -/
def Aggregation.serialize (a : Aggregation) : Except EncodeFault Value :=
  .ok a.document

namespace Envelope

def serialize (e : Envelope) : Except EncodeFault Value :=
  e.document.checked

def target : String := "esdsl_query::search"

def reportRejected (path : String) : Logged Unit :=
  report .warn target ("Rejected search document with null at `" ++ path ++ "`")

def reportEncoded (e : Envelope) (config : EncoderConfig) : Logged Unit :=
  report .debug target
    ("Encoded search document (" ++ e.body.size.repr ++ " top-level keys, pretty=" ++
      (if config.pretty then "true" else "false") ++ ")")

/-- Encode into memory. -/
def encode (e : Envelope) (config : EncoderConfig) : Logged (Except RequestError String) := do
  match e.document.nullPath? with
  | some path =>
    reportRejected path
    return .error (.encoding (.null path))
  | none =>
    reportEncoded e config
    return .ok (e.document.text config.layout)

/-- Encode into a writer, which may fail. -/
def writeTo {ω : Type} [Writer ω] (e : Envelope) (config : EncoderConfig) (w : ω) :
    Logged (Except RequestError Unit × ω) := do
  match e.document.nullPath? with
  | some path =>
    reportRejected path
    return (.error (.encoding (.null path)), w)
  | none =>
    match Writer.writeAll w (e.document.pieces config.layout) with
    | (.ok (), w) =>
      reportEncoded e config
      return (.ok (), w)
    | (.error reason, w) => return (.error (.encoding (.writer reason)), w)

def compactText (e : Envelope) : Logged (Except RequestError String) :=
  e.encode {}

def prettyText (e : Envelope) : Logged (Except RequestError String) :=
  e.encode { pretty := true }

end Envelope

end SearchRequest
