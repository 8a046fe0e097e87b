import SearchRequest.Document.Printer
import SearchRequest.Environment
import SearchRequest.Text.Blank
import SearchRequest.Text.Quoted

/-! # Encoder configuration

Whether the text of a request is indented, and by how much. Both can come from the environment,
where a width that is not a number is an error.
-/

namespace SearchRequest

/-- What keeps a document from its reader: a null at some path, or a writer that fails. -/
inductive EncodeFault where
  | null (path : String)
  | writer (reason : String)
  deriving DecidableEq

def EncodeFault.message : EncodeFault → String
  | null path => "unsupported value at `" ++ path ++ "`: null or non-finite number"
  | writer reason => reason

inductive RequestError where
  | encoding (fault : EncodeFault)
  | width (given : String)
  deriving DecidableEq

def RequestError.message : RequestError → String
  | encoding fault => "Serialization error: " ++ fault.message
  | width given =>
    "Configuration error: ESDSL_INDENT must be a number, got " ++
      String.ofList (Quoted.encode given.toList)

structure EncoderConfig where
  pretty : Bool := false
  indent : UInt64 := 2
  deriving DecidableEq

namespace EncoderConfig

inductive Call where
  | pretty (b : Bool)
  | indent (n : UInt64)

def apply (c : EncoderConfig) : Call → EncoderConfig
  | .pretty b => { c with pretty := b }
  | .indent n => { c with indent := n }

/-- Any width is laid out. Limits of allocation are outside this model: a width that no memory can
hold ends the program, and here it gives a text like any other. -/
def layout (c : EncoderConfig) : Layout :=
  if c.pretty then .indented c.indent.toNat else .compact

/-- A count of at most 64 bits: decimal digits after a plus sign or nothing. -/
def readCount? (s : List Char) : Option UInt64 :=
  let digits := match s with
    | '+' :: rest => rest
    | _ => s
  let n := Nat.ofDigitChars 10 digits 0
  if digits ≠ [] ∧ digits.all Char.isDigit ∧ n < UInt64.size then some (.ofNat n) else none

def ofEnvironment (env : Environment) : Except RequestError EncoderConfig :=
  let pretty := ((env.text? "ESDSL_PRETTY").map isYes).getD false
  match env.text? "ESDSL_INDENT" with
  | none => .ok { pretty }
  | some given =>
    match readCount? (trimBlank given.toList) with
    | some indent => .ok { pretty, indent }
    | none => .error (.width given)

end EncoderConfig

end SearchRequest
