import SearchRequest.Document.Value
import SearchRequest.Number.Numeral

/-! # Reading JSON

Reads every spelling of a JSON text. A key that is given twice keeps its last value. A number
without point and exponent is an integer if it fits 64 bits; every other number is a double.
-/

namespace SearchRequest.Reader

def isSpace (c : Char) : Bool :=
  c = ' ' || c = '\n' || c = '\r' || c = '\t'

def skipSpace (s : List Char) : List Char :=
  s.dropWhile isSpace

def hexDigit? (c : Char) : Option Nat :=
  if c.isDigit then some (c.toNat - '0'.toNat)
  else if 'a' ≤ c ∧ c ≤ 'f' then some (c.toNat - 'a'.toNat + 10)
  else if 'A' ≤ c ∧ c ≤ 'F' then some (c.toNat - 'A'.toNat + 10)
  else none

def hex4? (a b c d : Char) : Option Nat := do
  let a ← hexDigit? a
  let b ← hexDigit? b
  let c ← hexDigit? c
  let d ← hexDigit? d
  return ((a * 16 + b) * 16 + c) * 16 + d

def isHigh (n : Nat) : Bool := 0xD800 ≤ n && n < 0xDC00

def isLow (n : Nat) : Bool := 0xDC00 ≤ n && n < 0xE000

/-- The character of an escape of one letter. -/
def escaped? (c : Char) : Option Char :=
  if c = '"' ∨ c = '\\' ∨ c = '/' then some c
  else if c = 'b' then some '\x08'
  else if c = 'f' then some '\x0c'
  else if c = 'n' then some '\n'
  else if c = 'r' then some '\r'
  else if c = 't' then some '\t'
  else none

/-- The characters up to the closing quote. A code point beyond 16 bits may be escaped as a pair of
halves; a half alone is refused. -/
def stringBody? : List Char → Option (List Char × List Char)
  | [] => none
  | '"' :: s => some ([], s)
  | '\\' :: 'u' :: a :: b :: c :: d :: s =>
    match hex4? a b c d with
    | none => none
    | some n =>
      if isHigh n then
        match s with
        | '\\' :: 'u' :: a :: b :: c :: d :: s =>
          match hex4? a b c d with
          | some m =>
            if isLow m then
              (stringBody? s).map fun (cs, rest) =>
                (Char.ofNat (0x10000 + (n - 0xD800) * 0x400 + (m - 0xDC00)) :: cs, rest)
            else none
          | none => none
        | _ => none
      else if isLow n then none
      else (stringBody? s).map fun (cs, rest) => (Char.ofNat n :: cs, rest)
  | '\\' :: c :: s =>
    match escaped? c with
    | some e => (stringBody? s).map fun (cs, rest) => (e :: cs, rest)
    | none => none
  | c :: s =>
    if c = '\\' ∨ c.toNat < 0x20 then none
    else (stringBody? s).map fun (cs, rest) => (c :: cs, rest)

/-- A minus sign, if there is one. -/
def spanMinus : List Char → Bool × List Char
  | '-' :: s => (true, s)
  | s => (false, s)

/-- A number has no leading zeros and has digits on both sides of its point. -/
def number? (s : List Char) : Option (Value × List Char) :=
  let (negative, s) := spanMinus s
  let (whole, s) := Numeral.spanDigits s
  if whole.isEmpty || (whole.head? == some '0' && 1 < whole.length) then none
  else
    let (fraction, afterFraction) := Numeral.spanFraction s
    if fraction.isEmpty && s.head? == some '.' then none
    else match Numeral.spanExponent? afterFraction with
      | none => none
      | some (exponent, rest) =>
        let n : Int := Nat.ofDigitChars 10 whole 0
        let written := rest.length == s.length
        match (if written then Integer.ofInt? (if negative then -n else n) else none) with
        | some n => some (.int n, rest)
        | none =>
          match (Numeral.ofParts negative whole fraction exponent).toDouble with
          | .finite x => some (.double (.finite x), rest)
          | _ => none

mutual

/-- A value and the text after it. The fuel bounds the depth and the number of items. -/
def value? : Nat → List Char → Option (Value × List Char)
  | 0, _ => none
  | fuel + 1, s =>
    match skipSpace s with
    | 'n' :: 'u' :: 'l' :: 'l' :: s => some (.null, s)
    | 't' :: 'r' :: 'u' :: 'e' :: s => some (.bool true, s)
    | 'f' :: 'a' :: 'l' :: 's' :: 'e' :: s => some (.bool false, s)
    | '"' :: s => (stringBody? s).map fun (cs, rest) => (.str (String.ofList cs), rest)
    | '[' :: s =>
      match skipSpace s with
      | ']' :: s => some (.arr [], s)
      | s => (items? fuel s).map fun (vs, rest) => (.arr vs, rest)
    | '\x7b' :: s =>
      match skipSpace s with
      | '\x7d' :: s => some (.obj ∅, s)
      | s => (entries? fuel s).map fun (es, rest) => (.obj (.ofList es), rest)
    | s => number? s

/-- One item or more, up to the closing bracket. -/
def items? : Nat → List Char → Option (List Value × List Char)
  | 0, _ => none
  | fuel + 1, s =>
    match value? fuel s with
    | none => none
    | some (v, s) =>
      match skipSpace s with
      | ']' :: s => some ([v], s)
      | ',' :: s => (items? fuel s).map fun (vs, rest) => (v :: vs, rest)
      | _ => none

/-- One entry or more, up to the closing brace. -/
def entries? : Nat → List Char → Option (List (String × Value) × List Char)
  | 0, _ => none
  | fuel + 1, s =>
    match skipSpace s with
    | '"' :: s =>
      match stringBody? s with
      | none => none
      | some (k, s) =>
        match skipSpace s with
        | ':' :: s =>
          match value? fuel s with
          | none => none
          | some (v, s) =>
            match skipSpace s with
            | '\x7d' :: s => some ([(String.ofList k, v)], s)
            | ',' :: s =>
              (entries? fuel s).map fun (es, rest) => ((String.ofList k, v) :: es, rest)
            | _ => none
        | _ => none
    | _ => none

end

end SearchRequest.Reader

namespace SearchRequest

/-- The value that a whole text spells, if it is JSON. -/
def Value.read? (text : String) : Option Value :=
  let s := text.toList
  match Reader.value? (2 * s.length + 2) s with
  | some (v, rest) => if (Reader.skipSpace rest).isEmpty then some v else none
  | none => none

end SearchRequest
