import SearchRequest.Number.Double
import SearchRequest.Text.Blank

/-! # Decimal numerals

A numeral is a whole coefficient and a power of ten. It is read exactly and rounded once, to the
nearest number of the wanted precision.
-/

namespace SearchRequest

/-- The number `± coefficient * 10 ^ exponent`. -/
structure Numeral where
  negative : Bool
  coefficient : Nat
  exponent : Int
  deriving DecidableEq

namespace Numeral

/-- How many decimal digits the coefficient has. -/
def width (n : Numeral) : Nat :=
  (Nat.toDigits 10 n.coefficient).length

/-- The rank nearest to the size of the numeral. Numerals of 310 places before the point are above
every finite size, and those of 330 zeros after it are nearer to zero than to any other. -/
def rank (p : Precision) (n : Numeral) : Nat :=
  let places := n.width + n.exponent
  if n.coefficient = 0 ∨ places < -330 then 0
  else if 310 < places then p.finite
  else if 0 ≤ n.exponent then p.rank (n.coefficient * Nat.pow 10 n.exponent.toNat) 1
  else p.rank n.coefficient (Nat.pow 10 (-n.exponent).toNat)

def toDouble (n : Numeral) : Double :=
  .ofRank n.negative (n.rank .double)

/-- Rounded to single precision first, then widened. -/
def toSingle (n : Numeral) : Double :=
  .ofSingle n.negative (n.rank .single)

/-- The numeral of the digits before the point, those after it, and the written exponent. -/
def ofParts (negative : Bool) (whole fraction : List Char) (exponent : Int) : Numeral :=
  ⟨negative, Nat.ofDigitChars 10 (whole ++ fraction) 0, exponent - fraction.length⟩

/-- The leading digits of a text, and the rest of it. -/
def spanDigits (s : List Char) : List Char × List Char :=
  (s.takeWhile Char.isDigit, s.dropWhile Char.isDigit)

/-- The digits after a point, none if there is no point. -/
def spanFraction : List Char → List Char × List Char
  | '.' :: s => spanDigits s
  | s => ([], s)

/-- A sign, if there is one. -/
def spanSign : List Char → Bool × List Char
  | '-' :: s => (true, s)
  | '+' :: s => (false, s)
  | s => (false, s)

/-- A written exponent. The digits must be there once the `e` is. -/
def spanExponent? : List Char → Option (Int × List Char)
  | c :: s =>
    if c = 'e' ∨ c = 'E' then
      let (negative, s) := spanSign s
      match spanDigits s with
      | ([], _) => none
      | (digits, rest) =>
        let n : Int := Nat.ofDigitChars 10 digits 0
        some (if negative then -n else n, rest)
    else some (0, c :: s)
  | [] => some (0, [])

/-- Reads `12`, `1.5`, `.5`, `5.`, `1e-3` after the sign; there is at least one digit. -/
def ofUnsigned? (negative : Bool) (s : List Char) : Option Numeral :=
  let (whole, s) := spanDigits s
  let (fraction, s) := spanFraction s
  if whole.isEmpty && fraction.isEmpty then none
  else match spanExponent? s with
    | some (exponent, []) => some (ofParts negative whole fraction exponent)
    | _ => none

end Numeral

/-- A number given as text: a signed numeral, or `inf`, `infinity` and `nan` in any letter case.
`ofNumeral` rounds it. -/
def readNumber? (ofNumeral : Numeral → Double) (text : String) : Option Double :=
  let (negative, s) := Numeral.spanSign text.toList
  let word := lowerCase s
  if word = "inf" ∨ word = "infinity" then some (.infinite negative)
  else if word = "nan" then some .nan
  else (Numeral.ofUnsigned? negative s).map ofNumeral

def Double.read? (text : String) : Option Double :=
  readNumber? Numeral.toDouble text

def Double.readSingle? (text : String) : Option Double :=
  readNumber? Numeral.toSingle text

end SearchRequest
