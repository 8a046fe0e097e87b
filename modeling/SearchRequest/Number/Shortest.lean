import SearchRequest.Number.Numeral

/-! # Shortest digits

The digits of a double are the fewest that read back as it, and the nearest to it among those.
A size is a whole number of quanta, so it has a finite decimal expansion and each candidate is
a neighbour of that expansion cut after some digits.
-/

namespace SearchRequest

/-- Decimal digits with a point: `0.d₁d₂… * 10 ^ point`. -/
structure Digits where
  digits : List Char
  point : Int
  deriving DecidableEq

namespace Digits

def toNumeral (negative : Bool) (d : Digits) : Numeral :=
  ⟨negative, Nat.ofDigitChars 10 d.digits 0, d.point - d.digits.length⟩

/-- The digits of `n * 10 ^ scale`, without zeros at the end. -/
def ofNat (n : Nat) (scale : Int) : Digits :=
  let all := Nat.toDigits 10 n
  ⟨(all.reverse.dropWhile (· = '0')).reverse, all.length + scale⟩

end Digits

namespace FiniteDouble

/-- `size * 5 ^ 1074` counts units of `10 ^ -1074`. -/
def expansion (x : FiniteDouble) : Nat :=
  x.size * Nat.pow 5 Precision.double.quantum

def readsBack (x : FiniteDouble) (d : Digits) : Bool :=
  (d.toNumeral x.negative).rank .double = x.rank

/-- The nearest to the expansion of its two neighbours of `count` digits that read back. A tie goes
to the even one. -/
def ofCount? (x : FiniteDouble) (count : Nat) : Option Digits :=
  let n := x.expansion
  let cut := (Nat.toDigits 10 n).length - count
  let unit := Nat.pow 10 cut
  let scale : Int := cut - (Precision.double.quantum : Int)
  let below := n / unit
  let near := roundDiv n unit
  let far := if near = below then below + 1 else below
  ([near, far].map (Digits.ofNat · scale)).find? x.readsBack

/-- The shortest digits of a double other than zero. Seventeen are enough; the whole expansion
stands behind them. -/
def shortest (x : FiniteDouble) : Digits :=
  ((List.range' 1 17).findSome? x.ofCount?).getD
    (.ofNat x.expansion (-(Precision.double.quantum : Int)))

end FiniteDouble

/-- Where the digits of a number are written out in place: with the point at most sixteen places to
the right of the first digit and at most four zeros between point and first digit. -/
def Digits.isPositional (d : Digits) : Bool :=
  -5 < d.point && d.point ≤ 16

/-- The text of digits: positional with a point always written, else one digit before the point and
a signed exponent. -/
def Digits.text (d : Digits) : List Char :=
  if d.isPositional then
    if d.point ≤ 0 then
      '0' :: '.' :: (List.replicate (-d.point).toNat '0' ++ d.digits)
    else
      let whole := d.digits.take d.point.toNat
      let rest := d.digits.drop d.point.toNat
      whole ++ List.replicate (d.point.toNat - whole.length) '0' ++
        '.' :: (if rest.isEmpty then ['0'] else rest)
  else
    let exponent := d.point - 1
    let mantissa := match d.digits with
      | c :: rest => c :: (if rest.isEmpty then [] else '.' :: rest)
      | [] => []
    mantissa ++ 'e' :: (if exponent < 0 then '-' else '+') :: Nat.toDigits 10 exponent.natAbs

namespace FiniteDouble

/-- The text of a finite double, always with a point or an exponent. -/
def text (x : FiniteDouble) : List Char :=
  let sign := if x.negative then ['-'] else []
  sign ++ (if x.rank = 0 then ['0', '.', '0'] else x.shortest.text)

end FiniteDouble

end SearchRequest
