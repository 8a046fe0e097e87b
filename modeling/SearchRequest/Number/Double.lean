/-! # Double-precision numbers

A finite double is a sign and a rank, the place of its size in the ascending list of finite sizes.
Sizes are counted in quanta, the smallest positive size, so every size is an exact natural number.
-/

namespace SearchRequest

/-- The natural number nearest to `n / d`; a half goes to the even neighbour. -/
def roundDiv (n d : Nat) : Nat :=
  let q := n / d
  let r := n % d
  if 2 * r < d then q else if d < 2 * r then q + 1 else q + q % 2

/-- The number of binary digits, none for zero. -/
def bitLength (n : Nat) : Nat :=
  if n = 0 then 0 else n.log2 + 1

/-- A family of binary floating-point sizes: `fraction` binary digits after the leading one, quanta
of `2 ^ -quantum`, and `finite` ranks below infinity. -/
structure Precision where
  fraction : Nat
  quantum : Nat
  finite : Nat

namespace Precision

def double : Precision := ⟨52, 1074, 2047 * Nat.pow 2 52⟩

def single : Precision := ⟨23, 149, 255 * Nat.pow 2 23⟩

variable (p : Precision)

/-- How many sizes there are from one power of two to the next. -/
def blockLength : Nat :=
  Nat.pow 2 p.fraction

/-- The size at a rank, in quanta: a block of ranks to each power of two, and one more block of the
same length at the bottom. -/
def size (rank : Nat) : Nat :=
  let block := rank / p.blockLength
  if block = 0 then rank else (rank % p.blockLength + p.blockLength) * Nat.pow 2 (block - 1)

/-- The rank of the size nearest to `num / den`; a half goes to the even rank. -/
def rank (num den : Nat) : Nat :=
  let quanta := num * Nat.pow 2 p.quantum
  let excess := bitLength (quanta / den) - (p.fraction + 1)
  excess * p.blockLength + roundDiv quanta (den * Nat.pow 2 excess)

end Precision

/-- A finite double. Zero has two of them, one of each sign. -/
structure FiniteDouble where
  negative : Bool
  rank : Nat
  rank_lt : rank < Precision.double.finite
  deriving DecidableEq

namespace FiniteDouble

/-- Equality of numbers: the two zeros are one number. -/
instance : BEq FiniteDouble where
  beq x y := x.rank == y.rank && (x.negative == y.negative || x.rank == 0)

/-- The size in quanta of `2 ^ -1074`. -/
def size (x : FiniteDouble) : Nat :=
  Precision.double.size x.rank

end FiniteDouble

inductive Double where
  | finite (x : FiniteDouble)
  | infinite (negative : Bool)
  | nan
  deriving DecidableEq

namespace Double

def ofRank (negative : Bool) (rank : Nat) : Double :=
  if h : rank < Precision.double.finite then .finite ⟨negative, rank, h⟩ else .infinite negative

/-- The double nearest to `num / den`. -/
def ofRatio (negative : Bool) (num den : Nat) : Double :=
  ofRank negative (Precision.double.rank num den)

def ofInt (n : Int) : Double :=
  ofRatio (n < 0) n.natAbs 1

/-- The double of the same value as a single-precision rank. -/
def ofSingle (negative : Bool) (rank : Nat) : Double :=
  if rank < Precision.single.finite then
    ofRatio negative (Precision.single.size rank) (Nat.pow 2 Precision.single.quantum)
  else .infinite negative

end Double

end SearchRequest
