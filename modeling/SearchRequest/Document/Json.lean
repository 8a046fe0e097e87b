import SearchRequest.Document.Keyed
import SearchRequest.Number.Double

/-! # JSON trees

Integers and doubles are apart, and no number is infinite. A tree is ordered if every object in it
lists its keys in ascending order.
-/

namespace SearchRequest

/-- A whole number of 64 bits, with or without a sign. -/
structure Integer where
  val : Int
  lower : -9223372036854775808 ≤ val
  upper : val < 18446744073709551616
  deriving DecidableEq

namespace Integer

def ofInt? (n : Int) : Option Integer :=
  if h : -9223372036854775808 ≤ n ∧ n < 18446744073709551616 then some ⟨n, h.1, h.2⟩ else none

def ofUInt32 (n : UInt32) : Integer :=
  ⟨n.toNat, by omega, by have := n.toNat_lt; omega⟩

def ofUInt64 (n : UInt64) : Integer :=
  ⟨n.toNat, by omega, by have := n.toNat_lt; omega⟩

def ofInt64 (n : Int64) : Integer :=
  ⟨n.toInt, by have := n.le_toInt; omega, by have := n.toInt_lt; omega⟩

/-- The decimal digits, after a minus sign if there is one. -/
def text (n : Integer) : String :=
  (if n.val < 0 then "-" else "") ++ String.ofList (Nat.toDigits 10 n.val.natAbs)

end Integer

inductive Json where
  | null
  | bool (b : Bool)
  | int (n : Integer)
  | float (x : FiniteDouble)
  | str (s : String)
  | arr (items : List Json)
  | obj (entries : List (String × Json))
  deriving Inhabited

namespace Json

mutual

/-- Equality of values. An integer never equals a double, and the two zero doubles are equal. -/
def same : Json → Json → Bool
  | null, null => true
  | bool a, bool b => a == b
  | int m, int n => m.val == n.val
  | float x, float y => x == y
  | str s, str t => s == t
  | arr xs, arr ys => sameItems xs ys
  | obj es, obj fs => sameEntries es fs
  | _, _ => false

def sameItems : List Json → List Json → Bool
  | [], [] => true
  | x :: xs, y :: ys => x.same y && sameItems xs ys
  | _, _ => false

def sameEntries : List (String × Json) → List (String × Json) → Bool
  | [], [] => true
  | (k, x) :: es, (l, y) :: fs => k == l && x.same y && sameEntries es fs
  | _, _ => false

end

instance : BEq Json := ⟨same⟩

/-- Every object lists its keys in ascending order, each once. -/
inductive Ordered : Json → Prop
  | null : Ordered null
  | bool (b : Bool) : Ordered (bool b)
  | int (n : Integer) : Ordered (int n)
  | float (x : FiniteDouble) : Ordered (float x)
  | str (s : String) : Ordered (str s)
  | arr {xs : List Json} (items : ∀ x ∈ xs, Ordered x) : Ordered (arr xs)
  | obj {es : List (String × Json)} (keys : Keyed.Ascending es) (values : ∀ e ∈ es, Ordered e.2) :
      Ordered (obj es)

end Json

end SearchRequest
