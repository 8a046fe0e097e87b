import SearchRequest.Options
import SearchRequest.Vocabulary

/-! # Ranges

A range has at most one lower and one upper bound. A later bound of a side takes the place of the
earlier one, whether or not it includes its value.
-/

namespace SearchRequest

inductive Side | lower | upper
  deriving DecidableEq

/-- The names under which a bound can be given. -/
inductive Comparison
  | greaterThan | greaterThanOrEqual
  | lessThan | lessThanOrEqual
  | lesserThan | lesserThanOrEqual
  | gt | gte | lt | lte
  deriving DecidableEq

namespace Comparison

def all : List Comparison :=
  [greaterThan, greaterThanOrEqual, lessThan, lessThanOrEqual, lesserThan, lesserThanOrEqual,
    gt, gte, lt, lte]

def name : Comparison → String
  | greaterThan => "greater_than"
  | greaterThanOrEqual => "greater_than_or_equal"
  | lessThan => "less_than"
  | lessThanOrEqual => "less_than_or_equal"
  | lesserThan => "lesser_than"
  | lesserThanOrEqual => "lesser_than_or_equal"
  | gt => "gt"
  | gte => "gte"
  | lt => "lt"
  | lte => "lte"

def side : Comparison → Side
  | greaterThan | greaterThanOrEqual | gt | gte => .lower
  | lessThan | lessThanOrEqual | lesserThan | lesserThanOrEqual | lt | lte => .upper

def inclusive : Comparison → Bool
  | greaterThanOrEqual | lessThanOrEqual | lesserThanOrEqual | gte | lte => true
  | greaterThan | lessThan | lesserThan | gt | lt => false

/-- The key that a bound of this name is written under. -/
def key : Comparison → String
  | greaterThan | gt => "gt"
  | greaterThanOrEqual | gte => "gte"
  | lessThan | lesserThan | lt => "lt"
  | lessThanOrEqual | lesserThanOrEqual | lte => "lte"

/-- The key that it clears. -/
def rival : Comparison → String
  | greaterThan | gt => "gte"
  | greaterThanOrEqual | gte => "gt"
  | lessThan | lesserThan | lt => "lte"
  | lessThanOrEqual | lesserThanOrEqual | lte => "lt"

end Comparison

structure Bound where
  inclusive : Bool
  value : Value
  deriving BEq

def Bound.key : Side → Bool → String
  | .lower, false => "gt"
  | .lower, true => "gte"
  | .upper, false => "lt"
  | .upper, true => "lte"

inductive RangeSetting where
  | start (v : Value)
  | stop (v : Value)
  | format (s : String)
  | timeZone (s : String)
  | boost (b : Double)
  | relation (r : RangeRelation)

instance : Setting RangeSetting where
  entry
    | .start v => ("from", v)
    | .stop v => ("to", v)
    | .format s => ("format", .str s)
    | .timeZone s => ("time_zone", .str s)
    | .boost b => ("boost", .double b)
    | .relation r => ("relation", Word.value r)

structure Range where
  field : String
  lower : Option Bound := none
  upper : Option Bound := none
  options : Options RangeSetting := ∅
  deriving BEq

namespace Range

inductive Call where
  | compare (c : Comparison) (v : Value)
  | set (s : RangeSetting)

def bound (r : Range) : Side → Option Bound
  | .lower => r.lower
  | .upper => r.upper

def apply (r : Range) : Call → Range
  | .compare c v =>
    match c.side with
    | .lower => { r with lower := some ⟨c.inclusive, v⟩ }
    | .upper => { r with upper := some ⟨c.inclusive, v⟩ }
  | .set s => { r with options := r.options.set s }

/-- Put the bound of a side among other entries, if there is one. -/
def insertBound (r : Range) (side : Side) (o : Object) : Object :=
  match r.bound side with
  | some b => o.insert (Bound.key side b.inclusive) b.value
  | none => o

/-- The bounds and options of the field. -/
def bounds (r : Range) : Object :=
  r.insertBound .upper (r.insertBound .lower r.options.object)

def body (r : Range) : Object :=
  (∅ : Object).insert r.field (.obj r.bounds)

end Range

/-- The other form of a range: a field and one object, in which every call writes under keys of its
own choice. -/
structure KeyedRange where
  field : String
  entries : Object := ∅

namespace KeyedRange

/-- A bound is put under its key and clears the rival one; an option is put under its own. -/
def apply (r : KeyedRange) : Range.Call → KeyedRange
  | .compare c v => { r with entries := (r.entries.insert c.key v).erase c.rival }
  | .set s => { r with entries := r.entries.insert (Setting.key s) (Setting.value s) }

def body (r : KeyedRange) : Object :=
  (∅ : Object).insert r.field (.obj r.entries)

end KeyedRange

/-- The range as it is written. -/
def Range.keyed (r : Range) : KeyedRange :=
  ⟨r.field, r.bounds⟩

end SearchRequest
