import SearchRequest.Document.Value

/-! # Nulls in a document

The builders leave out what is not set, so a null in a document stands for a value that cannot be
sent: an explicit null, or a number that is not finite. The first one is reported by its path.
-/

namespace SearchRequest

namespace Json

mutual

/-- The steps from the root to the first null: keys of objects and places in arrays. -/
def nullSteps? : Json → Option (List String)
  | null => some []
  | arr xs => itemNullSteps? 0 xs
  | obj es => entryNullSteps? es
  | bool _ | int _ | float _ | str _ => none

def itemNullSteps? : Nat → List Json → Option (List String)
  | _, [] => none
  | i, x :: xs =>
    match x.nullSteps? with
    | some steps => some (i.repr :: steps)
    | none => itemNullSteps? (i + 1) xs

def entryNullSteps? : List (String × Json) → Option (List String)
  | [] => none
  | (k, x) :: es =>
    match x.nullSteps? with
    | some steps => some (k :: steps)
    | none => entryNullSteps? es

end

mutual

/-- A null stands somewhere in the tree. -/
def hasNull : Json → Bool
  | null => true
  | arr xs => itemsHaveNull xs
  | obj es => entriesHaveNull es
  | bool _ | int _ | float _ | str _ => false

def itemsHaveNull : List Json → Bool
  | [] => false
  | x :: xs => x.hasNull || itemsHaveNull xs

def entriesHaveNull : List (String × Json) → Bool
  | [] => false
  | (_, x) :: es => x.hasNull || entriesHaveNull es

end

end Json

/-- A step before a path. An empty path is taken for the null itself, and adds no dot. -/
def joinStep (step path : String) : String :=
  if path.isEmpty then step else step ++ "." ++ path

def pathText (steps : List String) : String :=
  steps.foldr joinStep ""

def Value.nullPath? (v : Value) : Option String :=
  v.json.nullSteps?.map pathText

end SearchRequest
