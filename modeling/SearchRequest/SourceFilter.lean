import SearchRequest.Document.Value

/-! # Source filters

Which parts of the stored source come back with a hit: none at all, or the fields of two lists.
-/

namespace SearchRequest

inductive SourceFilter where
  | disabled
  | fields (includes excludes : List String)
  deriving BEq, DecidableEq

namespace SourceFilter

def empty : SourceFilter := .fields [] []

/-- A disabled filter has no fields to keep. -/
def included : SourceFilter → List String
  | disabled => []
  | fields includes _ => includes

def excluded : SourceFilter → List String
  | disabled => []
  | fields _ excludes => excludes

/-- Add fields to return. No fields change nothing; any others enable a disabled filter. -/
def includes (f : SourceFilter) (names : List String) : SourceFilter :=
  if names.isEmpty then f else .fields (f.included ++ names) f.excluded

/-- Add fields to leave out. No fields change nothing; any others enable a disabled filter. -/
def excludes (f : SourceFilter) (names : List String) : SourceFilter :=
  if names.isEmpty then f else .fields f.included (f.excluded ++ names)

def document : SourceFilter → Value
  | disabled => .bool false
  | fields includes excludes =>
    .obj (((∅ : Object).insert? "includes" (Value.arr? (includes.map .str))).insert?
      "excludes" (Value.arr? (excludes.map .str)))

inductive Call where
  | includes (names : List String)
  | excludes (names : List String)

def apply (f : SourceFilter) : Call → SourceFilter
  | .includes names => f.includes names
  | .excludes names => f.excludes names

/-- Add fields to a filter that may not be set yet. -/
def includes? (f : Option SourceFilter) (names : List String) : Option SourceFilter :=
  if names.isEmpty then f else some ((f.getD empty).includes names)

def excludes? (f : Option SourceFilter) (names : List String) : Option SourceFilter :=
  if names.isEmpty then f else some ((f.getD empty).excludes names)

end SourceFilter

end SearchRequest
