import SearchRequest.Document.Value

/-! # Vocabulary

The closed sets of words that a request may use, each with its spelling in a document.
-/

namespace SearchRequest

/-- A closed set of words, listed in the order of their declaration. -/
class Word (α : Type) where
  all : List α
  spelling : α → String

def Word.value {α : Type} [Word α] (a : α) : Value :=
  .str (Word.spelling a)

/-- How the terms of a text are joined. -/
inductive Operator | or | and
  deriving DecidableEq

instance : Word Operator where
  all := [.or, .and]
  spelling
    | .or => "or"
    | .and => "and"

/-- What a text without terms matches. -/
inductive ZeroTerms | all | none
  deriving DecidableEq

instance : Word ZeroTerms where
  all := [.all, .none]
  spelling
    | .all => "all"
    | .none => "none"

/-- How the scores of several fields combine. -/
inductive TextStrategy | bestFields | mostFields | crossFields | phrase | phrasePrefix | boolPrefix
  deriving DecidableEq

instance : Word TextStrategy where
  all := [.bestFields, .mostFields, .crossFields, .phrase, .phrasePrefix, .boolPrefix]
  spelling
    | .bestFields => "best_fields"
    | .mostFields => "most_fields"
    | .crossFields => "cross_fields"
    | .phrase => "phrase"
    | .phrasePrefix => "phrase_prefix"
    | .boolPrefix => "bool_prefix"

/-- How the scores of nested documents combine. -/
inductive ScoreMode | avg | max | min | none | sum
  deriving DecidableEq

instance : Word ScoreMode where
  all := [.avg, .max, .min, .none, .sum]
  spelling
    | .avg => "avg"
    | .max => "max"
    | .min => "min"
    | .none => "none"
    | .sum => "sum"

inductive SortOrder | asc | desc | byDefault
  deriving DecidableEq

instance : Word SortOrder where
  all := [.asc, .desc, .byDefault]
  spelling
    | .asc => "asc"
    | .desc => "desc"
    | .byDefault => "_default"

/-- How several values of a field become one sort key. -/
inductive SortMode | min | max | sum | avg | median | byDefault
  deriving DecidableEq

instance : Word SortMode where
  all := [.min, .max, .sum, .avg, .median, .byDefault]
  spelling
    | .min => "min"
    | .max => "max"
    | .sum => "sum"
    | .avg => "avg"
    | .median => "median"
    | .byDefault => "_default"

/-- How a range field relates to the range that is asked for. -/
inductive RangeRelation | within | contains | intersects
  deriving DecidableEq

instance : Word RangeRelation where
  all := [.within, .contains, .intersects]
  spelling
    | .within => "within"
    | .contains => "contains"
    | .intersects => "intersects"

inductive ScriptLanguage | painless | expression | mustache | java
  deriving DecidableEq

instance : Word ScriptLanguage where
  all := [.painless, .expression, .mustache, .java]
  spelling
    | .painless => "painless"
    | .expression => "expression"
    | .mustache => "mustache"
    | .java => "java"

inductive CollectMode | breadthFirst | depthFirst
  deriving DecidableEq

instance : Word CollectMode where
  all := [.breadthFirst, .depthFirst]
  spelling
    | .breadthFirst => "breadth_first"
    | .depthFirst => "depth_first"

inductive ExecutionHint | map | globalOrdinals | fieldData
  deriving DecidableEq

instance : Word ExecutionHint where
  all := [.map, .globalOrdinals, .fieldData]
  spelling
    | .map => "map"
    | .globalOrdinals => "global_ordinals"
    | .fieldData => "fielddata"

end SearchRequest
