import SearchRequest.Script

/-! # Aggregations

A node has a kind with parameters, metadata entries, and named children of any depth. A later child
takes the place of an earlier one of its name.
-/

namespace SearchRequest

inductive TermSourceSetting where
  | missing (v : Value)

instance : Setting TermSourceSetting where
  entry
    | .missing v => ("missing", v)

/-- One field of a combination of several. -/
abbrev TermSource := Builder String TermSourceSetting

def TermSource.document (t : TermSource) : Value :=
  .obj (t.optionsWith "field" (.str t.parts))

/-- A rule by which buckets are ordered. -/
structure BucketOrder where
  key : String
  order : SortOrder
  deriving DecidableEq

def BucketOrder.document (b : BucketOrder) : Value :=
  .entry b.key (Word.value b.order)

/-- The kinds that aggregate over one field or path. -/
inductive FieldKind
  | terms | nested | avg | min | max | sum | stats | extendedStats | cardinality
  deriving DecidableEq

namespace FieldKind

def all : List FieldKind :=
  [terms, nested, avg, min, max, sum, stats, extendedStats, cardinality]

def name : FieldKind → String
  | terms => "terms"
  | nested => "nested"
  | avg => "avg"
  | min => "min"
  | max => "max"
  | sum => "sum"
  | stats => "stats"
  | extendedStats => "extended_stats"
  | cardinality => "cardinality"

def parameter : FieldKind → String
  | nested => "path"
  | _ => "field"

end FieldKind

inductive AggregationSetting where
  | size (n : UInt32)
  | shardSize (n : UInt32)
  | minDocCount (n : UInt64)
  | missing (v : Value)
  | executionHint (h : ExecutionHint)
  | collectMode (m : CollectMode)
  | showTermDocCountError (b : Bool)
  | ignoreUnmapped (b : Bool)
  | format (s : String)
  | precisionThreshold (n : UInt64)
  | script (s : Script)
  | including (names : List String)
  | excluding (names : List String)
  | order (orders : List BucketOrder)

instance : Setting AggregationSetting where
  entry
    | .size n => ("size", .uint32 n)
    | .shardSize n => ("shard_size", .uint32 n)
    | .minDocCount n => ("min_doc_count", .uint64 n)
    | .missing v => ("missing", v)
    | .executionHint h => ("execution_hint", Word.value h)
    | .collectMode m => ("collect_mode", Word.value m)
    | .showTermDocCountError b => ("show_term_doc_count_error", .bool b)
    | .ignoreUnmapped b => ("ignore_unmapped", .bool b)
    | .format s => ("format", .str s)
    | .precisionThreshold n => ("precision_threshold", .uint64 n)
    | .script s => ("script", s.document)
    | .including names => ("include", .strs names)
    | .excluding names => ("exclude", .strs names)
    | .order orders => ("order", .arr (orders.map BucketOrder.document))

structure Aggregation where
  kind : String
  body : Object
  metadata : Object
  children : List (String × Aggregation)

namespace Aggregation

def custom (kind : String) (body : Object) : Aggregation :=
  ⟨kind, body, ∅, []⟩

def onField (kind : FieldKind) (name : String) : Aggregation :=
  custom kind.name ((∅ : Object).insert kind.parameter (.str name))

def multiTerms (sources : List TermSource) : Aggregation :=
  custom "multi_terms" ((∅ : Object).insert "terms" (.arr (sources.map TermSource.document)))

def set (a : Aggregation) (s : AggregationSetting) : Aggregation :=
  { a with body := a.body.insert (Setting.key s) (Setting.value s) }

end Aggregation

/-- Put named aggregations among others, one after another. -/
def attach (children named : List (String × Aggregation)) : List (String × Aggregation) :=
  named.foldl (fun acc child => Keyed.insert child.1 child.2 acc) children

namespace Aggregation

inductive Call where
  | set (s : AggregationSetting)
  | metadata (key : String) (value : Value)
  | children (named : List (String × Aggregation))

def apply (a : Aggregation) : Call → Aggregation
  | .set s => a.set s
  | .metadata key value => { a with metadata := a.metadata.insert key value }
  | .children named => { a with children := attach a.children named }

mutual

/-- The kind comes first, and is lost if it is called like one of the two other parts. -/
def document : Aggregation → Value
  | ⟨kind, body, metadata, children⟩ =>
    .obj ((((∅ : Object).insert kind (.obj body)).insert? "meta" (Value.obj? metadata)).insert?
      "aggs" (Value.obj? (childObject children)))

/-- The children under their names. -/
def childObject : List (String × Aggregation) → Object
  | [] => ∅
  | (name, a) :: children => (childObject children).insert name a.document

end

mutual

def same : Aggregation → Aggregation → Bool
  | ⟨kind, body, metadata, children⟩, ⟨kind', body', metadata', children'⟩ =>
    kind == kind' && body == body' && metadata == metadata' && allSame children children'

def allSame : List (String × Aggregation) → List (String × Aggregation) → Bool
  | [], [] => true
  | (k, a) :: as, (l, b) :: bs => k == l && a.same b && allSame as bs
  | _, _ => false

end

instance : BEq Aggregation := ⟨same⟩

end Aggregation

end SearchRequest
