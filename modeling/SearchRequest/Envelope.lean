import SearchRequest.Aggregation
import SearchRequest.Clause.Basic

/-! # The request envelope

The body of a search request: a query, paging, sort entries, a source filter and aggregations. What
was never set is left out.
-/

namespace SearchRequest

structure Envelope where
  query : Option Clause := none
  offset : Option UInt64 := none
  size : Option UInt64 := none
  sorts : List SortEntry := []
  source : Option SourceFilter := none
  trackTotalHits : Option Bool := none
  aggs : List (String × Aggregation) := []
  deriving BEq

namespace Envelope

def empty : Envelope := {}

/-- An envelope around a clause, or around the empty clause if it is absent. -/
def around (query : Option Clause) : Envelope :=
  { query := some (query.getD .empty) }

def ofAggs (named : List (String × Aggregation)) : Envelope :=
  { aggs := attach [] named }

inductive Call where
  | query (c : Option Clause)
  | offset (n : UInt64)
  | size (n : UInt64)
  | sort (s : SortEntry)
  | sortAll (ss : List SortEntry)
  | source (f : SourceFilter)
  | sourceIncludes (names : List String)
  | sourceExcludes (names : List String)
  | sourceDisabled
  | trackTotalHits (b : Bool)
  | aggs (named : List (String × Aggregation))

def apply (e : Envelope) : Call → Envelope
  | .query (some c) => { e with query := some c }
  | .query none => e
  | .offset n => { e with offset := some n }
  | .size n => { e with size := some n }
  | .sort s => { e with sorts := e.sorts ++ [s] }
  | .sortAll ss => { e with sorts := e.sorts ++ ss }
  | .source f => { e with source := some f }
  | .sourceIncludes names => { e with source := SourceFilter.includes? e.source names }
  | .sourceExcludes names => { e with source := SourceFilter.excludes? e.source names }
  | .sourceDisabled => { e with source := some .disabled }
  | .trackTotalHits b => { e with trackTotalHits := some b }
  | .aggs named => { e with aggs := attach e.aggs named }

def body (e : Envelope) : Object :=
  [("query", e.query.map Clause.document),
    ("from", e.offset.map .uint64),
    ("size", e.size.map .uint64),
    ("sort", Value.arr? (e.sorts.map SortEntry.document)),
    ("_source", e.source.map SourceFilter.document),
    ("track_total_hits", e.trackTotalHits.map .bool),
    ("aggs", Value.obj? (Aggregation.childObject e.aggs))].foldl
    (fun o part => o.insert? part.1 part.2) ∅

def document (e : Envelope) : Value :=
  .obj e.body

end Envelope

end SearchRequest
