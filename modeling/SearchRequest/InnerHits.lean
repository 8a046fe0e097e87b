import SearchRequest.Sorting
import SearchRequest.SourceFilter

/-! # Inner hits

The nested documents that come back with each hit.
-/

namespace SearchRequest

inductive InnerHitsSetting where
  | explain (b : Bool)
  | offset (n : UInt32)
  | ignoreUnmapped (b : Bool)
  | size (n : UInt32)
  | name (s : String)
  | seqNoPrimaryTerm (b : Bool)
  | trackScores (b : Bool)
  | version (b : Bool)
  | storedFields (names : List String)

instance : Setting InnerHitsSetting where
  entry
    | .explain b => ("explain", .bool b)
    | .offset n => ("from", .uint32 n)
    | .ignoreUnmapped b => ("ignore_unmapped", .bool b)
    | .size n => ("size", .uint32 n)
    | .name s => ("name", .str s)
    | .seqNoPrimaryTerm b => ("seq_no_primary_term", .bool b)
    | .trackScores b => ("track_scores", .bool b)
    | .version b => ("version", .bool b)
    | .storedFields names => ("stored_fields", .strs names)

structure InnerHits where
  query : Option Value := none
  sorts : List SortEntry := []
  source : Option SourceFilter := none
  options : Options InnerHitsSetting := ∅
  deriving BEq

def InnerHits.document (h : InnerHits) : Value :=
  .obj (((h.options.object.insert? "query" h.query).insert?
    "sort" (Value.arr? (h.sorts.map SortEntry.document))).insert?
    "_source" (h.source.map SourceFilter.document))

end SearchRequest
