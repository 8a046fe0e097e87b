import SearchRequest.Options
import SearchRequest.Vocabulary

/-! # Sort entries

A sort entry names a field. A field of nested documents is sorted in a nested context, which may
hold a deeper one.
-/

namespace SearchRequest

inductive NestedSortSetting where
  | filter (document : Value)
  | maxChildren (n : UInt32)
  | nested (document : Value)

instance : Setting NestedSortSetting where
  entry
    | .filter document => ("filter", document)
    | .maxChildren n => ("max_children", .uint32 n)
    | .nested document => ("nested", document)

/-- A nested context over a path. -/
abbrev NestedSort := Builder String NestedSortSetting

def NestedSort.document (n : NestedSort) : Value :=
  .obj (n.optionsWith "path" (.str n.parts))

inductive SortSetting where
  | order (o : SortOrder)
  | mode (m : SortMode)
  | nested (n : NestedSort)

instance : Setting SortSetting where
  entry
    | .order o => ("order", Word.value o)
    | .mode m => ("mode", Word.value m)
    | .nested n => ("nested", NestedSort.document n)

/-- A sort by a field. -/
abbrev SortEntry := Builder String SortSetting

def SortEntry.withMode (field : String) (order : SortOrder) (mode : SortMode) : SortEntry :=
  (Builder.set ⟨field, ∅⟩ (.order order)).set (.mode mode)

def SortEntry.document (s : SortEntry) : Value :=
  .entry s.parts (.obj s.options.object)

end SearchRequest
