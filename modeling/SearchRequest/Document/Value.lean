import SearchRequest.Document.Json

/-! # Values and objects

The ordered JSON trees, and the operations that build them. Nothing else makes a document, so every
document lists its keys in ascending order.
-/

namespace SearchRequest

/-- An ordered JSON tree. -/
structure Value where
  json : Json
  ordered : json.Ordered

/-- A JSON object: ordered values under ascending keys. -/
structure Object where
  entries : List (String × Json)
  keys : Keyed.Ascending entries
  values : ∀ e ∈ entries, e.2.Ordered

theorem Value.ext {v w : Value} (h : v.json = w.json) : v = w := by
  cases v; cases w; cases h; rfl

theorem Object.ext {o p : Object} (h : o.entries = p.entries) : o = p := by
  cases o; cases p; cases h; rfl

instance : BEq Value := ⟨fun v w => v.json == w.json⟩

instance : BEq Object := ⟨fun o p => Json.sameEntries o.entries p.entries⟩

namespace Object

def empty : Object :=
  ⟨[], Keyed.ascending_nil, nofun⟩

instance : EmptyCollection Object := ⟨empty⟩

instance : Inhabited Object := ⟨empty⟩

/-- Put a value under a key, in place of the one that is there. -/
def insert (o : Object) (k : String) (v : Value) : Object where
  entries := Keyed.insert k v.json o.entries
  keys := Keyed.ascending_insert o.keys
  values e he := (Keyed.mem_of_mem_insert he).elim (fun h => h ▸ v.ordered) (o.values e)

def erase (o : Object) (k : String) : Object where
  entries := Keyed.erase k o.entries
  keys := Keyed.ascending_erase o.keys
  values e he := o.values e (Keyed.mem_of_mem_erase he)

def isEmpty (o : Object) : Bool :=
  o.entries.isEmpty

def size (o : Object) : Nat :=
  o.entries.length

def get? (o : Object) (k : String) : Option Json :=
  Keyed.get? k o.entries

/-- The value goes in only if there is one. -/
def insert? (o : Object) (k : String) : Option Value → Object
  | some v => o.insert k v
  | none => o

def ofList (es : List (String × Value)) : Object :=
  es.foldl (fun o e => o.insert e.1 e.2) ∅

@[simp] theorem get?_insert (o : Object) (k l : String) (v : Value) :
    (o.insert k v).get? l = if l = k then some v.json else o.get? l := by
  simp [get?, insert]

@[simp] theorem get?_erase (o : Object) (k l : String) :
    (o.erase k).get? l = if l = k then none else o.get? l := by
  simp [get?, erase]

end Object

namespace Value

def null : Value := ⟨.null, .null⟩

def bool (b : Bool) : Value := ⟨.bool b, .bool b⟩

def int (n : Integer) : Value := ⟨.int n, .int n⟩

def str (s : String) : Value := ⟨.str s, .str s⟩

def arr (vs : List Value) : Value where
  json := .arr (vs.map (·.json))
  ordered := .arr fun x hx => by
    obtain ⟨v, _, rfl⟩ := List.mem_map.mp hx
    exact v.ordered

def obj (o : Object) : Value := ⟨.obj o.entries, .obj o.keys o.values⟩

instance : Inhabited Value := ⟨null⟩

/-- JSON has no number for the doubles that are not finite; they become null. -/
def double : Double → Value
  | .finite x => ⟨.float x, .float x⟩
  | _ => null

def uint32 (n : UInt32) : Value := int (.ofUInt32 n)

def uint64 (n : UInt64) : Value := int (.ofUInt64 n)

def int64 (n : Int64) : Value := int (.ofInt64 n)

def strs (ss : List String) : Value := arr (ss.map str)

/-- A list that is written only if it has items. -/
def arr? (vs : List Value) : Option Value :=
  if vs.isEmpty then none else some (arr vs)

/-- An object that is written only if it has entries. -/
def obj? (o : Object) : Option Value :=
  if o.isEmpty then none else some (obj o)

/-- The object of one entry. -/
def entry (k : String) (v : Value) : Value := obj ((∅ : Object).insert k v)

/-- The object that a value is, if it is one. -/
def object? : Value → Option Object
  | ⟨.obj es, h⟩ => some ⟨es, by cases h; assumption, by cases h; assumption⟩
  | _ => none

end Value

end SearchRequest
