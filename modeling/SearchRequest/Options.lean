import SearchRequest.Document.Value

/-! # Options

What may be set on a builder is a type of settings, each with a key and a value. The options of a
builder are an object in which every entry was written by a setting; the last one of a key stays.
The parts that a constructor was given are apart from the options.
-/

namespace SearchRequest

class Setting (ω : Type) where
  entry : ω → String × Value

namespace Setting

variable {ω : Type} [Setting ω]

def key (o : ω) : String :=
  (entry o).1

def value (o : ω) : Value :=
  (entry o).2

end Setting

structure Options (ω : Type) [Setting ω] where
  object : Object
  written : ∀ e ∈ object.entries, ∃ o : ω, e = (Setting.key o, (Setting.value o).json)

namespace Options

variable {ω : Type} [Setting ω]

def empty : Options ω :=
  ⟨∅, nofun⟩

instance : EmptyCollection (Options ω) := ⟨empty⟩

instance : Inhabited (Options ω) := ⟨empty⟩

instance : BEq (Options ω) := ⟨fun a b => a.object == b.object⟩

def set (os : Options ω) (o : ω) : Options ω where
  object := os.object.insert (Setting.key o) (Setting.value o)
  written e he := (Keyed.mem_of_mem_insert he).elim (fun h => ⟨o, h⟩) (os.written e)

def isEmpty (os : Options ω) : Bool :=
  os.object.isEmpty

end Options

/-- What a constructor was given, and the options set since. -/
structure Builder (β ω : Type) [Setting ω] where
  parts : β
  options : Options ω := ∅

namespace Builder

variable {β ω : Type} [Setting ω]

instance [BEq β] : BEq (Builder β ω) :=
  ⟨fun a b => a.parts == b.parts && a.options == b.options⟩

/-- A builder with no options set. -/
def of (parts : β) : Builder β ω :=
  ⟨parts, ∅⟩

def set (b : Builder β ω) (o : ω) : Builder β ω :=
  { b with options := b.options.set o }

/-- The options and one more entry, which wins over an option of its key. -/
def optionsWith (b : Builder β ω) (key : String) (v : Value) : Object :=
  b.options.object.insert key v

end Builder

end SearchRequest
