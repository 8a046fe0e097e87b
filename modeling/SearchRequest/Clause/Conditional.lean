import SearchRequest.Clause.Basic

/-! # Conditional clauses

An item is kept or left out as a whole. A predicate is asked once, about all of the item, and may
have effects of its own. It is asked about a value as it was given, before that becomes JSON.
-/

namespace SearchRequest

/-- What can be given in place of a JSON value. -/
class ToValue (ν : Type) where
  toValue : ν → Value

export ToValue (toValue)

instance : ToValue Value := ⟨id⟩

instance : ToValue String := ⟨.str⟩

@[simp] theorem toValue_value : (toValue : Value → Value) = id := rfl

variable {m : Type → Type} [Monad m] {α ν : Type} [ToValue ν]

def keepIf (item : α) (condition : Bool) : Option α :=
  if condition then some item else none

def keepWith (item : α) (predicate : α → m Bool) : m (Option α) :=
  return keepIf item (← predicate item)

namespace Term

def new (field : String) (value : Value) : Term :=
  ⟨⟨field, value⟩, ∅⟩

def newIf (field : String) (value : Value) (condition : Bool) : Option Term :=
  if condition then some (new field value) else none

def newWith (field : String) (value : ν) (predicate : String → ν → m Bool) :
    m (Option Term) := do
  if ← predicate field value then return some (new field (toValue value)) else return none

end Term

namespace Terms

def new (field : String) (values : List Value) : Terms :=
  ⟨⟨field, values⟩, ∅⟩

def ofArray (field : String) (values : Array Value) : Terms :=
  new field values.toList

def newIf (field : String) (values : List Value) (condition : Bool) : Option Terms :=
  if condition then some (new field values) else none

def newWith (field : String) (values : List ν) (predicate : String → List ν → m Bool) :
    m (Option Terms) := do
  if ← predicate field values then return some (new field (values.map toValue)) else return none

def ofArrayWith (field : String) (values : Array ν)
    (predicate : String → Array ν → m Bool) : m (Option Terms) := do
  return keepIf (ofArray field (values.map toValue)) (← predicate field values)

end Terms

namespace Presence

def new (field : String) : Presence :=
  ⟨field, ∅⟩

def newIf (field : String) (condition : Bool) : Option Presence :=
  if condition then some (new field) else none

def newWith (field : String) (predicate : String → m Bool) : m (Option Presence) := do
  if ← predicate field then return some (new field) else return none

end Presence

end SearchRequest
