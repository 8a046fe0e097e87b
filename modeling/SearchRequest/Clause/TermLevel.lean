import SearchRequest.Script

/-! # Term-level clauses

Clauses on exact values, identifiers, presence and patterns. Each gives the body that its document
holds under the name of its kind.
-/

namespace SearchRequest

inductive ScoreSetting where
  | boost (b : Double)

instance : Setting ScoreSetting where
  entry
    | .boost b => ("boost", .double b)

inductive NameSetting where
  | name (s : String)

instance : Setting NameSetting where
  entry
    | .name s => ("_name", .str s)

/-- A score and a name, the settings of most clauses. -/
inductive LabelSetting where
  | boost (b : Double)
  | name (s : String)

instance : Setting LabelSetting where
  entry
    | .boost b => ("boost", .double b)
    | .name s => ("_name", .str s)

inductive TermSetting where
  | boost (b : Double)
  | caseInsensitive (b : Bool)
  | name (s : String)

instance : Setting TermSetting where
  entry
    | .boost b => ("boost", .double b)
    | .caseInsensitive b => ("case_insensitive", .bool b)
    | .name s => ("_name", .str s)

inductive TermsSetSetting where
  | boost (b : Double)
  | minimumShouldMatchField (field : String)
  | minimumShouldMatchScript (script : Script)

instance : Setting TermsSetSetting where
  entry
    | .boost b => ("boost", .double b)
    | .minimumShouldMatchField field => ("minimum_should_match_field", .str field)
    | .minimumShouldMatchScript script => ("minimum_should_match_script", script.document)

inductive RegexpSetting where
  | flags (s : String)
  | caseInsensitive (b : Bool)
  | maxDeterminizedStates (n : UInt64)
  | expansion (s : String)
  | boost (b : Double)

instance : Setting RegexpSetting where
  entry
    | .flags s => ("flags", .str s)
    | .caseInsensitive b => ("case_insensitive", .bool b)
    | .maxDeterminizedStates n => ("max_determinized_states", .uint64 n)
    | .expansion s => ("rewrite", .str s)
    | .boost b => ("boost", .double b)

structure FieldValue where
  field : String
  value : Value
  deriving BEq

structure FieldValues where
  field : String
  values : List Value
  deriving BEq

structure FieldPattern where
  field : String
  pattern : String
  deriving BEq

/-- One exact value of a field. -/
abbrev Term := Builder FieldValue TermSetting

/-- Any of several exact values of a field, in the given order. -/
abbrev Terms := Builder FieldValues LabelSetting

/-- Several values of a field, of which a minimum has to match. -/
abbrev TermsSet := Builder FieldValues TermsSetSetting

/-- Documents by identifier. -/
abbrev Ids := Builder (List String) LabelSetting

/-- Documents that have a value for a field. -/
abbrev Presence := Builder String ScoreSetting

/-- Values of a field that match a pattern. -/
abbrev Regexp := Builder FieldPattern RegexpSetting

/-- Documents for which a script holds. -/
abbrev ScriptFilter := Builder Script LabelSetting

/-- The object of one field. -/
def fieldBody (field : String) (v : Value) : Object :=
  (∅ : Object).insert field v

/-- The value stands alone until an option needs an object around it. -/
def Term.body (t : Term) : Object :=
  fieldBody t.parts.field
    (if t.options.isEmpty then t.parts.value else .obj (t.optionsWith "value" t.parts.value))

/-- The field shares one object with the options, and wins over an option of its name. -/
def Terms.body (t : Terms) : Object :=
  t.optionsWith t.parts.field (.arr t.parts.values)

def TermsSet.body (t : TermsSet) : Object :=
  fieldBody t.parts.field (.obj (t.optionsWith "terms" (.arr t.parts.values)))

def Ids.body (i : Ids) : Object :=
  i.optionsWith "values" (.strs i.parts)

def Presence.body (p : Presence) : Object :=
  p.optionsWith "field" (.str p.parts)

def Regexp.body (r : Regexp) : Object :=
  fieldBody r.parts.field (.obj (r.optionsWith "value" (.str r.parts.pattern)))

def ScriptFilter.body (s : ScriptFilter) : Object :=
  s.optionsWith "script" s.parts.document

end SearchRequest
