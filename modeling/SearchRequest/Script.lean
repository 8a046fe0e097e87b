import SearchRequest.Options
import SearchRequest.Vocabulary

/-! # Scripts

A script is given by its source or by the id it is stored under, with parameters and compiler
options of any name.
-/

namespace SearchRequest

inductive ScriptForm | source | id
  deriving DecidableEq

def ScriptForm.key : ScriptForm → String
  | .source => "source"
  | .id => "id"

structure Script where
  form : ScriptForm
  text : String
  language : ScriptLanguage
  params : Object := ∅
  options : Object := ∅
  deriving BEq

namespace Script

inductive Call where
  | param (name : String) (value : Value)
  | option (name text : String)

def apply (s : Script) : Call → Script
  | .param name value => { s with params := s.params.insert name value }
  | .option name text => { s with options := s.options.insert name (.str text) }

def document (s : Script) : Value :=
  .obj ((((∅ : Object).insert "lang" (Word.value s.language)).insert s.form.key (.str s.text)
    |>.insert? "params" (Value.obj? s.params)).insert? "options" (Value.obj? s.options))

end Script

end SearchRequest
