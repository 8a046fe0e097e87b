import SearchRequest.Document.Keyed

/-! # Environment variables

A process is started with variables of any bytes. Only a value that is UTF-8 can be read; any other
counts as not set.
-/

namespace SearchRequest

structure Environment where
  entries : List (String × ByteArray) := []

def Environment.text? (env : Environment) (name : String) : Option String :=
  (Keyed.get? name env.entries).bind String.fromUTF8?

end SearchRequest
