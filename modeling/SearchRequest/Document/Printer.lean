import SearchRequest.Document.Value
import SearchRequest.Number.Shortest

/-! # JSON text

A tree is printed in pieces, in the order in which they go to a writer. Compact text has no white
space; indented text starts a line for each item and each entry.
-/

namespace SearchRequest

inductive Layout where
  | compact
  | indented (width : Nat)
  deriving DecidableEq

namespace Layout

/-- The line break before an item at some depth. -/
def line : Layout → Nat → String
  | compact, _ => ""
  | indented width, depth => String.ofList ('\n' :: List.replicate (width * depth) ' ')

def colon : Layout → String
  | compact => ":"
  | indented _ => ": "

end Layout

namespace Json

/-- A character inside a string: quotes, backslashes and controls are escaped. -/
def escape (c : Char) : List Char :=
  if c = '"' then ['\\', '"']
  else if c = '\\' then ['\\', '\\']
  else if c = '\x08' then ['\\', 'b']
  else if c = '\x0c' then ['\\', 'f']
  else if c = '\n' then ['\\', 'n']
  else if c = '\r' then ['\\', 'r']
  else if c = '\t' then ['\\', 't']
  else if c.toNat < 0x20 then
    ['\\', 'u', '0', '0', Nat.digitChar (c.toNat / 16), Nat.digitChar (c.toNat % 16)]
  else [c]

def quote (s : String) : String :=
  String.ofList ('"' :: (s.toList.flatMap escape ++ ['"']))

variable (layout : Layout)

mutual

/-- The pieces of a tree that stands at some depth. -/
def pieces : Nat → Json → List String
  | _, null => ["null"]
  | _, bool b => [if b then "true" else "false"]
  | _, int n => [n.text]
  | _, float x => [String.ofList x.text]
  | _, str s => [quote s]
  | _, arr [] => ["[]"]
  | depth, arr (x :: xs) =>
    "[" :: layout.line (depth + 1) ::
      (x.pieces (depth + 1) ++ itemPieces (depth + 1) xs ++ [layout.line depth, "]"])
  | _, obj [] => ["\x7b\x7d"]
  | depth, obj ((k, x) :: es) =>
    "\x7b" :: layout.line (depth + 1) :: quote k :: layout.colon ::
      (x.pieces (depth + 1) ++ entryPieces (depth + 1) es ++ [layout.line depth, "\x7d"])

/-- The items after the first. -/
def itemPieces : Nat → List Json → List String
  | _, [] => []
  | depth, x :: xs => "," :: layout.line depth :: (x.pieces depth ++ itemPieces depth xs)

/-- The entries after the first. -/
def entryPieces : Nat → List (String × Json) → List String
  | _, [] => []
  | depth, (k, x) :: es =>
    "," :: layout.line depth :: quote k :: layout.colon ::
      (x.pieces depth ++ entryPieces depth es)

end

def text (x : Json) : String :=
  String.join (x.pieces layout 0)

end Json

namespace Value

def pieces (layout : Layout) (v : Value) : List String :=
  v.json.pieces layout 0

def text (layout : Layout) (v : Value) : String :=
  v.json.text layout

def compact (v : Value) : String :=
  v.text .compact

end Value

end SearchRequest
