import SearchRequest.Text.Printable

/-! # Quoted text

A text between quotes, on one line and free of characters that would not show.
-/

namespace SearchRequest.Quoted

/-- A code point in lower-case hexadecimal between braces. -/
def codePoint (c : Char) : List Char :=
  '\\' :: 'u' :: '\x7b' :: (Nat.toDigits 16 c.toNat ++ ['\x7d'])

def escape (c : Char) : List Char :=
  if c = '"' then ['\\', '"']
  else if c = '\\' then ['\\', '\\']
  else if c = '\n' then ['\\', 'n']
  else if c = '\r' then ['\\', 'r']
  else if c = '\t' then ['\\', 't']
  else if c = '\x00' then ['\\', '0']
  else if isPrintable c then [c]
  else codePoint c

def encode (s : List Char) : List Char :=
  '"' :: (s.flatMap escape ++ ['"'])

end SearchRequest.Quoted
