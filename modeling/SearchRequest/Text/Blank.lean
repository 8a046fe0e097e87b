/-! # White space and letter case

The characters of the Unicode property `White_Space`, and trimming them from both ends of a text.
Only ASCII letters have a case.
-/

namespace SearchRequest

def isBlank (c : Char) : Bool :=
  let n := c.toNat
  (0x09 ≤ n && n ≤ 0x0D) || n = 0x20 || n = 0x85 || n = 0xA0 || n = 0x1680 ||
    (0x2000 ≤ n && n ≤ 0x200A) || n = 0x2028 || n = 0x2029 || n = 0x202F || n = 0x205F || n = 0x3000

def trimBlank (s : List Char) : List Char :=
  ((s.dropWhile isBlank).reverse.dropWhile isBlank).reverse

def lowerCase (s : List Char) : String :=
  String.ofList (s.map Char.toLower)

/-- The form in which names are compared: trimmed, in lower case. -/
def nameForm (text : String) : String :=
  lowerCase (trimBlank text.toList)

/-- The texts that switch something on. -/
def isYes (text : String) : Bool :=
  text = "1" || lowerCase text.toList = "true"

end SearchRequest
