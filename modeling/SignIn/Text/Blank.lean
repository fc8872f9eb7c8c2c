/-! Blank characters, in every script, and their removal from both ends of a text. -/

namespace SignIn.Text

def isBlank (c : Char) : Bool :=
  let n := c.toNat
  (9 ≤ n && n ≤ 13) || n = 32 || n = 0x85 || n = 0xA0 || n = 0x1680 || (0x2000 ≤ n && n ≤ 0x200A) ||
    n = 0x2028 || n = 0x2029 || n = 0x202F || n = 0x205F || n = 0x3000

def trimStart (l : List Char) : List Char := l.dropWhile isBlank

def trimEnd (l : List Char) : List Char := (l.reverse.dropWhile isBlank).reverse

def trim (s : String) : String := .ofList (trimEnd (trimStart s.toList))

/-- The trimmed text, unless nothing is left of it. -/
def filled? (s : String) : Option String := if trim s = "" then none else some (trim s)

end SignIn.Text
