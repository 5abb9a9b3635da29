/-!
# Blanks

The white space of Unicode, and trimming it off a text.
-/

namespace ControlPanel.Text

/-- The characters with the property White_Space. -/
def isBlank (c : Char) : Bool :=
  let n := c.toNat
  (9 ≤ n && n ≤ 13) || n = 0x20 || n = 0x85 || n = 0xA0 || n = 0x1680 ||
    (0x2000 ≤ n && n ≤ 0x200A) || n = 0x2028 || n = 0x2029 || n = 0x202F || n = 0x205F ||
    n = 0x3000

def trimStart (s : List Char) : List Char := s.dropWhile isBlank

def dropEndWhile (p : Char → Bool) (s : List Char) : List Char :=
  (s.reverse.dropWhile p).reverse

def trimChars (s : List Char) : List Char := dropEndWhile isBlank (trimStart s)

def trim (s : String) : String := String.ofList (trimChars s.toList)

def trimSlashes (s : String) : String := String.ofList (dropEndWhile (· = '/') s.toList)

end ControlPanel.Text
