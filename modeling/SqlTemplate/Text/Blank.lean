import SqlTemplate.Text.Replace

/-!
# Blank characters

The characters that Unicode lists as white space or that separate blocks by their bidirectional
class, and `strip`, which takes them off both ends of a text.
-/

namespace SqlTemplate.Text

/-- White space, line and paragraph separators, and the four information separators. -/
def isBlank (c : Char) : Bool :=
  let n := c.toNat
  (0x09 ≤ n && n ≤ 0x0D) || (0x1C ≤ n && n ≤ 0x20) || n == 0x85 || n == 0xA0 || n == 0x1680 ||
    (0x2000 ≤ n && n ≤ 0x200A) || n == 0x2028 || n == 0x2029 || n == 0x202F || n == 0x205F ||
    n == 0x3000

def stripStart (s : Text) : Text := s.dropWhile isBlank

/-- The text without its leading and trailing blanks. -/
def strip (s : Text) : Text := (stripStart (stripStart s).reverse).reverse

end SqlTemplate.Text
