import SqlTemplate.Text.Printable
import SqlTemplate.Text.Digits

/-!
# Displayed texts

A text is displayed between apostrophes, or between double quotes when it holds an apostrophe and no
double quote. Inside, the backslash and the delimiter stand behind a backslash, line feed, carriage
return and tab have letters of their own, and any other character that is not printable is written
as the shortest of the hexadecimal escapes of two, four and eight digits that holds it.
-/

namespace SqlTemplate.Text

def hexEscape (n : Nat) : Text :=
  if n < 0x100 then "\\x".toList ++ padded 16 2 n
  else if n < 0x10000 then "\\u".toList ++ padded 16 4 n
  else "\\U".toList ++ padded 16 8 n

/-- One character of a text displayed between two `delimiter`s. -/
def displayedChar (delimiter c : Char) : Text :=
  if c = '\\' ∨ c = delimiter then ['\\', c]
  else if c = '\n' then "\\n".toList
  else if c = '\r' then "\\r".toList
  else if c = '\t' then "\\t".toList
  else if isPrintable c then [c]
  else hexEscape c.toNat

/-- The text between delimiters, with every character that could mislead a reader escaped. -/
def displayed (s : Text) : Text :=
  let delimiter := if s.contains '\'' && !s.contains '"' then '"' else '\''
  delimiter :: s.flatMap (displayedChar delimiter) ++ [delimiter]

/-- The text with every character outside ASCII escaped. -/
def ascii (s : Text) : Text := s.flatMap fun c => if c.toNat < 0x80 then [c] else hexEscape c.toNat

end SqlTemplate.Text
