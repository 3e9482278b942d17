import SqlTemplate.Text.Replace

/-!
# Quoted texts

A text is quoted by doubling its backslashes, then putting a backslash before each occurrence of the
quote, and wrapping the result in the quote. String literals use the apostrophe and identifiers the
backtick; the quote may be any text, also one of several characters or none.
-/

namespace SqlTemplate.Text

def apostrophe : Text := "'".toList

def backtick : Text := "`".toList

/-- The content of a quoted text: backslashes doubled, then each `quote` behind a backslash. -/
def escape (quote s : Text) : Text :=
  replace quote ('\\' :: quote) (replace ['\\'] ['\\', '\\'] s)

/-- The text `s` wrapped in `quote`, with `quote` and backslash escaped inside. -/
def quoted (quote s : Text) : Text :=
  quote ++ escape quote s ++ quote

def quotedString (s : Text) : Text := quoted apostrophe s

def quotedIdentifier (s : Text) : Text := quoted backtick s

end SqlTemplate.Text
