import SqlTemplate.Text.Display

/-!
# Templates

A template is SQL text with slots: `?` is a slot for one argument, `?fields` one for a list of
columns, and `??` stands for a question mark. `Template.parse` splits a template into segments, the
literal text between two slots being one segment; `Template.display` puts segments together again,
each slot as its placeholder.
-/

namespace SqlTemplate

inductive Segment where
  /-- Text that is emitted as it is. -/
  | literal (text : Text)
  /-- A slot for one argument. -/
  | argument
  /-- A slot for a list of columns. -/
  | fields
  deriving DecidableEq

namespace Segment

/-- The text of a literal, the placeholder of a slot. -/
def text : Segment → Text
  | literal text => text
  | argument => "?".toList
  | fields => "?fields".toList

def displayed : Segment → Text
  | literal text => "Literal(".toList ++ Text.displayed text ++ [')']
  | argument => "ArgumentSlot()".toList
  | fields => "FieldsSlot()".toList

end Segment

namespace Template

/-- The segments with a character put before them, into the first literal if they start with one. -/
def prepend (c : Char) : List Segment → List Segment
  | .literal text :: rest => .literal (c :: text) :: rest
  | segments => .literal [c] :: segments

def parse : Text → List Segment
  | [] => []
  | '?' :: '?' :: rest => prepend '?' (parse rest)
  | '?' :: 'f' :: 'i' :: 'e' :: 'l' :: 'd' :: 's' :: rest => .fields :: parse rest
  | '?' :: rest => .argument :: parse rest
  | c :: rest => prepend c (parse rest)

/-- The text of the segments, slots as placeholders. -/
def display (segments : List Segment) : Text := segments.flatMap Segment.text

/-- A list of segments as it is displayed. -/
def displayed (segments : List Segment) : Text :=
  '[' :: List.intercalate ", ".toList (segments.map Segment.displayed) ++ [']']

end Template

end SqlTemplate
