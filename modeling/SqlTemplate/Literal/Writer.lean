import SqlTemplate.Dispatcher
import SqlTemplate.Literal.Written
import SqlTemplate.Sorting
import SqlTemplate.Text.Quoted
import SqlTemplate.Value.Display
import SqlTemplate.Value.Order

/-!
# Writers of literal forms

A writer is either one of the standard ones, each made for one kind of value, or a program
registered for a class. `Standard.write` is what a standard writer writes, given the predefined
value it works on and the written parts of that value (`Parts`). The standard registrations are
`Writer.standard`.
-/

namespace SqlTemplate

inductive Standard where
  | boolean | integer | float | decimal | text | bytes | dateTime | date | time | uuid
  | enumeration | list | set | tuple | mapping
  deriving DecidableEq

def Standard.name : Standard → String
  | boolean => "_write_bool"
  | integer => "_write_int"
  | float => "_write_float"
  | decimal => "_write_decimal"
  | text => "_write_str"
  | bytes => "_write_bytes"
  | dateTime => "_write_datetime"
  | date => "_write_date"
  | time => "_write_time"
  | uuid => "_write_uuid"
  | enumeration => "_write_enum"
  | list => "_write_array"
  | set => "_write_set"
  | tuple => "_write_tuple"
  | mapping => "_write_map"

/-- The standard writers with the classes that they are registered for. -/
def Standard.registrations : List (Class × Standard) :=
  [(Class.boolean, boolean), (Class.integer, integer), (Class.float, float),
   (Class.decimal, decimal), (Class.text, text), (Class.bytes, bytes), (Class.byteArray, bytes),
   (Class.memoryView, bytes), (Class.dateTime, dateTime), (Class.date, date), (Class.time, time),
   (Class.uuid, uuid), (Class.enumeration, enumeration), (Class.list, list), (Class.set, set),
   (Class.frozenSet, set), (Class.tuple, tuple), (Class.dict, mapping)]

inductive Writer where
  | standard (s : Standard)
  | program (actions : List Action)

/-! ## Literal forms of values without parts -/

/-- A byte inside a bytes literal: printable ASCII as in a string literal, else two hexadecimal
digits. -/
def byteLiteral (b : UInt8) : Text :=
  if b = 0x5C then "\\\\".toList
  else if b = 0x27 then "\\'".toList
  else if 0x20 ≤ b.toNat ∧ b.toNat < 0x7F then [Char.ofNat b.toNat]
  else "\\x".toList ++ (Text.padded 16 2 b.toNat).map Char.toUpper

def bytesLiteral (data : List UInt8) : Text :=
  Text.apostrophe ++ data.flatMap byteLiteral ++ Text.apostrophe

/-- A finite decimal without exponent; the others have no literal form. -/
def decimalLiteral (className : Text) (d : Decimal) : Written :=
  match d with
  | .finite negative coefficient exponent => .ok (Decimal.plainText negative coefficient exponent)
  | d => .fault (.nonFinite className d.toText)

/-- A civil time in universal time, or as it is where it has no offset. -/
def dateTimeLiteral (t : DateTime) : Written :=
  match t.universal? with
  | some civil => .ok (Text.quotedString (civil.toText ' '))
  | none => .fault .outOfCalendar

/-! ## Literal forms of values with parts -/

inductive Parts where
  | none
  | sequence (items : List Written)
  /-- The items of a container of distinct items, with their literal forms. -/
  | set (items : List (Value × Written))
  | mapping (entries : List (Written × Written))
  | member (value : Written)
  /-- The terms of a progression are written when they are needed. -/
  | terms (p : Progression)

def arrayLiteral (items : List Written) : Written :=
  .bracketed ['['] [']'] items

def tupleLiteral (items : List Written) : Written :=
  .bracketed ['('] [')'] items

/-- A map of the given entries, keys and items alternating. -/
def mapLiteral (entries : List (Written × Written)) : Written :=
  .bracketed "map(".toList [')'] (entries.flatMap fun entry => [entry.1, entry.2])

/-- An array of the given items in ascending order, or in the order in which they are iterated where
some of them cannot be compared. -/
def setLiteral (items : List (Value × Written)) : Written :=
  match sorted (fun a b : Value × Written => a.1.less b.1) items with
  | .ok ordered => arrayLiteral (ordered.map Prod.snd)
  | .error OrderFault.incomparable => arrayLiteral (items.map Prod.snd)
  | .error OrderFault.noOrder => .fault .noOrder

/-- What the standard writer writes for a value of class `cls` that is built on `core`. -/
def Standard.write (s : Standard) (cls : Class) (core : Value) (parts : Parts) : Written :=
  match s, core, parts with
  | boolean, .bool b, _ => .ok (if b then "true".toList else "false".toList)
  | integer, .int n, _ => .ok (Text.integer n)
  | float, .float x, _ => .ok x.toText
  | decimal, .decimal d, _ => decimalLiteral cls.name d
  | text, .text s, _ => .ok (Text.quotedString s)
  | bytes, .bytes _ data, _ => .ok (bytesLiteral data)
  | dateTime, .dateTime t, _ => dateTimeLiteral t
  | date, .date d, _ => .ok (Text.quotedString d.toText)
  | time, .time t, _ => .ok (Text.quotedString t.clock.toText)
  | uuid, .uuid u, _ => .ok (Text.quotedString (uuidText u))
  | enumeration, _, .member value => value
  | list, _, .sequence items => arrayLiteral items
  | tuple, _, .sequence items => tupleLiteral items
  | set, _, .set items => setLiteral items
  | mapping, _, .mapping entries => mapLiteral entries
  | _, _, _ => .fault (.unsupported cls.name)

def Writer.dispatcher : Dispatcher Writer :=
  Standard.registrations.foldl (fun d entry => d.register entry.1 (.standard entry.2)) .empty

end SqlTemplate
