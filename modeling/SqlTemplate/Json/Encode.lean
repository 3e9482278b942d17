import SqlTemplate.Value.Display

/-!
# Values as JSON

`Json.encode` writes a value as compact JSON. Numbers, texts, lists, sets and dictionaries have a
form of their own; bytes become base64, dates, times, decimals and identities their texts, and
members of enumerations their values. For all else `Json.substitute` says what is written in its
place. Keys of objects are texts always: `Json.encodeKey` writes numbers between quotes, and
displays what has no text of its own.
-/

namespace SqlTemplate.Json

/-! ## Texts -/

/-- One character inside a JSON text. Controls have a letter of their own or four hexadecimal
digits. -/
def escapedChar (c : Char) : Text :=
  if c = '"' ∨ c = '\\' then ['\\', c]
  else if c = '\n' then "\\n".toList
  else if c = '\r' then "\\r".toList
  else if c = '\t' then "\\t".toList
  else if c.toNat = 8 then "\\b".toList
  else if c.toNat = 12 then "\\f".toList
  else if c.toNat < 0x20 then "\\u".toList ++ Text.padded 16 4 c.toNat
  else [c]

def quoted (s : Text) : Text := '"' :: s.flatMap escapedChar ++ ['"']

def base64Digits : Text :=
  "ABCDEFGHIJKLMNOPQRSTUVWXYZabcdefghijklmnopqrstuvwxyz0123456789+/".toList

def base64Digit (n : Nat) : Char := base64Digits.getD n 'A'

/-- Bytes in base64: each three bytes become four digits, a shorter rest is filled up. -/
def base64 : List UInt8 → Text
  | [] => []
  | [a] =>
    let n := a.toNat * 16
    [base64Digit (n / 64), base64Digit (n % 64), '=', '=']
  | [a, b] =>
    let n := (a.toNat * 256 + b.toNat) * 4
    [base64Digit (n / 4096), base64Digit (n / 64 % 64), base64Digit (n % 64), '=']
  | a :: b :: c :: rest =>
    let n := (a.toNat * 256 + b.toNat) * 256 + c.toNat
    base64Digit (n / 262144) :: base64Digit (n / 4096 % 64) :: base64Digit (n / 64 % 64) ::
      base64Digit (n % 64) :: base64 rest

/-! ## Numbers and times -/

/-- Numbers are written positionally from `0.00001` to below `10 ^ 16`. -/
def layout : Binary64.Layout := ⟨-5, 16, false, 1⟩

/-- A number; there is none for infinities and what is not a number. -/
def number : Binary64 → Text
  | .finite negative m q => layout.text negative m q
  | _ => "null".toList

/-- A number as a key, where infinities and what is not a number are written too. -/
def keyNumber : Binary64 → Text
  | .finite negative m q => layout.text negative m q
  | x => x.toText

/-- An offset from universal time in hours and minutes of a day, more than half a minute rounded up;
`Z` where neither hours nor minutes are left. -/
def offsetText (micros : Int) : Text :=
  let seconds := (micros / 1000000).natAbs
  let minutes := (seconds / 60 + if 30 < seconds % 60 then 1 else 0) % 1440
  if minutes = 0 then ['Z']
  else (if micros < 0 then '-' else '+') :: Text.padded 10 2 (minutes / 60) ++
    ':' :: Text.padded 10 2 (minutes % 60)

def zoneText : Zone → Text
  | .offset micros => offsetText micros
  | _ => []

/-! ## Values -/

/-- What is written in place of a value that has no form of its own: times as texts, members of
enumerations as their values, sets as lists, classes as their names, and all else as displayed. -/
def substitute (v : Value) : Value :=
  match v with
  | .member _ value => value
  | .mixed _ _ value => value
  | .classRef c => .text c.name
  | v =>
    match v.core with
    | .date d => .text d.toText
    | .time t => .text t.toText
    | .dateTime t => .text t.toText
    | .decimal d => .text d.toText
    | .uuid u => .text (uuidText u)
    | .set .set items => .list items
    | .set .frozenSet items => .list items
    | _ => .text v.displayed

/-- What stands between the quotes for a value that is written as a text. -/
def textForm (v : Value) : Text :=
  match v with
  | .text s => s
  | .bytes _ data => base64 data
  | .date d => d.toText
  | .time t => t.clock.toText ++ zoneText t.zone
  | .dateTime t => t.civil.toText 'T' ++ zoneText t.zone
  | v =>
    match substitute v with
    | .text s => s
    | w => w.displayed

def array (items : List Text) : Text := '[' :: Text.commaJoined items ++ [']']

def object (entries : List (Text × Text)) : Text :=
  '\x7b' :: Text.commaJoined (entries.map fun (k, v) => k ++ ':' :: v) ++ ['\x7d']

/-- The key for a value. A member of an enumeration stands for its value. -/
def encodeKey : Value → Text
  | .int n => quoted (Text.integer n)
  | .float x => quoted (keyNumber x)
  | .member _ value => encodeKey value
  | .mixed _ core _ => encodeKey core
  | v => quoted (textForm v)

def isList : SequenceKind → Bool
  | .list | .tuple | .record .. => true
  | .queue | .userList => false

def isSet : SetKind → Bool
  | .set | .frozenSet => true
  | .keys | .items => false

def isDictionary : MappingKind → Bool
  | .dict | .ordered => true
  | .proxy | .userDict | .chain _ => false

/-- A container of which `plain` says whether it has a form of its own; `shown` is the text of one
that has none. -/
def container (plain : Bool) (form shown : Text) : Text := if plain then form else quoted shown

mutual

/-- A value as JSON. Containers of a declared class are written as the predefined ones they are
built on. -/
def encode : Value → Text
  | .null => "null".toList
  | .bool b => if b then "true".toList else "false".toList
  | .int n => Text.integer n
  | .float x => number x
  | .member _ value => encode value
  | .mixed _ core _ => encode core
  | .sequence kind items =>
    container (isList kind) (array (encodeItems items)) (Value.displayed (.sequence kind items))
  | .set kind items =>
    container (isSet kind) (array (encodeItems items)) (Value.displayed (.set kind items))
  | .mapping kind entries =>
    container (isDictionary kind) (object (encodeEntries entries))
      (Value.displayed (.mapping kind entries))
  | .object cls core payload =>
    encodeBuilt (textForm (.object cls core payload)) core
  | .selfWriting cls program core payload =>
    encodeBuilt (textForm (.selfWriting cls program core payload)) core
  | v => quoted (textForm v)

/-- A value of a declared class that is built on a predefined one; `shown` is its text. -/
def encodeBuilt (shown : Text) : Value → Text
  | .sequence kind items => container (isList kind) (array (encodeItems items)) shown
  | .set kind items => container (isSet kind) (array (encodeItems items)) shown
  | .mapping kind entries => container (isDictionary kind) (object (encodeEntries entries)) shown
  | _ => quoted shown

def encodeItems : List Value → List Text
  | [] => []
  | v :: rest => encode v :: encodeItems rest

def encodeEntries : List (Value × Value) → List (Text × Text)
  | [] => []
  | (k, v) :: rest => (encodeKey k, encode v) :: encodeEntries rest

end

end SqlTemplate.Json
