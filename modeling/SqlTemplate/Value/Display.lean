import SqlTemplate.Value.Equality

/-!
# Displayed values

`Value.displayed` shows a value so that its kind can be told: texts and bytes between quotes,
containers with their brackets and, where these leave the kind open, the name of the kind.
`Value.plainText` shows it the way it appears inside a message, where texts stand for themselves.
-/

namespace SqlTemplate

namespace Class

/-- The name of the module that a predefined class is reported with, followed by a point. -/
def moduleText (c : Class) : Text :=
  match c.id with
  | .predefined .decimal => "decimal.".toList
  | .predefined .uuid => "uuid.".toList
  | .predefined .date | .predefined .time | .predefined .dateTime => "datetime.".toList
  | .predefined .sequence | .predefined .mapping | .predefined .setInterface =>
    "collections.abc.".toList
  | .predefined .queue | .predefined .userList | .predefined .userDict | .predefined .chainMap
  | .predefined .orderedDict => "collections.".toList
  | _ => []

/-- The name of a class inside the message of an operation; some classes are named with their
module. -/
def messageName (c : Class) : Text :=
  match c.id with
  | .predefined .decimal | .predefined .date | .predefined .time | .predefined .dateTime
  | .predefined .queue | .predefined .orderedDict => c.moduleText ++ c.name
  | _ => c.name

def displayed (c : Class) : Text :=
  let sort :=
    if c.derivesFrom flag then "flag" else if c.derivesFrom enumeration then "enum" else "class"
  '<' :: sort.toList ++ " '".toList ++ c.moduleText ++ c.name ++ "'>".toList

end Class

/-! ## Texts of the simple kinds -/

/-- The hexadecimal digits in groups of 8, 4, 4, 4 and 12. -/
def uuidText (u : BitVec 128) : Text :=
  let digits := Text.padded 16 32 u.toNat
  let group (start size : Nat) : Text := (digits.drop start).take size
  List.intercalate ['-'] [group 0 8, group 8 4, group 12 4, group 16 4, group 20 12]

/-- One byte of displayed bytes; `escaped` is the delimiter that stands behind a backslash
inside. -/
def displayedByte (escaped : Char) (b : UInt8) : Text :=
  if b.toNat < 0x20 ∨ 0x7F ≤ b.toNat then
    if b = 9 ∨ b = 10 ∨ b = 13 then Text.displayedChar escaped (Char.ofNat b.toNat)
    else "\\x".toList ++ Text.padded 16 2 b.toNat
  else Text.displayedChar escaped (Char.ofNat b.toNat)

def bytesDelimiter (data : List UInt8) : Char :=
  if data.contains 39 && !data.contains 34 then '"' else '\''

def displayedBytes (escaped : Char) (data : List UInt8) : Text :=
  'b' :: bytesDelimiter data :: data.flatMap (displayedByte escaped) ++ [bytesDelimiter data]

def listed (parts : List Text) : Text := List.intercalate ", ".toList parts

def applied (operation : String) (arguments : List Text) : Text :=
  operation.toList ++ '(' :: listed arguments ++ [')']

/-- An offset in days, seconds and microseconds, those that are not zero. -/
def displayedOffset (micros : Int) : Text :=
  if micros = 0 then "datetime.timezone.utc".toList
  else
    let days := micros / 86400000000
    let seconds := micros % 86400000000 / 1000000
    let rest := micros % 1000000
    let part (name : String) (n : Int) : List Text :=
      if n = 0 then [] else [name.toList ++ '=' :: Text.integer n]
    applied "datetime.timezone" [applied "datetime.timedelta"
      (part "days" days ++ part "seconds" seconds ++ part "microseconds" rest)]

def zoneArguments : Zone → List Text
  | .offset micros => ["tzinfo=".toList ++ displayedOffset micros]
  | _ => []

/-- Seconds and microseconds, without those at the end that are zero. -/
def secondArguments (c : Clock) : List Nat :=
  if c.micro ≠ 0 then [c.second, c.micro] else if c.second ≠ 0 then [c.second] else []

def TimeOfDay.displayed (t : TimeOfDay) : Text :=
  applied "datetime.time"
    (([t.clock.hour, t.clock.minute] ++ secondArguments t.clock).map (Nat.toDigits 10) ++
      zoneArguments t.zone)

def DateTime.displayed (t : DateTime) : Text :=
  let d := t.civil.date
  let c := t.civil.clock
  applied "datetime.datetime"
    (([d.year, d.month, d.day, c.hour, c.minute] ++ secondArguments c).map (Nat.toDigits 10) ++
      zoneArguments t.zone)

/-- A progression on display; a step of one is left out. -/
def Progression.displayed (p : Progression) : Text :=
  applied "range" ([p.start, p.stop].map Text.integer ++
    if p.step = 1 then [] else [Text.integer p.step])

/-- The four bits of a flag that have names. -/
def namedBits : List (Char × Nat) := [('A', 1), ('B', 2), ('C', 4), ('D', 8)]

/-- The value of a flag: the named bits that are set in a number, a negative one taken in the
complement of two. -/
def flagValue (n : Int) : Int := n % 16

/-- The value of an integer flag, which keeps bits without a name. A negative number is taken in the
complement of two, to as many bits as are named or as its size has, whichever are more. -/
def integerFlagValue (n : Int) : Int :=
  if 0 ≤ n then n
  else if -16 ≤ n then n % 16
  else n + Nat.pow 2 (n.natAbs.log2 + 1)

/-- The names of the bits that are set in the value of a flag, and behind them what they leave;
nothing where no bit with a name is set. -/
def flagNames (n : Nat) : List Text :=
  let named := (namedBits.filter fun bit => n / bit.2 % 2 = 1).map fun bit => [bit.1]
  if named.isEmpty || n < 16 then named else named ++ [Nat.toDigits 10 (n / 16 * 16)]

def memberName (cls : Class) (value : Value) : Text :=
  match value with
  | .int n =>
    if cls.derivesFrom Class.flag then List.intercalate ['|'] (flagNames n.toNat) else ['M']
  | _ => ['M']

def displayedMember (cls : Class) (value : Value) (shown : Text) : Text :=
  let name := memberName cls value
  let point := if name.isEmpty then [] else ['.']
  '<' :: cls.name ++ point ++ name ++ ": ".toList ++ shown ++ ['>']

namespace Value

/-! ## Containers -/

def displayedQueue (name : Text) (items : List Text) : Text :=
  name ++ "([".toList ++ listed items ++ "])".toList

def displayedSequence (kind : SequenceKind) (items : List Text) : Text :=
  match kind with
  | .list | .userList => '[' :: listed items ++ [']']
  | .tuple =>
    if items.length = 1 then '(' :: listed items ++ ",)".toList else '(' :: listed items ++ [')']
  | .queue => displayedQueue Class.queue.name items
  | .record cls names =>
    let shown := List.zipWith (fun name item => name ++ '=' :: item) names items
    cls.name ++ '(' :: listed shown ++ [')']

/-- Distinct items between braces behind the name of a class; only the name where there is none. -/
def displayedNamedSet (name : Text) (items : List Text) : Text :=
  name ++ '(' :: (if items.isEmpty then [] else '\x7b' :: listed items ++ ['\x7d']) ++ [')']

def displayedSet (kind : SetKind) (items : List Text) : Text :=
  match kind with
  | .set =>
    if items.isEmpty then displayedNamedSet Class.set.name items
    else '\x7b' :: listed items ++ ['\x7d']
  | .frozenSet => displayedNamedSet Class.frozenSet.name items
  | .keys => "dict_keys([".toList ++ listed items ++ "])".toList
  | .items => "dict_items([".toList ++ listed items ++ "])".toList

def displayedMapping (kind : MappingKind) (entries : List (Text × Text)) : Text :=
  let body := '\x7b' :: listed (entries.map fun (k, v) => k ++ ": ".toList ++ v) ++ ['\x7d']
  match kind with
  | .dict | .userDict => body
  | .proxy => "mappingproxy(".toList ++ body ++ [')']
  | .chain shown => shown
  | .ordered =>
    if entries.isEmpty then "OrderedDict()".toList
    else "OrderedDict([".toList ++
      listed (entries.map fun (k, v) => '(' :: k ++ ", ".toList ++ v ++ [')']) ++ "])".toList

/-- Distinct items of a value that is built on such a container, by the name of its class. -/
def displayedBuiltSet (cls : Class) (kind : SetKind) (items : List Text) : Text :=
  match kind with
  | .set | .frozenSet => displayedNamedSet cls.name items
  | kind => displayedSet kind items

/-- Ordered items of a value that is built on such a container; a queue goes by the name of its
class. -/
def displayedBuiltSequence (cls : Class) (kind : SequenceKind) (items : List Text) : Text :=
  match kind with
  | .queue => displayedQueue cls.name items
  | kind => displayedSequence kind items

mutual

/-- The value as it is displayed. Sets and queues of a declared class go by its name. -/
def displayed : Value → Text
  | null => "None".toList
  | bool b => if b then "True".toList else "False".toList
  | int n => Text.integer n
  | float x => x.toText
  | decimal d => applied "Decimal" [Text.displayed d.toText]
  | text s => Text.displayed s
  | bytes kind data =>
    match kind with
    | .bytes => displayedBytes (bytesDelimiter data) data
    | .byteArray => applied "bytearray" [displayedBytes '\'' data]
    | .memoryView => "<memory>".toList
  | uuid u => applied "UUID" [Text.displayed (uuidText u)]
  | date d => applied "datetime.date" ([d.year, d.month, d.day].map (Nat.toDigits 10))
  | time t => t.displayed
  | dateTime t => t.displayed
  | identifier name => applied "Identifier" [Text.displayed name]
  | range p => p.displayed
  | sequence kind items => displayedSequence kind (displayedItems items)
  | set kind items => displayedSet kind (displayedItems items)
  | mapping kind entries => displayedMapping kind (displayedEntries entries)
  | member cls value => displayedMember cls value (displayed value)
  | mixed cls _ value => displayedMember cls value (displayed value)
  | object cls (set kind items) _ => displayedBuiltSet cls kind (displayedItems items)
  | object cls (sequence kind items) _ => displayedBuiltSequence cls kind (displayedItems items)
  | object _ core _ => displayed core
  | selfWriting cls _ (set kind items) _ => displayedBuiltSet cls kind (displayedItems items)
  | selfWriting cls _ (sequence kind items) _ =>
    displayedBuiltSequence cls kind (displayedItems items)
  | selfWriting _ _ core _ => displayed core
  | classRef cls => cls.displayed
  | foreign _ _ shown => shown

def displayedItems : List Value → List Text
  | [] => []
  | v :: rest => displayed v :: displayedItems rest

def displayedEntries : List (Value × Value) → List (Text × Text)
  | [] => []
  | (k, v) :: rest => (displayed k, displayed v) :: displayedEntries rest

end

def plainText (v : Value) : Text :=
  match v with
  | text s => s
  | decimal d => d.toText
  | uuid u => uuidText u
  | date d => d.toText
  | time t => t.toText
  | dateTime t => t.civil.toText ' ' ++ t.zone.toText
  | member cls value => cls.name ++ '.' :: memberName cls value
  | mixed cls core _ =>
    match core with
    | int n => Text.integer n
    | _ => cls.name ++ ".M".toList
  | object _ core _ | selfWriting _ _ core _ =>
    match core with
    | text s => s
    | decimal d => d.toText
    | _ => v.displayed
  | mapping .proxy entries => displayedMapping .dict (displayedEntries entries)
  | v => v.displayed

/-- Whether the value counts as true: numbers other than zero, flags with a bit set, containers and
texts with content, and everything that has neither size nor content. -/
def isTrue (v : Value) : Bool :=
  match v.core with
  | null => false
  | bool b => b
  | int n => n != 0
  | float x => match x with
    | .finite _ m _ => m != 0
    | _ => true
  | decimal d => match d with
    | .finite _ c _ => c != 0
    | _ => true
  | text s => !s.isEmpty
  | bytes _ data => !data.isEmpty
  | range p => p.size != 0
  | sequence _ items => !items.isEmpty
  | set _ items => !items.isEmpty
  | mapping _ entries => !entries.isEmpty
  | member cls value => match value with
    | int n => n != 0 || !cls.derivesFrom Class.flag
    | _ => true
  | _ => true

def chainMap (maps : List (List (Value × Value))) : Value :=
  let shown := applied "ChainMap"
    ((if maps.isEmpty then [[]] else maps).map fun m =>
      displayedMapping .dict (displayedEntries (keyed m)))
  mapping (.chain shown) (chained maps)

/-- The kinds of values without a literal form of which there is just one value. -/
def singletons : List (String × String) :=
  [("ellipsis", "Ellipsis"), ("NotImplementedType", "NotImplemented"), ("complex", "(1+2j)")]

/-- The names of the classes that all unsupported values of that name share. -/
def sharedNames : List String :=
  ["object", "generator", "function", "module", "slice", "dict_values", "timezone", "list_iterator",
   "builtin_function_or_method"]

/-- A value of an unsupported class with the given name; `token` tells it from others. -/
def unsupported (name : Text) (token : Nat) : Value :=
  match singletons.find? fun single => single.1.toList == name with
  | some single => foreign (Class.mk (.named name) name [Class.object]) 0 single.2.toList
  | none =>
    let id := if sharedNames.any (·.toList == name) then ClassId.named name else ClassId.fresh token
    foreign (Class.mk id name [Class.object]) token ('<' :: name ++ ['>'])

end Value

end SqlTemplate
