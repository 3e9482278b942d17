import SqlTemplate.Log.Directive

/-!
# Messages with arguments

The directives of a message are filled with its arguments in order, which have to be used up; two
percent signs next to each other are one. A single argument that is a mapping with entries serves
keyed directives, which name the entry they take between parentheses, and need not be used. A
message without arguments stays as it is.
-/

namespace SqlTemplate

/-- What directives take their values from: the arguments that are left, and the entries of the
mapping that is the only argument. -/
structure Supply where
  left : List Value
  entries? : Option (List (Value × Value))

namespace Supply

def ofArguments (arguments : List Value) : Supply :=
  match arguments with
  | [v] => match v.core with
    | .mapping _ (entry :: entries) => ⟨[v], some (entry :: entries)⟩
    | _ => ⟨[v], none⟩
  | arguments => ⟨arguments, none⟩

/-- The next argument, and the supply without it. -/
def next (s : Supply) : Except MessageFault (Value × Supply) :=
  match s.left with
  | [] => .error .tooFew
  | v :: rest => .ok (v, { s with left := rest })

/-- The supply with the item under a key as the only argument left. -/
def keyed (s : Supply) (key : Text) : Except MessageFault Supply :=
  match s.entries? with
  | none => .error .notKeyed
  | some entries => match entries.find? (·.1.equal (.text key)) with
    | some entry => .ok { s with left := [entry.2] }
    | none => .error (.missing key)

end Supply

namespace Directive

/-- A key up to the parenthesis that closes it, and what follows; `depth` counts the parentheses
that are open inside the key. -/
def splitKey? : Nat → Text → Option (Text × Text)
  | _, [] => none
  | 0, ')' :: rest => some ([], rest)
  | depth + 1, ')' :: rest => (splitKey? depth rest).map fun (key, rest) => (')' :: key, rest)
  | depth, '(' :: rest => (splitKey? (depth + 1) rest).map fun (key, rest) => ('(' :: key, rest)
  | depth, c :: rest => (splitKey? depth rest).map fun (key, rest) => (c :: key, rest)

/-- Goes to the argument that a key names, if there is a key. -/
def readKey (supply : Supply) : Text → Except MessageFault (Supply × Text)
  | '(' :: s =>
    if supply.entries?.isNone then .error .notKeyed
    else match splitKey? 0 s with
      | none => .error .incompleteKey
      | some (key, rest) => do return (← supply.keyed key, rest)
  | s => .ok (supply, s)

/-- A count that a directive may give: what it is called, its type, and a bound that it stays
below. -/
structure Count where
  name : String
  type : String
  bound : Nat

def widthCount : Count := ⟨"width", "ssize_t", Nat.pow 2 63⟩

def precisionCount : Count := ⟨"precision", "int", Nat.pow 2 31⟩

/-- A width or a precision: digits, or a star for the next argument. -/
def readCount (count : Count) (supply : Supply) : Text → Except MessageFault (Int × Supply × Text)
  | '*' :: s => do
    let (v, supply) ← supply.next
    match whole? v with
    | some n =>
      if n < -(count.bound : Int) ∨ (count.bound : Int) ≤ n then
        .error (.outOfType count.type.toList)
      else return (n, supply, s)
    | none => .error .notAWidth
  | s =>
    let digits := s.takeWhile Char.isDigit
    let n := Decimal.digitsValue digits
    if n < count.bound then .ok (n, supply, s.drop digits.length)
    else .error (.tooWide count.name.toList)

def readPrecision (supply : Supply) : Text → Except MessageFault (Option Nat × Supply × Text)
  | '.' :: s => do
    let (n, supply, s) ← readCount precisionCount supply s
    return (some n.toNat, supply, s)
  | s => .ok (none, supply, s)

/-- What follows a mark of size, which changes nothing. -/
def skipSize : Text → Text
  | 'h' :: s | 'l' :: s | 'L' :: s => s
  | s => s

/-- The directive at the start of what follows a percent sign, the supply that it leaves, and what
follows the directive. A negative width asks for alignment to the left. -/
def read (supply : Supply) (s : Text) : Except MessageFault (Directive × Supply × Text) := do
  let (supply, s) ← readKey supply s
  let flags := s.takeWhile ("-+ #0".toList.contains ·)
  let (width, supply, s) ← readCount widthCount supply (s.drop flags.length)
  let flags := if width < 0 then '-' :: flags else flags
  let (precision?, supply, s) ← readPrecision supply s
  match skipSize s with
  | [] => .error .incomplete
  | letter :: rest => return (⟨flags, width.natAbs, precision?, letter⟩, supply, rest)

end Directive

/-- The rest `s` of a message of `total` characters, filled. The first argument bounds the number of
directives. -/
def fillFrom : Nat → Nat → Supply → Text → Except MessageFault Text
  | 0, _, _, s => .ok s
  | fuel + 1, total, supply, s =>
    match s.dropWhile (· != '%') with
    | [] => if supply.left.isEmpty || supply.entries?.isSome then .ok s else .error .tooMany
    | _ :: '%' :: rest => do
      return s.takeWhile (· != '%') ++ '%' :: (← fillFrom fuel total supply rest)
    | _ :: directive => do
      let (d, supply, rest) ← Directive.read supply directive
      let (v, supply) ← supply.next
      let text ← d.fill (total - rest.length - 1) v
      return s.takeWhile (· != '%') ++ text ++ (← fillFrom fuel total supply rest)

def fillMessage (message : Text) (arguments : List Value) : Except MessageFault Text :=
  if arguments.isEmpty then .ok message
  else fillFrom (message.length + 1) message.length (.ofArguments arguments) message

end SqlTemplate
