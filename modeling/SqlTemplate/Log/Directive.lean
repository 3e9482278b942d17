import SqlTemplate.Value.Conversion

/-!
# Directives

A directive is a place of a message where an argument goes: a percent sign, flags, a width, a
precision and a letter, which names the conversion. `s` shows a value plainly, `r` displays it and
`a` displays it without a character outside ASCII; `d`, `i` and `u` write the whole part of a number
in base ten, `x`, `X` and `o` a whole number in base sixteen and eight; `c` is a single character;
`f`, `e` and `g` write a number with a fixed count of decimals, with an exponent, or the shorter way
of the two. The flags ask for alignment to the left, for a sign, for zeros instead of blanks in
front, and for the other form.
-/

namespace SqlTemplate

/-- Why a message cannot be filled with its arguments. -/
inductive MessageFault where
  | tooFew
  | tooMany
  /-- A directive has a key and the arguments have none. -/
  | notKeyed
  | missing (key : Text)
  /-- A width is asked for and something else given than a whole number. -/
  | notAWidth
  /-- A width or a precision in the message is beyond what can be counted. -/
  | tooWide (what : Text)
  /-- A width or a precision among the arguments is beyond the numbers of the named type. -/
  | outOfType (type : Text)
  /-- A number is asked for whose whole part is written. -/
  | notANumber (letter : Char) (className : Text)
  | notWhole (letter : Char) (className : Text)
  /-- A number is asked for whose decimals are written. -/
  | notReal (className : Text)
  /-- The number has no whole part because it is not finite; `shown` is what it is called. -/
  | notFinite (isInfinite : Bool) (shown : Text)
  /-- A whole number is beyond all binary numbers. -/
  | tooLarge
  | notACharacter
  /-- There is no character with the number. -/
  | beyondCharacters
  /-- There is no directive with the letter; `place` is where it stands. -/
  | unsupported (letter : Char) (place : Nat)
  | incomplete
  | incompleteKey

namespace MessageFault

def message : MessageFault → Text
  | tooFew => "not enough arguments for format string".toList
  | tooMany => "not all arguments converted during string formatting".toList
  | notKeyed => "format requires a mapping".toList
  | missing key => Text.displayed key
  | notAWidth => "* wants int".toList
  | tooWide what => what ++ " too big".toList
  | outOfType type => "Python int too large to convert to C ".toList ++ type
  | notANumber letter className =>
    '%' :: letter :: " format: a real number is required, not ".toList ++ className
  | notWhole letter className =>
    '%' :: letter :: " format: an integer is required, not ".toList ++ className
  | notReal className => "must be real number, not ".toList ++ className
  | notFinite _ shown => "cannot convert ".toList ++ shown ++ " to integer".toList
  | tooLarge => "int too large to convert to float".toList
  | notACharacter => "%c requires int or char".toList
  | beyondCharacters => "%c arg not in range(0x110000)".toList
  | unsupported letter place =>
    let shown := if 0x20 ≤ letter.toNat ∧ letter.toNat < 0x7F then letter else '?'
    "unsupported format character '".toList ++ shown :: "' (0x".toList ++
      Nat.toDigits 16 letter.toNat ++ ") at index ".toList ++ Nat.toDigits 10 place
  | incomplete => "incomplete format".toList
  | incompleteKey => "incomplete format key".toList

def kindName : MessageFault → Text
  | missing _ => "KeyError".toList
  | unsupported .. | incomplete | incompleteKey | notFinite false _ | tooWide _ =>
    "ValueError".toList
  | notFinite true _ | tooLarge | beyondCharacters | outOfType _ => "OverflowError".toList
  | _ => "TypeError".toList

end MessageFault

inductive Conversion where
  | plain | displayed | ascii
  | wholePart
  | whole (base : Nat)
  | character
  | fixed | scientific | general

def Conversion.named? : Char → Option Conversion
  | 's' => some plain
  | 'r' => some displayed
  | 'a' => some ascii
  | 'd' | 'i' | 'u' => some wholePart
  | 'x' | 'X' => some (whole 16)
  | 'o' => some (whole 8)
  | 'c' => some character
  | 'f' | 'F' => some fixed
  | 'e' | 'E' => some scientific
  | 'g' | 'G' => some general
  | _ => none

structure Directive where
  flags : Text
  width : Nat
  precision? : Option Nat
  letter : Char

namespace Directive

def has (d : Directive) (flag : Char) : Bool := d.flags.contains flag

/-! ## Alignment and signs -/

def pad (d : Directive) (s : Text) : Text :=
  let blanks := List.replicate (d.width - s.length) ' '
  if d.has '-' then s ++ blanks else blanks ++ s

def cut (d : Directive) (s : Text) : Text := d.pad (d.precision?.elim s s.take)

/-- The sign of a number, written for numbers that are not negative only where a flag asks for
it. -/
def sign (d : Directive) (negative : Bool) : Text :=
  if negative then ['-'] else if d.has '+' then ['+'] else if d.has ' ' then [' '] else []

/-- A number behind its sign, filled up with zeros between them where a flag asks for it. -/
def signed (d : Directive) (sign digits : Text) : Text :=
  let digits := if d.letter.isUpper then digits.map Char.toUpper else digits
  if d.has '0' && !d.has '-' then
    sign ++ List.replicate (d.width - sign.length - digits.length) '0' ++ digits
  else d.pad (sign ++ digits)

/-! ## Numbers -/

/-- A whole number in a base, with at least as many digits as the precision says. -/
def integer (d : Directive) (base : Nat) (mark : Text) (n : Int) : Text :=
  d.signed (d.sign (n < 0) ++ mark) (Text.padded base (d.precision?.getD 0) n.natAbs)

/-- The digits of `n` with a point before the last `places`; without digits behind it the point
stands only where a flag asks for it. -/
def pointed (d : Directive) (places n : Nat) : Text :=
  Decimal.plainText false n (-(places : Int)) ++ if places = 0 && d.has '#' then ['.'] else []

/-- The digits without zeros at the end behind the point, unless a flag asks for them. -/
def trimmed (d : Directive) (s : Text) : Text :=
  if d.has '#' || !s.contains '.' then s
  else match s.reverse.dropWhile (· == '0') with
    | '.' :: rest => rest.reverse
    | rest => rest.reverse

def exponentText (e : Int) : Text :=
  'e' :: (if e < 0 then '-' else '+') :: Text.padded 10 2 e.natAbs

def fixedText (d : Directive) (c : Nat) (e : Int) : Text :=
  let places := d.precision?.getD 6
  d.pointed places (roundScaled c (e + places))

def scientificText (d : Directive) (c : Nat) (e : Int) : Text :=
  let places := d.precision?.getD 6
  let (digits, exponent) := leadingDigits (places + 1) c e
  d.pointed places digits ++ exponentText exponent

/-- The number `c * 10 ^ e` with as many leading digits as the precision says, and an exponent only
if the point would stand outside of them or more than four places before them. -/
def generalText (d : Directive) (c : Nat) (e : Int) : Text :=
  let places := (d.precision?.getD 6) - 1
  let (digits, exponent) := leadingDigits (places + 1) c e
  if -4 ≤ exponent ∧ exponent ≤ places then
    let behind := ((places : Int) - exponent).toNat
    d.trimmed (d.pointed behind (roundScaled c (e + behind)))
  else d.trimmed (d.pointed places digits) ++ exponentText exponent

def real (d : Directive) (text : Nat → Int → Text) (x : Binary64) : Text :=
  match x.toDecimal with
  | .finite negative c e => d.signed (d.sign negative) (text c e)
  | .infinite negative => d.signed (d.sign negative) "inf".toList
  | .notANumber .. => d.signed (d.sign false) "nan".toList

/-! ## Arguments -/

def wholePart (d : Directive) (v : Value) : Except MessageFault Int :=
  let part (x : Decimal) (infinity notANumber : String) : Except MessageFault Int :=
    match x with
    | .infinite _ => .error (.notFinite true infinity.toList)
    | .notANumber .. => .error (.notFinite false notANumber.toList)
    | x => .ok (x.wholePart?.getD 0)
  match v.core with
  | .int n => .ok n
  | .bool b => .ok (if b then 1 else 0)
  | .uuid u => .ok u.toNat
  | .float x => part x.toDecimal "float infinity" "float NaN"
  | .decimal x => part x "Infinity" "NaN"
  | _ => .error (.notANumber d.letter v.cls.messageName)

def whole? (v : Value) : Option Int :=
  match v.core with
  | .int n => some n
  | .bool b => some (if b then 1 else 0)
  | _ => none

def binary (v : Value) : Except MessageFault Binary64 :=
  match whole? v, v.core.number? with
  | some _, _ => match v.toBinary with
    | .infinite _ => .error .tooLarge
    | x => .ok x
  | none, some _ => .ok v.toBinary
  | none, none => .error (.notReal v.cls.messageName)

def character (v : Value) : Except MessageFault Char :=
  match v.core, whole? v with
  | .text [c], _ => .ok c
  | _, some n => if 0 ≤ n ∧ n < 0x110000 then .ok (Char.ofNat n.toNat) else .error .beyondCharacters
  | _, none => .error .notACharacter

/-- The text that the directive makes of a value; `place` is where its letter stands. -/
def fill (d : Directive) (place : Nat) (v : Value) : Except MessageFault Text :=
  match Conversion.named? d.letter with
  | some .plain => .ok (d.cut v.plainText)
  | some .displayed => .ok (d.cut v.displayed)
  | some .ascii => .ok (d.cut (Text.ascii v.displayed))
  | some .wholePart => (d.wholePart v).map (d.integer 10 [])
  | some (.whole base) => match whole? v with
    | some n => .ok (d.integer base (if d.has '#' then ['0', d.letter] else []) n)
    | none => .error (.notWhole d.letter v.cls.messageName)
  | some .character => (character v).map fun c => d.pad [c]
  | some .fixed => (binary v).map (d.real d.fixedText)
  | some .scientific => (binary v).map (d.real d.scientificText)
  | some .general => (binary v).map (d.real d.generalText)
  | none => .error (.unsupported d.letter place)

end Directive

end SqlTemplate
