import SqlTemplate.Text.Blank
import SqlTemplate.Text.Digits
import SqlTemplate.Text.LetterCase

/-!
# Decimal numbers

A finite decimal is a sign, a coefficient and a power of ten, all kept as given: `1.0` and `1.00`
differ, and so do the two zeros. `plainText` writes it without an exponent, `scientificText` in the
usual scientific notation, and `read?` reads either. Beside the finite numbers stand the infinities
and the quiet and signaling not-a-numbers, which may carry a number of their own.
-/

namespace SqlTemplate

/-- A decimal number; `finite s c e` is `c * 10 ^ e` with the sign `s`. -/
inductive Decimal where
  | finite (negative : Bool) (coefficient : Nat) (exponent : Int)
  | infinite (negative : Bool)
  | notANumber (negative signaling : Bool) (payload : Nat)
  deriving DecidableEq

namespace Decimal

/-- The number without exponent: zeros behind the digits for a positive exponent, and for a
negative one a point before as many digits as it says. -/
def plainText (negative : Bool) (coefficient : Nat) (exponent : Int) : Text :=
  let digits := Nat.toDigits 10 coefficient
  Text.sign negative ++
    if 0 ≤ exponent then
      if coefficient = 0 then ['0'] else digits ++ List.replicate exponent.toNat '0'
    else
      let places := (-exponent).toNat
      let filled := List.replicate (places + 1 - digits.length) '0' ++ digits
      filled.take (filled.length - places) ++ '.' :: filled.drop (filled.length - places)

/-- A whole number with its sign, a plus included. -/
def signedText (n : Int) : Text :=
  (if n < 0 then '-' else '+') :: Nat.toDigits 10 n.natAbs

/-- The number in scientific notation; positional as long as the exponent is not positive and at
most five zeros follow the point. -/
def scientificText (negative : Bool) (coefficient : Nat) (exponent : Int) : Text :=
  let digits := Nat.toDigits 10 coefficient
  let adjusted := exponent + digits.length - 1
  if exponent ≤ 0 ∧ -6 ≤ adjusted then
    if exponent = 0 then Text.sign negative ++ digits
    else plainText negative coefficient exponent
  else
    let fraction := if digits.length ≤ 1 then [] else '.' :: digits.drop 1
    Text.sign negative ++ digits.take 1 ++ fraction ++ 'E' :: signedText adjusted

def toText : Decimal → Text
  | finite negative coefficient exponent => scientificText negative coefficient exponent
  | infinite negative => Text.sign negative ++ "Infinity".toList
  | notANumber negative signaling payload =>
    Text.sign negative ++ (if signaling then "sNaN".toList else "NaN".toList) ++
      if payload = 0 then [] else Nat.toDigits 10 payload

def wholePart? : Decimal → Option Int
  | finite negative coefficient exponent =>
    let size := coefficient * Nat.pow 10 exponent.toNat / Nat.pow 10 (-exponent).toNat
    some (if negative then -(size : Int) else size)
  | _ => none

/-! ## Reading -/

/-- The sign at the start of a text, and the rest. -/
def readSign : Text → Bool × Text
  | '-' :: rest => (true, rest)
  | '+' :: rest => (false, rest)
  | rest => (false, rest)

def digitsValue (s : Text) : Nat := Nat.ofDigitChars 10 s 0

/-- The exponent part of a number: nothing, or a mark, a sign and at least one digit. -/
def readExponent? : Text → Option Int
  | [] => some 0
  | 'e' :: rest =>
    let (negative, digits) := readSign rest
    if digits.isEmpty || !digits.all Char.isDigit then none
    else some (if negative then -(digitsValue digits : Int) else digitsValue digits)
  | _ => none

/-- The digits, the point and the exponent of a finite number. -/
def readFinite? (negative : Bool) (s : Text) : Option Decimal :=
  let whole := s.takeWhile Char.isDigit
  let (fraction, rest) := match s.dropWhile Char.isDigit with
    | '.' :: rest => (rest.takeWhile Char.isDigit, rest.dropWhile Char.isDigit)
    | rest => ([], rest)
  if whole.isEmpty && fraction.isEmpty then none
  else (readExponent? rest).map fun exponent =>
    finite negative (digitsValue (whole ++ fraction)) (exponent - fraction.length)

def readNotANumber? (negative signaling : Bool) (payload : Text) : Option Decimal :=
  if payload.all Char.isDigit then some (notANumber negative signaling (digitsValue payload))
  else none

/-- The decimal that a text denotes. Blanks around it, underscores, letter case and the script of
the digits do not matter. -/
def read? (s : Text) : Option Decimal :=
  let (negative, body) := readSign ((Text.strip s).filter (· != '_'))
  match Text.lower (Text.withCommonDigits body) with
  | ['i', 'n', 'f'] => some (infinite negative)
  | ['i', 'n', 'f', 'i', 'n', 'i', 't', 'y'] => some (infinite negative)
  | 'n' :: 'a' :: 'n' :: payload => readNotANumber? negative false payload
  | 's' :: 'n' :: 'a' :: 'n' :: payload => readNotANumber? negative true payload
  | number => readFinite? negative number

/-! ## Exact comparison -/

/-- Compares `c₁ * 10 ^ e₁` with `c₂ * 10 ^ e₂`. Numbers whose leading digits stand at different
places are decided by the places alone. -/
def compareMagnitude (c₁ : Nat) (e₁ : Int) (c₂ : Nat) (e₂ : Int) : Ordering :=
  if c₁ = 0 ∨ c₂ = 0 then compare c₁ c₂
  else
    let place₁ := e₁ + (Nat.toDigits 10 c₁).length
    let place₂ := e₂ + (Nat.toDigits 10 c₂).length
    if place₁ ≠ place₂ then compare place₁ place₂
    else if e₂ ≤ e₁ then compare (c₁ * Nat.pow 10 (e₁ - e₂).toNat) c₂
    else compare c₁ (c₂ * Nat.pow 10 (e₂ - e₁).toNat)

/-- Compares two finite numbers by value. The two zeros are equal. -/
def compareFinite (n₁ : Bool) (c₁ : Nat) (e₁ : Int) (n₂ : Bool) (c₂ : Nat) (e₂ : Int) : Ordering :=
  let minus₁ := n₁ && c₁ != 0
  let minus₂ := n₂ && c₂ != 0
  match minus₁, minus₂ with
  | false, false => compareMagnitude c₁ e₁ c₂ e₂
  | true, true => compareMagnitude c₂ e₂ c₁ e₁
  | true, false => .lt
  | false, true => .gt

/-- Compares two numbers by value, unless one of them is not a number. -/
def compare? : Decimal → Decimal → Option Ordering
  | notANumber .., _ => none
  | _, notANumber .. => none
  | infinite n₁, infinite n₂ => some (if n₁ = n₂ then .eq else if n₁ then .lt else .gt)
  | infinite n₁, finite .. => some (if n₁ then .lt else .gt)
  | finite .., infinite n₂ => some (if n₂ then .gt else .lt)
  | finite n₁ c₁ e₁, finite n₂ c₂ e₂ => some (compareFinite n₁ c₁ e₁ n₂ c₂ e₂)

end Decimal

end SqlTemplate
