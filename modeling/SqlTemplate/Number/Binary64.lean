import SqlTemplate.Number.Decimal
import SqlTemplate.Number.Rounding

/-!
# Binary floating-point numbers of 64 bits

`Binary64.ofBits` takes a number apart into sign, significand and exponent of two. Every finite one
is a decimal number exactly (`toDecimal`), which is how it is compared, and every quotient has a
number nearest to it (`nearest`). `shortest` finds the decimal with the fewest digits that still
reads back as the number: on each grid of decimals with `n` digits the two neighbours of the number
are tried against the interval of reals that round to it.
-/

namespace SqlTemplate

/-- A number in the 64-bit binary format; `finite s m q` is `m * 2 ^ q` with the sign `s`. -/
inductive Binary64 where
  | finite (negative : Bool) (significand : Nat) (exponent : Int)
  | infinite (negative : Bool)
  | notANumber
  deriving DecidableEq

namespace Binary64

/-- The number with the given pattern of bits, the sign in the highest one. -/
def ofBits (bits : Nat) : Binary64 :=
  let negative := bits / Nat.pow 2 63 % 2 == 1
  let biased : Nat := bits / Nat.pow 2 52 % Nat.pow 2 11
  let fraction := bits % Nat.pow 2 52
  if biased = Nat.pow 2 11 - 1 then if fraction = 0 then infinite negative else notANumber
  else if biased = 0 then finite negative fraction (-1074)
  else finite negative (Nat.pow 2 52 + fraction) ((biased : Int) - 1075)

def toDecimal : Binary64 → Decimal
  | finite negative significand exponent =>
    if 0 ≤ exponent then .finite negative (significand * Nat.pow 2 exponent.toNat) 0
    else .finite negative (significand * Nat.pow 5 (-exponent).toNat) exponent
  | infinite negative => .infinite negative
  | notANumber => .notANumber false false 0

/-- The number nearest to `n / d`; of two equally near ones the one with the even significand. A
quotient beyond the largest number becomes infinite. -/
def nearest (negative : Bool) (n d : Nat) : Binary64 :=
  let significand (q : Int) : Nat × Nat := (n * Nat.pow 2 (-q).toNat, d * Nat.pow 2 q.toNat)
  let least : Int := n.log2 - d.log2 - 53
  let q := if least < -1074 then -1074 else least
  let q := if Nat.pow 2 53 ≤ (significand q).1 / (significand q).2 then q + 1 else q
  let m := roundDiv (significand q).1 (significand q).2
  let (m, q) := if m = Nat.pow 2 53 then (Nat.pow 2 52, q + 1) else (m, q)
  if n = 0 then finite negative 0 (-1074)
  else if 971 < q then infinite negative
  else finite negative m q

def ofDecimal : Decimal → Binary64
  | .finite negative c e => nearest negative (c * Nat.pow 10 e.toNat) (Nat.pow 10 (-e).toNat)
  | .infinite negative => infinite negative
  | .notANumber .. => notANumber

/-! ## The fewest digits that read back -/

/-- The reals that round to a number, over a common denominator: the number is `value / unit`, the
interval reaches from `low / unit` to `high / unit`, with its ends or without. -/
structure Interval where
  value : Nat
  low : Nat
  high : Nat
  unit : Nat
  ends : Bool

/-- The interval of `m * 2 ^ q`. Below a power of two the spacing halves, unless it is the least. -/
def interval (m : Nat) (q : Int) : Interval :=
  let below := if m = Nat.pow 2 52 ∧ -1074 < q then 1 else 2
  let scale := Nat.pow 2 q.toNat
  { value := 4 * m * scale
    low := (4 * m - below) * scale
    high := (4 * m + 2) * scale
    unit := 4 * Nat.pow 2 (-q).toNat
    ends := m % 2 == 0 }

def Interval.scaled (i : Interval) (k : Int) : Interval :=
  let up := Nat.pow 10 k.toNat
  let down := Nat.pow 10 (-k).toNat
  { i with value := i.value * up, low := i.low * up, high := i.high * up, unit := i.unit * down }

def Interval.contains (i : Interval) (d : Nat) : Bool :=
  if i.ends then i.low ≤ d * i.unit && d * i.unit ≤ i.high
  else i.low < d * i.unit && d * i.unit < i.high

/-- The whole number nearest to the value of those that neighbour it and lie in the interval; of two
equally near the even one. -/
def Interval.nearest? (i : Interval) : Option Nat :=
  let below := i.value / i.unit
  let rest := i.value - below * i.unit
  match i.contains below, i.contains (below + 1) with
  | true, false => some below
  | false, true => some (below + 1)
  | false, false => none
  | true, true =>
    if 2 * rest < i.unit then some below
    else if i.unit < 2 * rest then some (below + 1)
    else if below % 2 = 0 then some below else some (below + 1)

/-- How many tenfold steps lift `m / d` to at least one. -/
def stepsToOne (d : Nat) : Nat → Nat → Nat
  | 0, _ => 0
  | fuel + 1, m => if d ≤ m then 0 else stepsToOne d fuel (m * 10) + 1

/-- The place of the leading digit of `m * 2 ^ q`: the number is at least `10 ^ (p - 1)` and less
than `10 ^ p`. -/
def leadingPlace (m : Nat) (q : Int) : Int :=
  if 0 ≤ q then (Nat.toDigits 10 (m * Nat.pow 2 q.toNat)).length
  else
    let d := Nat.pow 2 (-q).toNat
    if d ≤ m then (Nat.toDigits 10 (m / d)).length else 1 - (stepsToOne d 400 m : Int)

/-- The first of the grids of `n`, `n + 1`, … digits that has a number in the interval. -/
def firstGrid (i : Interval) (place : Int) : Nat → Nat → Nat × Int
  | 0, n => (i.value / i.unit, n)
  | fuel + 1, n =>
    match (i.scaled (n - place)).nearest? with
    | some d => (d, place - n)
    | none => firstGrid i place fuel (n + 1)

/-- The digits of the shortest decimal that reads back as `m * 2 ^ q`, without zeros at the end, and
the place of the point: the number is nearest to `0.d₁d₂… * 10 ^ place`. -/
def shortest (m : Nat) (q : Int) : Text × Int :=
  let (d, exponent) := firstGrid (interval m q) (leadingPlace m q) 20 1
  let digits := Nat.toDigits 10 d
  ((digits.reverse.dropWhile (· == '0')).reverse, exponent + digits.length)

/-! ## Layout -/

/-- How a format lays out the digits of a number. -/
structure Layout where
  /-- The least exponent of the leading digit that is written positionally. -/
  positionalFrom : Int
  /-- The exponent of the leading digit from which on the number is not written positionally. -/
  positionalTo : Int
  plus : Bool
  width : Nat

/-- The digits with the point at `place`; a whole number ends in `.0`. -/
def positional (digits : Text) (place : Int) : Text :=
  if place ≤ 0 then "0.".toList ++ List.replicate (-place).toNat '0' ++ digits
  else
    let n := place.toNat
    if digits.length ≤ n then digits ++ List.replicate (n - digits.length) '0' ++ ".0".toList
    else digits.take n ++ '.' :: digits.drop n

/-- The digits with the point behind the first one, and the exponent. -/
def Layout.exponential (layout : Layout) (digits : Text) (exponent : Int) : Text :=
  let fraction := if digits.length ≤ 1 then [] else '.' :: digits.drop 1
  let sign := if exponent < 0 then ['-'] else if layout.plus then ['+'] else []
  digits.take 1 ++ fraction ++ 'e' :: sign ++ Text.padded 10 layout.width exponent.natAbs

def Layout.text (layout : Layout) (negative : Bool) (m : Nat) (q : Int) : Text :=
  Text.sign negative ++
    if m = 0 then "0.0".toList
    else
      let (digits, place) := shortest m q
      if layout.positionalFrom ≤ place - 1 ∧ place - 1 < layout.positionalTo then
        positional digits place
      else layout.exponential digits (place - 1)

/-- The layout of literals and of displayed numbers: positional from `0.0001` to below `10 ^ 16`. -/
def literalLayout : Layout := ⟨-4, 16, true, 2⟩

def toText : Binary64 → Text
  | finite negative m q => literalLayout.text negative m q
  | infinite negative => Text.sign negative ++ "inf".toList
  | notANumber => "nan".toList

end Binary64

end SqlTemplate
