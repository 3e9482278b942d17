import SqlTemplate.Text.Digits

/-!
# Dates

Dates of the proleptic Gregorian calendar, years 1 to 9999, and their ordinals: the first of January
of year 1 has ordinal 1. `Date.ofOrdinal` splits off whole cycles of 400, 100, 4 and 1 years and
finds the month by walking the lengths of the months.
-/

namespace SqlTemplate

/-- A date: year, month of the year and day of the month, each counted from one. -/
structure Date where
  year : Nat
  month : Nat
  day : Nat
  deriving DecidableEq

namespace Date

/-- Every fourth year is a leap year, but of the centuries only every fourth one. -/
def isLeap (year : Nat) : Bool :=
  year % 4 == 0 && (year % 100 != 0 || year % 400 == 0)

def monthLengths (year : Nat) : List Nat :=
  [31, if isLeap year then 29 else 28, 31, 30, 31, 30, 31, 31, 30, 31, 30, 31]

/-- The number of days in the years before `year`. -/
def daysBefore (year : Nat) : Nat :=
  let y := year - 1
  365 * y + y / 4 - y / 100 + y / 400

/-- The number of days in the first `n` months of those with the given lengths. -/
def daysInFirst : Nat → List Nat → Nat
  | n + 1, length :: rest => length + daysInFirst n rest
  | _, _ => 0

/-- The date's place in the count of days. -/
def ordinal (d : Date) : Nat :=
  daysBefore d.year + daysInFirst (d.month - 1) (monthLengths d.year) + d.day

/-- The month and day of the month of the day with number `n` from zero, counted over months of the
given lengths, the first of which is `month`. -/
def monthAndDay (month n : Nat) : List Nat → Nat × Nat
  | [] => (month, n + 1)
  | length :: rest =>
    if n < length then (month, n + 1) else monthAndDay (month + 1) (n - length) rest

/-- The year of an ordinal and the number of the day in it, from zero. -/
def yearAndDay (n : Nat) : Nat × Nat :=
  let day := n - 1
  let cycles := day / 146097
  let inCycle := day % 146097
  let centuries := min (inCycle / 36524) 3
  let inCentury := inCycle - centuries * 36524
  let fours := inCentury / 1461
  let inFour := inCentury % 1461
  let years := min (inFour / 365) 3
  (400 * cycles + 100 * centuries + 4 * fours + years + 1, inFour - years * 365)

def ofOrdinal (n : Nat) : Date :=
  let (year, day) := yearAndDay n
  let (month, day) := monthAndDay 1 day (monthLengths year)
  ⟨year, month, day⟩

def lastOrdinal : Nat := 3652059

/-- Year, month and day with hyphens between them. -/
def toText (d : Date) : Text :=
  Text.padded 10 4 d.year ++ '-' :: Text.padded 10 2 d.month ++ '-' :: Text.padded 10 2 d.day

end Date

end SqlTemplate
