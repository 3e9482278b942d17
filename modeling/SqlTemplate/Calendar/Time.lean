import SqlTemplate.Calendar.Date

/-!
# Times of day, civil times and instants

A `Clock` is a time of day to the microsecond, a `Civil` a date with a time of day. Either may be
placed in a `Zone`: nowhere, in a zone of unknown offset, or at an offset from universal time,
counted in microseconds. `Civil.micros` counts microseconds from the start of the calendar,
`Civil.ofMicros?` goes back and fails outside the years 1 to 9999, and `DateTime.universal?` moves a
civil time with an offset to universal time.
-/

namespace SqlTemplate

structure Clock where
  hour : Nat
  minute : Nat
  second : Nat
  micro : Nat
  deriving DecidableEq

namespace Clock

def micros (c : Clock) : Nat :=
  ((c.hour * 60 + c.minute) * 60 + c.second) * 1000000 + c.micro

/-- The time of day with the given count of microseconds since midnight. -/
def ofMicros (n : Nat) : Clock :=
  ⟨n / 3600000000, n / 60000000 % 60, n / 1000000 % 60, n % 1000000⟩

/-- A fraction of a second, written only when it is not zero. -/
def fractionText (micro : Nat) : Text :=
  if micro = 0 then [] else '.' :: Text.padded 10 6 micro

/-- Hours, minutes and seconds with colons between them, and the fraction. -/
def toText (c : Clock) : Text :=
  Text.padded 10 2 c.hour ++ ':' :: Text.padded 10 2 c.minute ++ ':' :: Text.padded 10 2 c.second ++
    fractionText c.micro

end Clock

structure Civil where
  date : Date
  clock : Clock
  deriving DecidableEq

namespace Civil

def dayMicros : Nat := 86400000000

/-- The microseconds from the start of the calendar. -/
def micros (c : Civil) : Nat :=
  (c.date.ordinal - 1) * dayMicros + c.clock.micros

/-- The civil time at a count of microseconds from the start of the calendar, within its years. -/
def ofMicros? (n : Int) : Option Civil :=
  if 0 ≤ n ∧ n < (Date.lastOrdinal * dayMicros : Nat) then
    some ⟨Date.ofOrdinal (n.toNat / dayMicros + 1), Clock.ofMicros (n.toNat % dayMicros)⟩
  else none

/-- The date and the time of day with `separator` between them. -/
def toText (separator : Char) (c : Civil) : Text :=
  c.date.toText ++ separator :: c.clock.toText

/-- The number of the first day of 1970 in the count of microseconds. -/
def epochMicros : Nat := 719162 * dayMicros

end Civil

/-- Where a time is placed: in no zone, in a zone that gives no offset, or ahead of universal time
by an offset in microseconds. -/
inductive Zone where
  | naive
  | unknown
  | offset (micros : Int)
  deriving DecidableEq

namespace Zone

def offset? : Zone → Option Int
  | offset micros => some micros
  | _ => none

/-- A count of hours and minutes, and of seconds with their fraction where these are not zero. -/
def offsetText (micros : Int) : Text :=
  let size := micros.natAbs
  let seconds := size / 1000000 % 60
  (if micros < 0 then '-' else '+') :: Text.padded 10 2 (size / 3600000000) ++
    ':' :: Text.padded 10 2 (size / 60000000 % 60) ++
    if size % 60000000 = 0 then []
    else ':' :: Text.padded 10 2 seconds ++ Clock.fractionText (size % 1000000)

def toText : Zone → Text
  | offset micros => offsetText micros
  | _ => []

end Zone

structure TimeOfDay where
  clock : Clock
  zone : Zone
  deriving DecidableEq

structure DateTime where
  civil : Civil
  zone : Zone
  deriving DecidableEq

namespace DateTime

/-- The microseconds of universal time from the start of the calendar, for a given offset. -/
def instant (civil : Civil) (offset : Int) : Int := civil.micros - offset

/-- The civil time in universal time; a civil time without offset stays as it is. Fails where
universal time leaves the calendar. -/
def universal? (t : DateTime) : Option Civil :=
  match t.zone.offset? with
  | none => some t.civil
  | some offset => Civil.ofMicros? (instant t.civil offset)

/-- Date and time with `T` between them, and the offset. -/
def toText (t : DateTime) : Text :=
  t.civil.toText 'T' ++ t.zone.toText

end DateTime

def TimeOfDay.toText (t : TimeOfDay) : Text :=
  t.clock.toText ++ t.zone.toText

end SqlTemplate
