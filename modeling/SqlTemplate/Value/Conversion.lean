import SqlTemplate.Value.Display

/-!
# Conversions

A value as a value of another kind: as the items that it is iterated over, as a whole, decimal or
binary number, as entries and as bytes. Numbers lose what the other kind has no place for.
-/

namespace SqlTemplate

namespace Value

/-- The items that a value is iterated over. -/
def iterated (v : Value) : List Value :=
  match v.core with
  | sequence _ items | set _ items => items
  | mapping _ entries => entries.map Prod.fst
  | text s => s.map fun c => text [c]
  | range p => p.terms.map int
  | bytes _ data => data.map fun b => int b.toNat
  | _ => []

/-- The whole number that a text of digits denotes. Blanks around it, underscores and the script of
the digits do not matter. -/
def readWhole (s : Text) : Int :=
  let (negative, body) := Decimal.readSign ((Text.strip s).filter (· != '_'))
  let digits := Text.withCommonDigits body
  if negative then -(Decimal.digitsValue digits : Int) else Decimal.digitsValue digits

def toWhole (v : Value) : Int :=
  match v.core with
  | int n => n
  | bool b => if b then 1 else 0
  | float x => x.toDecimal.wholePart?.getD 0
  | decimal d => d.wholePart?.getD 0
  | text s => readWhole s
  | _ => 0

def toDecimal (v : Value) : Decimal :=
  match v.core with
  | decimal d => d
  | text s => (Decimal.read? s).getD (.finite false 0 0)
  | float x => x.toDecimal
  | v => .finite (v.toWhole < 0) v.toWhole.natAbs 0

def toBinary (v : Value) : Binary64 :=
  match v.core with
  | float x => x
  | v => .ofDecimal v.toDecimal

/-- The entries of a value as a mapping. -/
def toEntries (v : Value) : List (Value × Value) :=
  match v.core with
  | mapping _ entries => entries
  | v => keyed <| v.iterated.filterMap fun pair =>
    match pair.iterated with
    | [k, i] => some (k, i)
    | _ => none

def toBytes (v : Value) : List UInt8 :=
  match v.core with
  | bytes _ data => data
  | v => v.iterated.map fun item => UInt8.ofNat item.toWhole.toNat

end Value

end SqlTemplate
