import SqlTemplate.Value.Equality

/-!
# The order of values

`less` compares values that have an order: numbers by size, texts and bytes item by item, dates and
times by when they come, containers by the first place where they differ, sets by inclusion. Other
pairs are `incomparable`. A number that is not a number comes before and after nothing; but where a
decimal is compared with one, the comparison itself fails (`noOrder`).
-/

namespace SqlTemplate

/-- Why two values cannot be put in order. -/
inductive OrderFault where
  | incomparable
  | noOrder
  deriving DecidableEq

/-- The whole seconds of a time of day in universal time, and its microseconds; an offset counts in
whole seconds. -/
def TimeOfDay.inSeconds (t : TimeOfDay) (offset : Int) : Int × Nat :=
  ((t.clock.micros / 1000000 : Nat) - offset / 1000000, t.clock.micro)

/-- Whether one count of seconds and microseconds comes before another. -/
def TimeOfDay.before (a b : Int × Nat) : Bool := a.1 < b.1 || a.1 == b.1 && a.2 < b.2

namespace Value

/-- Whether one list comes before another: at the first place where they differ, or by ending. -/
def lexLess {α : Type} [BEq α] (less : α → α → Bool) : List α → List α → Bool
  | _, [] => false
  | [], _ :: _ => true
  | x :: xs, y :: ys => if x == y then lexLess less xs ys else less x y

def isDecimal : Value → Bool
  | decimal _ => true
  | _ => false

def lessAtom (v w : Value) : Except OrderFault Bool :=
  match v.number?, w.number? with
  | some a, some b =>
    match a.compare? b with
    | some ordering => .ok (ordering == .lt)
    | none => if v.isDecimal || w.isDecimal then .error .noOrder else .ok false
  | none, none =>
    match v, w with
    | text s, text t => .ok (lexLess (fun c d => c.toNat < d.toNat) s t)
    | bytes k a, bytes l b =>
      if k = .memoryView ∨ l = .memoryView then .error .incomparable
      else .ok (lexLess (fun x y => x < y) a b)
    | uuid a, uuid b => .ok (a.toNat < b.toNat)
    | date a, date b => .ok (a.ordinal < b.ordinal)
    | time a, time b =>
      match a.zone.offset?, b.zone.offset? with
      | none, none => .ok (a.clock.micros < b.clock.micros)
      | some o, some p => .ok (TimeOfDay.before (a.inSeconds o) (b.inSeconds p))
      | _, _ => .error .incomparable
    | dateTime a, dateTime b =>
      match a.zone.offset?, b.zone.offset? with
      | none, none => .ok (a.civil.micros < b.civil.micros)
      | some o, some p => .ok (DateTime.instant a.civil o < DateTime.instant b.civil p)
      | _, _ => .error .incomparable
    | _, _ => .error .incomparable
  | _, _ => .error .incomparable

mutual

/-- Compares a value with one that has no wrapping. -/
def lessCore : Value → Value → Except OrderFault Bool
  | sequence k xs, w =>
    match w with
    | sequence l ys => if sameFamily k l then lessItems xs ys else .error .incomparable
    | _ => .error .incomparable
  | set _ xs, w =>
    match w with
    | set _ ys => .ok (xs.length < ys.length && equalSome xs ys)
    | _ => .error .incomparable
  | mapping _ _, _ => .error .incomparable
  | member _ _, _ => .error .incomparable
  | mixed _ core _, w => lessCore core w
  | object _ core _, w => lessCore core w
  | selfWriting _ _ core _, w => lessCore core w
  | v, w => lessAtom v w

/-- Compares at the first place where the items differ. -/
def lessItems : List Value → List Value → Except OrderFault Bool
  | [], ys => .ok (!ys.isEmpty)
  | x :: xs, ys =>
    match ys with
    | [] => .ok false
    | y :: ys => if equalCore x y.core then lessItems xs ys else lessCore x y.core

end

/-- Whether the first value comes before the second. -/
def less (v w : Value) : Except OrderFault Bool := lessCore v w.core

end Value

end SqlTemplate
