import SqlTemplate.Value.Basic

/-!
# Equality of values

Numbers are equal when they denote the same number, whatever their kind; times with an offset when
they denote the same instant; containers of one family when they hold equal items, two ordered
mappings only if they also hold them in the same order. Instances of declared classes and members of
enumerations are equal as the predefined values that they are built on, and where there is none only
to themselves. A number that is not a number equals nothing.

A class stands for one member of an enumeration: values that are different members are given
different classes, and `equal` takes members of one class for the same.

Sets and mappings are built under this equality: `distinct` keeps the first of equal items, and
`keyed` the first of equal keys with the last of its items.
-/

namespace SqlTemplate

/-- The microseconds of a time of day in universal time, counted from midnight and not brought back
into one day. -/
def TimeOfDay.instant (t : TimeOfDay) (offset : Int) : Int := t.clock.micros - offset

/-- Whether two times of day are the same: both without offset, or at the same instant and with the
same fraction of a second. -/
def TimeOfDay.same (t u : TimeOfDay) : Bool :=
  match t.zone.offset?, u.zone.offset? with
  | none, none => t.clock == u.clock
  | some a, some b => t.instant a == u.instant b && t.clock.micro == u.clock.micro
  | _, _ => false

/-- Whether two civil times are the same: both without offset, or at the same instant. -/
def DateTime.same (t u : DateTime) : Bool :=
  match t.zone.offset?, u.zone.offset? with
  | none, none => t.civil == u.civil
  | some a, some b => instant t.civil a == instant u.civil b
  | _, _ => false

def Progression.same (p q : Progression) : Bool :=
  p.size == q.size &&
    (p.size == 0 || p.start == q.start && (p.size == 1 || p.step == q.step))

namespace Value

def number? : Value → Option Decimal
  | bool b => some (.finite false (if b then 1 else 0) 0)
  | int n => some (.finite (n < 0) n.natAbs 0)
  | float x => some x.toDecimal
  | decimal d => some d
  | _ => none

def sameAtom (v w : Value) : Bool :=
  match v.number?, w.number? with
  | some a, some b => a.compare? b == some .eq
  | none, none =>
    match v, w with
    | null, null => true
    | text s, text t => s == t
    | bytes _ a, bytes _ b => a == b
    | uuid a, uuid b => a == b
    | date a, date b => a == b
    | time a, time b => a.same b
    | dateTime a, dateTime b => a.same b
    | identifier a, identifier b => a == b
    | range a, range b => a.same b
    | classRef a, classRef b => a.same b
    | foreign a i _, foreign b j _ => a.same b && i == j
    | _, _ => false
  | _, _ => false

def sameFamily : SequenceKind → SequenceKind → Bool
  | .list, .list | .queue, .queue | .userList, .userList => true
  | .userList, .list | .list, .userList => true
  | k, l => k.isTuple && l.isTuple

mutual

/-- Whether the value equals the value that has no wrapping. -/
def equalCore : Value → Value → Bool
  | sequence k xs, w =>
    match w with
    | sequence l ys => sameFamily k l && equalItems xs ys
    | _ => false
  | set _ xs, w =>
    match w with
    | set _ ys => xs.length == ys.length && equalSome xs ys
    | _ => false
  | mapping k xs, w =>
    match w with
    | mapping l ys =>
      xs.length == ys.length && if k.isOrdered && l.isOrdered then equalInOrder xs ys
        else equalEntries xs ys
    | _ => false
  | member c _, w =>
    match w with
    | member d _ => c.same d
    | _ => false
  | mixed _ core _, w => equalCore core w
  | object _ core _, w => equalCore core w
  | selfWriting _ _ core _, w => equalCore core w
  | v, w => sameAtom v w

def equalItems : List Value → List Value → Bool
  | [], ys => ys.isEmpty
  | x :: xs, ys =>
    match ys with
    | [] => false
    | y :: ys => equalCore x y.core && equalItems xs ys

/-- Whether each item is equal to some item of the other list. -/
def equalSome : List Value → List Value → Bool
  | [], _ => true
  | x :: xs, ys => ys.any (fun y => equalCore x y.core) && equalSome xs ys

/-- Whether entries at the same places have equal keys and equal items. -/
def equalInOrder : List (Value × Value) → List (Value × Value) → Bool
  | [], ys => ys.isEmpty
  | (k, x) :: xs, ys =>
    match ys with
    | [] => false
    | (l, y) :: ys => equalCore k l.core && equalCore x y.core && equalInOrder xs ys

/-- Whether each entry has one with an equal key and an equal item in the other list. -/
def equalEntries : List (Value × Value) → List (Value × Value) → Bool
  | [], _ => true
  | (k, x) :: xs, ys =>
    ys.any (fun entry => equalCore k entry.1.core && equalCore x entry.2.core) && equalEntries xs ys

end

def equal (v w : Value) : Bool := equalCore v w.core

/-! ## Building sets and mappings -/

/-- The items without those that equal an earlier one. -/
def distinctFrom (kept : List Value) : List Value → List Value
  | [] => kept.reverse
  | v :: rest => distinctFrom (if kept.any (equal v) then kept else v :: kept) rest

def distinct (items : List Value) : List Value := distinctFrom [] items

/-- The entries with the item under the key replaced, or with a new entry at the end. -/
def put (key item : Value) : List (Value × Value) → List (Value × Value)
  | [] => [(key, item)]
  | (k, i) :: rest => if equal key k then (k, item) :: rest else (k, i) :: put key item rest

/-- The entries, of equal keys the first with the last of its items. -/
def keyed (entries : List (Value × Value)) : List (Value × Value) :=
  entries.foldl (fun kept entry => put entry.1 entry.2 kept) []

/-- The entries of a chain of mappings: the keys in the order in which the mappings, from the last
to the first, bring them in, each with the item of the first mapping that has it. -/
def chained (maps : List (List (Value × Value))) : List (Value × Value) :=
  keyed (maps.reverse.flatMap keyed)

end Value

end SqlTemplate
