/-!
# Sorting with a comparison that may fail

`sorted` sorts a list by a comparison that may fail or be no total order. The first comparison that
fails ends the sorting, and an inconsistent order shows in the result, so the comparisons are made
in one certain order: that of a stable merge sort that makes use of the runs that it finds.

The list is cut into runs, ascending or strictly descending, which are turned around. A run that is
too short takes in the items behind it, each inserted behind the last item that it does not come
before. Runs wait on a stack to be merged; how early depends on their place in the list, so that
the merges are balanced. Two runs are merged from the side of the shorter one: item by item as long
as neither of them wins often in a row, and then in leaps, which find the place of an item by
strides that double and by halving the last of them.
-/

namespace SqlTemplate

namespace Sorting

/-! ## Looking for a place -/

section

variable {ε : Type} (holds : Nat → Except ε Bool)

/-- The first place from `low` to `low + size` that a condition does not hold at, found by halving.
Of two places in the middle the later one is asked for, or the earlier one where places are counted
from the end. The first argument bounds the number of halvings. -/
def halve (fromEnd : Bool) : Nat → Nat → Nat → Except ε Nat
  | 0, low, _ => .ok low
  | fuel + 1, low, size =>
    if size = 0 then .ok low
    else do
      let half := (if fromEnd then size - 1 else size) / 2
      if ← holds (low + half) then halve fromEnd fuel (low + half + 1) (size - half - 1)
      else halve fromEnd fuel low half

/-- The first place behind `last` that the condition does not hold at, looked for at `next` and from
there on in strides that double. -/
def stride (fromEnd : Bool) (count : Nat) : Nat → Nat → Nat → Except ε Nat
  | 0, last, _ => halve holds fromEnd count (last + 1) (count - (last + 1))
  | fuel + 1, last, next =>
    if count ≤ next then halve holds fromEnd count (last + 1) (count - (last + 1))
    else do
      if ← holds next then stride fromEnd count fuel next (2 * next + 1)
      else halve holds fromEnd count (last + 1) (next - (last + 1))

/-- At how many of `count` places the condition holds before it does not any more. -/
def leap (fromEnd : Bool) (count : Nat) : Except ε Nat :=
  if count = 0 then .ok 0
  else do
    if ← holds 0 then stride holds fromEnd count count 0 1 else return 0

end

/-- Whether the item at a place passes a test. -/
def passesAt {α ε : Type} (test : α → Except ε Bool) (items : List α) (place : Nat) :
    Except ε Bool :=
  match items[place]? with
  | some x => test x
  | none => .ok false

end Sorting

section

variable {α ε : Type} (less : α → α → Except ε Bool)

/-! ## Runs -/

/-- The items that go on strictly descending from `last`, in reverse, and the rest. -/
def descendingRun (last : α) (run : List α) : List α → Except ε (List α × List α)
  | [] => .ok (run, [])
  | x :: rest => do
    if ← less x last then descendingRun x (x :: run) rest else return (run, x :: rest)

/-- The items that go on ascending from `last`, in reverse, and the rest. -/
def ascendingRun (last : α) (run : List α) : List α → Except ε (List α × List α)
  | [] => .ok (run, [])
  | x :: rest => do
    if ← less x last then return (run, x :: rest) else ascendingRun x (x :: run) rest

/-- The run at the start of a list, in ascending order, and the rest. -/
def firstRun : List α → Except ε (List α × List α)
  | [] => .ok ([], [])
  | [x] => .ok ([x], [])
  | x :: y :: rest => do
    if ← less y x then descendingRun less y [y, x] rest
    else
      let (run, rest) ← ascendingRun less y [y, x] rest
      return (run.reverse, rest)

/-- The sorted items with one more behind the last of them that it does not come before. -/
def insertSorted (items : List α) (x : α) : Except ε (List α) := do
  let place ← Sorting.halve (Sorting.passesAt (fun y => (less x y).map not) items) false
    items.length 0 items.length
  return items.take place ++ x :: items.drop place

namespace Sorting

/-- The length that runs of a list are brought to: that of the list, halved until it is less than 64
and rounded up. -/
def leastRun (length : Nat) : Nat :=
  let halvings := length.log2 - 5
  let left := length >>> halvings
  if left <<< halvings = length then left else left + 1

/-- The run at the start of a list, brought to the least length if it is shorter, and the rest. -/
def nextRun (least : Nat) (items : List α) : Except ε (List α × List α) := do
  let (run, rest) ← firstRun less items
  let run' ← (rest.take (least - run.length)).foldlM (insertSorted less) run
  return (run', rest.drop (least - run.length))

/-! ## Merging two runs -/

/-- How a merging goes on: item by item, with how many times in a row the first or the second run
has won, or in rounds of two leaps, with how many items the first leap of a round has taken, or with
the more of both at its end. -/
inductive Pace where
  | single (won lost : Nat)
  | leaping
  | leapt (taken : Nat)
  | landed (taken : Nat)

/-- The pace of the next step, and how often in a row a run has to win to make the merging leap. At
the end of a round the merging leaps on, with less patience, if one of the leaps has taken seven
items or more. -/
def Pace.next : Pace → Nat → Pace × Nat
  | landed taken, patience =>
    if 7 ≤ taken then (leaping, max 1 (patience - 1)) else (single 0 0, patience + 1)
  | pace, patience => (pace, patience)

/-- What one step of a merging gives: the items that come next, what is left of the two runs, and
how to go on with them. -/
structure Step (α : Type) where
  items : List α
  first : List α
  second : List α
  pace : Pace

/-- The item of one of the runs that wins over that of the other. -/
def singleStep (patience won lost : Nat) (x : α) (first : List α) (y : α) (second : List α) :
    Except ε (Step α) := do
  if ← less y x then
    return ⟨[y], x :: first, second,
      if patience ≤ lost + 1 then .leaping else .single 0 (lost + 1)⟩
  else
    return ⟨[x], first, y :: second, if patience ≤ won + 1 then .leaping else .single (won + 1) 0⟩

/-- A leap over the items of the first run up to the place of `y`, which follows them unless no more
than one item of the first run is left. -/
def leapFirst (fromEnd : Bool) (pace : Nat → Pace) (first : List α) (y : α) (second : List α) :
    Except ε (Step α) := do
  let taken ← leap (passesAt (fun x => (less y x).map not) first) fromEnd first.length
  if first.length ≤ taken + 1 then
    return ⟨first.take taken, first.drop taken, y :: second, pace taken⟩
  else return ⟨first.take taken ++ [y], first.drop taken, second, pace taken⟩

/-- A leap over the items of the second run up to the place of `x`, which follows them. -/
def leapSecond (fromEnd : Bool) (pace : Nat → Pace) (x : α) (first second : List α) :
    Except ε (Step α) := do
  let taken ← leap (passesAt (fun y => less y x) second) fromEnd second.length
  return ⟨second.take taken ++ [x], first, second.drop taken, pace taken⟩

/-- Whether the leap at a pace is over the first run: that is the first one of a round, but the
second one where runs are merged from the end. -/
def Pace.overFirst (fromEnd : Bool) : Pace → Bool
  | leapt _ => fromEnd
  | _ => !fromEnd

/-- The pace behind a leap that has taken so many items. -/
def Pace.behind : Pace → Nat → Pace
  | leapt taken, more => landed (max taken more)
  | _, taken => leapt taken

/-- One step of a merging. -/
def mergeStep (fromEnd : Bool) (patience : Nat) (x : α) (first : List α) (y : α)
    (second : List α) : Pace → Except ε (Step α)
  | .single won lost => singleStep less patience won lost x first y second
  | pace =>
    if pace.overFirst fromEnd then leapFirst less fromEnd pace.behind (x :: first) y second
    else leapSecond less fromEnd pace.behind x first (y :: second)

/-- Merges what is left of two runs, and gives the patience at the end with it. It is done when no
more than one item is left of the first run, which comes behind all of the second one, or none of
the second one. The first number bounds the number of steps. -/
def mergeRest (fromEnd : Bool) : Nat → Pace → Nat → List α → List α → Except ε (List α × Nat)
  | fuel + 1, pace, patience, x :: x' :: first, y :: second => do
    let (pace, patience) := pace.next patience
    let step ← mergeStep less fromEnd patience x (x' :: first) y second pace
    let (items, patience) ← mergeRest fromEnd fuel step.pace patience step.first step.second
    return (step.items ++ items, patience)
  | _, _, patience, first, second => .ok (second ++ first, patience)

/-- Merges two runs, of which the second one has the item that comes first. -/
def mergeFrom (fromEnd : Bool) (patience : Nat) (first : List α) :
    List α → Except ε (List α × Nat)
  | [] => .ok (first, patience)
  | y :: second => do
    let (items, patience) ← mergeRest less fromEnd (first.length + second.length) (.single 0 0)
      patience first second
    return (y :: items, patience)

/-- Merges two runs from the side of the shorter one. -/
def mergeBoth (patience : Nat) (first second : List α) : Except ε (List α × Nat) :=
  if first.length ≤ second.length then mergeFrom less false patience first second
  else (mergeFrom (fun x y => less y x) true patience second.reverse first.reverse).map
    (Prod.map List.reverse id)

/-- Merges two runs that follow one another. What the first one has before the place of the first
item of the second one stays where it is, and so does what the second one has behind the place of
the last item of the first one. -/
def mergeRuns (patience : Nat) (first : List α) : List α → Except ε (List α × Nat)
  | [] => .ok (first, patience)
  | y :: second => do
    let early ← leap (passesAt (fun x => (less y x).map not) first) false first.length
    match (first.drop early).getLast? with
    | none => return (first ++ y :: second, patience)
    | some x =>
      let late ← leap (passesAt (fun z => (less z x).map not) (y :: second).reverse) true
        (y :: second).length
      let (middle, patience) ← mergeBoth less patience (first.drop early)
        ((y :: second).take ((y :: second).length - late))
      return (first.take early ++ middle ++ (y :: second).drop ((y :: second).length - late),
        patience)

/-! ## Merging all runs -/

/-- The first binary place that the middles of two neighbouring runs differ in, as fractions of the
length of the list. They are given as multiples of half of an item. The first argument bounds the
number of binary places. -/
def power (length : Nat) : Nat → Nat → Nat → Nat
  | 0, _, _ => 0
  | fuel + 1, a, b =>
    if length ≤ a then power length fuel (2 * (a - length)) (2 * (b - length)) + 1
    else if length ≤ b then 1
    else power length fuel (2 * a) (2 * b) + 1

/-- A run that waits to be merged, and the power between it and the run behind it. -/
structure Waiting (α : Type) where
  run : List α
  power : Nat

/-- Merges the last run with the waiting ones before it, as long as their power is greater. -/
def mergeGreater (limit : Nat) :
    List (Waiting α) → List α → Nat → Except ε (List (Waiting α) × List α × Nat)
  | w :: waiting, last, patience =>
    if limit < w.power then do
      let (last, patience) ← mergeRuns less patience w.run last
      mergeGreater limit waiting last patience
    else .ok (w :: waiting, last, patience)
  | [], last, patience => .ok ([], last, patience)

/-- Merges all runs, the last ones first, but those before the last run if it is longer than the
one before them. The first argument bounds the number of merges. -/
def mergeAll : Nat → List (Waiting α) → List α → Nat → Except ε (List α)
  | fuel + 1, w :: v :: waiting, last, patience =>
    if v.run.length < last.length then do
      let (run, patience) ← mergeRuns less patience v.run w.run
      mergeAll fuel (⟨run, v.power⟩ :: waiting) last patience
    else do
      let (last, patience) ← mergeRuns less patience w.run last
      mergeAll fuel (v :: waiting) last patience
  | _ + 1, [w], last, patience => do return (← mergeRuns less patience w.run last).1
  | _, _, last, _ => .ok last

/-- Cuts the rest of a list of so many items into runs and merges them with the ones that wait. The
first argument bounds the number of runs. -/
def sortRest (length : Nat) :
    Nat → List (Waiting α) → List α → Nat → List α → Except ε (List α)
  | fuel + 1, waiting, last, patience, x :: rest => do
    let start := length - (last.length + (rest.length + 1))
    let (run, rest) ← nextRun less (leastRun length) (x :: rest)
    let middle := 2 * start + last.length
    let limit := power length length middle (middle + last.length + run.length)
    let (waiting, last, patience) ← mergeGreater less limit waiting last patience
    sortRest length fuel (⟨last, limit⟩ :: waiting) run patience rest
  | _, waiting, last, patience, _ => mergeAll less waiting.length waiting last patience

end Sorting

def sorted (items : List α) : Except ε (List α) := do
  let (run, rest) ← Sorting.nextRun less (Sorting.leastRun items.length) items
  Sorting.sortRest less items.length items.length [] run 7 rest

end

end SqlTemplate
