import SqlTemplate.Class.Basic

/-!
# The linear order of a class and its ancestors

`Class.linearised?` lists a class and all its ancestors, each once, so that a class stands before
its bases and the bases of a class stand in the order in which it names them. The orders of the
bases and the list of bases are merged: at each step the first head that stands in no tail is taken
and removed everywhere. Where no head is free of the tails there is no such order.
-/

namespace SqlTemplate.Class

def same (c d : Class) : Bool := c.id == d.id

/-- Whether the class stands in the tail of none of the lists. -/
def isFree (lists : List (List Class)) (c : Class) : Bool :=
  lists.all fun l => !l.tail.any c.same

/-- The first head that stands in no tail. -/
def nextFree? (lists : List (List Class)) : Option Class :=
  (lists.filterMap List.head?).find? (isFree lists)

/-- The list without the class at its head. -/
def dropHead (c : Class) : List Class → List Class
  | [] => []
  | d :: rest => if c.same d then rest else d :: rest

/-- One order out of several. The first argument bounds the number of steps. -/
def merge? : Nat → List (List Class) → Option (List Class)
  | 0, lists => if lists.all List.isEmpty then some [] else none
  | fuel + 1, lists =>
    if lists.all List.isEmpty then some []
    else match nextFree? lists with
      | none => none
      | some c => (merge? fuel (lists.map (dropHead c))).map (c :: ·)

/-- One order out of several, each step of which takes away a class at least. -/
def merged? (lists : List (List Class)) : Option (List Class) :=
  merge? lists.flatten.length lists

mutual

def linearised? : Class → Option (List Class)
  | mk id name bases =>
    match linearisedAll? bases with
    | none => none
    | some orders => (merged? (orders ++ [bases])).map (mk id name bases :: ·)

def linearisedAll? : List Class → Option (List (List Class))
  | [] => some []
  | c :: rest =>
    match linearised? c, linearisedAll? rest with
    | some order, some orders => some (order :: orders)
    | _, _ => none

end

/-- The class and its ancestors in order; nothing for a class that has no such order. -/
def ancestry (c : Class) : List Class := c.linearised?.getD []

/-- Whether the class is `d` or has it among its ancestors. -/
def derivesFrom (c d : Class) : Bool := c.ancestry.any d.same

def metaclass (c : Class) : Class :=
  if c.derivesFrom enumeration then enumType
  else if [sequence, mapping, setInterface].any c.derivesFrom then abstractType
  else type

end SqlTemplate.Class
