import SqlTemplate.Value.Conversion

/-!
# Instances of declared classes

A class that is declared on top of a predefined one makes instances that are built on a value of it,
converted from the argument where that is of another kind. Other declared classes make objects that
carry the argument as their payload. Among these, the ones on top of a queue or of a user's
dictionary are built on an empty one, and those on top of a time of day on midnight.
-/

namespace SqlTemplate

namespace Value

/-- The empty container that an instance of the class is built on, if the class is on top of a queue
or of a user's dictionary: the first of the two among its ancestors. -/
def emptyContainer? (cls : Class) : Option Value :=
  (cls.ancestry.find? fun a => [Class.queue, Class.userDict].any a.same).map fun a =>
    if a.same Class.userDict then mapping .userDict [] else sequence .queue []

/-- The predefined value that an instance of `cls` made from `v` is built on, and its payload. -/
def builtOn (cls : Class) (token : Nat) (v : Value) : Value × Value :=
  let from? (c : Class) (made : Value) : Option Value :=
    if cls.derivesFrom c then some made else none
  let text' := match v with
    | null => text []
    | v => text v.plainText
  let cores := [from? Class.integer (int v.toWhole), from? Class.float (float v.toBinary),
    from? Class.text text', from? Class.bytes (bytes .bytes v.toBytes),
    from? Class.list (sequence .list v.iterated), from? Class.tuple (sequence .tuple v.iterated),
    from? Class.dict (mapping .dict v.toEntries), from? Class.set (set .set (distinct v.iterated)),
    from? Class.frozenSet (set .frozenSet (distinct v.iterated)),
    from? Class.decimal (decimal v.toDecimal)]
  match cores.findSome? id, emptyContainer? cls with
  | some core, _ => (core, null)
  | none, some container => (container, v)
  | none, none =>
    if cls.derivesFrom Class.time then (time ⟨⟨0, 0, 0, 0⟩, .naive⟩, v)
    else (foreign cls token ('<' :: cls.name ++ ['>']), v)

/-- The instance of a declared class made from `v`; `program?` is how instances of the class write
themselves, if they do. -/
def instantiate (cls : Class) (program? : Option (List Action)) (token : Nat) (v : Value) : Value :=
  let (core, payload) := builtOn cls token v
  match program? with
  | some program => selfWriting cls program core payload
  | none => object cls core payload

end Value

end SqlTemplate
