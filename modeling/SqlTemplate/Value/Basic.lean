import SqlTemplate.Calendar.Time
import SqlTemplate.Class.Order
import SqlTemplate.Failure
import SqlTemplate.Number.Binary64

/-!
# Values

The values that can be bound into a statement. Containers keep their items in the order in which
they are iterated; what kind of container it is decides its class and nothing else. Members of an
enumeration, instances of declared classes and values that write themselves carry their class;
`core` looks through to the predefined value that such a value is built on.
-/

namespace SqlTemplate

inductive BytesKind where
  | bytes | byteArray | memoryView
  deriving DecidableEq

/-- The whole numbers from `start` to before `stop`, `step` apart. -/
structure Progression where
  start : Int
  stop : Int
  step : Int
  deriving DecidableEq

def Progression.size (p : Progression) : Nat :=
  if 0 < p.step then ((p.stop - p.start + p.step - 1) / p.step).toNat
  else if p.step < 0 then ((p.start - p.stop - p.step - 1) / (-p.step)).toNat
  else 0

def Progression.terms (p : Progression) : List Int :=
  (List.range p.size).map fun i : Nat => p.start + i * p.step

/-- The ordered containers. A record is a tuple whose places have names. -/
inductive SequenceKind where
  | list | tuple | queue | userList
  | record (cls : Class) (names : List Text)

inductive SetKind where
  | set | frozenSet | keys | items
  deriving DecidableEq

/-- The containers of items under keys. A chain of mappings keeps the text it is displayed as. -/
inductive MappingKind where
  | dict | ordered | proxy | userDict
  | chain (shown : Text)

mutual

inductive Value where
  | null
  | bool (b : Bool)
  | int (n : Int)
  | float (x : Binary64)
  | decimal (d : Decimal)
  | text (s : Text)
  | bytes (kind : BytesKind) (data : List UInt8)
  | uuid (u : BitVec 128)
  | date (d : Date)
  | time (t : TimeOfDay)
  | dateTime (t : DateTime)
  | identifier (name : Text)
  | range (p : Progression)
  | sequence (kind : SequenceKind) (items : List Value)
  | set (kind : SetKind) (items : List Value)
  | mapping (kind : MappingKind) (entries : List (Value × Value))
  | member (cls : Class) (value : Value)
  /-- A member of an enumeration whose members are themselves values of another kind. -/
  | mixed (cls : Class) (core value : Value)
  /-- An instance of a declared class, built on `core`. -/
  | object (cls : Class) (core payload : Value)
  /-- A value that writes its literal form itself, by running a program. -/
  | selfWriting (cls : Class) (program : List Action) (core payload : Value)
  | classRef (cls : Class)
  /-- A value of which only the class, a token of its identity and its display are known. -/
  | foreign (cls : Class) (token : Nat) (shown : Text)

/-- A step of a program that writes a literal form. -/
inductive Action where
  | text (s : Text)
  | literal (v : Value)
  | quoted (s : Text)
  /-- Writes the literal form of the payload of the value that is being written. -/
  | payload
  | raise (fault : Fault)

end

instance : Inhabited Value := ⟨.null⟩

instance : Inhabited Action := ⟨.payload⟩

namespace BytesKind

def cls : BytesKind → Class
  | bytes => Class.bytes
  | byteArray => Class.byteArray
  | memoryView => Class.memoryView

end BytesKind

namespace SequenceKind

def cls : SequenceKind → Class
  | list => Class.list
  | tuple => Class.tuple
  | queue => Class.queue
  | userList => Class.userList
  | record cls _ => cls

def isTuple : SequenceKind → Bool
  | tuple | record .. => true
  | _ => false

end SequenceKind

namespace SetKind

def cls : SetKind → Class
  | set => Class.set
  | frozenSet => Class.frozenSet
  | keys => Class.keys
  | items => Class.items

end SetKind

namespace MappingKind

def cls : MappingKind → Class
  | dict => Class.dict
  | ordered => Class.orderedDict
  | proxy => Class.mappingProxy
  | userDict => Class.userDict
  | chain _ => Class.chainMap

/-- Whether the order of the entries matters when two such mappings are compared. -/
def isOrdered : MappingKind → Bool
  | ordered => true
  | _ => false

end MappingKind

namespace Value

def cls : Value → Class
  | null => Class.null
  | bool _ => Class.boolean
  | int _ => Class.integer
  | float _ => Class.float
  | decimal _ => Class.decimal
  | text _ => Class.text
  | bytes kind _ => kind.cls
  | uuid _ => Class.uuid
  | date _ => Class.date
  | time _ => Class.time
  | dateTime _ => Class.dateTime
  | identifier _ => Class.identifier
  | range _ => Class.range
  | sequence kind _ => kind.cls
  | set kind _ => kind.cls
  | mapping kind _ => kind.cls
  | member cls _ => cls
  | mixed cls _ _ => cls
  | object cls _ _ => cls
  | selfWriting cls _ _ _ => cls
  | classRef cls => cls.metaclass
  | foreign cls _ _ => cls

/-- The predefined value that a value is built on. -/
def core : Value → Value
  | mixed _ core _ => core.core
  | object _ core _ => core.core
  | selfWriting _ _ core _ => core.core
  | v => v

def payload : Value → Value
  | object _ _ payload => payload
  | selfWriting _ _ _ payload => payload
  | _ => null

/-- Whether the value writes its literal form itself. Classes never do. -/
def isBindable : Value → Bool
  | identifier _ | selfWriting .. => true
  | _ => false

def list (items : List Value) : Value := sequence .list items

def tuple (items : List Value) : Value := sequence .tuple items

end Value

end SqlTemplate
