import SqlTemplate.Text.Replace

/-!
# Classes

A class has an identity, a name and the list of its direct bases, themselves classes. Two classes
are the same when their identities are: names may repeat. The predefined classes are those of the
values that literals can be written for and of their relatives.
-/

namespace SqlTemplate

inductive Predefined where
  | object | type | abstractType | enumType | null
  | boolean | integer | float | decimal | text | bytes | byteArray | memoryView | uuid
  | date | time | dateTime
  | enumeration | flag | integerEnum | integerFlag
  | list | tuple | set | frozenSet | dict | orderedDict
  | sequence | setInterface | mapping | queue | userList | range | userDict | chainMap | mappingProxy
  | keys | items | identifier
  deriving DecidableEq

inductive ClassId where
  | predefined (c : Predefined)
  /-- A class that is known by its name alone. -/
  | named (name : Text)
  /-- The class declared at the given place of a list of declarations. -/
  | declared (n : Nat)
  /-- A class of its own, made for a single value. -/
  | fresh (n : Nat)
  deriving DecidableEq

/-- A class: its identity, its name and its direct bases in order. -/
inductive Class where
  | mk (id : ClassId) (name : Text) (bases : List Class)

namespace Class

def id : Class → ClassId
  | mk id _ _ => id

/-- The name under which a class is reported. -/
def name : Class → Text
  | mk _ name _ => name

def bases : Class → List Class
  | mk _ _ bases => bases

/-! ## The predefined classes -/

/-- A predefined class with the given name and bases. -/
def known (c : Predefined) (name : String) (bases : List Class) : Class :=
  mk (.predefined c) name.toList bases

def object : Class := known .object "object" []
def type : Class := known .type "type" [object]
def abstractType : Class := known .abstractType "ABCMeta" [type]
def enumType : Class := known .enumType "EnumType" [type]
def null : Class := known .null "NoneType" [object]
def integer : Class := known .integer "int" [object]
def boolean : Class := known .boolean "bool" [integer]
def float : Class := known .float "float" [object]
def decimal : Class := known .decimal "Decimal" [object]
def text : Class := known .text "str" [object]
def bytes : Class := known .bytes "bytes" [object]
def byteArray : Class := known .byteArray "bytearray" [object]
def memoryView : Class := known .memoryView "memoryview" [object]
def uuid : Class := known .uuid "UUID" [object]
def date : Class := known .date "date" [object]
def time : Class := known .time "time" [object]
def dateTime : Class := known .dateTime "datetime" [date]
def enumeration : Class := known .enumeration "Enum" [object]
def flag : Class := known .flag "Flag" [enumeration]
def integerEnum : Class := known .integerEnum "IntEnum" [integer, enumeration]
def integerFlag : Class := known .integerFlag "IntFlag" [integer, flag]
def list : Class := known .list "list" [object]
def tuple : Class := known .tuple "tuple" [object]
def set : Class := known .set "set" [object]
def frozenSet : Class := known .frozenSet "frozenset" [object]
def dict : Class := known .dict "dict" [object]
def orderedDict : Class := known .orderedDict "OrderedDict" [dict]
def sequence : Class := known .sequence "Sequence" [object]
def setInterface : Class := known .setInterface "Set" [object]
def mapping : Class := known .mapping "Mapping" [object]
def queue : Class := known .queue "deque" [object]
def userList : Class := known .userList "UserList" [sequence]
def range : Class := known .range "range" [object]
def userDict : Class := known .userDict "UserDict" [mapping]
def chainMap : Class := known .chainMap "ChainMap" [mapping]
def mappingProxy : Class := known .mappingProxy "mappingproxy" [object]
def keys : Class := known .keys "dict_keys" [object]
def items : Class := known .items "dict_items" [object]
def identifier : Class := known .identifier "Identifier" [object]

/-- The predefined classes that can be named in a declaration. -/
def nameable : List Class :=
  [object, integer, boolean, float, text, bytes, byteArray, memoryView, list, tuple, dict, set,
   frozenSet, type, null, decimal, date, dateTime, time, uuid, enumeration, flag, integerEnum,
   integerFlag, orderedDict, sequence, mapping, setInterface, queue, userList, userDict, chainMap,
   range, identifier]

def predefined? (name : Text) : Option Class := nameable.find? (·.name == name)

end Class

end SqlTemplate
