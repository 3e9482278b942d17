import SqlTemplate.Log.Record
import SqlTemplate.Recent
import SqlTemplate.Row.Fields
import SqlTemplate.Text.Quoted

/-!
# Looking up columns

A row class may name its columns explicitly, and pass them on to the classes on top of it; these
names can be set and deleted at any time. Otherwise the way of its declaration decides, the ways
being tried in a fixed order. `Rows.columnNames` gives the columns of a row type and
`Rows.joinedColumns` the same as one text. Which kind a class is of, and its joined columns, are
remembered at the first look-up, so later changes of explicit columns may stay unseen.
-/

namespace SqlTemplate

/-- How the columns of a row class are found. -/
inductive RowKind where
  | explicit | record | struct | model | attributed | named | keyed
  deriving DecidableEq

/-- Why the columns of a row class cannot be given, set or deleted. -/
inductive RowFault where
  | noColumns (name : Text)
  /-- The class has no explicit columns, and says only what is missing. -/
  | missing
  /-- The class is predefined and cannot be changed. -/
  | immutable (name : Text)
  deriving DecidableEq

/-- The name under which explicit columns are kept. -/
def columnsAttribute : Text := "__column_names__".toList

def RowFault.message : RowFault → Text
  | noColumns name =>
    "type object '".toList ++ name ++ "' has no attribute '".toList ++ columnsAttribute ++ ['\'']
  | missing => columnsAttribute
  | immutable name =>
    "cannot set '".toList ++ columnsAttribute ++ "' attribute of immutable type '".toList ++ name ++
      ['\'']

structure RowGuards where
  hasColumns : Bool
  isRecord : Bool
  isStruct : Bool
  isModel : Bool
  isAttributed : Bool
  isNamed : Bool
  isKeyed : Bool
  isBindable : Bool

/-- The explicit columns of row classes, and what is remembered from look-ups. -/
structure Rows where
  explicit : List (RowClass.Key × List Text)
  kinds : Recent RowClass.Key (Option RowKind)
  joined : Recent RowClass.Key (Option Text)

namespace Rows

def empty : Rows := ⟨[], .empty, .empty⟩

/-! ## Explicit columns -/

def rootColumns? (rows : Rows) (root : Class) : Option (List Text) :=
  root.ancestry.findSome? fun c => rows.explicit.lookup (.inr c.id)

/-- The explicit columns of a chain of classes above a predefined one: its own, or inherited ones.
Dictionaries with fixed keys inherit none. -/
def chainColumns? (rows : Rows) (root : Class) : List RowLayer → Option (List Text)
  | [] => rows.rootColumns? root
  | layer :: rest =>
    match rows.explicit.lookup (.inl layer.id) with
    | some columns => some columns
    | none =>
      if (Row.keyedColumns? (layer :: rest)).isSome then none else rows.chainColumns? root rest

def explicit? (rows : Rows) (c : RowClass) : Option (List Text) :=
  rows.chainColumns? c.root c.layers

/-- Whether nothing can be set on a row class: it is one of the predefined classes that are
fixed. -/
def isFixed (c : RowClass) : Bool :=
  match c.key with
  | .inr (.predefined p) =>
    !([.uuid, .enumeration, .flag, .integerEnum, .integerFlag, .sequence, .setInterface, .mapping,
      .userList, .userDict, .chainMap, .identifier] : List Predefined).contains p
  | .inr (.named _) => true
  | _ => false

def withoutOwn (rows : Rows) (c : RowClass) : List (RowClass.Key × List Text) :=
  rows.explicit.filter (·.1 != c.key)

def setColumns (rows : Rows) (c : RowClass) (columns : List Text) : Except RowFault Rows :=
  if isFixed c then .error (.immutable c.root.messageName)
  else .ok { rows with explicit := (c.key, columns) :: rows.withoutOwn c }

def deleteColumns (rows : Rows) (c : RowClass) : Except RowFault Rows :=
  if isFixed c then .error (.immutable c.root.messageName)
  else if (rows.explicit.lookup c.key).isSome then .ok { rows with explicit := rows.withoutOwn c }
  else .error (.noColumns c.name)

/-! ## Columns without memory -/

def columnsOfKind? (rows : Rows) (c : RowClass) : RowKind → Option (List Text)
  | .explicit => rows.explicit? c
  | .record => Row.recordColumns? c.layers
  | .struct => Row.structColumns? c.layers
  | .model => Row.modelColumns? c.layers
  | .attributed => Row.attributedColumns? c.layers
  | .named => Row.namedColumns? c
  | .keyed => Row.keyedColumns? c.layers

/-- The kinds in the order in which they are tried. -/
def kindOrder : List RowKind :=
  [.explicit, .record, .struct, .model, .attributed, .named, .keyed]

/-- The kind of a row class: the first one that gives columns. -/
def detect (rows : Rows) (c : RowClass) : Option RowKind :=
  kindOrder.find? fun kind => (rows.columnsOfKind? c kind).isSome

def guards (rows : Rows) : RowType → RowGuards
  | .value v => ⟨false, false, false, false, false, false, false, v.isBindable⟩
  | .cls c =>
    let has (kind : RowKind) : Bool := (rows.columnsOfKind? c kind).isSome
    { hasColumns := has .explicit
      isRecord := has .record
      isStruct := has .struct
      isModel := has .model
      isAttributed := has .attributed
      isNamed := has .named
      isKeyed := has .keyed
      isBindable := false }

/-- The columns quoted as identifiers, with commas between them. -/
def join (columns : List Text) : Text := Text.commaJoined (columns.map Text.quotedIdentifier)

/-! ## Look-ups with memory -/

/-- The kind of a row class, remembered or detected. -/
def kind (rows : Rows) (c : RowClass) : Option RowKind × Rows :=
  match rows.kinds.find? c.key with
  | some kind => (kind, { rows with kinds := rows.kinds.touch c.key })
  | none =>
    let kind := rows.detect c
    (kind, { rows with kinds := rows.kinds.insert c.key kind })

/-- The columns of a row class that counts as one of the given kind. Without memory a class has the
columns of its kind; but explicit columns may have been deleted since. -/
def columnsAs (rows : Rows) (c : RowClass) (kind : RowKind) : Except RowFault (List Text) :=
  match rows.columnsOfKind? c kind with
  | some columns => .ok columns
  | none => .error (if (Row.modelFields? c.layers).isSome then .missing else .noColumns c.name)

def classColumns (rows : Rows) (c : RowClass) : Except RowFault (Option (List Text)) × Rows :=
  match rows.kind c with
  | (some kind, rows) => ((rows.columnsAs c kind).map some, rows)
  | (none, rows) => (.ok none, rows)

/-- The columns of a row type; only classes have some. -/
def columnNames (rows : Rows) : RowType → Except RowFault (Option (List Text)) × Rows
  | .cls c => rows.classColumns c
  | .value _ => (.ok none, rows)

def noColumnsRecord (c : RowClass) : Record :=
  ⟨Logger.rows, .debug,
    "Row type ".toList ++ c.displayed ++ " has no named fields".toList, none⟩

structure Joined where
  result : Except RowFault (Option Text)
  rows : Rows
  records : List Record

/-- The joined columns of a row class, remembered or made from its columns. -/
def classJoined (rows : Rows) (c : RowClass) : Joined :=
  match rows.joined.find? c.key with
  | some text => ⟨.ok text, { rows with joined := rows.joined.touch c.key }, []⟩
  | none =>
    match rows.classColumns c with
    | (.error fault, rows) => ⟨.error fault, rows, []⟩
    | (.ok columns?, rows) =>
      let text := columns?.map join
      ⟨.ok text, { rows with joined := rows.joined.insert c.key text },
        if columns?.isSome then [] else [noColumnsRecord c]⟩

/-- The joined columns of a row type; only classes have some. -/
def joinedColumns (rows : Rows) : RowType → Joined
  | .cls c => rows.classJoined c
  | .value _ => ⟨.ok none, rows, []⟩

end Rows

end SqlTemplate
