import SqlTemplate.Value.Display

/-!
# Row classes

A row class describes the shape of a result row. It is declared in one of several ways, each with
rules of its own for names of columns, on top of a parent class declared in the same or another way,
down to a predefined class. `RowClass` lists these declarations, the class's own first.
-/

namespace SqlTemplate

/-- What a field of a record is for: data of each instance, data shared by the class, or an argument
that is only used when an instance is made. -/
inductive FieldRole where
  | own | shared | initial
  deriving DecidableEq

structure RecordField where
  name : Text
  role : FieldRole

inductive Renaming where
  | lower | upper | camel | pascal | kebab
  deriving DecidableEq

/-- A field of a struct, with an encoded name of its own where it has one. -/
structure StructField where
  name : Text
  encoded? : Option Text
  shared : Bool

structure ModelField where
  name : Text
  alias? : Option Text
  serialized? : Option Text
  shared : Bool

inductive RowDeclaration where
  | record (fields : List RecordField)
  /-- A struct, whose columns go by the encoded names of its fields. -/
  | struct (renaming? : Option Renaming) (fields : List StructField)
  /-- A model, whose columns go by the aliases of its fields. -/
  | model (upperAliases : Bool) (fields : List ModelField)
  | attributed (names : List Text)
  /-- A tuple with names for its places; `renames` replaces names that cannot be used. -/
  | named (renames : Bool) (names : List Text)
  | keyed (names : List Text)
  /-- A class with annotations only, and perhaps a list of names that its places go by. -/
  | plain (annotations : List Text) (places? : Option (List Text))

/-- One class of the chain that makes up a row class. -/
structure RowLayer where
  id : Nat
  name : Text
  declaration : RowDeclaration

/-- A row class: its declarations, its own first, and the predefined class below them. -/
structure RowClass where
  layers : List RowLayer
  root : Class

/-- What is asked for columns: a row class, or something that is no class. -/
inductive RowType where
  | cls (c : RowClass)
  | value (v : Value)

instance : Inhabited RowType := ⟨.value .null⟩

namespace RowDeclaration

/-- What the body of the class annotates, but for data that is shared. -/
def annotated : RowDeclaration → List RecordField
  | record fields => fields.filter (·.role ≠ .shared)
  | struct _ fields => (fields.filter (!·.shared)).map fun field => ⟨field.name, .own⟩
  | model _ fields => (fields.filter (!·.shared)).map fun field => ⟨field.name, .own⟩
  | attributed names | named _ names | keyed names | plain names _ =>
    names.map fun name => ⟨name, .own⟩

/-- The names that the body of the class annotates, but for those of data that is shared. -/
def annotations (d : RowDeclaration) : List Text := d.annotated.map (·.name)

end RowDeclaration

namespace RowClass

/-- What tells a row class from all others. -/
abbrev Key := Nat ⊕ ClassId

def key (c : RowClass) : Key :=
  match c.layers with
  | layer :: _ => .inl layer.id
  | [] => .inr c.root.id

def name (c : RowClass) : Text :=
  match c.layers with
  | layer :: _ => layer.name
  | [] => c.root.name

def displayed (c : RowClass) : Text :=
  match c.layers with
  | layer :: _ => "<class 'rows.".toList ++ layer.name ++ "'>".toList
  | [] => c.root.displayed

end RowClass

end SqlTemplate
