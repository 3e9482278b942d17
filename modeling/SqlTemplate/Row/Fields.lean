import SqlTemplate.Overlay
import SqlTemplate.Row.Declaration
import SqlTemplate.Text.LetterCase
import SqlTemplate.Text.Name

/-!
# Names of columns

For each way to declare a row class, the names of its columns, or none where neither the class nor
an ancestor of it is declared that way. Fields of ancestors come first. A field that is declared
again keeps its place, except among attributes, where it moves to the end.

The names and aliases that structs, models and classes with attributes record of their fields are
kept by the libraries that such classes are made with. The rules for them (`structFields?`,
`modelFields?`, `attributedColumns?`) are the documented behaviour of those libraries, and are
assumed here.
-/

namespace SqlTemplate

namespace Row

/-! ## Dictionaries with fixed keys -/

/-- The keys of a dictionary with what each is for, those of its ancestors first. Classes on top of
one are of its kind. -/
def keyedFields? : List RowLayer → Option (List RecordField)
  | [] => none
  | layer :: rest =>
    match layer.declaration, keyedFields? rest with
    | .keyed names, base? =>
      some (overlay (·.name) (base?.getD []) (RowDeclaration.keyed names).annotated)
    | declaration, some inherited => some (overlay (·.name) inherited declaration.annotated)
    | _, none => none

def keyedColumns? (layers : List RowLayer) : Option (List Text) :=
  (keyedFields? layers).map fun fields => fields.map (·.name)

/-! ## Records -/

/-- The fields of a record with those of its ancestors. On top of a dictionary with fixed keys the
keys are fields too, and a class there is a record only if it is declared as one itself. -/
def recordFields? : List RowLayer → Option (List RecordField)
  | [] => none
  | layer :: rest =>
    match layer.declaration, keyedFields? rest with
    | .record fields, some keys => some (overlay (·.name) keys fields)
    | .record fields, none => some (overlay (·.name) ((recordFields? rest).getD []) fields)
    | _, some _ => none
    | _, none => recordFields? rest

/-- The columns of a record: the fields that hold data of an instance. -/
def recordColumns? (layers : List RowLayer) : Option (List Text) :=
  (recordFields? layers).map fun fields => (fields.filter (·.role = .own)).map (·.name)

/-! ## Structs -/

/-- The words of a name, which underscores divide. -/
def words : Text → List Text
  | [] => [[]]
  | c :: rest =>
    match words rest with
    | word :: others => if c = '_' then [] :: word :: others else (c :: word) :: others
    | [] => [[c]]

/-- The words of a name as titles one after another, the first one only if `initial` says so, behind
the underscores at the start of the name. -/
def camelCase (initial : Bool) (name : Text) : Text :=
  name.takeWhile (· = '_') ++
    match words (name.dropWhile (· = '_')) with
    | first :: others => (if initial then Text.title first else first) ++ others.flatMap Text.title
    | [] => []

/-- The words of a name joined by hyphens, without underscores around. -/
def kebabCase (name : Text) : Text :=
  let trimmed := (name.dropWhile (· = '_')).reverse.dropWhile (· = '_')
  trimmed.reverse.map fun c => if c = '_' then '-' else c

def applyRenaming : Renaming → Text → Text
  | .lower, name => Text.lower name
  | .upper, name => Text.upper name
  | .camel, name => camelCase false name
  | .pascal, name => camelCase true name
  | .kebab, name => kebabCase name

/-- The encoded name of a field, without a renaming its own name. -/
def encodedName (renaming? : Option Renaming) (field : StructField) : Text :=
  match field.encoded?, renaming? with
  | some encoded, _ => encoded
  | none, some rule => applyRenaming rule field.name
  | none, none => field.name

def encodedFields (renaming? : Option Renaming) (fields : List StructField) : List (Text × Text) :=
  (fields.filter (!·.shared)).map fun field => (field.name, encodedName renaming? field)

/-- The renaming that is in force in a struct, and its fields with their encoded names. A renaming
does not touch fields of ancestors; classes on top of a struct are structs too. -/
def structFields? : List RowLayer → Option (Option Renaming × List (Text × Text))
  | [] => none
  | layer :: rest =>
    match layer.declaration, structFields? rest with
    | .struct renaming? fields, base? =>
      let (inherited?, inherited) := base?.getD (none, [])
      let renaming? := renaming?.or inherited?
      some (renaming?, overlay (·.1) inherited (encodedFields renaming? fields))
    | declaration, some (renaming?, inherited) =>
      let fields := declaration.annotations.map fun name => StructField.mk name none false
      some (renaming?, overlay (·.1) inherited (encodedFields renaming? fields))
    | _, none => none

/-- The columns of a struct: the encoded names of its fields. -/
def structColumns? (layers : List RowLayer) : Option (List Text) :=
  (structFields? layers).map fun found => found.2.map (·.2)

/-! ## Models -/

/-- Whether fields of a model without alias go by their upper-case names, and its fields. Classes on
top of a model are models too. -/
def modelFields? : List RowLayer → Option (Bool × List ModelField)
  | [] => none
  | layer :: rest =>
    match layer.declaration, modelFields? rest with
    | .model upperAliases fields, base? =>
      let (inheritedUpper, inherited) := base?.getD (false, [])
      some (upperAliases || inheritedUpper, overlay (·.name) inherited (fields.filter (!·.shared)))
    | declaration, some (upperAliases, inherited) =>
      let fields := declaration.annotations.map fun name => ModelField.mk name none none false
      some (upperAliases, overlay (·.name) inherited fields)
    | _, none => none

/-- The column of a field: its alias for writing if that is not empty, else its alias, else its
name. An alias serves for writing too where there is no other. -/
def modelColumn (upperAliases : Bool) (field : ModelField) : Text :=
  let made? := if upperAliases then some (Text.upper field.name) else none
  let alias? := field.alias?.or made?
  match field.serialized?.or alias? with
  | some (c :: rest) => c :: rest
  | _ => alias?.getD field.name

def modelColumns? (layers : List RowLayer) : Option (List Text) :=
  (modelFields? layers).map fun (upperAliases, fields) => fields.map (modelColumn upperAliases)

/-! ## Attributes -/

/-- The columns of a class with attributes: those of its ancestors that it does not declare again,
and its own. -/
def attributedColumns? : List RowLayer → Option (List Text)
  | [] => none
  | layer :: rest =>
    match layer.declaration with
    | .attributed names =>
      some (((attributedColumns? rest).getD []).filter (!names.contains ·) ++ names)
    | _ => attributedColumns? rest

/-! ## Tuples with names -/

def reservedWords : List String :=
  ["False", "None", "True", "and", "as", "assert", "async", "await", "break", "class", "continue",
   "def", "del", "elif", "else", "except", "finally", "for", "from", "global", "if", "import", "in",
   "is", "lambda", "nonlocal", "not", "or", "pass", "raise", "return", "try", "while", "with",
   "yield"]

/-- The names with each one replaced by its place that is no name, starts with an underscore, is
reserved, or has been used before. -/
def usableNames (used : List Text) (place : Nat) : List Text → List Text
  | [] => []
  | name :: rest =>
    let usable := Text.isName name && name.head? != some '_' &&
      !reservedWords.any (·.toList == name) && !used.contains name
    (if usable then name else '_' :: Nat.toDigits 10 place) ::
      usableNames (name :: used) (place + 1) rest

/-- The names of the places of a class, its own or those of its nearest ancestor that has some. -/
def placeNames? : List RowLayer → Option (List Text)
  | [] => none
  | layer :: rest =>
    match layer.declaration with
    | .named true names => some (usableNames [] 0 names)
    | .named false names => some names
    | .plain _ (some places) => some places
    | _ => placeNames? rest

def isTuple (c : RowClass) : Bool :=
  c.root.derivesFrom Class.tuple || c.layers.any fun layer =>
    match layer.declaration with
    | .named .. => true
    | _ => false

def namedColumns? (c : RowClass) : Option (List Text) :=
  if isTuple c then placeNames? c.layers else none

end Row

end SqlTemplate
