import SqlTemplate.Literal.Writer

/-!
# Writing literal forms

`write` gives the literal form of a value. A value that writes itself runs its own program; for any
other the writer of its class is looked up. Where the class has none, mappings, containers of
distinct items and ordered containers are written as their predefined kinds are, and all else has no
literal form. The parts of a value are written first, and `deliver` puts them together.

Programs registered for a class may write values of any class, also of the same. How deep such calls
may be nested is bounded (`Setting.nested`).
-/

namespace SqlTemplate

/-- What writing depends on: the writers of classes, and how programs registered for a class write
further values. -/
structure Setting where
  find : Class → Option Writer
  further : Value → Written

def nullLiteral : Written := .ok "NULL".toList

namespace Setting

variable (setting : Setting)

/-- Runs a program that is registered for a class; `payload` is the written payload of the value. -/
def runAction (payload : Written) : Action → Written
  | .text s => .ok s
  | .literal v => setting.further v
  | .quoted s => .ok (Text.quotedString s)
  | .payload => payload
  | .raise fault => .fault fault

/-- Runs the actions of a program one after another. -/
def run (payload : Written) : List Action → Written
  | [] => .ok []
  | action :: rest => (setting.runAction payload action).followedBy (run payload rest)

/-- The literal form of a value that has no parts and no payload. -/
def atom (v : Value) : Written :=
  match setting.find v.cls with
  | some (.program actions) => setting.run nullLiteral actions
  | some (.standard s) => s.write v.cls v .none
  | none => .fault (.unsupported v.cls.name)

/-- What is written for the parts of a value whose class has no writer. It is asked first whether
the value is a mapping, then whether it is a container of distinct items, and last whether it is an
ordered container. A value with ordered items may be a mapping too if it is a queue. Such instances
of declared classes are made empty (`Value.emptyContainer?`), so the mapping has no entries. -/
def assemble (cls : Class) : Parts → Written
  | .mapping entries => mapLiteral entries
  | .set items => setLiteral items
  | .sequence items =>
    if items.isEmpty && cls.derivesFrom Class.mapping then mapLiteral [] else arrayLiteral items
  | .terms p => arrayLiteral (p.terms.map fun n => setting.atom (.int n))
  | _ => .fault (.unsupported cls.name)

/-- The literal form of a value of class `cls` that is built on `core`, from its written parts. -/
def deliver (cls : Class) (core : Value) (parts : Parts) (payload : Written) : Written :=
  match setting.find cls with
  | some (.program actions) => setting.run payload actions
  | some (.standard s) => s.write cls core parts
  | none => setting.assemble cls parts

end Setting

mutual

def write (setting : Setting) : Value → Written
  | .null => nullLiteral
  | .identifier name => .ok (Text.quotedIdentifier name)
  | .selfWriting _ program _ payload => writeProgram setting (write setting payload) program
  | .sequence kind items =>
    setting.deliver kind.cls (.sequence kind items) (.sequence (writeItems setting items))
      nullLiteral
  | .set kind items =>
    setting.deliver kind.cls (.set kind items) (.set (items.zip (writeItems setting items)))
      nullLiteral
  | .mapping kind entries =>
    setting.deliver kind.cls (.mapping kind entries) (.mapping (writeEntries setting entries))
      nullLiteral
  | .range p => setting.deliver Class.range (.range p) (.terms p) nullLiteral
  | .member cls value =>
    setting.deliver cls (.member cls value) (.member (write setting value)) nullLiteral
  | .mixed cls core value =>
    match setting.find cls with
    | some (.standard .enumeration) => write setting value
    | _ => setting.deliver cls core.core (writeParts setting core) nullLiteral
  | .object cls core payload =>
    setting.deliver cls core.core (writeParts setting core) (write setting payload)
  | v => setting.atom v

/-- The written parts of a value that others are built on. -/
def writeParts (setting : Setting) : Value → Parts
  | .sequence _ items => .sequence (writeItems setting items)
  | .set _ items => .set (items.zip (writeItems setting items))
  | .mapping _ entries => .mapping (writeEntries setting entries)
  | .range p => .terms p
  | _ => .none

def writeItems (setting : Setting) : List Value → List Written
  | [] => []
  | v :: rest => write setting v :: writeItems setting rest

/-- The literal forms of the key and the item of each entry. -/
def writeEntries (setting : Setting) : List (Value × Value) → List (Written × Written)
  | [] => []
  | (k, v) :: rest => (write setting k, write setting v) :: writeEntries setting rest

/-- Runs the program of a value that writes itself. -/
def writeProgram (setting : Setting) (payload : Written) : List Action → Written
  | [] => .ok []
  | action :: rest =>
    (writeAction setting payload action).followedBy (writeProgram setting payload rest)

/-- Runs one action of the program of a value that writes itself. -/
def writeAction (setting : Setting) (payload : Written) : Action → Written
  | .text s => .ok s
  | .literal v => write setting v
  | .quoted s => .ok (Text.quotedString s)
  | .payload => payload
  | .raise fault => .fault fault

end

/-- The setting of a dispatcher in which programs may call one another down to the given depth. -/
def Setting.nested (d : Dispatcher Writer) : Nat → Setting
  | 0 => ⟨d.find, fun _ => .fault .tooDeep⟩
  | depth + 1 => ⟨d.find, write (nested d depth)⟩

def depthLimit : Nat := 1000

/-- The literal form of a value under the registrations of a dispatcher. -/
def writeLiteral (d : Dispatcher Writer) (v : Value) : Written :=
  write (.nested d depthLimit) v

end SqlTemplate
