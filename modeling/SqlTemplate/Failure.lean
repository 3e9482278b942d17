import SqlTemplate.Text.Blank
import SqlTemplate.Text.Display

/-!
# Failures

A failure of the library has a kind, some words and a detail. Its message is the words followed by
the detail, a space between them and no blanks at the ends; on display it shows its kind and detail.
A failure that is given no detail takes its first word for one, or else the default of its kind.
-/

namespace SqlTemplate

/-- The kinds of failures. All are kinds of the general one. -/
inductive FailureKind where
  | general
  | invalidParams
  | serialization
  | builderConsumed
  /-- A further kind, with a name and a detail of its own for failures that are given none. -/
  | declared (name detail : Text)
  deriving DecidableEq

namespace FailureKind

def name : FailureKind → Text
  | general => "ChSQLError".toList
  | invalidParams => "InvalidParamsError".toList
  | serialization => "SerializationError".toList
  | builderConsumed => "BuilderConsumedError".toList
  | declared name _ => name

def defaultDetail : FailureKind → Text
  | declared _ detail => detail
  | _ => []

/-- The predefined kinds that a failure of this kind belongs to, its own first. -/
def lineage : FailureKind → List FailureKind
  | general => [general]
  | declared _ _ => [general]
  | kind => [kind, general]

def defaultMessage : FailureKind → Text
  | invalidParams => "invalid SQL".toList
  | builderConsumed => "SQL builder has already been finished".toList
  | _ => []

/-- The message of the error that a failure to serialize is raised without a message. -/
def missingMessage : Text :=
  "SerializationError.__init__() missing 1 required positional argument: 'message'".toList

def named? (name : Text) : Option FailureKind :=
  [general, invalidParams, serialization, builderConsumed].find? (·.name == name)

end FailureKind

structure Failure where
  kind : FailureKind
  words : List Text
  detail : Text
  deriving DecidableEq

namespace Failure

/-- The failure with the given words and detail. Without a detail the first word becomes one. -/
def make (kind : FailureKind) (words : List Text) (detail : Text) : Failure :=
  if detail ≠ [] then ⟨kind, words, detail⟩
  else match words with
    | first :: rest => ⟨kind, rest, first⟩
    | [] => ⟨kind, [], kind.defaultDetail⟩

def saying (kind : FailureKind) (message : Text) : Failure := ⟨kind, [], message⟩

/-- Words and detail, a space between them and no blanks around. -/
def message (f : Failure) : Text :=
  Text.strip (List.intercalate [' '] (f.words ++ [f.detail]))

/-- The kind, and the detail where there is one. -/
def displayed (f : Failure) : Text :=
  if f.detail = [] then f.kind.name else f.kind.name ++ " - ".toList ++ f.detail

end Failure

/-! ## Faults of writing -/

/-- Why the literal form of a value cannot be written. -/
inductive Fault where
  /-- Values of the class have no literal form. -/
  | unsupported (className : Text)
  /-- A decimal of the class is not finite; `shown` is its text. -/
  | nonFinite (className shown : Text)
  /-- The universal time of a civil time lies outside the calendar. -/
  | outOfCalendar
  /-- Numbers that have no order were to be sorted. -/
  | noOrder
  /-- Writers call each other without end. -/
  | tooDeep
  /-- A failure of the library, raised by a writer. -/
  | failure (f : Failure)
  /-- Any other error raised by a writer, with its kind and message. -/
  | foreign (kind message : Text)
  /-- An error raised by a writer that has no message to tell: asking it for one raises `cause`. -/
  | untold (kind : Text) (cause : Fault)
  deriving DecidableEq

namespace Fault

/-- The failure that the fault is reported as, for the faults that are failures of the library and
have a message. -/
def failure? : Fault → Option Failure
  | unsupported className =>
    some (.saying .serialization ("unsupported value type: ".toList ++ className))
  | nonFinite _ shown =>
    some (.saying .serialization ("cannot render non-finite decimal ".toList ++ shown))
  | failure f => some f
  | _ => none

/-- The kind of failure of the library that the fault is, if it is one. -/
def libraryKind? : Fault → Option FailureKind
  | untold kind _ => FailureKind.named? kind
  | fault => fault.failure?.map (·.kind)

def kindName : Fault → Text
  | outOfCalendar => "OverflowError".toList
  | noOrder => "InvalidOperation".toList
  | tooDeep => "RecursionError".toList
  | foreign kind _ | untold kind _ => kind
  | fault => (fault.failure?.map (·.kind.name)).getD []

/-- The message, or the error that comes of asking for it. -/
def message : Fault → Except Fault Text
  | outOfCalendar => .ok "date value out of range".toList
  | noOrder => .ok "[<class 'decimal.InvalidOperation'>]".toList
  | tooDeep => .ok "maximum recursion depth exceeded".toList
  | foreign _ message => .ok message
  | untold _ cause => .error cause
  | fault => .ok ((fault.failure?.map Failure.message).getD [])

def isSerialization (fault : Fault) : Bool := fault.libraryKind? == some .serialization

/-- The name of the class whose values cannot be written, where the fault tells. -/
def className? : Fault → Option Text
  | unsupported className => some className
  | nonFinite className _ => some className
  | _ => none

end Fault

end SqlTemplate
