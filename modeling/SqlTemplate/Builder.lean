import SqlTemplate.Literal.Write
import SqlTemplate.Log.Record
import SqlTemplate.Row.Lookup
import SqlTemplate.Template

/-!
# Builders

A builder binds arguments and column lists into the slots of a template, one after another, and ends
with `finish`. Binding does not fail by itself: the first misuse leaves the builder failed with a
message (`BuilderState.failed`), everything later leaves it as it is, and `finish` reports it. A
builder can be finished once; after that every operation on it is refused.

Each operation gives a `Step`: its result, the builder after it, and the event that it reports. Two
things keep an operation from making a step, and then the builder is left as it is: the look-up of
columns may be at fault, and the fault of an argument may have no message to tell.
-/

namespace SqlTemplate

/-- Segments with an output format, or the message of the first failure. -/
inductive BuilderState where
  | inProgress (segments : List Segment) (format? : Option Text)
  | failed (message : Text)
  deriving DecidableEq

structure Builder where
  state : BuilderState
  finished : Bool
  deriving DecidableEq

inductive BuilderEvent where
  | failed (message : Text)
  | finished (sql : Text) (format? : Option Text)

structure Step (α : Type) where
  result : Except Failure α
  builder : Builder
  event? : Option BuilderEvent

/-- What comes of binding the columns of a row type: the step, or the fault of the look-up, after
which the builder is as it was; what is remembered from look-ups; and the records of this one. -/
structure RowStep where
  outcome : Except RowFault (Step Unit)
  rows : Rows
  records : List Record

def Value.ofText? : Option Text → Value
  | some s => .text s
  | none => .null

def BuilderEvent.record : BuilderEvent → Record
  | failed message =>
    { logger := Logger.builder
      level := .debug
      message := "SQL builder failed: ".toList ++ message
      fields? := some (eventFields "builder.failed".toList [("error".toList, .text message)]) }
  | finished sql format? =>
    { logger := Logger.builder
      level := .debug
      message := "Finished SQL statement: ".toList ++ sql
      fields? := some (eventFields "builder.finished".toList
        [("length".toList, .int sql.length), ("output_format".toList, .ofText? format?)]) }

namespace BuilderState

def formatClause : Option Text → Text
  | some format => " FORMAT ".toList ++ format
  | none => []

def display : BuilderState → Text
  | inProgress segments format? => Template.display segments ++ formatClause format?
  | failed message => message

def displayedFormat : Option Text → Text
  | some format => Text.displayed format
  | none => "None".toList

def displayed : BuilderState → Text
  | inProgress segments format? =>
    "InProgress(segments=".toList ++ Template.displayed segments ++ ", output_format=".toList ++
      displayedFormat format? ++ [')']
  | failed message => "Failed(message=".toList ++ Text.displayed message ++ [')']

def name : BuilderState → String
  | inProgress .. => "InProgress"
  | failed _ => "Failed"

def message? : BuilderState → Option Text
  | inProgress .. => none
  | failed message => some message

end BuilderState

namespace Builder

def ofTemplate (template : Text) : Builder := ⟨.inProgress (Template.parse template) none, false⟩

def raw (sql : Text) : Builder := ⟨.inProgress [.literal sql] none, false⟩

def display (b : Builder) : Text := b.state.display

def displayed (b : Builder) : Text := "SQLBuilder(".toList ++ b.state.displayed ++ [')']

def errorMessage? (b : Builder) : Option Text := b.state.message?

def isFailed (b : Builder) : Bool := b.state.message?.isSome

/-! ## Messages -/

def failureMessage (reason : Text) : Text := "invalid SQL: ".toList ++ reason

/-- The reason when there is no slot left for an argument. -/
def surplusReason : Text := "unexpected bind(), all arguments are already bound".toList

/-- The reason when the literal form of an argument cannot be written, for a fault that tells the
given message. -/
def argumentReason (fault : Fault) (message : Text) : Text :=
  "invalid argument: ".toList ++
    if fault.isSerialization then message else fault.kindName ++ ": ".toList ++ message

/-- The reason when columns are asked of a row type that has none. -/
def columnsReason : Text := "argument ?fields cannot be used with non-struct row types".toList

def unboundArgumentReason : Text := "unbound query argument".toList

def unboundFieldsReason : Text := "unbound query argument ?fields".toList

/-! ## Operations -/

/-- An operation refused because the builder has been finished. -/
def refuse {α : Type} (b : Builder) : Step α :=
  ⟨.error (.saying .builderConsumed FailureKind.builderConsumed.defaultMessage), b, none⟩

def keep (b : Builder) : Step Unit := ⟨.ok (), b, none⟩

def fail (b : Builder) (reason : Text) : Step Unit :=
  let message := failureMessage reason
  ⟨.ok (), { b with state := .failed message }, some (.failed message)⟩

def setFormat (b : Builder) (format? : Option Text) : Step Unit :=
  if b.finished then b.refuse
  else match b.state with
    | .inProgress segments _ => keep { b with state := .inProgress segments format? }
    | .failed _ => b.keep

/-- The segments with the first slot for an argument filled, if there is one. -/
def fillArgument? (text : Text) : List Segment → Option (List Segment)
  | [] => none
  | .argument :: rest => some (.literal text :: rest)
  | segment :: rest => (fillArgument? text rest).map (segment :: ·)

/-- Binds an argument whose literal form has been written, or could not be. A fault is asked for its
message before anything is done with it; where that raises an error, so does the binding. -/
def bindWritten (b : Builder) (written : Written) : Except Fault (Step Unit) :=
  if b.finished then .ok b.refuse
  else match b.state with
    | .failed _ => .ok b.keep
    | .inProgress segments format? =>
      if segments.contains .argument then
        match written.toExcept with
        | .error fault => fault.message.map fun message => b.fail (argumentReason fault message)
        | .ok text => .ok <|
          keep { b with state := .inProgress ((fillArgument? text segments).getD segments) format? }
      else .ok (b.fail surplusReason)

/-- Binds an argument into the first slot for one. -/
def bind (b : Builder) (d : Dispatcher Writer) (v : Value) : Except Fault (Step Unit) :=
  b.bindWritten (writeLiteral d v)

def fillFields (text : Text) (segments : List Segment) : List Segment :=
  segments.map fun segment => if segment = .fields then .literal text else segment

/-- Whether a column list bound now would be looked at. -/
def acceptsFields (b : Builder) : Bool := !b.finished && !b.isFailed

/-- Binds the joined columns of a row type, or the absence of columns, into every slot for them. -/
def bindFields (b : Builder) (columns? : Option Text) : Step Unit :=
  if b.finished then b.refuse
  else match b.state with
    | .failed _ => b.keep
    | .inProgress segments format? =>
      match columns? with
      | some text => keep { b with state := .inProgress (fillFields text segments) format? }
      | none => if segments.contains .fields then b.fail columnsReason else b.keep

/-- Binds the columns of a row type. They are looked up only where they would be looked at. -/
def bindRow (b : Builder) (rows : Rows) (row : RowType) : RowStep :=
  if b.acceptsFields then
    let joined := rows.joinedColumns row
    ⟨joined.result.map b.bindFields, joined.rows, joined.records⟩
  else ⟨.ok (b.bindFields none), rows, []⟩

/-- The statement without format clause, or the reason why the first slot left is no statement. -/
def assemble : List Segment → Except Text Text
  | [] => .ok []
  | .literal text :: rest => (assemble rest).map (text ++ ·)
  | .argument :: _ => .error unboundArgumentReason
  | .fields :: _ => .error unboundFieldsReason

def invalid (message : Text) : Failure := .saying .invalidParams message

/-- Ends the work of the builder: the statement, or the failure. -/
def finish (b : Builder) : Step Text :=
  if b.finished then b.refuse
  else match b.state with
    | .failed message => ⟨.error (invalid message), { b with finished := true }, none⟩
    | .inProgress segments format? =>
      match assemble segments with
      | .error reason =>
        let message := failureMessage reason
        ⟨.error (invalid message), ⟨.failed message, true⟩, some (.failed message)⟩
      | .ok text =>
        let sql := text ++ BuilderState.formatClause format?
        ⟨.ok sql, { b with finished := true }, some (.finished sql format?)⟩

end Builder

end SqlTemplate
