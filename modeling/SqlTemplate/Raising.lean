import SqlTemplate.Value.Display

/-!
# Raising failures

A failure is raised with arguments, and those of the general kind and of declared kinds also with a
detail. Of these the arguments that count as false are left out, and the others become words. The
other kinds take a message: failures of parameters and of consumed builders have one of their own
where none is given, and a failure to serialize may be given a class beside it. `Failure.raise`
makes the failure, or says why its arguments do not fit.

`Fault.raised` is what a writer comes to that raises an error of a named kind. Arguments that do not
fit are an error themselves. A detail that is no text fits, but then no message can be told.
-/

namespace SqlTemplate

/-- Why a failure cannot be raised, or be told, with its arguments. -/
inductive RaiseFault where
  /-- The kind takes no detail. -/
  | noDetail (kind : FailureKind)
  /-- The kind takes fewer arguments. -/
  | tooMany (kind : FailureKind) (given : Nat)
  /-- A failure to serialize needs a message. -/
  | noMessage
  /-- A part of the message is no text; `place` counts the parts before it. -/
  | notText (place : Nat) (className : Text)

/-- The least and the largest number of arguments, the failure itself included. -/
def FailureKind.arity : FailureKind → Nat × Nat
  | serialization => (2, 3)
  | _ => (1, 2)

def RaiseFault.message : RaiseFault → Text
  | noDetail kind => kind.name ++ ".__init__() got an unexpected keyword argument 'detail'".toList
  | tooMany kind given =>
    let count (n : Nat) : Text := Nat.toDigits 10 n
    kind.name ++ ".__init__() takes from ".toList ++ count kind.arity.1 ++ " to ".toList ++
      count kind.arity.2 ++ " positional arguments but ".toList ++ count (given + 1) ++
      " were given".toList
  | noMessage => FailureKind.missingMessage
  | notText place className =>
    "sequence item ".toList ++ Nat.toDigits 10 place ++ ": expected str instance, ".toList ++
      className ++ " found".toList

namespace Failure

/-- The failure with the given words and a detail that may be of any kind. Without a detail the
first word becomes one, or else the default of the kind; a detail that is used has to be a text. -/
def withDetail (kind : FailureKind) (words : List Text) (detail : Value) :
    Except RaiseFault Failure :=
  let found (kept : List Text) : Except RaiseFault Failure :=
    match detail.core with
    | .text s => .ok ⟨kind, kept, s⟩
    | _ => .error (.notText kept.length detail.cls.messageName)
  if detail.isTrue then found words
  else match words, kind with
    | first :: rest, _ => .ok ⟨kind, rest, first⟩
    | [], .declared .. => .ok ⟨kind, [], kind.defaultDetail⟩
    | [], _ => found []

/-- The failure that is raised with a message, or with that of its kind. -/
def withMessage (kind : FailureKind) (arguments : List Value) : Except RaiseFault Failure :=
  match arguments with
  | [] | [.null] => .ok (.saying kind kind.defaultMessage)
  | [v] => .ok (.saying kind (if v.isTrue then v.plainText else []))
  | _ => .error (.tooMany kind arguments.length)

/-- The failure to serialize that is raised with a message and perhaps a class. -/
def ofSerialization (arguments : List Value) : Except RaiseFault Failure :=
  match arguments with
  | [] => .error .noMessage
  | [message] | [message, _] => withDetail .serialization [] message
  | _ => .error (.tooMany .serialization arguments.length)

/-- The failure that is raised with the given arguments and, where there is one, a detail. -/
def raise (kind : FailureKind) (arguments : List Value) (detail? : Option Value) :
    Except RaiseFault Failure :=
  match kind, detail? with
  | .general, _ | .declared .., _ =>
    withDetail kind ((arguments.filter Value.isTrue).map Value.plainText) (detail?.getD (.text []))
  | kind, some _ => .error (.noDetail kind)
  | .serialization, none => ofSerialization arguments
  | kind, none => withMessage kind arguments

end Failure

namespace Fault

/-- The error that is raised in place of a failure, or when a failure is asked for its message. -/
def wrongArguments (fault : RaiseFault) : Fault := foreign "TypeError".toList fault.message

/-- The fault of a writer that raises a failure of the library with the given arguments. -/
def library (kind : FailureKind) (arguments : List Value) : Fault :=
  match Failure.raise kind arguments none with
  | .ok f => failure f
  | .error (.notText place className) =>
    untold kind.name (wrongArguments (.notText place className))
  | .error fault => wrongArguments fault

/-- What an error that is none of the library's says: its only argument, or all of them like a
tuple. A missing key is displayed. -/
def foreignMessage (kind : Text) : List Value → Text
  | [] => []
  | [v] => if kind = "KeyError".toList then v.displayed else v.plainText
  | arguments => (Value.tuple arguments).displayed

/-- The fault of a writer that raises an error of the named kind with the given arguments. -/
def raised (kind : Text) (arguments : List Value) : Fault :=
  match FailureKind.named? kind with
  | some kind => library kind arguments
  | none => foreign kind (foreignMessage kind arguments)

end Fault

end SqlTemplate
