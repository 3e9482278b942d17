import SqlTemplate.Value.Basic

/-!
# Log records

What the library reports about itself: a record names the logger it was emitted on, its level and
message, and the details of the event, if any. Loggers live under one root.
-/

namespace SqlTemplate

inductive Level where
  | notSet | debug | info | warning | error | critical
  deriving DecidableEq

namespace Level

def number : Level → Nat
  | notSet => 0
  | debug => 10
  | info => 20
  | warning => 30
  | error => 40
  | critical => 50

def name : Level → Text
  | notSet => "NOTSET".toList
  | debug => "DEBUG".toList
  | info => "INFO".toList
  | warning => "WARNING".toList
  | error => "ERROR".toList
  | critical => "CRITICAL".toList

/-- The level with the given name; two levels have a second name. -/
def named? (s : Text) : Option Level :=
  if s = "WARN".toList then some warning
  else if s = "FATAL".toList then some critical
  else [notSet, debug, info, warning, error, critical].find? (·.name == s)

/-- Whether records of this level pass a threshold. -/
def passes (level threshold : Level) : Bool := threshold.number ≤ level.number

end Level

abbrev Fields := List (Text × Value)

structure Record where
  logger : Text
  level : Level
  message : Text
  fields? : Option Fields

namespace Logger

def root : Text := "chsql".toList

/-- The full name of a logger; a name is put under the root unless it already is there. -/
def named (name : Text) : Text :=
  if name = root ∨ (root ++ ['.']).isPrefixOf name then name else root ++ '.' :: name

def literals : Text := named "sql.bind".toList

def builder : Text := named "sql.builder".toList

def query : Text := named "query".toList

def rows : Text := named "row".toList

end Logger

def eventKey : Text := "event".toList

/-- The details of a named event, its name first. -/
def eventFields (event : Text) (fields : Fields) : Fields := (eventKey, .text event) :: fields

/-- That the name of an event is given once more among its details. -/
structure EventNamedTwice where

/-- The message for an event that is named twice. -/
def EventNamedTwice.message (_ : EventNamedTwice) : Text :=
  "event_fields() got multiple values for argument 'event'".toList

/-- The details of a named event, unless its name is among them already. -/
def eventFields? (event : Text) (fields : Fields) : Except EventNamedTwice Fields :=
  if fields.any (·.1 == eventKey) then .error ⟨⟩ else .ok (eventFields event fields)

/-- The record of the registration of a writer for a class. -/
def registrationRecord (c : Class) : Record :=
  ⟨Logger.literals, .debug, "Registered literal writer for ".toList ++ c.name, none⟩

end SqlTemplate
