import SqlTemplate.Log.Line
import SqlTemplate.Text.LetterCase

/-!
# Setting up logging

The loggers of the library pass records from a level on to handlers: a console that writes a line
for each record, and further handlers. At first there is one handler that writes nothing.
`LogSetup.configure` sets a level by its name, in any letter case, and the style of the console; a
name that no level has changes nothing.
-/

namespace SqlTemplate

/-- How the loggers of the library are set up; records are never passed on beyond them. -/
structure LogSetup where
  level : Level
  console? : Option LineStyle
  /-- How many handlers there are beside the first one. -/
  further : Nat

inductive LevelFault where
  | unknown (name : Text)
  /-- The name is that of a text. -/
  | text (shown : Text)
  /-- The name is that of something else than a level; `shown` is its display. -/
  | other (shown : Text)

namespace LevelFault

/-- The layouts of lines, which are known by a name but are no level. -/
def layouts : Text :=
  ("\x7b'%': (<class 'logging.PercentStyle'>, '%(levelname)s:%(name)s:%(message)s'), " ++
    "'\x7b': (<class 'logging.StrFormatStyle'>, " ++
    "'\x7blevelname\x7d:\x7bname\x7d:\x7bmessage\x7d'), " ++
    "'$': (<class 'logging.StringTemplateStyle'>, " ++
    "'$\x7blevelname\x7d:$\x7bname\x7d:$\x7bmessage\x7d')\x7d").toList

/-- Why the given name is not that of a level. -/
def ofName (name : Text) : LevelFault :=
  if name = "BASIC_FORMAT".toList then
    text (Text.displayed "%(levelname)s:%(name)s:%(message)s".toList)
  else if name = "_STYLES".toList then other layouts
  else unknown name

def message : LevelFault → Text
  | unknown name => "module 'logging' has no attribute '".toList ++ name ++ ['\'']
  | text shown => "Unknown level: ".toList ++ shown
  | other shown => "Level not an integer or a valid string: ".toList ++ shown

def kindName : LevelFault → Text
  | unknown _ => "AttributeError".toList
  | text _ => "ValueError".toList
  | other _ => "TypeError".toList

end LevelFault

namespace LogSetup

/-- Warnings and above go to a handler that writes nothing. -/
def initial : LogSetup := ⟨.warning, none, 0⟩

/-- The level and the style that are used when none is named. -/
def defaultLevel : Text := "INFO".toList

/-- The name of the structured style; every other name is the plain style. -/
def structuredName : Text := "structured".toList

def style (name : Text) : LineStyle := if name = structuredName then .structured else .plain

/-- Sets the level, the style of the console and the number of further handlers. -/
def configure (level styleName : Text) (further : Nat) : Except LevelFault LogSetup :=
  match Level.named? (Text.upper level) with
  | some level => .ok ⟨level, some (style styleName), further⟩
  | none => .error (.ofName (Text.upper level))

def handlers (s : LogSetup) : Nat := 1 + s.further

/-- The level from which on records are passed on. Where none is set it is that of warnings. -/
def threshold (s : LogSetup) : Level := if s.level = .notSet then .warning else s.level

def passed (s : LogSetup) (records : List Record) : List Record :=
  records.filter (·.level.passes s.threshold)

/-- What the console writes for records, each on a line. -/
def written (s : LogSetup) (time : Text) (records : List Record) : List Text :=
  match s.console? with
  | some style => (s.passed records).map fun r => r.line style time ++ ['\n']
  | none => []

def recorded (s : LogSetup) (records : List Record) : List Record :=
  if s.further = 0 then [] else s.passed records

end LogSetup

end SqlTemplate
