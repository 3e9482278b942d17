import SqlTemplate.Json.Encode
import SqlTemplate.Log.Record
import SqlTemplate.Overlay

/-!
# Log lines

A record is written on a line of its own: structured, as a JSON object with the time, the level, the
logger and the message, the details of the event, and the exception; or plain, as time, logger,
level and message with hyphens between them.
-/

namespace SqlTemplate

inductive LineStyle where
  | structured | plain
  deriving DecidableEq

/-- The universal time of a count of milliseconds since the start of 1970. Years outside of the
calendar are counted on both sides of it, 400 years at a time, and no year is filled up with
zeros. -/
def timestamp (millis : Int) : Text :=
  let sinceStart : Int := Civil.epochMicros + millis * 1000
  let cycle : Nat := 146097 * Civil.dayMicros
  let micros := (sinceStart % cycle).toNat
  let date := Date.ofOrdinal (micros / Civil.dayMicros + 1)
  let clock := Clock.ofMicros (micros % Civil.dayMicros)
  Text.integer (date.year + 400 * (sinceStart / cycle)) ++ '-' :: Text.padded 10 2 date.month ++
    '-' :: Text.padded 10 2 date.day ++ ' ' :: { clock with micro := 0 }.toText ++
    ',' :: Text.padded 10 3 (clock.micro / 1000)

/-- What stands for the message of an error that has none to tell. -/
def untoldText : Text := "<exception str() failed>".toList

/-- An error as it is reported behind a record: the name of its kind, for failures of the library
with the place of their definition, and its message unless that is empty. -/
def exceptionText (fault : Fault) : Text :=
  let kind := match fault.libraryKind? with
    | some kind => "chsql.exceptions.".toList ++ kind.name
    | none => fault.kindName
  let message := match fault.message with
    | .ok message => message
    | .error _ => untoldText
  if message.isEmpty then kind else kind ++ ": ".toList ++ message

namespace Record

/-- The entries of a structured line. Details with the name of an earlier entry take its place. -/
def entries (r : Record) (time : Text) (exception? : Option Fault) : Fields :=
  let base : Fields :=
    [("timestamp".toList, .text time), ("level".toList, .text r.level.name),
     ("logger".toList, .text r.logger), ("message".toList, .text r.message)]
  let details := (r.fields?.getD []) ++
    (exception?.map fun fault => ("exception".toList, Value.text (exceptionText fault))).toList
  overlay (·.1) base details

def structuredLine (r : Record) (time : Text) (exception? : Option Fault) : Text :=
  Json.object ((r.entries time exception?).map fun (k, v) => (Json.quoted k, Json.encode v))

def plainLine (r : Record) (time : Text) : Text :=
  List.intercalate " - ".toList [time, r.logger, r.level.name, r.message]

/-- The line of a record in a style. -/
def line (r : Record) (style : LineStyle) (time : Text) : Text :=
  match style with
  | .structured => r.structuredLine time none
  | .plain => r.plainLine time

end Record

end SqlTemplate
