import SqlTemplate.Builder
import SqlTemplate.Config

/-!
# Queries

A query is a builder with a configuration. The statement is rendered at the first access to it
(`Query.sql`); later accesses give the same statement or the same failure again. A query that fails
is reported at its first access, if its configuration asks for that then.
-/

namespace SqlTemplate

/-- A query: its builder, its configuration, and the outcome of the first access to the
statement. -/
structure Query where
  builder : Builder
  config : QueryConfig
  outcome? : Option (Except Failure Text)

def queryFailedRecord (f : Failure) : Record :=
  { logger := Logger.query
    level := .warning
    message := "Failed to build query: ".toList ++ f.message
    fields? := some (eventFields "query.failed".toList [("error".toList, .text f.message)]) }

namespace Query

/-- The builder with the format of a configuration set, where it has one. -/
def formatted (builder : Builder) (config : QueryConfig) : Builder :=
  match config.format? with
  | some format => (builder.setFormat (some format)).builder
  | none => builder

/-- A query around a builder, with the format of its configuration set. -/
def start (builder : Builder) (config : QueryConfig) : Query :=
  ⟨formatted builder config, config, none⟩

def ofTemplate (template : Text) (config : QueryConfig) : Query :=
  start (.ofTemplate template) config

/-- A query around SQL that is taken as it is: the builder of an empty query is replaced, and the
format set once more. -/
def raw (sql : Text) (config : QueryConfig) : Query :=
  { ofTemplate [] config with builder := formatted (.raw sql) config }

/-- The statement where it has been rendered, else what the builder displays. -/
def display (q : Query) : Text :=
  match q.outcome? with
  | some (.ok sql) => sql
  | _ => q.builder.display

def displayed (q : Query) : Text := "Query(".toList ++ Text.displayed q.display ++ [')']

/-- The query after an operation on its builder. -/
def after {α : Type} (q : Query) (step : Step α) : Query := { q with builder := step.builder }

/-- What comes of an access to the statement: its outcome, the query after it, and the records. -/
structure Access where
  outcome : Except Failure Text
  query : Query
  records : List Record

def sql (q : Query) : Access :=
  match q.outcome? with
  | some outcome => ⟨outcome, q, []⟩
  | none =>
    let step := q.builder.finish
    let events := (step.event?.map BuilderEvent.record).toList
    match step.result with
    | .ok text => ⟨.ok text, { q.after step with outcome? := some (.ok text) }, events⟩
    | .error f =>
      let warnings := if q.config.logFailures.isTrue then [queryFailedRecord f] else []
      ⟨.error f, { q.after step with outcome? := some (.error f) }, events ++ warnings⟩

end Query

end SqlTemplate
