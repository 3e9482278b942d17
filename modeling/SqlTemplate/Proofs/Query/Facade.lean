import SqlTemplate.Proofs.Builder.LifeCycle
import SqlTemplate.Query

/-!
# A query stands for a builder

A query is used in any way and order: operated on, asked for its statement, shown, and its
configuration changed (`Query.use`). Up to the first access to the statement its builder is the one
that the same operations make of a builder with the format of the configuration set
(`Awaits.useAll`); from then on neither the builder nor the outcome changes
(`Rendered.useAll`). What the configuration has become meanwhile plays no part in either (`Alike`).
`facade` puts these together.
-/

namespace SqlTemplate.Query

open Builder (Operation)

def ofSource : Source → QueryConfig → Query
  | .template text => ofTemplate text
  | .raw sql => raw sql

inductive Use where
  | operation (o : Operation)
  | sql
  | display
  | configure (name : Text) (v : Value)

/-- What a use raises. -/
inductive Raised where
  | builder (raised : Builder.Raised)
  | config (fault : ConfigFault)

/-- What a use gives, a text where it is not the query itself; and the query after it. -/
structure Used where
  result : Except Raised (Option Text)
  query : Query

/-- Operations give the query itself, where they raise nothing. -/
def Used.passed : Except Builder.Raised Builder.Answer → Except Raised (Option Text)
  | .ok _ => .ok none
  | .error raised => .error (.builder raised)

def Used.told : Except Failure Text → Except Raised (Option Text)
  | .ok text => .ok (some text)
  | .error f => .error (.builder (.failure f))

def use (q : Query) : Use → Used
  | .operation o =>
    let used := q.builder.use (.operation o)
    ⟨Used.passed used.result, { q with builder := used.builder }⟩
  | .sql => ⟨Used.told q.sql.outcome, q.sql.query⟩
  | .display => ⟨.ok (some q.display), q⟩
  | .configure name v =>
    match q.config.set name v with
    | .ok config => ⟨.ok none, { q with config := config }⟩
    | .error fault => ⟨.error (.config fault), q⟩

def useAll (q : Query) (uses : List Use) : Query := uses.foldl (fun q u => (q.use u).query) q

def Use.operation? : Use → Option Operation
  | operation o => some o
  | _ => none

def Use.configures : Use → Bool
  | configure .. => true
  | _ => false

/-- The operations on the builder that set the format of a configuration. -/
def formatOperations (config : QueryConfig) : List Operation :=
  (config.format?.map fun format => Operation.format (some format)).toList

/-! ## Beginnings -/

/-- A new query is a new builder on which the format of the configuration has been set. -/
theorem ofSource_eq (source : Source) (config : QueryConfig) :
    ofSource source config =
      ⟨(Builder.ofSource source).operateAll (formatOperations config), config, none⟩ := by
  have h : ∀ b : Builder, formatted b config = b.operateAll (formatOperations config) := by
    intro b
    unfold formatted formatOperations
    cases config.format? <;> rfl
  cases source with
  | template text => exact congrArg (Query.mk · config none) (h _)
  | raw sql => exact congrArg (Query.mk · config none) (h _)

/-! ## Up to the first access -/

/-- The query has not been rendered, and its builder is the given one, unfinished. -/
structure Awaits (q : Query) (b : Builder) : Prop where
  builder : q.builder = b
  outcome? : q.outcome? = none
  unfinished : b.finished = false

/-- A new query waits for its first access. -/
theorem awaits_ofSource (source : Source) (config : QueryConfig) :
    (ofSource source config).Awaits
      ((Builder.ofSource source).operateAll (formatOperations config)) := by
  rw [ofSource_eq]
  exact ⟨rfl, rfl, Builder.finished_operateAll (Builder.finished_ofSource source) _⟩

/-- Up to then it displays what its builder does. -/
theorem Awaits.display {q : Query} {b : Builder} (h : q.Awaits b) : q.display = b.display := by
  rw [Query.display, h.outcome?, h.builder]

/-- Its uses are operations on the builder. -/
theorem Awaits.use {q : Query} {b : Builder} (h : q.Awaits b) {u : Use} (hu : u ≠ .sql) :
    (q.use u).query.Awaits (b.operateAll u.operation?.toList) := by
  obtain ⟨rfl, ho, hf⟩ := h
  cases u with
  | sql => exact absurd rfl hu
  | display => exact ⟨rfl, ho, hf⟩
  | configure name v =>
    rw [Query.use]
    split
    · exact ⟨rfl, ho, hf⟩
    · exact ⟨rfl, ho, hf⟩
  | operation o =>
    have hb : (q.use (.operation o)).query.builder = q.builder.operated o :=
      Builder.builder_use_operation q.builder o
    exact ⟨hb, ho, Builder.finished_operated hf o⟩

/-- So are all of them one after another. -/
theorem Awaits.useAll {q : Query} {b : Builder} (h : q.Awaits b) {uses : List Use}
    (hu : Use.sql ∉ uses) :
    (q.useAll uses).Awaits (b.operateAll (uses.filterMap Use.operation?)) := by
  induction uses generalizing q b with
  | nil => exact h
  | cons u rest ih =>
    rw [List.mem_cons, not_or] at hu
    have hn := ih (h.use (Ne.symm hu.1)) hu.2
    have hs : (u :: rest).filterMap Use.operation? =
        u.operation?.toList ++ rest.filterMap Use.operation? := by
      cases u <;> rfl
    rw [hs, Builder.operateAll_append]
    exact hn

/-! ## From the first access on -/

/-- The query has been rendered with the given outcome, and its builder is the given one,
finished. -/
structure Rendered (q : Query) (b : Builder) (outcome : Except Failure Text) : Prop where
  builder : q.builder = b
  outcome? : q.outcome? = some outcome
  finished : b.finished = true

/-- The first access finishes the builder and keeps what comes of it. -/
theorem Awaits.sql {q : Query} {b : Builder} (h : q.Awaits b) :
    q.sql.outcome = b.finish.result ∧ q.sql.query.Rendered b.finish.builder b.finish.result := by
  obtain ⟨rfl, ho, hf⟩ := h
  have hd : q.builder.finish.builder.finished = true := by
    rcases Builder.finish_cases hf with ⟨sql, -, -, hb⟩ | ⟨message, -, hb, -⟩
    · rw [hb]
    · rw [hb]
  unfold Query.sql
  rw [ho]
  dsimp only
  cases hr : q.builder.finish.result with
  | ok text => exact ⟨rfl, rfl, rfl, hd⟩
  | error f => exact ⟨rfl, rfl, rfl, hd⟩

namespace Rendered

variable {q : Query} {b : Builder} {outcome : Except Failure Text}

/-- Later accesses give the outcome again and log nothing. -/
theorem sql (h : q.Rendered b outcome) : q.sql = ⟨outcome, q, []⟩ := by
  rw [Query.sql, h.outcome?]

/-- Operations on a rendered query are refused, and change nothing. -/
theorem use_operation (h : q.Rendered b outcome) (o : Operation) :
    q.use (.operation o) = ⟨.error (.builder (.failure Builder.consumed)), q⟩ := by
  have hf : q.builder.finished = true := by rw [h.builder, h.finished]
  rw [Query.use, Builder.use_finished hf (by intro r hr; cases hr)]
  rfl

/-- No use changes the outcome of a rendered query. -/
theorem use (h : q.Rendered b outcome) (u : Use) : (q.use u).query.Rendered b outcome := by
  cases u with
  | operation o =>
    rw [h.use_operation o]
    exact h
  | sql =>
    rw [Query.use, h.sql]
    exact h
  | display => exact h
  | configure name v =>
    rw [Query.use]
    split
    · exact ⟨h.builder, h.outcome?, h.finished⟩
    · exact h

/-- Nor do several of them. -/
theorem useAll (h : q.Rendered b outcome) (uses : List Use) :
    (q.useAll uses).Rendered b outcome := by
  induction uses generalizing q with
  | nil => exact h
  | cons u rest ih => exact ih (h.use u)

/-- Rendered queries with one outcome display the same. -/
theorem display {q' : Query} (h : q.Rendered b outcome) (h' : q'.Rendered b outcome) :
    q'.display = q.display := by
  rw [Query.display, Query.display, h.outcome?, h'.outcome?, h.builder, h'.builder]

end Rendered

/-! ## Changed configurations -/

/-- The queries differ in their configurations at most. -/
structure Alike (q q' : Query) : Prop where
  builder : q.builder = q'.builder
  outcome? : q.outcome? = q'.outcome?

namespace Alike

variable {q q' q'' : Query}

theorem refl (q : Query) : q.Alike q := ⟨rfl, rfl⟩

theorem symm (h : q.Alike q') : q'.Alike q := ⟨h.builder.symm, h.outcome?.symm⟩

theorem trans (h : q.Alike q') (h' : q'.Alike q'') : q.Alike q'' :=
  ⟨h.builder.trans h'.builder, h.outcome?.trans h'.outcome?⟩

theorem display (h : q.Alike q') : q.display = q'.display := by
  rw [Query.display, Query.display, h.outcome?, h.builder]

/-- The configuration decides what is recorded of an access, and nothing else. -/
theorem sql (h : q.Alike q') :
    q.sql.outcome = q'.sql.outcome ∧ q.sql.query.Alike q'.sql.query := by
  obtain ⟨b, config, outcome?⟩ := q
  obtain ⟨b', config', outcome?'⟩ := q'
  obtain ⟨rfl, rfl⟩ : b = b' ∧ outcome? = outcome?' := ⟨h.builder, h.outcome?⟩
  unfold Query.sql
  cases outcome? with
  | some outcome => exact ⟨rfl, rfl, rfl⟩
  | none =>
    dsimp only
    cases b.finish.result with
    | ok text => exact ⟨rfl, rfl, rfl⟩
    | error f => exact ⟨rfl, rfl, rfl⟩

theorem use (h : q.Alike q') {u : Use} (hu : u.configures = false) :
    (q.use u).result = (q'.use u).result ∧ (q.use u).query.Alike (q'.use u).query := by
  cases u with
  | configure name v => cases hu
  | display => exact ⟨congrArg (Except.ok <| some ·) h.display, h⟩
  | sql => exact ⟨congrArg Used.told h.sql.1, h.sql.2⟩
  | operation o =>
    rw [Query.use, Query.use, h.builder]
    exact ⟨rfl, rfl, h.outcome?⟩

/-- Changes of the configuration do not matter once the query has been made. -/
theorem configure (h : q.Alike q') {u : Use} (hu : u.configures = true) :
    (q.use u).query.Alike q' := by
  cases u with
  | configure name v =>
    rw [Query.use]
    split
    · exact ⟨h.builder, h.outcome?⟩
    · exact h
  | operation o => cases hu
  | sql => cases hu
  | display => cases hu

/-- Leaving out the changes of the configuration makes no difference but to the configuration. -/
theorem useAll (h : q.Alike q') (uses : List Use) :
    (q.useAll uses).Alike (q'.useAll (uses.filter (!·.configures))) := by
  induction uses generalizing q q' with
  | nil => exact h
  | cons u rest ih =>
    cases hu : u.configures with
    | true =>
      rw [List.filter_cons_of_neg (by simp [hu])]
      exact ih (h.configure hu)
    | false =>
      rw [List.filter_cons_of_pos (by simp [hu])]
      exact ih (h.use hu).2

end Alike

/-! ## The facade -/

/-- **A query stands for a builder and renders once.** Its first access to the statement gives or
raises what the end of a builder does on which the format of the configuration was set at first and
the same operations were made, and that is a statement or an invalid one. Each later access gives or
raises the same, an operation in between is refused and changes nothing, and the display stays. Two
runs that differ in changes of the configuration only show and give the same. -/
theorem facade (source : Source) (config : QueryConfig) (before later : List Use)
    (hb : Use.sql ∉ before) :
    let q := (ofSource source config).useAll before
    let reference := (Builder.ofSource source).operateAll
      (formatOperations config ++ before.filterMap Use.operation?)
    let q' := (q.use .sql).query.useAll later
    (q.display = reference.display ∧
      (q.use .sql).result = Used.told reference.finish.result ∧
      ((∃ sql, reference.finish.result = .ok sql) ∨
        ∃ message, reference.finish.result = .error (Builder.invalid message))) ∧
    ((q'.use .sql).result = (q.use .sql).result ∧
      q'.display = (q.use .sql).query.display ∧
      ∀ o, q'.use (.operation o) = ⟨.error (.builder (.failure Builder.consumed)), q'⟩) ∧
    (∀ uses uses' : List Use, uses.filter (!·.configures) = uses'.filter (!·.configures) →
      let p := (ofSource source config).useAll uses
      let p' := (ofSource source config).useAll uses'
      p.display = p'.display ∧ (p.use .sql).result = (p'.use .sql).result) := by
  intro q reference q'
  have hw : q.Awaits reference := by
    have h := (awaits_ofSource source config).useAll hb
    rw [← Builder.operateAll_append] at h
    exact h
  obtain ⟨hout, hr⟩ := hw.sql
  have hr' : q'.Rendered reference.finish.builder reference.finish.result := hr.useAll later
  refine ⟨⟨?_, ?_, ?_⟩, ⟨?_, ?_, ?_⟩, ?_⟩
  · exact hw.display
  · exact congrArg Used.told hout
  · rcases Builder.finish_cases hw.unfinished with ⟨sql, h, -, -⟩ | ⟨message, h, -, -⟩
    · exact .inl ⟨sql, h⟩
    · exact .inr ⟨message, h⟩
  · rw [use, use, hr'.sql, hout]
  · exact hr.display hr'
  · exact hr'.use_operation
  · intro uses uses' hu p p'
    have h : p.Alike p' := by
      have hp : p.Alike _ := (Alike.refl (ofSource source config)).useAll uses
      have hp' : p'.Alike _ := (Alike.refl (ofSource source config)).useAll uses'
      rw [hu] at hp
      exact hp.trans hp'.symm
    exact ⟨h.display, (h.use rfl).1⟩

/-! ## A format changed too late -/

def formattedConfig : QueryConfig := ⟨.text "CSV".toList, .bool true⟩

def argumentUse (n : Int) : Use := .operation (.argument Writer.dispatcher (.int n))

def reconfigure : Use := .configure QueryConfig.outputFormatName (.text "JSON".toList)

/-- A format that is configured too late, and an argument after the statement. -/
theorem facade_reconfigured :
    let q := (ofSource (.template "SELECT ?".toList) formattedConfig).useAll
      [reconfigure, argumentUse 1]
    let q' := (q.use .sql).query.useAll [argumentUse 2, reconfigure, .display]
    Use.sql ∉ [reconfigure, argumentUse 1] ∧
    (q'.use .sql).result = .ok (some "SELECT 1 FORMAT CSV".toList) ∧
    (q'.use (argumentUse 3)).result = .error (.builder (.failure Builder.consumed)) := by
  intro q q'
  have hn : Use.sql ∉ [reconfigure, argumentUse 1] := by simp [reconfigure, argumentUse]
  obtain ⟨⟨-, first, -⟩, ⟨same, -, refused⟩, -⟩ := facade (.template "SELECT ?".toList)
    formattedConfig [reconfigure, argumentUse 1] [argumentUse 2, reconfigure, .display] hn
  refine ⟨hn, ?_, ?_⟩
  · exact same.trans (first.trans rfl)
  · exact congrArg Used.result (refused _)

end SqlTemplate.Query
