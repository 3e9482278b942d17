import SqlTemplate.Proofs.Builder.Outcome
import SqlTemplate.Proofs.Query.Facade

/-!
# Warnings of failed queries

A query that cannot be rendered warns of it, if its configuration asks for that when the statement
is accessed for the first time. All accesses in a run come out alike (`outcome_access`), and only
the first one leaves any records (`Rendered.useRecords`), so there is one warning at most. What the
builder has logged up to then includes that it has failed (`mem_failed_log`), so the warning comes
after that. `warns_once` puts these together.
-/

namespace SqlTemplate

namespace Record

def queryFailedEvent : Text := "query.failed".toList

/-- Whether the record warns, on the logger of queries, that a query has failed. -/
def warnsOfFailure (r : Record) : Bool :=
  r.level == .warning && r.logger == Logger.query && r.event? == some queryFailedEvent

/-- Failures are warned of on the logger of queries. -/
theorem logger_of_warnsOfFailure {r : Record} (h : r.warnsOfFailure = true) :
    r.logger = Logger.query := by
  simp only [warnsOfFailure, Bool.and_eq_true, beq_iff_eq] at h
  exact h.1.2

end Record

/-- Builders never warn of queries. -/
theorem Builder.filter_warns_useRecords (b : Builder) (u : Builder.Use) :
    (b.useRecords u).filter Record.warnsOfFailure = [] := by
  rw [List.filter_eq_nil_iff]
  intro r hr hw
  have hl := Record.logger_of_warnsOfFailure hw
  rcases Builder.mem_useRecords hr with ⟨e, rfl⟩ | ⟨c, rfl⟩
  · have he : Logger.builder = Logger.query := by cases e <;> exact hl
    exact absurd he (by decide)
  · have hn : Logger.rows = Logger.query := hl
    exact absurd hn (by decide)

namespace Query

open Builder (Operation)

/-! ## The log -/

/-- The records that a use leaves. -/
def useRecords (q : Query) : Use → List Record
  | .operation o => q.builder.useRecords (.operation o)
  | .sql => q.sql.records
  | .display | .configure .. => []

/-- The records that several uses leave, one use after another. -/
def log (q : Query) : List Use → List Record
  | [] => []
  | u :: rest => q.useRecords u ++ (q.use u).query.log rest

theorem useAll_append (q : Query) (uses uses' : List Use) :
    q.useAll (uses ++ uses') = (q.useAll uses).useAll uses' :=
  List.foldl_append

theorem log_append (q : Query) (uses uses' : List Use) :
    q.log (uses ++ uses') = q.log uses ++ (q.useAll uses).log uses' := by
  induction uses generalizing q with
  | nil => rfl
  | cons u rest ih =>
    rw [List.cons_append, log, log, ih, List.append_assoc]
    rfl

/-! ## Up to the first access -/

/-- Without an access nothing is warned of. -/
theorem filter_warns_log (q : Query) {uses : List Use} (hu : Use.sql ∉ uses) :
    (q.log uses).filter Record.warnsOfFailure = [] := by
  induction uses generalizing q with
  | nil => rfl
  | cons u rest ih =>
    rw [List.mem_cons, not_or] at hu
    rw [log, List.filter_append, ih _ hu.2, List.append_nil]
    cases u with
    | operation o => exact q.builder.filter_warns_useRecords (.operation o)
    | sql => exact absurd rfl hu.1
    | display => rfl
    | configure name v => rfl

/-- Without an access, what is logged of the builder's outcome is what has become of it. -/
theorem filter_log (q : Query) {uses : List Use} (hu : Use.sql ∉ uses) :
    q.builder.outcomeRecords ++ (q.log uses).filter Record.tellsOutcome =
      (q.useAll uses).builder.outcomeRecords := by
  induction uses generalizing q with
  | nil => exact List.append_nil _
  | cons u rest ih =>
    rw [List.mem_cons, not_or] at hu
    have hs : q.builder.outcomeRecords ++ (q.useRecords u).filter Record.tellsOutcome =
        (q.use u).query.builder.outcomeRecords := by
      cases u with
      | operation o => exact q.builder.filter_useRecords (.operation o)
      | sql => exact absurd rfl hu.1
      | display => exact List.append_nil _
      | configure name v =>
        rw [use]
        split <;> exact List.append_nil _
    rw [log, List.filter_append, ← List.append_assoc, hs]
    exact ih _ hu.2

theorem outcomeRecords_ofSource (source : Source) (config : QueryConfig) :
    (ofSource source config).builder.outcomeRecords = [] := by
  rw [ofSource_eq, Builder.ofSource_eq]
  unfold formatOperations
  cases config.format? <;> rfl

/-! ## Accesses -/

/-- The first access logs what the end of the builder's work logs, and the warning. -/
theorem Awaits.records {q : Query} {b : Builder} (h : q.Awaits b) :
    q.sql.records = b.finish.records ++
      match b.finish.result with
      | .ok _ => []
      | .error f => if q.config.logFailures.isTrue then [queryFailedRecord f] else [] := by
  unfold Query.sql
  rw [h.outcome?, h.builder]
  dsimp only
  cases b.finish.result with
  | ok text => exact (List.append_nil _).symm
  | error f => rfl

/-- A rendered query logs nothing any more. -/
theorem Rendered.useRecords {q : Query} {b : Builder} {outcome : Except Failure Text}
    (h : q.Rendered b outcome) (u : Use) : q.useRecords u = [] := by
  cases u with
  | operation o =>
    have hf : q.builder.finished = true := by rw [h.builder, h.finished]
    rw [Query.useRecords]
    exact Builder.useRecords_settled (.inr hf) _
  | sql => rw [Query.useRecords, h.sql]
  | display => rfl
  | configure name v => rfl

/-- A rendered query logs nothing, whatever it is used for. -/
theorem Rendered.log {q : Query} {b : Builder} {outcome : Except Failure Text}
    (h : q.Rendered b outcome) (uses : List Use) : q.log uses = [] := by
  induction uses generalizing q with
  | nil => rfl
  | cons u rest ih => rw [Query.log, h.useRecords, ih (h.use u), List.append_nil]

section

variable (source : Source) (config : QueryConfig)

/-- All that a run logs, it logs up to its first access. -/
theorem log_ofSource {before : List Use} (hb : Use.sql ∉ before) (later : List Use) :
    (ofSource source config).log (before ++ .sql :: later) =
      (ofSource source config).log before ++
        ((ofSource source config).useAll before).sql.records := by
  have hr := ((awaits_ofSource source config).useAll hb).sql.2
  rw [log_append, log]
  have hl : (((ofSource source config).useAll before).use .sql).query.log later = [] := hr.log later
  rw [hl, List.append_nil]
  rfl

/-- All accesses in a run come out as the first one does. -/
theorem outcome_access {before before' later later' : List Use} (hb : Use.sql ∉ before)
    (h : before ++ .sql :: later = before' ++ .sql :: later') :
    ((ofSource source config).useAll before').sql.outcome =
      ((ofSource source config).useAll before).sql.outcome := by
  rcases List.append_eq_append_iff.1 h with ⟨between, rfl, hs⟩ | ⟨between, rfl, hs⟩
  · cases between with
    | nil => rw [List.append_nil]
    | cons u rest =>
      obtain rfl : Use.sql = u := (List.cons.inj hs).1
      obtain ⟨ho, hr⟩ := ((awaits_ofSource source config).useAll hb).sql
      have hr' := hr.useAll rest
      have he : (ofSource source config).useAll (before ++ .sql :: rest) =
          ((ofSource source config).useAll before).sql.query.useAll rest := useAll_append _ _ _
      rw [he, hr'.sql, ho]
  · cases between with
    | nil => rw [List.append_nil]
    | cons u rest =>
      -- the other access would come before the first one
      obtain rfl : Use.sql = u := (List.cons.inj hs).1
      exact absurd (List.mem_append_right before' List.mem_cons_self) hb

/-- The builder of a query that fails has logged its failure up to the first access. -/
theorem mem_failed_log {before : List Use} (hb : Use.sql ∉ before) {f : Failure}
    (h : ((ofSource source config).useAll before).sql.outcome = .error f) :
    ∃ message, f = Builder.invalid message ∧
      (BuilderEvent.failed message).record ∈ (ofSource source config).log before ++
        ((ofSource source config).useAll before).builder.finish.records := by
  have hw := (awaits_ofSource source config).useAll hb
  have hn : ((ofSource source config).useAll before).builder.finished = false := by
    rw [hw.builder, hw.unfinished]
  have hr : ((ofSource source config).useAll before).builder.finish.result = .error f := by
    rw [← h, hw.sql.1, hw.builder]
  rcases Builder.outcome?_finish hn with ⟨sql, hs, -⟩ | ⟨message, hs, hd⟩
  · rw [hr] at hs
    cases hs
  · rw [hr] at hs
    obtain rfl : f = Builder.invalid message := Except.error.inj hs
    refine ⟨message, rfl, ?_⟩
    have ho := filter_log (ofSource source config) hb
    rw [outcomeRecords_ofSource, List.nil_append] at ho
    have hf := Builder.outcome_finish ((ofSource source config).useAll before).builder
    rw [hd, ← ho, Builder.outcomeRecords_failed rfl] at hf
    have hm : (BuilderEvent.failed message).record ∈
        ((ofSource source config).log before).filter Record.tellsOutcome ++
          ((ofSource source config).useAll before).builder.finish.records := by
      rw [hf]
      exact List.mem_singleton_self _
    rcases List.mem_append.1 hm with hm | hm
    · exact List.mem_append_left _ (List.mem_filter.1 hm).1
    · exact List.mem_append_right _ hm

/-- What a run with an access warns of. -/
theorem filter_warns_log_ofSource {before : List Use} (hb : Use.sql ∉ before) (later : List Use) :
    ((ofSource source config).log (before ++ .sql :: later)).filter Record.warnsOfFailure =
      match ((ofSource source config).useAll before).sql.outcome with
      | .ok _ => []
      | .error f =>
        if ((ofSource source config).useAll before).config.logFailures.isTrue then
          [queryFailedRecord f]
        else [] := by
  have hw := (awaits_ofSource source config).useAll hb
  have hf := Builder.filter_warns_useRecords
    ((ofSource source config).useAll before).builder .finish
  rw [hw.builder] at hf
  rw [log_ofSource source config hb, List.filter_append, filter_warns_log _ hb, hw.records,
    List.filter_append, hw.sql.1]
  change [] ++ (List.filter _ (Builder.useRecords _ .finish) ++ _) = _
  rw [hf, List.nil_append, List.nil_append]
  split
  · rfl
  · split <;> rfl

end

/-- The access behind the given uses is the first one of a run to raise a failure. -/
structure FirstRaise (start : Query) (uses before : List Use) (f : Failure) : Prop where
  access : ∃ later, uses = before ++ .sql :: later
  raises : (start.useAll before).sql.outcome = .error f
  first : ∀ earlier between f', before = earlier ++ .sql :: between →
    (start.useAll earlier).sql.outcome ≠ .error f'

namespace FirstRaise

variable {source : Source} {config : QueryConfig} {uses before : List Use} {f : Failure}

/-- The first access to raise a failure is the first access. -/
theorem not_mem (h : FirstRaise (ofSource source config) uses before f) : Use.sql ∉ before := by
  intro hm
  obtain ⟨earlier, between, rfl, he⟩ := List.eq_append_cons_of_mem hm
  have hs : earlier ++ .sql :: (between ++ [.sql]) = (earlier ++ .sql :: between) ++ [.sql] := by
    simp
  have ho := outcome_access source config he hs
  exact h.first earlier between f rfl (ho.symm.trans h.raises)

/-- An access that raises is the first one that does if there is none before it. -/
theorem of_not_mem {later : List Use} (hb : Use.sql ∉ before)
    (hr : ((ofSource source config).useAll before).sql.outcome = .error f) :
    FirstRaise (ofSource source config) (before ++ .sql :: later) before f := by
  refine ⟨⟨later, rfl⟩, hr, ?_⟩
  rintro earlier between f' rfl
  exact absurd (List.mem_append_right earlier List.mem_cons_self) hb

/-- Every access that raises a failure raises the one that the first does. -/
theorem eq_of_raises (h : FirstRaise (ofSource source config) uses before f)
    {before' later' : List Use} {f' : Failure} (hu : uses = before' ++ .sql :: later')
    (hr : ((ofSource source config).useAll before').sql.outcome = .error f') : f' = f := by
  obtain ⟨later, rfl⟩ := h.access
  rw [outcome_access source config h.not_mem hu, h.raises] at hr
  exact (Except.error.inj hr).symm

/-- What is warned of a failure, if the configuration asks for it. -/
theorem filter_warns (h : FirstRaise (ofSource source config) uses before f) :
    ((ofSource source config).log uses).filter Record.warnsOfFailure =
      if ((ofSource source config).useAll before).config.logFailures.isTrue then
        [queryFailedRecord f]
      else [] := by
  obtain ⟨later, rfl⟩ := h.access
  rw [filter_warns_log_ofSource source config h.not_mem, h.raises]

/-- The warning is the last record of the first access, behind the record of the builder. -/
theorem log_access (h : FirstRaise (ofSource source config) uses before f)
    (hc : ((ofSource source config).useAll before).config.logFailures.isTrue = true) :
    ∃ message told, f = Builder.invalid message ∧
      queryFailedRecord f ∈ ((ofSource source config).useAll before).useRecords .sql ∧
      (ofSource source config).log before ++
          ((ofSource source config).useAll before).useRecords .sql =
        told ++ [queryFailedRecord f] ∧
      (BuilderEvent.failed message).record ∈ told := by
  obtain ⟨message, hf, hm⟩ := mem_failed_log source config h.not_mem h.raises
  have hw := (awaits_ofSource source config).useAll h.not_mem
  have hr : ((ofSource source config).useAll before).useRecords .sql =
      ((ofSource source config).useAll before).builder.finish.records ++ [queryFailedRecord f] := by
    rw [useRecords, hw.records, ← hw.sql.1, h.raises, hw.builder]
    dsimp only
    rw [if_pos hc]
  refine ⟨message, _, hf, ?_, ?_, hm⟩
  · rw [hr]
    exact List.mem_append_right _ List.mem_cons_self
  · rw [hr, List.append_assoc]

end FirstRaise

/-- **A failed query warns once.** Of a run of uses at most one record warns of a failure, and there
is one exactly when an access has raised a failure and the configuration asked for warnings at the
first such access. It is the last record that this access leaves, behind the record in which the
builder tells of the same failure, and it tells the message of each failure that an access raises.
A run in which an access has given a statement warns of nothing. -/
theorem warns_once (source : Source) (config : QueryConfig) (uses : List Use) :
    let start := ofSource source config
    let warnings := (start.log uses).filter Record.warnsOfFailure
    warnings.length ≤ 1 ∧
    (warnings.length = 1 ↔ ∃ before f, FirstRaise start uses before f ∧
      (start.useAll before).config.logFailures.isTrue = true) ∧
    (∀ before f, FirstRaise start uses before f →
      (start.useAll before).config.logFailures.isTrue = true →
      ∃ message told w, f = Builder.invalid message ∧ warnings = [w] ∧
        w ∈ (start.useAll before).useRecords .sql ∧
        start.log before ++ (start.useAll before).useRecords .sql = told ++ [w] ∧
        (BuilderEvent.failed message).record ∈ told ∧
        ∀ before' later' f', uses = before' ++ .sql :: later' →
          (start.useAll before').sql.outcome = .error f' →
          w.detail? "error".toList = some (.text f'.message)) ∧
    (∀ before later text, uses = before ++ .sql :: later →
      (start.useAll before).sql.outcome = .ok text → warnings = []) := by
  intro start warnings
  -- without an access there is no warning, and all accesses come out as the first one does
  have hnone : Use.sql ∉ uses → warnings = [] := filter_warns_log start
  have hfirst : ∀ before later, uses = before ++ .sql :: later → Use.sql ∉ before →
      (∃ text, (start.useAll before).sql.outcome = .ok text ∧ warnings = []) ∨
      ∃ f, FirstRaise start uses before f := by
    rintro before later rfl hb
    have hw := filter_warns_log_ofSource source config hb later
    cases ho : (start.useAll before).sql.outcome with
    | ok text =>
      rw [ho] at hw
      exact .inl ⟨text, rfl, hw⟩
    | error f => exact .inr ⟨f, .of_not_mem hb ho⟩
  have hraise : warnings ≠ [] → ∃ before f, FirstRaise start uses before f := by
    intro hn
    by_cases hm : Use.sql ∈ uses
    · obtain ⟨before, later, hu, hb⟩ := List.eq_append_cons_of_mem hm
      rcases hfirst before later hu hb with ⟨text, -, hw⟩ | ⟨f, h⟩
      · exact absurd hw hn
      · exact ⟨before, f, h⟩
    · exact absurd (hnone hm) hn
  refine ⟨?_, ?_, ?_, ?_⟩
  · by_cases hn : warnings = []
    · rw [hn]
      exact Nat.zero_le 1
    · obtain ⟨before, f, h⟩ := hraise hn
      have hw : warnings = _ := h.filter_warns
      rw [hw]
      split <;> simp
  · constructor
    · intro hl
      obtain ⟨before, f, h⟩ := hraise (by rintro hn; rw [hn] at hl; cases hl)
      refine ⟨before, f, h, ?_⟩
      have hw : warnings = _ := h.filter_warns
      rw [hw] at hl
      split at hl
      · assumption
      · cases hl
    · rintro ⟨before, f, h, hc⟩
      have hw : warnings = _ := h.filter_warns
      rw [hw, if_pos hc]
      rfl
  · intro before f h hc
    obtain ⟨message, told, hf, hm, ht, hr⟩ := h.log_access hc
    have hw : warnings = _ := h.filter_warns
    rw [if_pos hc] at hw
    refine ⟨message, told, queryFailedRecord f, hf, hw, hm, ht, hr, ?_⟩
    intro before' later' f' hu ho
    rw [h.eq_of_raises hu ho]
    rfl
  · intro before later text hu ho
    by_cases hn : warnings = []
    · exact hn
    · obtain ⟨before', f, h⟩ := hraise hn
      obtain ⟨later', hu'⟩ := h.access
      rw [outcome_access source config h.not_mem (hu'.symm.trans hu), h.raises] at ho
      cases ho

/-! ## A configuration changed in time -/

/-- Failures are to be logged from the second use on. -/
def lateUses : List Use :=
  [.operation (.argument Writer.dispatcher (.int 5)),
    .configure QueryConfig.logFailuresName (.bool true),
    .operation (.argument Writer.dispatcher (.int 6)), .display]

def silentConfig : QueryConfig := ⟨.null, .bool false⟩

/-- A configuration that asks for warnings only after the query has been made, but before its first
access. -/
theorem warns_once_late :
    let start := ofSource (.template "SELECT ?".toList) silentConfig
    let uses := lateUses ++ .sql ::
      [.configure QueryConfig.logFailuresName (.bool false), argumentUse 7, .sql]
    let f := Builder.invalid (Builder.failureMessage Builder.surplusReason)
    FirstRaise start uses lateUses f ∧
    (start.useAll lateUses).config.logFailures.isTrue = true ∧
    ((start.log uses).filter Record.warnsOfFailure).length = 1 ∧
    ∃ w, (start.log uses).filter Record.warnsOfFailure = [w] ∧
      w.detail? "error".toList = some (.text f.message) := by
  intro start uses f
  have hr : FirstRaise start uses lateUses f := by
    refine .of_not_mem ?_ rfl
    simp [lateUses]
  have hc : (start.useAll lateUses).config.logFailures.isTrue = true := rfl
  obtain ⟨-, one, warned, -⟩ := warns_once (.template "SELECT ?".toList) silentConfig uses
  obtain ⟨message, told, w, -, hw, -, -, -, hd⟩ := warned lateUses f hr hc
  exact ⟨hr, hc, one.2 ⟨lateUses, f, hr, hc⟩, w, hw, hd lateUses _ f rfl hr.raises⟩

end Query

end SqlTemplate
