import SqlTemplate.Proofs.Builder.LifeCycle

/-!
# The outcome of a builder in the log

A builder logs how its work has come out: that it has failed, or that it has been finished with a
statement. The records that tell so are determined by what the builder has become
(`Builder.outcomeRecords`), whatever has been done to it before: each use adds what it changes about
that (`filter_useRecords`), and so does a whole run (`filter_log`). A builder that has failed or has
been finished logs nothing any more (`useRecords_settled`). `one_outcome` puts these together.
-/

namespace SqlTemplate

namespace Record

/-- What the record tells under the given name. -/
def detail? (r : Record) (name : Text) : Option Value := r.fields?.bind (·.lookup name)

/-- The name of the event that the record tells of. -/
def event? (r : Record) : Option Text :=
  match r.detail? eventKey with
  | some (.text event) => some event
  | _ => none

def failedEvent : Text := "builder.failed".toList

def finishedEvent : Text := "builder.finished".toList

theorem finishedEvent_ne : finishedEvent ≠ failedEvent := by decide

/-- Whether the record, on the logger of builders and loud enough for debugging, tells how the work
of a builder has come out. -/
def tellsOutcome (r : Record) : Bool :=
  r.level.passes .debug && r.logger == Logger.builder &&
    (r.event? == some failedEvent || r.event? == some finishedEvent)

/-- Outcomes are told on the logger of builders. -/
theorem logger_of_tellsOutcome {r : Record} (h : r.tellsOutcome = true) :
    r.logger = Logger.builder := by
  simp only [tellsOutcome, Bool.and_eq_true, beq_iff_eq] at h
  exact h.1.2

end Record

/-! ## Events and their records -/

namespace BuilderEvent

theorem event?_failed (message : Text) : (failed message).record.event? = some Record.failedEvent :=
  rfl

theorem event?_finished (sql : Text) (format? : Option Text) :
    (finished sql format?).record.event? = some Record.finishedEvent := rfl

/-- Each event of a builder is an outcome. -/
theorem tellsOutcome_record (e : BuilderEvent) : e.record.tellsOutcome = true := by
  cases e <;> rfl

end BuilderEvent

def Step.records {α : Type} (step : Step α) : List Record :=
  (step.event?.map BuilderEvent.record).toList

/-- A step logs nothing but outcomes. -/
theorem Step.filter_records {α : Type} (step : Step α) :
    step.records.filter Record.tellsOutcome = step.records := by
  unfold records
  cases step.event? with
  | none => rfl
  | some e => exact List.filter_cons_of_pos e.tellsOutcome_record

/-- The records of a step are those of its events. -/
theorem Step.exists_event {α : Type} {step : Step α} {r : Record} (h : r ∈ step.records) :
    ∃ e : BuilderEvent, r = e.record := by
  rw [records, Option.mem_toList, Option.map_eq_some_iff] at h
  obtain ⟨e, -, rfl⟩ := h
  exact ⟨e, rfl⟩

/-- The records of an attempt to make a step. -/
def Step.attemptRecords {ε : Type} : Except ε (Step Unit) → List Record
  | .ok step => step.records
  | .error _ => []

theorem Step.filter_attemptRecords {ε : Type} (made : Except ε (Step Unit)) :
    (attemptRecords made).filter Record.tellsOutcome = attemptRecords made := by
  cases made with
  | ok step => exact step.filter_records
  | error fault => rfl

/-- So are the records of an attempt. -/
theorem Step.exists_event_attempt {ε : Type} {made : Except ε (Step Unit)} {r : Record}
    (h : r ∈ attemptRecords made) : ∃ e : BuilderEvent, r = e.record := by
  cases made with
  | ok step => exact exists_event h
  | error fault => cases h

/-- The records of the look-up of columns, and then those of the step. -/
def RowStep.allRecords (bound : RowStep) : List Record :=
  bound.records ++ Step.attemptRecords bound.outcome

namespace Rows

/-- A look-up of columns tells at most that there are none. -/
theorem exists_noColumns {rows : Rows} {row : RowType} {r : Record}
    (h : r ∈ (rows.joinedColumns row).records) : ∃ c, r = noColumnsRecord c := by
  cases row with
  | value v => cases h
  | cls c =>
    rw [joinedColumns, classJoined] at h
    split at h
    · cases h
    · split at h
      · cases h
      · dsimp only at h
        split at h
        · cases h
        · exact ⟨c, List.mem_singleton.1 h⟩

/-- It logs nothing about builders. -/
theorem filter_records_joinedColumns (rows : Rows) (row : RowType) :
    (rows.joinedColumns row).records.filter Record.tellsOutcome = [] := by
  rw [List.filter_eq_nil_iff]
  intro r hr ht
  obtain ⟨c, rfl⟩ := exists_noColumns hr
  have hl : Logger.rows = Logger.builder := Record.logger_of_tellsOutcome ht
  exact absurd hl (by decide)

end Rows

namespace Builder

/-! ## The log -/

/-- The records that an operation leaves. -/
def operationRecords (b : Builder) : Operation → List Record
  | .argument d v => Step.attemptRecords (b.bind d v)
  | .columns rows row => (b.bindRow rows row).allRecords
  | .format format? => (b.setFormat format?).records

def useRecords (b : Builder) : Use → List Record
  | .operation o => b.operationRecords o
  | .finish => b.finish.records
  | .read _ => []

/-- The records that several uses leave, one use after another. -/
def log (b : Builder) : List Use → List Record
  | [] => []
  | u :: rest => b.useRecords u ++ (b.use u).builder.log rest

/-- The format that is in force. -/
def format? (b : Builder) : Option Text :=
  match b.state with
  | .inProgress _ format? => format?
  | .failed _ => none

/-- How the work of the builder has come out, once it has failed or has been finished. -/
def outcome? (b : Builder) : Option BuilderEvent :=
  match b.state with
  | .failed message => some (.failed message)
  | .inProgress segments format? =>
    if b.finished then
      (assemble segments).toOption.map fun text =>
        .finished (text ++ BuilderState.formatClause format?) format?
    else none

def outcomeRecords (b : Builder) : List Record := (b.outcome?.map BuilderEvent.record).toList

/-- There is one outcome at most. -/
theorem length_outcomeRecords_le (b : Builder) : b.outcomeRecords.length ≤ 1 := by
  unfold outcomeRecords
  cases b.outcome? <;> simp

/-- The outcome of a failed builder tells its message. -/
theorem outcomeRecords_failed {b : Builder} {message : Text} (h : b.state = .failed message) :
    b.outcomeRecords = [(BuilderEvent.failed message).record] := by
  rw [outcomeRecords, outcome?, h]
  rfl

/-! ## Single steps -/

/-- Setting a format logs what it changes about the outcome: nothing. -/
theorem outcome_setFormat (b : Builder) (format? : Option Text) :
    b.outcomeRecords ++ (b.setFormat format?).records =
      (b.setFormat format?).builder.outcomeRecords := by
  obtain ⟨state, finished⟩ := b
  cases finished with
  | true => exact List.append_nil _
  | false => cases state <;> rfl

/-- Binding a literal logs the outcome if it fails the builder. -/
theorem outcome_bindWritten (b : Builder) (w : Written) :
    b.outcomeRecords ++ Step.attemptRecords (b.bindWritten w) =
      (b.attempt (b.bindWritten w)).outcomeRecords := by
  obtain ⟨state, finished⟩ := b
  cases finished with
  | true => exact List.append_nil _
  | false =>
    cases state with
    | failed message => rfl
    | inProgress segments format? =>
      rw [bindWritten, if_neg Bool.false_ne_true]
      dsimp only
      split
      · split
        · rename_i fault _
          cases fault.message <;> rfl
        · rfl
      · rfl

/-- Binding columns does so too. -/
theorem outcome_bindFields (b : Builder) (columns? : Option Text) :
    b.outcomeRecords ++ (b.bindFields columns?).records =
      (b.bindFields columns?).builder.outcomeRecords := by
  obtain ⟨state, finished⟩ := b
  cases finished with
  | true => exact List.append_nil _
  | false =>
    cases state with
    | failed message => rfl
    | inProgress segments format? =>
      rw [bindFields, if_neg Bool.false_ne_true]
      cases columns? with
      | some text => rfl
      | none =>
        dsimp only
        split <;> rfl

/-- Of a binding of columns only the step itself counts, where the look-up is not at fault. -/
theorem outcome_bindRow (b : Builder) (rows : Rows) (row : RowType) :
    b.outcomeRecords ++ (b.bindRow rows row).allRecords.filter Record.tellsOutcome =
      (b.operated (.columns rows row)).outcomeRecords := by
  rw [operated_columns, RowStep.allRecords, bindRow]
  split
  · dsimp only
    rw [List.filter_append, Rows.filter_records_joinedColumns, List.nil_append,
      Step.filter_attemptRecords]
    cases (rows.joinedColumns row).result with
    | error fault => exact List.append_nil _
    | ok columns? => exact outcome_bindFields b columns?
  · dsimp only
    rw [List.nil_append, Step.filter_attemptRecords]
    exact outcome_bindFields b none

/-- The end of the work of an unfinished builder tells its outcome: the statement that it gives with
the format in force, or the message that it raises. -/
theorem outcome?_finish {b : Builder} (h : b.finished = false) :
    (∃ sql, b.finish.result = .ok sql ∧ b.finish.builder.isFailed = false ∧
      b.finish.builder.outcome? = some (.finished sql b.finish.builder.format?)) ∨
    (∃ message, b.finish.result = .error (invalid message) ∧
      b.finish.builder = ⟨.failed message, true⟩) := by
  obtain ⟨state, finished⟩ := b
  obtain rfl : finished = false := h
  rw [finish, if_neg Bool.false_ne_true]
  cases state with
  | failed message => exact .inr ⟨message, rfl, rfl⟩
  | inProgress segments format? =>
    dsimp only
    cases ha : assemble segments with
    | error reason => exact .inr ⟨_, rfl, rfl⟩
    | ok text =>
      refine .inl ⟨_, rfl, rfl, ?_⟩
      rw [outcome?]
      dsimp only
      rw [if_pos rfl, ha]
      rfl

/-- The end of the work logs the outcome unless there is one already. -/
theorem outcome_finish (b : Builder) :
    b.outcomeRecords ++ b.finish.records = b.finish.builder.outcomeRecords := by
  obtain ⟨state, finished⟩ := b
  cases finished with
  | true => exact List.append_nil _
  | false =>
    cases state with
    | failed message => rfl
    | inProgress segments format? =>
      rw [finish, if_neg Bool.false_ne_true, outcomeRecords, outcome?]
      dsimp only
      cases ha : assemble segments with
      | error reason => rfl
      | ok text =>
        rw [outcomeRecords, outcome?]
        dsimp only
        rw [if_pos rfl, ha]
        rfl

/-! ## Uses -/

/-- **One use** logs what it changes about the outcome. -/
theorem filter_useRecords (b : Builder) (u : Use) :
    b.outcomeRecords ++ (b.useRecords u).filter Record.tellsOutcome =
      (b.use u).builder.outcomeRecords := by
  cases u with
  | read r => exact List.append_nil _
  | finish =>
    rw [useRecords, Step.filter_records, builder_use_finish]
    exact outcome_finish b
  | operation o =>
    rw [useRecords, builder_use_operation]
    cases o with
    | argument d v =>
      rw [operationRecords, Step.filter_attemptRecords, operated_argument]
      exact outcome_bindWritten b (writeLiteral d v)
    | format format? =>
      rw [operationRecords, Step.filter_records]
      exact outcome_setFormat b format?
    | columns rows row => exact outcome_bindRow b rows row

/-- **Any uses** log what they change about the outcome. -/
theorem filter_log (b : Builder) (uses : List Use) :
    b.outcomeRecords ++ (b.log uses).filter Record.tellsOutcome =
      (b.useAll uses).outcomeRecords := by
  induction uses generalizing b with
  | nil => exact List.append_nil _
  | cons u rest ih =>
    rw [log, List.filter_append, ← List.append_assoc, filter_useRecords, ih]
    rfl

theorem outcomeRecords_ofSource (source : Source) : (ofSource source).outcomeRecords = [] := by
  rw [ofSource_eq]
  rfl

/-- All that a builder logs are its events and look-ups of columns that find none. -/
theorem mem_useRecords {b : Builder} {u : Use} {r : Record} (h : r ∈ b.useRecords u) :
    (∃ e : BuilderEvent, r = e.record) ∨ ∃ c, r = Rows.noColumnsRecord c := by
  cases u with
  | read _ => cases h
  | finish => exact .inl (Step.exists_event h)
  | operation o =>
    cases o with
    | argument d v => exact .inl (Step.exists_event_attempt h)
    | format format? => exact .inl (Step.exists_event h)
    | columns rows row =>
      rw [useRecords, operationRecords, RowStep.allRecords, bindRow] at h
      split at h
      · rcases List.mem_append.1 h with h | h
        · exact .inr (Rows.exists_noColumns h)
        · exact .inl (Step.exists_event_attempt h)
      · rw [List.nil_append] at h
        exact .inl (Step.exists_event_attempt h)

/-- A builder that has failed or has been finished logs nothing any more. -/
theorem useRecords_settled {b : Builder} (h : b.isFailed = true ∨ b.finished = true) (u : Use) :
    b.useRecords u = [] := by
  have ha : b.acceptsFields = false := by
    rw [acceptsFields]
    rcases h with h | h
    · rw [h, Bool.not_true, Bool.and_false]
    · rw [h, Bool.not_true, Bool.false_and]
  obtain ⟨state, finished⟩ := b
  have hs : finished = true ∨ finished = false ∧ ∃ message, state = .failed message := by
    cases finished with
    | true => exact .inl rfl
    | false =>
      rcases h with h | h
      · exact .inr ⟨rfl, isFailed_iff.1 h⟩
      · cases h
  cases u with
  | read r => rfl
  | finish => rcases hs with rfl | ⟨rfl, message, rfl⟩ <;> rfl
  | operation o =>
    cases o with
    | argument d v => rcases hs with rfl | ⟨rfl, message, rfl⟩ <;> rfl
    | format format? => rcases hs with rfl | ⟨rfl, message, rfl⟩ <;> rfl
    | columns rows row =>
      rw [useRecords, operationRecords, bindRow, ha, if_neg Bool.false_ne_true]
      rcases hs with rfl | ⟨rfl, message, rfl⟩ <;> rfl

theorem useAll_append (b : Builder) (uses uses' : List Use) :
    b.useAll (uses ++ uses') = (b.useAll uses).useAll uses' :=
  List.foldl_append

/-- A finished builder is the same after any uses. -/
theorem useAll_finished {b : Builder} (h : b.finished = true) (uses : List Use) :
    b.useAll uses = b := by
  induction uses with
  | nil => rfl
  | cons u rest ih =>
    rw [useAll, List.foldl_cons, builder_use_finished h]
    exact ih

/-- After an end of the work the builder is what that end has made of it. -/
theorem useAll_finish (b : Builder) (before later : List Use) :
    b.useAll (before ++ .finish :: later) = (b.useAll before).finish.builder := by
  have hf : ((b.useAll before).use .finish).builder.finished = true := by
    rw [finished_use, Use.isFinish, Bool.or_true]
  rw [useAll_append, ← builder_use_finish]
  exact useAll_finished hf later

/-! ## What has been logged -/

/-- What a new builder has logged of its outcome is the outcome that it has come to. -/
theorem filter_log_ofSource (source : Source) (uses : List Use) :
    ((ofSource source).log uses).filter Record.tellsOutcome =
      ((ofSource source).useAll uses).outcomeRecords := by
  have h := filter_log (ofSource source) uses
  rw [outcomeRecords_ofSource] at h
  exact h

/-- Work that goes on has no outcome yet. -/
theorem outcomeRecords_unsettled {b : Builder} (hf : b.isFailed = false) (h : b.finished = false) :
    b.outcomeRecords = [] := by
  obtain ⟨state, finished⟩ := b
  obtain rfl : finished = false := h
  cases state with
  | failed message => cases hf
  | inProgress segments format? => rfl

/-- A failed builder has its message for an outcome. -/
theorem outcomeRecords_of_isFailed {b : Builder} (hf : b.isFailed = true) :
    ∃ message, b.errorMessage? = some message ∧
      b.outcomeRecords = [(BuilderEvent.failed message).record] := by
  obtain ⟨message, hm⟩ := isFailed_iff.1 hf
  refine ⟨message, ?_, outcomeRecords_failed hm⟩
  rw [errorMessage?, hm]
  rfl

/-- A builder that has been finished and has not failed has told of the statement that it gave. -/
theorem outcomeRecords_of_finish {source : Source} {before later : List Use}
    (hb : Use.finish ∉ before)
    (hf : ((ofSource source).useAll (before ++ .finish :: later)).isFailed = false) :
    ∃ sql, (((ofSource source).useAll before).use .finish).result = .ok (.text sql) ∧
      ((ofSource source).useAll (before ++ .finish :: later)).outcomeRecords =
        [(BuilderEvent.finished sql
          ((ofSource source).useAll (before ++ .finish :: later)).format?).record] := by
  have hn : ((ofSource source).useAll before).finished = false :=
    Bool.eq_false_iff.2 (mt (finished_useAll_iff source before).1 hb)
  rw [useAll_finish] at hf ⊢
  rcases outcome?_finish hn with ⟨sql, hr, -, hs⟩ | ⟨message, -, hs⟩
  · refine ⟨sql, ?_, ?_⟩
    · rw [use, Used.ofStep, hr]
    · rw [outcomeRecords, hs]
      rfl
  · rw [hs] at hf
    cases hf

/-- **The outcome is logged once.** Among the records that any uses of a builder leave, at most one
tells how its work has come out, and there is one exactly when the builder has failed or has been
finished. It tells of a failure if and only if the builder has failed, with the error message; else
it tells how long the statement is that the end of the work gave, and the format in force. From then
on nothing more is logged at all. -/
theorem one_outcome (source : Source) (uses : List Use) :
    let b := (ofSource source).useAll uses
    let outcomes := ((ofSource source).log uses).filter Record.tellsOutcome
    outcomes.length ≤ 1 ∧
    (outcomes.length = 1 ↔ b.isFailed = true ∨ Use.finish ∈ uses) ∧
    (∀ r ∈ outcomes,
      (r.event? = some Record.failedEvent ↔ b.isFailed = true) ∧
      (b.isFailed = true →
        ∃ message, b.errorMessage? = some message ∧
          r.detail? "error".toList = some (.text message)) ∧
      (b.isFailed = false → r.event? = some Record.finishedEvent ∧
        ∀ before later, uses = before ++ .finish :: later → Use.finish ∉ before →
          ∃ sql, (((ofSource source).useAll before).use .finish).result = .ok (.text sql) ∧
            r.detail? "length".toList = some (.int sql.length) ∧
            r.detail? "output_format".toList = some (.ofText? b.format?))) ∧
    (b.isFailed = true ∨ Use.finish ∈ uses → ∀ u, b.useRecords u = []) := by
  intro b outcomes
  have ho : outcomes = b.outcomeRecords := filter_log_ofSource source uses
  have hfinished : b.finished = true ↔ Use.finish ∈ uses := finished_useAll_iff source uses
  refine ⟨ho ▸ b.length_outcomeRecords_le, ?_⟩
  -- three kinds of builders: failed ones, those finished with a statement, and all others
  cases hf : b.isFailed with
  | true =>
    obtain ⟨message, hm, h⟩ := outcomeRecords_of_isFailed hf
    rw [ho, h]
    refine ⟨by simp, ?_, fun _ => useRecords_settled (.inl hf)⟩
    intro r hr
    obtain rfl := List.mem_singleton.1 hr
    refine ⟨?_, ?_, ?_⟩
    · simp only [BuilderEvent.event?_failed]
    · exact fun _ => ⟨message, hm, rfl⟩
    · intro hn
      cases hn
  | false =>
    by_cases hm : Use.finish ∈ uses
    · have hd : ∀ before later, uses = before ++ .finish :: later → Use.finish ∉ before →
          ∃ sql, (((ofSource source).useAll before).use .finish).result = .ok (.text sql) ∧
            b.outcomeRecords = [(BuilderEvent.finished sql b.format?).record] := by
        rintro before later rfl hb
        exact outcomeRecords_of_finish hb hf
      obtain ⟨before, later, hu, hb⟩ := List.eq_append_cons_of_mem hm
      obtain ⟨sql, -, h⟩ := hd before later hu hb
      rw [ho, h]
      refine ⟨by simp [hm], ?_, fun _ => useRecords_settled (.inr (hfinished.2 hm))⟩
      intro r hr
      obtain rfl := List.mem_singleton.1 hr
      refine ⟨?_, ?_, ?_⟩
      · rw [BuilderEvent.event?_finished]
        simp only [Option.some.injEq, Record.finishedEvent_ne, Bool.false_eq_true]
      · intro hn
        cases hn
      · refine fun _ => ⟨rfl, fun before' later' hu' hb' => ?_⟩
        obtain ⟨sql', hs, h'⟩ := hd before' later' hu' hb'
        have hr : (BuilderEvent.finished sql b.format?).record =
            (BuilderEvent.finished sql' b.format?).record :=
          List.singleton_inj.1 (h.symm.trans h')
        exact ⟨sql', hs, by rw [hr]; rfl, rfl⟩
    · have hn : b.finished = false := Bool.eq_false_iff.2 (mt hfinished.1 hm)
      rw [ho, outcomeRecords_unsettled hf hn]
      refine ⟨by simp [hm], ?_, ?_⟩
      · intro r hr
        cases hr
      · rintro (h | h)
        · cases h
        · exact absurd h hm

/-! ## Two builders that are used on and on -/

/-- A statement that is finished twice, with an argument offered in between. -/
def finishedUses : List Use :=
  [.operation (.argument Writer.dispatcher (.int 5)), .operation (.format (some "CSV".toList)),
    .finish, .operation (.argument Writer.dispatcher (.int 6)), .finish]

/-- An argument too many, and what comes after it. -/
def failedUses : List Use :=
  [.operation (.argument Writer.dispatcher (.int 5)), .read .display,
    .operation (.argument Writer.dispatcher (.int 6)),
    .operation (.argument Writer.dispatcher (.int 7)), .finish]

/-- A statement of 19 characters in one run, an argument too many in another, and nothing after. -/
theorem one_outcome_used_on :
    let source : Source := .template "SELECT ?".toList
    let outcomes := fun uses => ((ofSource source).log uses).filter Record.tellsOutcome
    Use.finish ∈ finishedUses ∧ ((ofSource source).useAll finishedUses).isFailed = false ∧
    (outcomes finishedUses).length = 1 ∧
    (∀ r ∈ outcomes finishedUses, r.event? = some Record.finishedEvent ∧
      r.detail? "length".toList = some (.int 19)) ∧
    ((ofSource source).useAll failedUses).isFailed = true ∧
    (outcomes failedUses).length = 1 ∧
    (∀ r ∈ outcomes failedUses, r.event? = some Record.failedEvent ∧
      r.detail? "error".toList = some (.text (failureMessage surplusReason))) ∧
    ((ofSource source).useAll failedUses).useRecords .finish = [] := by
  intro source outcomes
  have hm : Use.finish ∈ finishedUses := by simp [finishedUses]
  have hn : ((ofSource source).useAll finishedUses).isFailed = false := rfl
  have hf : ((ofSource source).useAll failedUses).isFailed = true := rfl
  obtain ⟨-, done, told, -⟩ := one_outcome source finishedUses
  obtain ⟨-, done', told', silent⟩ := one_outcome source failedUses
  refine ⟨hm, hn, done.2 (.inr hm), ?_, hf, done'.2 (.inl hf), ?_, silent (.inl hf) .finish⟩
  · intro r hr
    obtain ⟨he, ends⟩ := (told r hr).2.2 hn
    obtain ⟨sql, hs, hl, -⟩ := ends (finishedUses.take 2) (finishedUses.drop 3) rfl
      (by simp [finishedUses])
    obtain rfl : "SELECT 5 FORMAT CSV".toList = sql := by
      cases hs
      rfl
    exact ⟨he, hl⟩
  · intro r hr
    obtain ⟨message, hm, he⟩ := (told' r hr).2.1 hf
    obtain rfl : failureMessage surplusReason = message := Option.some.inj hm
    exact ⟨(told' r hr).1.2 hf, he⟩

end Builder

end SqlTemplate
