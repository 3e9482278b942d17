import SqlTemplate.Builder
import SqlTemplate.Raising

/-!
# Operations on a builder

What the operations that bind or set something have in common (`operate`), told by the two things
that decide it: whether the builder has been finished, and whether it has failed. A finished builder
refuses each of them, a failed one ignores it, and any other stays unfinished and lets it succeed.
There are two exceptions, and either leaves the builder as it was (`attempt`): columns may be looked
up in vain, and an argument may be at fault without a message to tell (`Untellable`).
The end of the work (`finish`) is refused by a finished builder too; any other gives a statement, or
is failed from then on (`finish_cases`).
-/

namespace SqlTemplate

/-- What a builder is made of: a template, or SQL that is taken as it is. -/
inductive Source where
  | template (text : Text)
  | raw (sql : Text)

def Source.segments : Source → List Segment
  | template text => Template.parse text
  | raw sql => [.literal sql]

namespace Builder

def ofSource : Source → Builder
  | .template text => .ofTemplate text
  | .raw sql => .raw sql

/-- A new builder, from whatever source, has all its segments still to fill. -/
theorem ofSource_eq (source : Source) :
    ofSource source = ⟨.inProgress source.segments none, false⟩ := by
  cases source <;> rfl

/-- An operation that binds or sets something, with what is current then: the registrations, or what
is known and remembered of row types. -/
inductive Operation where
  | argument (d : Dispatcher Writer) (v : Value)
  | columns (rows : Rows) (row : RowType)
  | format (format? : Option Text)

/-- What keeps an operation from making a step. -/
inductive OperationFault where
  /-- A look-up of columns is at fault. -/
  | columns (fault : RowFault)
  /-- An argument is at fault, and its fault raises `cause` instead of telling a message. -/
  | argument (cause : Fault)

/-- The step of an operation, or what keeps it from making one. -/
def operate (b : Builder) : Operation → Except OperationFault (Step Unit)
  | .argument d v => (b.bind d v).mapError .argument
  | .columns rows row => (b.bindRow rows row).outcome.mapError .columns
  | .format format? => .ok (b.setFormat format?)

/-- The builder after an attempt to make a step. If it is not made the builder is as it was. -/
def attempt {ε : Type} (b : Builder) : Except ε (Step Unit) → Builder
  | .ok step => step.builder
  | .error _ => b

/-- The builder after an operation. -/
def operated (b : Builder) (o : Operation) : Builder := b.attempt (b.operate o)

def operateAll (b : Builder) (operations : List Operation) : Builder := operations.foldl operated b

/-- No look-up of columns is at fault. -/
def Operation.LooksUp : Operation → Prop
  | .columns rows row => ∃ text?, (rows.joinedColumns row).result = .ok text?
  | _ => True

/-- The builder is neither finished nor failed and has a slot left for an argument. -/
def AwaitsArgument (b : Builder) : Prop :=
  b.finished = false ∧
    ∃ segments format?, b.state = .inProgress segments format? ∧ .argument ∈ segments

/-- The operation binds an argument that is waited for and cannot be written, and the fault raises
`cause` instead of telling a message. -/
def Untellable (b : Builder) (cause : Fault) : Operation → Prop
  | .argument d v => b.AwaitsArgument ∧
      ∃ fault, (writeLiteral d v).toExcept = .error fault ∧ fault.message = .error cause
  | _ => False

/-- What a finished builder is refused with. -/
def consumed : Failure := .saying .builderConsumed FailureKind.builderConsumed.defaultMessage

/-! ## Failed builders -/

theorem isFailed_iff {b : Builder} : b.isFailed = true ↔ ∃ message, b.state = .failed message := by
  unfold isFailed
  cases b.state with
  | inProgress segments format? => simp [BuilderState.message?]
  | failed message => simp [BuilderState.message?]

theorem isFailed_congr {b b' : Builder} (h : b.state = b'.state) : b.isFailed = b'.isFailed := by
  rw [isFailed, isFailed, h]

/-! ## Attempts -/

/-- What the error is called does not matter for what becomes of the builder. -/
theorem attempt_mapError {ε ε' : Type} (b : Builder) (f : ε → ε') (made : Except ε (Step Unit)) :
    b.attempt (made.mapError f) = b.attempt made := by
  cases made <;> rfl

theorem operated_argument (b : Builder) (d : Dispatcher Writer) (v : Value) :
    b.operated (.argument d v) = b.attempt (b.bind d v) :=
  attempt_mapError b OperationFault.argument (b.bind d v)

theorem operated_columns (b : Builder) (rows : Rows) (row : RowType) :
    b.operated (.columns rows row) = b.attempt (b.bindRow rows row).outcome :=
  attempt_mapError b OperationFault.columns (b.bindRow rows row).outcome

/-! ## Single operations -/

/-- A finished builder refuses arguments. -/
theorem bindWritten_finished {b : Builder} (h : b.finished = true) (w : Written) :
    b.bindWritten w = .ok b.refuse := by
  rw [bindWritten, if_pos h]

/-- A failed builder ignores them. -/
theorem bindWritten_failed {b : Builder} (h : b.finished = false) (hf : b.isFailed = true)
    (w : Written) : b.bindWritten w = .ok b.keep := by
  obtain ⟨message, hs⟩ := isFailed_iff.1 hf
  rw [bindWritten, if_neg (ne_true_of_eq_false h), hs]

/-- A finished builder refuses every operation. -/
theorem operate_finished {b : Builder} (h : b.finished = true) (o : Operation) :
    b.operate o = .ok b.refuse := by
  cases o with
  | argument d v =>
    rw [operate, bind, bindWritten_finished h]
    rfl
  | columns rows row =>
    have ha : b.acceptsFields = false := by rw [acceptsFields, h]; rfl
    rw [operate, bindRow, ha, if_neg Bool.false_ne_true, bindFields, if_pos h]
    rfl
  | format format? => rw [operate, setFormat, if_pos h]

/-- A failed builder ignores every operation. -/
theorem operate_failed {b : Builder} (h : b.finished = false) (hf : b.isFailed = true)
    (o : Operation) : b.operate o = .ok b.keep := by
  obtain ⟨message, hs⟩ := isFailed_iff.1 hf
  have hn : ¬ b.finished = true := ne_true_of_eq_false h
  cases o with
  | argument d v =>
    rw [operate, bind, bindWritten_failed h hf]
    rfl
  | columns rows row =>
    have ha : b.acceptsFields = false := by rw [acceptsFields, hf, Bool.not_true, Bool.and_false]
    rw [operate, bindRow, ha, if_neg Bool.false_ne_true, bindFields, if_neg hn, hs]
    rfl
  | format format? => rw [operate, setFormat, if_neg hn, hs]

/-- Setting a format neither raises anything nor finishes the builder. -/
theorem setFormat_unfinished {b : Builder} (h : b.finished = false) (format? : Option Text) :
    (b.setFormat format?).result = .ok () ∧ (b.setFormat format?).builder.finished = false := by
  unfold setFormat
  rw [if_neg (ne_true_of_eq_false h)]
  split
  · exact ⟨rfl, h⟩
  · exact ⟨rfl, h⟩

/-- An unfinished builder takes an argument and stays unfinished, unless it waits for one and the
argument has a fault that cannot be told. -/
theorem bindWritten_unfinished {b : Builder} (h : b.finished = false) (w : Written) :
    (∃ step, b.bindWritten w = .ok step ∧ step.result = .ok () ∧ step.builder.finished = false) ∨
      ∃ fault cause, b.bindWritten w = .error cause ∧ b.AwaitsArgument ∧
        w.toExcept = .error fault ∧ fault.message = .error cause := by
  unfold bindWritten
  rw [if_neg (ne_true_of_eq_false h)]
  cases hs : b.state with
  | failed message => exact .inl ⟨_, rfl, rfl, h⟩
  | inProgress segments format? =>
    dsimp only
    by_cases ha : segments.contains .argument = true
    · rw [if_pos ha]
      cases w.toExcept with
      | ok text => exact .inl ⟨_, rfl, rfl, h⟩
      | error fault =>
        dsimp only
        cases hm : fault.message with
        | ok message => exact .inl ⟨_, rfl, rfl, h⟩
        | error cause =>
          have hb : b.AwaitsArgument := ⟨h, segments, format?, hs, List.contains_iff_mem.1 ha⟩
          exact .inr ⟨fault, cause, rfl, hb, rfl, hm⟩
    · rw [if_neg ha]
      exact .inl ⟨_, rfl, rfl, h⟩

/-- A fault without a message comes out of the binding itself. -/
theorem bindWritten_untold {b : Builder} (h : b.AwaitsArgument) {w : Written} {fault cause : Fault}
    (hw : w.toExcept = .error fault) (hm : fault.message = .error cause) :
    b.bindWritten w = .error cause := by
  obtain ⟨hf, segments, format?, hs, ha⟩ := h
  rw [bindWritten, if_neg (ne_true_of_eq_false hf), hs]
  dsimp only
  rw [if_pos (List.contains_iff_mem.2 ha), hw]
  dsimp only
  rw [hm]
  rfl

/-- Binding an argument raises something exactly where the fault of the argument is waited for and
cannot be told. -/
theorem bindWritten_eq_error_iff {b : Builder} {w : Written} {cause : Fault} :
    b.bindWritten w = .error cause ↔
      b.AwaitsArgument ∧ ∃ fault, w.toExcept = .error fault ∧ fault.message = .error cause := by
  constructor
  · intro he
    cases hf : b.finished with
    | true =>
      rw [bindWritten_finished hf] at he
      cases he
    | false =>
      rcases bindWritten_unfinished hf w with ⟨step, hs, -⟩ | ⟨fault, cause', hs, ha, hw, hm⟩
      · rw [hs] at he
        cases he
      · obtain rfl : cause' = cause := Except.error.inj (hs.symm.trans he)
        exact ⟨ha, fault, hw, hm⟩
  · rintro ⟨ha, fault, hw, hm⟩
    exact bindWritten_untold ha hw hm

/-- Binding columns neither raises anything nor finishes the builder. -/
theorem bindFields_unfinished {b : Builder} (h : b.finished = false) (columns? : Option Text) :
    (b.bindFields columns?).result = .ok () ∧ (b.bindFields columns?).builder.finished = false := by
  unfold bindFields
  rw [if_neg (ne_true_of_eq_false h)]
  split
  · exact ⟨rfl, h⟩
  · split
    · exact ⟨rfl, h⟩
    · split
      · exact ⟨rfl, h⟩
      · exact ⟨rfl, h⟩

/-- An operation that cannot be told of raises what asking for the message comes to. -/
theorem operate_untellable {b : Builder} {cause : Fault} {o : Operation}
    (h : b.Untellable cause o) : b.operate o = .error (.argument cause) := by
  cases o with
  | argument d v =>
    rw [operate, bind, bindWritten_eq_error_iff.2 h]
    rfl
  | columns rows row => exact absurd h not_false
  | format format? => exact absurd h not_false

/-- An unfinished builder takes an operation and stays unfinished, unless a look-up is at fault or
the fault of an argument cannot be told. -/
theorem operate_unfinished {b : Builder} (h : b.finished = false) (o : Operation) :
    (∃ step, b.operate o = .ok step ∧ step.result = .ok () ∧ step.builder.finished = false) ∨
      (∃ fault, b.operate o = .error fault ∧ (¬ o.LooksUp ∨ ∃ cause, b.Untellable cause o)) := by
  cases o with
  | format format? => exact .inl ⟨_, rfl, setFormat_unfinished h format?⟩
  | argument d v =>
    rw [operate, bind]
    rcases bindWritten_unfinished h (writeLiteral d v) with ⟨step, hs, hr⟩ |
        ⟨fault, cause, hs, ha, hw, hm⟩
    · rw [hs]
      exact .inl ⟨step, rfl, hr⟩
    · rw [hs]
      exact .inr ⟨_, rfl, .inr ⟨cause, ha, fault, hw, hm⟩⟩
  | columns rows row =>
    rw [operate, bindRow]
    by_cases ha : b.acceptsFields = true
    · rw [if_pos ha]
      dsimp only
      cases hr : (rows.joinedColumns row).result with
      | ok columns? => exact .inl ⟨_, rfl, bindFields_unfinished h columns?⟩
      | error fault =>
        refine .inr ⟨_, rfl, .inl ?_⟩
        rintro ⟨text?, ht⟩
        rw [hr] at ht
        cases ht
    · rw [if_neg ha]
      exact .inl ⟨_, rfl, bindFields_unfinished h none⟩

/-! ## Several operations -/

theorem operateAll_append (b : Builder) (operations operations' : List Operation) :
    b.operateAll (operations ++ operations') =
      (b.operateAll operations).operateAll operations' :=
  List.foldl_append

/-- No operation finishes a builder. -/
theorem finished_operated {b : Builder} (h : b.finished = false) (o : Operation) :
    (b.operated o).finished = false := by
  unfold operated
  rcases operate_unfinished h o with ⟨step, hs, -, hf⟩ | ⟨fault, he, -⟩
  · rw [hs]
    exact hf
  · rw [he]
    exact h

/-- Nor do several of them. -/
theorem finished_operateAll {b : Builder} (h : b.finished = false) (operations : List Operation) :
    (b.operateAll operations).finished = false := by
  induction operations generalizing b with
  | nil => exact h
  | cons o rest ih => exact ih (finished_operated h o)

theorem finished_ofSource (source : Source) : (ofSource source).finished = false := by
  cases source <;> rfl

/-! ## The end -/

theorem finish_finished {b : Builder} (h : b.finished = true) : b.finish = b.refuse := by
  rw [finish, if_pos h]

/-- The end of an unfinished builder: a statement, and no failure; or a failure, its message raised
and kept. -/
theorem finish_cases {b : Builder} (h : b.finished = false) :
    (∃ sql, b.finish.result = .ok sql ∧ b.isFailed = false ∧
      b.finish.builder = ⟨b.state, true⟩) ∨
    (∃ message, b.finish.result = .error (invalid message) ∧
      b.finish.builder = ⟨.failed message, true⟩ ∧
      (b.isFailed = true → b.state = .failed message)) := by
  obtain ⟨state, finished⟩ := b
  obtain rfl : finished = false := h
  unfold finish
  rw [if_neg Bool.false_ne_true]
  cases state with
  | failed message => exact .inr ⟨message, rfl, rfl, fun _ => rfl⟩
  | inProgress segments format? =>
    cases ha : assemble segments with
    | error reason =>
      dsimp only
      rw [ha]
      exact .inr ⟨_, rfl, rfl, fun hf => by cases hf⟩
    | ok text =>
      dsimp only
      rw [ha]
      exact .inl ⟨_, rfl, rfl, rfl⟩

/-! ## A fault that cannot be told -/

/-- A value that raises, instead of writing itself, a failure to serialize whose message is to be a
number. -/
def speechless : Value :=
  .selfWriting (.mk (.fresh 0) "Speechless".toList [Class.object])
    [.raise (.raised "SerializationError".toList [.int 5])] .null .null

/-- What comes of asking that failure for its message. -/
def speechlessCause : Fault :=
  .foreign "TypeError".toList "sequence item 0: expected str instance, int found".toList

/-- Writing this value raises an error that has no message. -/
theorem writeLiteral_speechless :
    ∃ fault, (writeLiteral Writer.dispatcher speechless).toExcept = .error fault ∧
      fault.message = .error speechlessCause :=
  ⟨.raised "SerializationError".toList [.int 5], rfl, rfl⟩

theorem awaitsArgument_template : (ofTemplate "SELECT ?".toList).AwaitsArgument :=
  ⟨rfl, [.literal "SELECT ".toList, .argument], none, rfl, by simp⟩

end Builder

end SqlTemplate
