import Mathlib.Data.List.Induction
import SqlTemplate.Proofs.Builder.Operation
import SqlTemplate.Proofs.Builder.Substitution

/-!
# Runs of a builder

A session is a builder together with what is remembered of row types. Calls change both, one after
another (`Session.run`). Whatever the calls and their order, what `finish` gives in the end is what
substitution at once gives for all that the calls offer (`run_refines_substitution`): the invariant
`Agrees` says how far the builder has come, and each call preserves it (`Agrees.call`). A call that
raises something offers nothing that counts.
-/

namespace SqlTemplate.Builder

/-- A call on a builder, with the registrations that are current then. -/
inductive Call where
  | argument (d : Dispatcher Writer) (v : Value)
  | columns (row : RowType)
  | format (format? : Option Text)

/-- A builder, and what is known and remembered of row types. -/
structure Session where
  builder : Builder
  rows : Rows

def Session.call (s : Session) : Call → Session
  | .argument d v => { s with builder := s.builder.attempt (s.builder.bind d v) }
  | .columns row =>
    let bound := s.builder.bindRow s.rows row
    ⟨s.builder.attempt bound.outcome, bound.rows⟩
  | .format format? => { s with builder := (s.builder.setFormat format?).builder }

def Session.run (s : Session) (calls : List Call) : Session := calls.foldl call s

/-- The session at the start: a builder around segments. -/
def Session.start (segments : List Segment) (rows : Rows) : Session :=
  ⟨⟨.inProgress segments none, false⟩, rows⟩

/-- What a call offers, and what is remembered of row types then. -/
def Call.offer (rows : Rows) : Call → Offer × Rows
  | argument d v => (.argument (writeLiteral d v).toExcept, rows)
  | columns row => (.columns (rows.joinedColumns row).result, (rows.joinedColumns row).rows)
  | format format? => (.format format?, rows)

/-- What several calls offer, look-ups being made in order, and what is remembered then. -/
def offers (rows : Rows) (calls : List Call) : List Offer × Rows :=
  calls.foldl (fun r call => (r.1 ++ [(call.offer r.2).1], (call.offer r.2).2)) ([], rows)

/-! ## The state after some offers -/

open Template (failure? firstFailure? filled statement)

/-- The state of a builder around segments after some offers. -/
def reached (segments : List Segment) (offers : List Offer) : BuilderState :=
  match firstFailure? segments [] offers with
  | some reason => .failed (failureMessage reason)
  | none => .inProgress (filled segments (Offer.arguments offers) (Offer.firstColumns? offers))
      (Offer.lastFormat? offers)

/-- A further offer fails only if none has failed before it. -/
theorem firstFailure?_snoc (segments : List Segment) (before offers : List Offer) (offer : Offer) :
    firstFailure? segments before (offers ++ [offer]) =
      (firstFailure? segments before offers).or (failure? segments (before ++ offers) offer) := by
  induction offers generalizing before with
  | nil => simp [firstFailure?]
  | cons o offers ih =>
    rw [List.cons_append, firstFailure?, ih, firstFailure?, Option.or_assoc, List.append_assoc]
    rfl

/-- A further offer comes behind the arguments before it. -/
theorem arguments_snoc (offers : List Offer) (offer : Offer) :
    Offer.arguments (offers ++ [offer]) = Offer.arguments offers ++ offer.argument?.toList := by
  rw [Offer.arguments, List.filterMap_append]
  cases h : offer.argument? <;> simp [Offer.arguments, h]

/-- Further columns count only if there have been none. -/
theorem firstColumns?_snoc (offers : List Offer) (offer : Offer) :
    Offer.firstColumns? (offers ++ [offer]) =
      (Offer.firstColumns? offers).or offer.columns? := by
  rw [Offer.firstColumns?, List.findSome?_append]
  cases h : offer.columns? <;> simp [Offer.firstColumns?, h]

/-- A further format replaces the last one. -/
theorem lastFormat?_snoc (offers : List Offer) (offer : Offer) :
    Offer.lastFormat? (offers ++ [offer]) =
      (offer.format?.getD (Offer.lastFormat? offers)) := by
  rw [Offer.lastFormat?, List.filterMap_append]
  cases h : offer.format? <;> simp [Offer.lastFormat?, h]

/-- After a failure nothing is reached any more. -/
theorem reached_failed {segments : List Segment} {offers : List Offer} {reason : Text}
    (h : firstFailure? segments [] offers = some reason) (offer : Offer) :
    reached segments (offers ++ [offer]) = .failed (failureMessage reason) := by
  rw [reached, firstFailure?_snoc, h]
  rfl

/-- An offer that does not fail is filled in behind the others. -/
theorem reached_snoc {segments : List Segment} {offers : List Offer}
    (h : firstFailure? segments [] offers = none) (offer : Offer) :
    reached segments (offers ++ [offer]) =
      match failure? segments offers offer with
      | some reason => .failed (failureMessage reason)
      | none => .inProgress (filled segments (Offer.arguments offers ++ offer.argument?.toList)
          ((Offer.firstColumns? offers).or offer.columns?))
          (offer.format?.getD (Offer.lastFormat? offers)) := by
  rw [reached, firstFailure?_snoc, h, Option.none_or, List.nil_append, arguments_snoc,
    firstColumns?_snoc, lastFormat?_snoc]

/-! ## One operation -/

/-- A builder that has come as far as the offers and has not been finished. -/
def after (segments : List Segment) (offers : List Offer) : Builder :=
  ⟨reached segments offers, false⟩

/-- After a failure the builder tells the reason. -/
theorem after_failed {segments : List Segment} {offers : List Offer} {reason : Text}
    (h : firstFailure? segments [] offers = some reason) :
    after segments offers = ⟨.failed (failureMessage reason), false⟩ := by
  rw [after, reached, h]

/-- Without a failure the builder holds the segments as far as they are filled. -/
theorem after_inProgress {segments : List Segment} {offers : List Offer}
    (h : firstFailure? segments [] offers = none) :
    after segments offers = ⟨.inProgress
      (filled segments (Offer.arguments offers) (Offer.firstColumns? offers))
      (Offer.lastFormat? offers), false⟩ := by
  rw [after, reached, h]

/-- What a failed builder is offered does not matter. -/
theorem after_snoc_failed {segments : List Segment} {offers : List Offer} {reason : Text}
    (h : firstFailure? segments [] offers = some reason) (offer : Offer) :
    after segments (offers ++ [offer]) = after segments offers := by
  rw [after_failed h, after, reached_failed h]

/-- Binding an argument is offering it. -/
theorem bindWritten_after (segments : List Segment) (offers : List Offer) (w : Written) :
    (after segments offers).attempt ((after segments offers).bindWritten w) =
      after segments (offers ++ [.argument w.toExcept]) := by
  cases h : firstFailure? segments [] offers with
  | some reason =>
    rw [after_snoc_failed h, after_failed h]
    rfl
  | none =>
    rw [after_inProgress h, after, reached_snoc h, bindWritten, if_neg Bool.false_ne_true]
    dsimp only [failure?]
    rw [Template.contains_argument_filled]
    by_cases hc : (Offer.arguments offers).length < segments.count .argument
    · rw [if_pos (decide_eq_true hc), if_neg (Nat.not_le.2 hc)]
      cases w.toExcept with
      | error fault =>
        dsimp only
        cases fault.message with
        | ok message => rfl
        | error cause =>
          simp [Except.map, attempt, Except.toOption, Offer.argument?, Offer.columns?,
            Offer.format?]
      | ok text =>
        dsimp only [keep, attempt]
        rw [Template.fillArgument?_filled text hc]
        simp [Offer.argument?, Offer.columns?, Offer.format?]
    · rw [if_neg (by simpa using hc), if_pos (Nat.not_lt.1 hc)]
      rfl

/-- Setting a format is offering it. -/
theorem setFormat_after (segments : List Segment) (offers : List Offer) (format? : Option Text) :
    ((after segments offers).setFormat format?).builder =
      after segments (offers ++ [.format format?]) := by
  cases h : firstFailure? segments [] offers with
  | some reason =>
    rw [after_snoc_failed h, after_failed h]
    rfl
  | none =>
    rw [after_inProgress h, after, reached_snoc h]
    simp [setFormat, keep, failure?, Offer.argument?, Offer.columns?, Offer.format?]

/-- Binding columns is offering them. -/
theorem bindFields_after (segments : List Segment) (offers : List Offer)
    (columns? : Option Text) : ((after segments offers).bindFields columns?).builder =
      after segments (offers ++ [.columns (.ok columns?)]) := by
  cases h : firstFailure? segments [] offers with
  | some reason =>
    rw [after_snoc_failed h, after_failed h]
    rfl
  | none =>
    rw [after_inProgress h, after, reached_snoc h, bindFields, if_neg Bool.false_ne_true]
    cases columns? with
    | some text =>
      simp [keep, failure?, Template.fillFields_filled, Offer.argument?, Offer.columns?,
        Offer.format?]
    | none =>
      dsimp only [failure?]
      rw [Template.contains_fields_filled]
      by_cases hc : (segments.contains .fields && (Offer.firstColumns? offers).isNone) = true
      · rw [if_pos hc, if_pos hc]
        rfl
      · rw [if_neg hc, if_neg hc]
        simp [keep, Offer.argument?, Offer.columns?, Offer.format?]

/-- A look-up that fails offers nothing. -/
theorem after_fault (segments : List Segment) (offers : List Offer) (fault : RowFault) :
    after segments (offers ++ [.columns (.error fault)]) = after segments offers := by
  cases h : firstFailure? segments [] offers with
  | some reason => exact after_snoc_failed h _
  | none =>
    rw [after_inProgress h, after, reached_snoc h]
    simp [failure?, Offer.argument?, Offer.columns?, Offer.format?]

/-- Columns are looked up until something has failed. -/
theorem acceptsFields_after (segments : List Segment) (offers : List Offer) :
    (after segments offers).acceptsFields = (firstFailure? segments [] offers).isNone := by
  cases h : firstFailure? segments [] offers with
  | some reason => rw [after_failed h]; rfl
  | none => rw [after_inProgress h]; rfl

/-- After a failure a binding of columns does nothing, and looks nothing up. -/
theorem bindRow_failed {segments : List Segment} {offers : List Offer} {reason : Text}
    (h : firstFailure? segments [] offers = some reason) (rows : Rows) (row : RowType) :
    (after segments offers).bindRow rows row = ⟨.ok (after segments offers).keep, rows, []⟩ := by
  rw [bindRow, acceptsFields_after, h, after_failed h]
  rfl

/-- Before one it looks the columns up and binds what it finds. -/
theorem bindRow_inProgress {segments : List Segment} {offers : List Offer}
    (h : firstFailure? segments [] offers = none) (rows : Rows) (row : RowType) :
    (after segments offers).bindRow rows row =
      ⟨(rows.joinedColumns row).result.map (after segments offers).bindFields,
        (rows.joinedColumns row).rows, (rows.joinedColumns row).records⟩ := by
  rw [bindRow, acceptsFields_after, h]
  rfl

/-! ## Runs -/

/-- The session has come as far as the calls offered. As long as the builder has not failed, the
session also remembers of row types what the look-ups for all calls left behind; a failed builder
makes no look-ups. -/
structure Session.Agrees (segments : List Segment) (r : List Offer × Rows) (s : Session) : Prop where
  builder : s.builder = after segments r.1
  rows : firstFailure? segments [] r.1 = none → s.rows = r.2

theorem Session.Agrees.columns {segments : List Segment} {r : List Offer × Rows} {s : Session}
    (h : s.Agrees segments r) (row : RowType) : (s.call (.columns row)).Agrees segments
      (r.1 ++ [.columns (r.2.joinedColumns row).result], (r.2.joinedColumns row).rows) := by
  rw [Session.call, h.builder]
  cases hf : firstFailure? segments [] r.1 with
  | some reason =>
    -- the session makes no look-up, but the one that the offers account for does not matter
    rw [bindRow_failed hf]
    refine ⟨(after_snoc_failed hf _).symm, fun hn => ?_⟩
    rw [firstFailure?_snoc, hf] at hn
    cases hn
  | none =>
    rw [h.rows hf, bindRow_inProgress hf]
    cases hr : (r.2.joinedColumns row).result with
    | ok columns? => exact ⟨bindFields_after segments r.1 columns?, fun _ => rfl⟩
    | error fault => exact ⟨(after_fault segments r.1 fault).symm, fun _ => rfl⟩

/-- **One call** takes the builder from what was offered to what is offered with it. -/
theorem Session.Agrees.call {segments : List Segment} {r : List Offer × Rows} {s : Session}
    (h : s.Agrees segments r) (call : Call) :
    (s.call call).Agrees segments (r.1 ++ [(call.offer r.2).1], (call.offer r.2).2) := by
  have hn : ∀ offer, firstFailure? segments [] (r.1 ++ [offer]) = none → s.rows = r.2 := by
    intro offer hf
    rw [firstFailure?_snoc] at hf
    exact h.rows (Option.or_eq_none_iff.1 hf).1
  cases call with
  | argument d v =>
    refine ⟨?_, hn _⟩
    rw [Session.call, h.builder]
    exact bindWritten_after segments r.1 (writeLiteral d v)
  | format format? =>
    refine ⟨?_, hn _⟩
    rw [Session.call, h.builder]
    exact setFormat_after segments r.1 format?
  | columns row => exact h.columns row

/-- In the beginning nothing has been offered. -/
theorem agrees_start (segments : List Segment) (rows : Rows) :
    (Session.start segments rows).Agrees segments ([], rows) := by
  refine ⟨?_, fun _ => rfl⟩
  rw [after_inProgress rfl]
  simp [Session.start, Template.filled_none, Offer.arguments, Offer.firstColumns?,
    Offer.lastFormat?]

theorem offers_snoc (rows : Rows) (calls : List Call) (call : Call) :
    offers rows (calls ++ [call]) =
      ((offers rows calls).1 ++ [(call.offer (offers rows calls).2).1],
        (call.offer (offers rows calls).2).2) := by
  rw [offers, List.foldl_append]
  rfl

theorem run_snoc (s : Session) (calls : List Call) (call : Call) :
    s.run (calls ++ [call]) = (s.run calls).call call := by
  rw [Session.run, List.foldl_append]
  rfl

/-- **Any number of calls** take the builder to what they offer. -/
theorem run_agrees (segments : List Segment) (rows : Rows) (calls : List Call) :
    ((Session.start segments rows).run calls).Agrees segments (offers rows calls) := by
  induction calls using List.reverseRecOn with
  | nil => exact agrees_start segments rows
  | append_singleton calls call ih =>
    rw [run_snoc, offers_snoc]
    exact ih.call call

/-- A run leaves the builder that its offers make. -/
theorem run_builder (segments : List Segment) (rows : Rows) (calls : List Call) :
    ((Session.start segments rows).run calls).builder = after segments (offers rows calls).1 :=
  (run_agrees segments rows calls).builder

/-! ## Messages and statements -/

/-- The message of the builder is that of the first offer that failed. -/
theorem errorMessage?_after (segments : List Segment) (offers : List Offer) :
    (after segments offers).errorMessage? =
      (firstFailure? segments [] offers).map failureMessage := by
  cases h : firstFailure? segments [] offers with
  | some reason => rw [after_failed h]; rfl
  | none => rw [after_inProgress h]; rfl

/-- The message after one more call is the earlier one or else that of this call. -/
theorem errorMessage?_run_snoc (segments : List Segment) (rows : Rows) (calls : List Call)
    (call : Call) : ((Session.start segments rows).run (calls ++ [call])).builder.errorMessage? =
      ((Session.start segments rows).run calls).builder.errorMessage?.or
        ((failure? segments (offers rows calls).1 (call.offer (offers rows calls).2).1).map
          failureMessage) := by
  rw [run_builder, run_builder, errorMessage?_after, errorMessage?_after, offers_snoc,
    firstFailure?_snoc, Option.map_or]
  rfl

/-- The end of a run gives the statement that its offers make. -/
theorem finish_after (segments : List Segment) (offers : List Offer) :
    (after segments offers).finish.result = statement segments offers := by
  unfold statement
  cases h : firstFailure? segments [] offers with
  | some reason => rw [after_failed h]; rfl
  | none =>
    rw [after_inProgress h, finish, if_neg Bool.false_ne_true]
    dsimp only
    rw [Template.assemble_filled]
    cases Template.substituted segments (Offer.arguments offers) (Offer.firstColumns? offers) with
    | error reason => rfl
    | ok text => rfl

/-- A builder waits for an argument as long as nothing has failed and fewer arguments have been
offered than there are slots. -/
theorem awaitsArgument_after (segments : List Segment) (offers : List Offer) :
    (after segments offers).AwaitsArgument ↔
      (after segments offers).errorMessage? = none ∧
        (Offer.arguments offers).length < segments.count .argument := by
  rw [errorMessage?_after, Option.map_eq_none_iff]
  cases h : firstFailure? segments [] offers with
  | some reason =>
    rw [after_failed h]
    constructor
    · rintro ⟨-, segments', format?, hs, -⟩
      cases hs
    · rintro ⟨hn, -⟩
      cases hn
  | none =>
    rw [after_inProgress h, ← decide_eq_true_iff (p := _ < _),
      ← Template.contains_argument_filled segments _ (Offer.firstColumns? offers),
      List.contains_iff_mem]
    constructor
    · rintro ⟨-, segments', format?, hs, ha⟩
      obtain ⟨rfl, rfl⟩ := BuilderState.inProgress.inj hs
      exact ⟨rfl, ha⟩
    · rintro ⟨-, ha⟩
      exact ⟨rfl, _, _, rfl, ha⟩

/-- **A run of a builder is a substitution**: whatever calls are made on a builder for a template,
each is the first to fail exactly where what it offers cannot be taken, with the message for that,
and the end of the run gives the statement that is made at once of the segments and all offers. A
call that binds an argument raises something itself only if there has been no failure, a slot is
left, and the fault of the argument has no message to tell; then it changes nothing. -/
theorem run_refines_substitution (template : Text) (rows : Rows) (calls : List Call) :
    let run := (Session.mk (.ofTemplate template) rows).run
    let segments := Template.parse template
    (∀ call, (run (calls ++ [call])).builder.errorMessage? =
      (run calls).builder.errorMessage?.or
        ((failure? segments (offers rows calls).1 (call.offer (offers rows calls).2).1).map
          failureMessage)) ∧
    (run calls).builder.finish.result = statement segments (offers rows calls).1 ∧
    ∀ d v cause, ((run calls).builder.bind d v = .error cause ↔
      (run calls).builder.errorMessage? = none ∧
        (Offer.arguments (offers rows calls).1).length < segments.count .argument ∧
        ∃ fault, (writeLiteral d v).toExcept = .error fault ∧ fault.message = .error cause) ∧
      ((run calls).builder.bind d v = .error cause →
        (run (calls ++ [.argument d v])).builder = (run calls).builder) := by
  intro run segments
  have hb : (run calls).builder = after segments (offers rows calls).1 :=
    run_builder segments rows calls
  refine ⟨errorMessage?_run_snoc segments rows calls, ?_, ?_⟩
  · rw [hb, finish_after]
  · intro d v cause
    constructor
    · rw [bind, bindWritten_eq_error_iff, hb, awaitsArgument_after, and_assoc]
    · intro he
      have hs : run (calls ++ [.argument d v]) = (run calls).call (.argument d v) := run_snoc _ _ _
      rw [hs, Session.call, he]
      rfl

/-- A value that cannot be written and cannot say why is passed over: of the only argument that was
bound the end of the work says that it is missing. -/
theorem run_speechless :
    let run := (Session.mk (.ofTemplate "SELECT ?".toList) .empty).run
    let calls : List Call := [.argument Writer.dispatcher speechless]
    (∃ fault, (writeLiteral Writer.dispatcher speechless).toExcept = .error fault) ∧
    (run calls).builder.isFailed = false ∧
    (run calls).builder.finish.result = .error (invalid (failureMessage unboundArgumentReason)) ∧
    ∀ fault message, (run calls).builder.finish.result ≠
      .error (invalid (failureMessage (argumentReason fault message))) := by
  intro run calls
  have kept : (run calls).builder = ofTemplate "SELECT ?".toList := by
    have raised : (ofTemplate "SELECT ?".toList).bind Writer.dispatcher speechless =
        .error speechlessCause :=
      bindWritten_eq_error_iff.2 ⟨awaitsArgument_template, writeLiteral_speechless⟩
    have hs : run calls = (Session.mk (.ofTemplate "SELECT ?".toList) .empty).call
        (.argument Writer.dispatcher speechless) := rfl
    rw [hs, Session.call, raised]
    rfl
  obtain ⟨fault, written, -⟩ := writeLiteral_speechless
  have unbound : (ofTemplate "SELECT ?".toList).finish.result =
      .error (invalid (failureMessage unboundArgumentReason)) := rfl
  rw [kept]
  refine ⟨⟨fault, written⟩, rfl, unbound, ?_⟩
  intro fault message he
  rw [unbound] at he
  have hd : failureMessage unboundArgumentReason =
      failureMessage (argumentReason fault message) :=
    congrArg Failure.detail (Except.error.inj he)
  have hr : unboundArgumentReason = argumentReason fault message := List.append_cancel_left hd
  -- the two reasons begin with different letters
  have hh : some 'u' = some 'i' := congrArg List.head? hr
  cases hh

end SqlTemplate.Builder
