import SqlTemplate.Proofs.Builder.Reason
import SqlTemplate.Proofs.Query.Facade
import SqlTemplate.Proofs.Text.Blank

/-!
# What is raised and what is shown

Where the end of the work raises a failure, its message is the text that the builder shows from then
on, stripped of blanks (`Reported`). The two differ exactly where the text ends with a blank, and it
does only for an argument whose fault has an empty message or one that ends with a blank itself
(`blankAtEnd_argument`): all other reasons are fixed, and so is the beginning. A query raises and
shows what its builder does (`message_reported`).
-/

namespace SqlTemplate

namespace Builder

/-- Some argument among the operations cannot be written, for a fault that tells a message which is
empty or ends with a blank, and this is what is shown. -/
def ShowsBlankEnd (operations : List Operation) (shown : Text) : Prop :=
  ∃ d v fault message, Operation.argument d v ∈ operations ∧
    (writeLiteral d v).toExcept = .error fault ∧ fault.message = .ok message ∧
    shown = failureMessage (argumentReason fault message) ∧ Text.BlankAtEnd message

/-- The failure carries the text that is shown, and its message is that text stripped, which makes a
difference for a fault with a blank at its end only. -/
structure Reported (operations : List Operation) (f : Failure) (shown : Text) : Prop where
  raised : f = invalid shown
  message : f.message = Text.strip shown
  differs_iff : f.message ≠ shown ↔ ShowsBlankEnd operations shown

/-! ## Where messages end -/

/-- The message of a query that cannot be rendered is what it shows, without blanks at its ends. -/
theorem message_invalid (shown : Text) : (invalid shown).message = Text.strip shown := by
  change Text.strip (List.intercalate [' '] [shown]) = Text.strip shown
  simp [List.intercalate]

/-- A message loses something at its ends exactly if it ends in a blank. -/
theorem strip_failureMessage_iff (reason : Text) :
    Text.strip (failureMessage reason) ≠ failureMessage reason ↔
      Text.BlankAtEnd (failureMessage reason) :=
  Text.strip_ne_self_iff (by decide) _

/-- What stands before the message of a fault ends with a blank itself. -/
theorem blankAtEnd_argument (fault : Fault) (message : Text) :
    Text.BlankAtEnd (failureMessage (argumentReason fault message)) ↔
      Text.BlankAtEnd message := by
  have hp : Text.BlankAtEnd "invalid SQL: ".toList := by decide
  have ha : Text.BlankAtEnd "invalid argument: ".toList := by decide
  have hc : Text.BlankAtEnd (fault.kindName ++ ": ".toList) :=
    (Text.blankAtEnd_append_of_ne_nil _ (by decide)).2 (by decide)
  refine (Text.blankAtEnd_append hp _).trans ((Text.blankAtEnd_append ha _).trans ?_)
  cases fault.isSerialization with
  | true => rw [if_pos rfl]
  | false =>
    rw [if_neg Bool.false_ne_true]
    exact Text.blankAtEnd_append hc _

/-- A text that is shown for a reason of one of the operations ends with a blank only where the
reason is an argument that cannot be written. -/
theorem Operation.Fails.showsBlankEnd {operations : List Operation} {o : Operation} {reason : Text}
    (hm : o ∈ operations) (hr : o.Fails reason)
    (hb : Text.BlankAtEnd (failureMessage reason)) :
    ShowsBlankEnd operations (failureMessage reason) := by
  cases hr with
  | surplus d v => exact absurd hb (by decide)
  | columns rows row => exact absurd hb (by decide)
  | argument hw ht => exact ⟨_, _, _, _, hm, hw, ht, rfl, (blankAtEnd_argument _ _).1 hb⟩

theorem reported {operations : List Operation} {reason : Text}
    (h : Text.BlankAtEnd (failureMessage reason) →
      ShowsBlankEnd operations (failureMessage reason)) :
    Reported operations (invalid (failureMessage reason)) (failureMessage reason) := by
  refine ⟨rfl, message_invalid _, ?_⟩
  rw [message_invalid, strip_failureMessage_iff]
  refine ⟨h, ?_⟩
  rintro ⟨d, v, fault, message, -, -, -, hs, hb⟩
  rw [hs]
  exact (blankAtEnd_argument fault message).2 hb

/-! ## The end of the work -/

/-- **The end of the work** on a builder that operations were made on raises what it shows then. -/
theorem finish_reported (source : Source) {operations : List Operation} {f : Failure}
    (h : ((ofSource source).operateAll operations).finish.result = .error f) :
    ∃ shown, ((ofSource source).operateAll operations).finish.builder = ⟨.failed shown, true⟩ ∧
      Reported operations f shown := by
  have hs := finished_ofSource source
  obtain ⟨message, rfl, hb, hm⟩ := finish_error (finished_operateAll hs operations) h
  refine ⟨message, hb, ?_⟩
  rcases hm with hm | rfl | rfl
  · rcases operateAll_failed hs hm with h₀ | ⟨o, ho, reason, hr, rfl⟩
    · rw [ofSource_eq] at h₀
      cases h₀
    · exact reported (hr.showsBlankEnd ho)
  · exact reported fun hb => absurd hb (by decide)
  · exact reported fun hb => absurd hb (by decide)

end Builder

namespace Query

open Builder (Operation Reported)

/-- A failure that is told is the result. -/
theorem told_eq_error {result : Except Failure Text} {f : Failure}
    (h : Used.told result = .error (.builder (.failure f))) : result = .error f := by
  cases result with
  | ok text => cases h
  | error f' =>
    cases h
    rfl

/-- A query that has raised a failure shows what its builder does. -/
theorem Rendered.builder_display {q : Query} {b : Builder} {f : Failure}
    (h : q.Rendered b (.error f)) : q.builder.display = q.display := by
  rw [Query.display, h.outcome?]

/-- **What is raised is what is shown, stripped.** The failure that the end of the work raises
carries the text that the builder shows from then on as its error message, and its message is that
text without the blanks at its ends. The message differs from the text exactly where the text tells
of an argument whose fault has an empty message or one that ends with a blank. An access to the
statement of a query that raises a failure makes the query show the same text as its builder, and so
does each access after it. -/
theorem message_reported (source : Source) :
    (∀ operations f,
      ((Builder.ofSource source).operateAll operations).finish.result = .error f →
      let b := ((Builder.ofSource source).operateAll operations).finish.builder
      b.errorMessage? = some b.display ∧ Reported operations f b.display) ∧
    (∀ config before f, Use.sql ∉ before →
      let q := (ofSource source config).useAll before
      (q.use .sql).result = .error (.builder (.failure f)) →
      ∀ later, let q' := (q.use .sql).query.useAll later
      (q'.use .sql).result = .error (.builder (.failure f)) ∧
        q'.builder.errorMessage? = some q'.display ∧ q'.builder.display = q'.display ∧
        Reported (formatOperations config ++ before.filterMap Use.operation?) f q'.display) := by
  have hfinish : ∀ operations f,
      ((Builder.ofSource source).operateAll operations).finish.result = .error f →
      let b := ((Builder.ofSource source).operateAll operations).finish.builder
      b.errorMessage? = some b.display ∧ Reported operations f b.display := by
    intro operations f h b
    obtain ⟨shown, hb, hr⟩ := Builder.finish_reported source h
    have hb' : b = ⟨.failed shown, true⟩ := hb
    rw [hb']
    exact ⟨rfl, hr⟩
  refine ⟨hfinish, ?_⟩
  intro config before f hn q h later q'
  have hw := (awaits_ofSource source config).useAll hn
  rw [← Builder.operateAll_append] at hw
  obtain ⟨hout, hq⟩ := hw.sql
  have hf := told_eq_error ((congrArg Used.told hout).symm.trans h)
  rw [hf] at hq
  have hr : q'.Rendered _ _ := hq.useAll later
  have hd : q'.builder.display = q'.display := hr.builder_display
  refine ⟨?_, ?_, hd, ?_⟩
  · rw [use, hr.sql]
    rfl
  · rw [← hd, hr.builder]
    exact (hfinish _ _ hf).1
  · rw [← hd, hr.builder]
    exact (hfinish _ _ hf).2

/-! ## An error without a message -/

/-- A value that raises an error without a message instead of writing itself. -/
def mute : Value :=
  .selfWriting (.mk (.fresh 0) "Mute".toList [Class.object])
    [.raise (.raised "TypeError".toList [])] .null .null

def bindMute : Operation := .argument Writer.dispatcher mute

def muteShown : Text := "invalid SQL: invalid argument: TypeError: ".toList

/-- A writer that raises an error without arguments, so that the reason ends in a blank. -/
theorem message_reported_mute :
    let b := (Builder.ofSource (.template "?".toList)).operateAll [bindMute]
    let q := (ofSource (.template "?".toList) ⟨.null, .bool false⟩).useAll [.operation bindMute]
    Use.sql ∉ [Use.operation bindMute] ∧
    b.finish.result = .error (Builder.invalid muteShown) ∧
    (q.use .sql).result = .error (.builder (.failure (Builder.invalid muteShown))) ∧
    Reported [bindMute] (Builder.invalid muteShown) b.finish.builder.display ∧
    (q.use .sql).query.display = b.finish.builder.display ∧
    (q.use .sql).query.builder.errorMessage? = some muteShown := by
  intro b q
  have hn : Use.sql ∉ [Use.operation bindMute] := by simp
  have hb : b.finish.result = .error (Builder.invalid muteShown) := rfl
  have hq : (q.use .sql).result = .error (.builder (.failure (Builder.invalid muteShown))) := rfl
  obtain ⟨builders, queries⟩ := message_reported (.template "?".toList)
  obtain ⟨-, hr⟩ := builders [bindMute] _ hb
  obtain ⟨-, he, -, hr'⟩ := queries ⟨.null, .bool false⟩ [.operation bindMute] _ hn hq []
  have hd : (q.use .sql).query.display = muteShown := rfl
  exact ⟨hn, hb, hq, hr, rfl, hd ▸ he⟩

/-- The message that is raised lacks the blank at the end of what is shown. -/
theorem message_ne_shown :
    let b := (Builder.ofSource (.template "?".toList)).operateAll [bindMute]
    b.finish.result = .error (Builder.invalid muteShown) ∧
    (Builder.invalid muteShown).message = "invalid SQL: invalid argument: TypeError:".toList ∧
    b.finish.builder.display = "invalid SQL: invalid argument: TypeError: ".toList ∧
    (Builder.invalid muteShown).message ≠ b.finish.builder.display ∧
    some (Builder.invalid muteShown).message ≠ b.finish.builder.errorMessage? := by
  intro b
  refine ⟨rfl, by decide, rfl, ?_, ?_⟩
  · have hd : b.finish.builder.display = muteShown := rfl
    rw [hd]
    decide
  · have he : b.finish.builder.errorMessage? = some muteShown := rfl
    rw [he]
    decide

end Query

end SqlTemplate
