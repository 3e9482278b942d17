import SqlTemplate.Proofs.Builder.Operation

/-!
# Binding one argument

A builder with a slot for an argument takes all of a literal form or nothing of it (`bind_atomic`).
If the argument can be written, its text fills the first slot and all else stays. If it cannot, the
builder fails with a message that tells the fault; of what was written in front of the fault nothing
is left, so the builder comes to the same for any two arguments with the same fault. Only a fault
that has no message to tell is raised on, and the builder then stays as it was
(`bind_atomic_speechless`).
-/

namespace SqlTemplate.Builder

open Segment (literal argument fields)

/-- Only the first slot is filled. -/
theorem fillArgument?_append {before : List Segment} (h : argument ∉ before) (text : Text)
    (rest : List Segment) : fillArgument? text (before ++ argument :: rest) =
      some (before ++ literal text :: rest) := by
  induction before with
  | nil => rfl
  | cons s before ih =>
    rw [List.mem_cons, not_or] at h
    cases s with
    | argument => exact absurd rfl h.1
    | literal t => simp [fillArgument?, ih h.2]
    | fields => simp [fillArgument?, ih h.2]

/-- What a fault is reported as that tells a message: a failure to serialize by the message alone,
any other with its kind. -/
def report (fault : Fault) (message : Text) : Text :=
  if fault.isSerialization then message else fault.kindName ++ ": ".toList ++ message

/-- The message of a builder that an argument has failed, as a whole. -/
theorem failureMessage_argumentReason (fault : Fault) (message : Text) :
    failureMessage (argumentReason fault message) =
      "invalid SQL: invalid argument: ".toList ++ report fault message := by
  have hp : "invalid SQL: ".toList ++ "invalid argument: ".toList =
      "invalid SQL: invalid argument: ".toList := by decide
  calc failureMessage (argumentReason fault message)
      = ("invalid SQL: ".toList ++ "invalid argument: ".toList) ++ report fault message :=
        (List.append_assoc _ _ _).symm
    _ = "invalid SQL: invalid argument: ".toList ++ report fault message :=
        congrArg (· ++ report fault message) hp

section

variable {b : Builder} {segments : List Segment} {format? : Option Text}
  (hf : b.finished = false) (hs : b.state = .inProgress segments format?)
  (ha : argument ∈ segments)

include hf hs ha

theorem awaitsArgument : b.AwaitsArgument := ⟨hf, segments, format?, hs, ha⟩

/-- An argument whose literal form is written goes into the first slot that is left. -/
theorem bindWritten_ok {w : Written} {text : Text} (hw : w.toExcept = .ok text) :
    ∃ before rest, segments = before ++ argument :: rest ∧ argument ∉ before ∧
      b.bindWritten w =
        .ok (keep ⟨.inProgress (before ++ literal text :: rest) format?, false⟩) := by
  obtain ⟨before, rest, rfl, hn⟩ := List.eq_append_cons_of_mem ha
  refine ⟨before, rest, rfl, hn, ?_⟩
  rw [bindWritten, if_neg (by simp [hf]), hs]
  dsimp only
  rw [if_pos (List.contains_iff_mem.2 ha), hw]
  simp only [fillArgument?_append hn, Option.getD_some, hf]

/-- A fault is told, or what comes of asking for its message is raised. -/
theorem bindWritten_error {w : Written} {fault : Fault} (hw : w.toExcept = .error fault) :
    b.bindWritten w = fault.message.map fun message => b.fail (argumentReason fault message) := by
  rw [bindWritten, if_neg (by simp [hf]), hs]
  dsimp only
  rw [if_pos (List.contains_iff_mem.2 ha), hw]

/-- **An argument is bound as a whole or not at all.** The literal form of the argument fills the
first slot, and nothing else changes; or the builder fails with the fault that stopped the writing,
whatever was written before it. Binding raises something only where that fault has no message to
tell, namely what comes of asking for one, and then the builder is as it was. -/
theorem bind_atomic (d : Dispatcher Writer) (v : Value) :
    (∀ step, b.bind d v = .ok step → step.result = .ok ()) ∧
    (∀ cause, b.bind d v = .error cause ↔
      ∃ fault, (writeLiteral d v).toExcept = .error fault ∧ fault.message = .error cause) ∧
    (∀ text, (writeLiteral d v).toExcept = .ok text → ∃ before rest,
      segments = before ++ argument :: rest ∧ argument ∉ before ∧
      b.attempt (b.bind d v) = ⟨.inProgress (before ++ literal text :: rest) format?, false⟩) ∧
    (∀ fault, (writeLiteral d v).toExcept = .error fault →
      b.attempt (b.bind d v) = match fault.message with
        | .ok message =>
          ⟨.failed ("invalid SQL: invalid argument: ".toList ++ report fault message), false⟩
        | .error _ => b) ∧
    (∀ fault d' v', (writeLiteral d v).fault? = some fault →
      (writeLiteral d' v').fault? = some fault → b.bind d' v' = b.bind d v) := by
  have herror : ∀ {d v fault}, (writeLiteral d v).fault? = some fault →
      b.bind d v = fault.message.map fun message => b.fail (argumentReason fault message) := by
    intro d v fault hw
    refine bindWritten_error hf hs ha ?_
    rw [Written.toExcept, hw]
  refine ⟨?_, ?_, ?_, ?_, ?_⟩
  · intro step hb
    rcases bindWritten_unfinished hf (writeLiteral d v) with ⟨step', hs', hr, -⟩ | ⟨_, _, he, -⟩
    · obtain rfl : step' = step := Except.ok.inj (hs'.symm.trans hb)
      exact hr
    · rw [bind, he] at hb
      cases hb
  · intro cause
    rw [bind, bindWritten_eq_error_iff, and_iff_right (awaitsArgument hf hs ha)]
  · intro text hw
    obtain ⟨before, rest, he, hn, hb⟩ := bindWritten_ok hf hs ha hw
    refine ⟨before, rest, he, hn, ?_⟩
    rw [bind, hb]
    rfl
  · intro fault hw
    rw [bind, bindWritten_error hf hs ha hw]
    cases fault.message with
    | ok message =>
      dsimp only [Except.map, attempt, fail]
      rw [hf, failureMessage_argumentReason]
    | error cause => rfl
  · intro fault d' v' hw hw'
    rw [herror hw, herror hw']

end

/-! ## A value that fails half-way -/

/-- A list with a value that writes some text and a further list and then raises a failure. -/
def halting (written : Text) : Value :=
  .list [.int 1, .selfWriting Class.object
    [.text written, .literal (.list [.null]),
      .raise (.failure (.saying .builderConsumed "no".toList))] .null .null]

/-- What has been written in front of a fault does not show; a text fills the first slot of two. -/
theorem bind_atomic_halting :
    let d := Writer.dispatcher
    let segments := [fields, literal " = ".toList, argument, literal " + ".toList, argument]
    let b : Builder := ⟨.inProgress segments (some "CSV".toList), false⟩
    (writeLiteral d (halting "now".toList)).text = "[1,now[NULL]".toList ∧
    b.attempt (b.bind d (halting "now".toList)) =
      ⟨.failed "invalid SQL: invalid argument: BuilderConsumedError: no".toList, false⟩ ∧
    b.bind d (halting "then".toList) = b.bind d (halting "now".toList) ∧
    ∃ before rest, segments = before ++ argument :: rest ∧ argument ∉ before ∧
      b.attempt (b.bind d (.text "it's".toList)) =
        ⟨.inProgress (before ++ literal "'it\\'s'".toList :: rest) (some "CSV".toList), false⟩ := by
  intro d segments b
  have ha : argument ∈ segments := by decide
  obtain ⟨-, -, -, failed, same⟩ := bind_atomic (b := b) rfl rfl ha d (halting "now".toList)
  obtain ⟨-, -, filled, -⟩ := bind_atomic (b := b) rfl rfl ha d (.text "it's".toList)
  refine ⟨rfl, ?_, ?_, ?_⟩
  · rw [failed (.failure (.saying .builderConsumed "no".toList)) rfl]
    rfl
  · exact same _ d (halting "then".toList) rfl rfl
  · exact filled _ rfl

/-- A failure to serialize whose message is a number is not told: binding raises a type error, and
the builder has not failed. -/
theorem bind_atomic_speechless :
    let b := ofTemplate "SELECT ?".toList
    b.AwaitsArgument ∧ b.bind Writer.dispatcher speechless = .error speechlessCause ∧
    b.attempt (b.bind Writer.dispatcher speechless) = b ∧
    ∀ text, b.attempt (b.bind Writer.dispatcher speechless) ≠
      ⟨.failed ("invalid SQL: invalid argument: ".toList ++ text), false⟩ := by
  intro b
  have raised : b.bind Writer.dispatcher speechless = .error speechlessCause :=
    bindWritten_eq_error_iff.2 ⟨awaitsArgument_template, writeLiteral_speechless⟩
  have kept : b.attempt (b.bind Writer.dispatcher speechless) = b := by
    rw [raised]
    rfl
  refine ⟨awaitsArgument_template, raised, kept, ?_⟩
  intro text he
  rw [kept] at he
  exact Bool.false_ne_true (congrArg isFailed he)

end SqlTemplate.Builder
