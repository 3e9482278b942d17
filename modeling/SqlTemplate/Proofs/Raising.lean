import SqlTemplate.Proofs.Builder.Operation
import SqlTemplate.Proofs.Value.Comparison

/-!
# Which raised failures can be told

Of all errors that are raised with arguments only one sort has no message to tell: a failure to
serialize whose message is no text (`Fault.message_raised_eq_error_iff`). Arguments that do not fit
become an error that says so. Of failures that put their words together the first argument comes
last (`Failure.message_raise_general`).

So a value that raises an error instead of writing itself makes a binding raise something in that
one case only (`Builder.bind_raised_iff`).
-/

namespace SqlTemplate

namespace FailureKind

/-- The predefined kinds have different names. -/
theorem named?_eq_some_iff {name : Text} {kind : FailureKind} :
    named? name = some kind ↔
      kind.name = name ∧ kind ∈ [general, invalidParams, serialization, builderConsumed] := by
  constructor
  · intro h
    exact ⟨by simpa using List.find?_some h, List.mem_of_find?_eq_some h⟩
  · rintro ⟨rfl, hm⟩
    simp only [List.mem_cons, List.not_mem_nil, or_false] at hm
    rcases hm with rfl | rfl | rfl | rfl <;> rfl

end FailureKind

namespace Failure

/-- A detail that counts needs to be a text, and then it is the detail of the failure. -/
theorem withDetail_serialization (detail : Value) :
    withDetail .serialization [] detail =
      match detail.text? with
      | some s => .ok ⟨.serialization, [], s⟩
      | none => .error (.notText 0 detail.cls.messageName) := by
  -- without words a detail is used in the same way, whether it counts as true or not
  unfold withDetail Value.text?
  cases detail.core <;> cases detail.isTrue <;> rfl

/-- A general failure is raised with any arguments. Those that count as true become its words, the
first of them its detail. -/
theorem raise_general (arguments : List Value) :
    raise .general arguments none =
      match (arguments.filter Value.isTrue).map Value.plainText with
      | [] => .ok ⟨.general, [], []⟩
      | first :: rest => .ok ⟨.general, rest, first⟩ := by
  unfold raise withDetail
  cases (arguments.filter Value.isTrue).map Value.plainText <;> rfl

/-- So its message tells the first of them behind the others. -/
theorem message_raise_general {arguments : List Value} {first : Text} {rest : List Text}
    (h : (arguments.filter Value.isTrue).map Value.plainText = first :: rest) :
    (raise .general arguments none).map message =
      .ok (Text.strip (List.intercalate [' '] (rest ++ [first]))) := by
  rw [raise_general, h]
  rfl

/-- A failure that takes a message is raised, or is given too many arguments. -/
theorem withMessage_cases (kind : FailureKind) (arguments : List Value) :
    (∃ f, withMessage kind arguments = .ok f) ∨
      withMessage kind arguments = .error (.tooMany kind arguments.length) := by
  unfold withMessage
  split
  · exact .inl ⟨_, rfl⟩
  · exact .inl ⟨_, rfl⟩
  · exact .inl ⟨_, rfl⟩
  · exact .inr rfl

end Failure

namespace Fault

theorem message_failure (f : Failure) : (failure f).message = .ok f.message := rfl

theorem message_wrongArguments (fault : RaiseFault) :
    (wrongArguments fault).message = .ok fault.message := rfl

/-- The error that asking for the message of a failure comes to whose detail, with nothing before
it, is of the given class. -/
def notTextCause (className : Text) : Fault := wrongArguments (.notText 0 className)

/-- The message of a failure to serialize: the first argument, unless it is no text. -/
theorem message_library_serialization (arguments : List Value) :
    (library .serialization arguments).message =
      match arguments with
      | [] => .ok FailureKind.missingMessage
      | [detail] | [detail, _] =>
        match detail.text? with
        | some s => .ok (Failure.saying .serialization s).message
        | none => .error (notTextCause detail.cls.messageName)
      | arguments => .ok (RaiseFault.tooMany .serialization arguments.length).message := by
  unfold library Failure.raise Failure.ofSerialization
  match arguments with
  | [] => rfl
  | [detail] | [detail, _] =>
    dsimp only
    rw [Failure.withDetail_serialization]
    cases detail.text? <;> rfl
  | _ :: _ :: _ :: _ => rfl

/-- The part of `message_library_serialization` that is about a message. -/
theorem notText_of_message {detail : Value} {cause : Fault}
    (h : (match detail.text? with
      | some s => Except.ok (Failure.saying .serialization s).message
      | none => .error (notTextCause detail.cls.messageName)) = .error cause) :
    detail.text? = none ∧ cause = notTextCause detail.cls.messageName := by
  cases ht : detail.text? with
  | some s =>
    rw [ht] at h
    cases h
  | none =>
    rw [ht] at h
    cases h
    exact ⟨rfl, rfl⟩

/-- All other predefined kinds have a message, whatever they are raised with. -/
theorem exists_message_library {kind : FailureKind}
    (hm : kind ∈ [.general, .invalidParams, .builderConsumed]) (arguments : List Value) :
    ∃ message, (library kind arguments).message = .ok message := by
  have hmessage : ∀ kind, Failure.raise kind arguments none = Failure.withMessage kind arguments →
      ∃ message, (library kind arguments).message = .ok message := by
    intro kind hr
    rw [library, hr]
    rcases Failure.withMessage_cases kind arguments with ⟨f, hw⟩ | hw
    · rw [hw]
      exact ⟨_, message_failure f⟩
    · rw [hw]
      exact ⟨_, message_wrongArguments _⟩
  simp only [List.mem_cons, List.not_mem_nil, or_false] at hm
  rcases hm with rfl | rfl | rfl
  · rw [library, Failure.raise_general]
    cases (arguments.filter Value.isTrue).map Value.plainText with
    | nil => exact ⟨_, message_failure _⟩
    | cons first rest => exact ⟨_, message_failure _⟩
  · exact hmessage .invalidParams rfl
  · exact hmessage .builderConsumed rfl

/-- **Only failures to serialize may be untold**, namely those whose message is no text. -/
theorem message_raised_eq_error_iff {kind : Text} {arguments : List Value} {cause : Fault} :
    (raised kind arguments).message = .error cause ↔
      kind = FailureKind.serialization.name ∧
      ∃ detail more, arguments = detail :: more ∧ more.length ≤ 1 ∧ detail.text? = none ∧
        cause = notTextCause detail.cls.messageName := by
  unfold raised
  constructor
  · intro h
    split at h
    · rename_i k hk
      obtain ⟨hn, hm⟩ := FailureKind.named?_eq_some_iff.1 hk
      by_cases hs : k = .serialization
      · subst hs
        refine ⟨hn.symm, ?_⟩
        rw [message_library_serialization] at h
        match arguments with
        | [] => cases h
        | detail :: more =>
          -- one argument, two of them, or more
          rcases more with _ | ⟨second, _ | ⟨third, rest⟩⟩
          · obtain ⟨ht, rfl⟩ := notText_of_message h
            exact ⟨detail, [], rfl, by simp, ht, rfl⟩
          · obtain ⟨ht, rfl⟩ := notText_of_message h
            exact ⟨detail, [second], rfl, by simp, ht, rfl⟩
          · cases h
      · have ho : k ∈ [FailureKind.general, .invalidParams, .builderConsumed] := by
          simp only [List.mem_cons, List.not_mem_nil, or_false] at hm ⊢
          tauto
        obtain ⟨message, hmessage⟩ := exists_message_library ho arguments
        rw [hmessage] at h
        cases h
    · cases h
  · rintro ⟨rfl, detail, more, rfl, hl, ht, rfl⟩
    have hk : FailureKind.named? FailureKind.serialization.name = some .serialization := rfl
    rw [hk]
    dsimp only
    rw [message_library_serialization]
    rcases more with _ | ⟨second, _ | ⟨third, rest⟩⟩
    · simp [ht]
    · simp [ht]
    · simp at hl

end Fault

/-! ## Raising instead of writing -/

/-- **A binding raises something** for a value that comes to a raised error exactly if it is waited
for and the error is a failure to serialize whose message is no text. -/
theorem Builder.bind_raised_iff {b : Builder} {d : Dispatcher Writer} {v : Value} {kind : Text}
    {arguments : List Value} (h : (writeLiteral d v).toExcept = .error (.raised kind arguments)) :
    (∃ cause, b.bind d v = .error cause) ↔
      b.AwaitsArgument ∧ kind = FailureKind.serialization.name ∧
        ∃ detail more, arguments = detail :: more ∧ more.length ≤ 1 ∧ detail.text? = none := by
  constructor
  · rintro ⟨cause, hb⟩
    obtain ⟨ha, fault, hw, hm⟩ := bindWritten_eq_error_iff.1 hb
    obtain rfl : Fault.raised kind arguments = fault := Except.error.inj (h.symm.trans hw)
    obtain ⟨hk, detail, more, he, hl, ht, -⟩ := Fault.message_raised_eq_error_iff.1 hm
    exact ⟨ha, hk, detail, more, he, hl, ht⟩
  · rintro ⟨ha, hk, detail, more, he, hl, ht⟩
    refine ⟨Fault.notTextCause detail.cls.messageName, ?_⟩
    have hm := Fault.message_raised_eq_error_iff.2 ⟨hk, detail, more, he, hl, ht, rfl⟩
    exact bindWritten_eq_error_iff.2 ⟨ha, _, h, hm⟩

end SqlTemplate
