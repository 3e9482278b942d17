import SqlTemplate.Proofs.Builder.Operation

/-!
# Reasons of failures

Where the message of a failed builder comes from: from one of the operations that were made on it
(`Operation.Fails`), or at the end of the work from a slot that is left (`finish_error`).
-/

namespace SqlTemplate.Builder

/-- The reasons for which an operation may fail. -/
inductive Operation.Fails : Operation → Text → Prop
  | surplus (d : Dispatcher Writer) (v : Value) : Fails (.argument d v) surplusReason
  | argument {d : Dispatcher Writer} {v : Value} {fault : Fault} {message : Text} :
      (writeLiteral d v).toExcept = .error fault → fault.message = .ok message →
        Fails (.argument d v) (argumentReason fault message)
  | columns (rows : Rows) (row : RowType) : Fails (.columns rows row) columnsReason

/-- A binding fails a builder for want of a slot, or for a fault of writing that can be told. -/
theorem state_bindWritten_failed {segments : List Segment} {format? : Option Text} {w : Written}
    {shown : Text} (h : (attempt ⟨.inProgress segments format?, false⟩
      (bindWritten ⟨.inProgress segments format?, false⟩ w)).state = .failed shown) :
    shown = failureMessage surplusReason ∨ ∃ fault message, w.toExcept = .error fault ∧
      fault.message = .ok message ∧ shown = failureMessage (argumentReason fault message) := by
  rw [bindWritten, if_neg Bool.false_ne_true] at h
  dsimp only at h
  split at h
  · cases hw : w.toExcept with
    | ok text =>
      rw [hw] at h
      cases h
    | error fault =>
      rw [hw] at h
      dsimp only at h
      cases hm : fault.message with
      | ok message =>
        rw [hm] at h
        cases h
        exact .inr ⟨fault, message, rfl, hm, rfl⟩
      | error cause =>
        rw [hm] at h
        cases h
  · cases h
    exact .inl rfl

/-- Columns fail a builder only where there are none. -/
theorem state_bindFields_failed {segments : List Segment} {format? columns? : Option Text}
    {message : Text}
    (h : (bindFields ⟨.inProgress segments format?, false⟩ columns?).builder.state =
      .failed message) : message = failureMessage columnsReason := by
  rw [bindFields, if_neg Bool.false_ne_true] at h
  cases columns? with
  | some text => cases h
  | none =>
    dsimp only at h
    split at h
    · cases h
      rfl
    · cases h

/-- **One operation** fails for a reason of its own, or leaves the failure that there was. -/
theorem operated_failed {b : Builder} (hf : b.finished = false) {o : Operation} {message : Text}
    (h : (b.operated o).state = .failed message) :
    b.state = .failed message ∨ ∃ reason, o.Fails reason ∧ message = failureMessage reason := by
  obtain ⟨state, finished⟩ := b
  obtain rfl : finished = false := hf
  cases state with
  | failed message' =>
    rw [operated, operate_failed rfl rfl] at h
    exact .inl h
  | inProgress segments format? =>
    refine .inr ?_
    cases o with
    | argument d v =>
      rw [operated_argument] at h
      rcases state_bindWritten_failed h with rfl | ⟨fault, message, hw, hm, rfl⟩
      · exact ⟨_, .surplus d v, rfl⟩
      · exact ⟨_, .argument hw hm, rfl⟩
    | format format?' => cases h
    | columns rows row =>
      have hb : (bindRow ⟨.inProgress segments format?, false⟩ rows row).outcome =
          (rows.joinedColumns row).result.map
            (bindFields ⟨.inProgress segments format?, false⟩) := rfl
      rw [operated_columns, hb] at h
      cases hr : (rows.joinedColumns row).result with
      | error fault =>
        rw [hr] at h
        cases h
      | ok columns? =>
        rw [hr] at h
        exact ⟨_, .columns rows row, state_bindFields_failed h⟩

/-- **Any operations** fail for a reason of one of them. -/
theorem operateAll_failed {b : Builder} (hf : b.finished = false) {operations : List Operation}
    {message : Text} (h : (b.operateAll operations).state = .failed message) :
    b.state = .failed message ∨
      ∃ o ∈ operations, ∃ reason, o.Fails reason ∧ message = failureMessage reason := by
  induction operations generalizing b with
  | nil => exact .inl h
  | cons o rest ih =>
    rcases ih (finished_operated hf o) h with h | ⟨o', hm, hr⟩
    · rcases operated_failed hf h with h | hr
      · exact .inl h
      · exact .inr ⟨o, List.mem_cons_self, hr⟩
    · exact .inr ⟨o', List.mem_cons_of_mem o hm, hr⟩

/-- Segments cannot be assembled while a slot is left, one for an argument or for columns. -/
theorem assemble_error {segments : List Segment} {reason : Text}
    (h : assemble segments = .error reason) :
    reason = unboundArgumentReason ∨ reason = unboundFieldsReason := by
  induction segments with
  | nil => cases h
  | cons s rest ih =>
    cases s with
    | argument =>
      cases h
      exact .inl rfl
    | fields =>
      cases h
      exact .inr rfl
    | literal text =>
      rw [assemble] at h
      cases hr : assemble rest with
      | ok t =>
        rw [hr] at h
        cases h
      | error reason' =>
        rw [hr] at h
        cases h
        exact ih hr

/-- The end of the work raises the message that the builder shows from then on: that of its failure,
or that a slot is left. -/
theorem finish_error {b : Builder} (hf : b.finished = false) {f : Failure}
    (h : b.finish.result = .error f) :
    ∃ message, f = invalid message ∧ b.finish.builder = ⟨.failed message, true⟩ ∧
      (b.state = .failed message ∨ message = failureMessage unboundArgumentReason ∨
        message = failureMessage unboundFieldsReason) := by
  obtain ⟨state, finished⟩ := b
  obtain rfl : finished = false := hf
  rw [finish, if_neg Bool.false_ne_true] at h ⊢
  cases state with
  | failed message =>
    cases h
    exact ⟨message, rfl, rfl, .inl rfl⟩
  | inProgress segments format? =>
    dsimp only at h ⊢
    cases ha : assemble segments with
    | ok text =>
      rw [ha] at h
      cases h
    | error reason =>
      rw [ha] at h
      cases h
      refine ⟨_, rfl, rfl, .inr ?_⟩
      rcases assemble_error ha with rfl | rfl
      · exact .inl rfl
      · exact .inr rfl

end SqlTemplate.Builder
