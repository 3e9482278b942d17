import SqlTemplate.Proofs.Query.Facade

/-!
# The statement and the display

Two ways lead through the segments of a builder: the end of the work puts a statement together and
gives up at the first slot, and the display shows every segment, slots as their placeholders. Where
no slot is left the two come to one text, whatever the literals hold (`assemble_cases`), with the
same clause behind it. Where one is left, the end tells its kind and nothing else, and that is what
is displayed from then on. `EndsAsShown` puts this together for a builder (`Builder.endsAsShown`),
and a query passes it on (`Query.Awaits.endsAsShown`).
-/

namespace SqlTemplate

def Segment.isSlot : Segment → Bool
  | literal _ => false
  | argument | fields => true

namespace Template

def slots (segments : List Segment) : List Segment := segments.filter Segment.isSlot

theorem slots_literal (text : Text) (rest : List Segment) :
    slots (.literal text :: rest) = slots rest := rfl

/-- Segments without slots make the text that they display as their statement; in others the kind of
the first slot is the reason why they make none. -/
theorem assemble_cases (segments : List Segment) :
    (slots segments = [] ∧ Builder.assemble segments = .ok (display segments)) ∨
    ∃ slot reason, (slots segments).head? = some slot ∧
      Builder.assemble segments = .error reason ∧
      (slot = .argument ∧ reason = Builder.unboundArgumentReason ∨
        slot = .fields ∧ reason = Builder.unboundFieldsReason) := by
  induction segments with
  | nil => exact .inl ⟨rfl, rfl⟩
  | cons s rest ih =>
    cases s with
    | argument => exact .inr ⟨_, _, rfl, rfl, .inl ⟨rfl, rfl⟩⟩
    | fields => exact .inr ⟨_, _, rfl, rfl, .inr ⟨rfl, rfl⟩⟩
    | literal text =>
      rw [slots_literal, Builder.assemble]
      rcases ih with ⟨hs, ha⟩ | ⟨slot, reason, hs, ha, hk⟩
      · rw [ha]
        exact .inl ⟨hs, rfl⟩
      · rw [ha]
        exact .inr ⟨slot, reason, hs, rfl, hk⟩

end Template

/-- The slots that are left, in the order in which they stand. -/
def BuilderState.slots : BuilderState → List Segment
  | inProgress segments _ => Template.slots segments
  | failed _ => []

/-- How the outcome of the end of the work and what is displayed `before` and `after` it agree,
given the slots that are left and the builder afterwards. -/
structure EndsAsShown (slots : List Segment) (before : Text) (outcome : Except Failure Text)
    (ended : Builder) (after : Text) : Prop where
  /-- There is a statement where no slot is left. -/
  statement_iff : (∃ sql, outcome = .ok sql) ↔ slots = []
  /-- The statement is what is displayed, before and after. -/
  statement : ∀ sql, outcome = .ok sql → before = sql ∧ after = sql
  /-- A slot that is left makes a failure, told by the kind of the first one. -/
  failure : slots ≠ [] → outcome = .error (Builder.invalid after) ∧ ended.state = .failed after ∧
    (slots.head? = some .argument ∧ after = "invalid SQL: unbound query argument".toList ∨
      slots.head? = some .fields ∧ after = "invalid SQL: unbound query argument ?fields".toList)

namespace Builder

/-- **The end of a builder is as it shows**, if it has neither failed nor been finished. -/
theorem endsAsShown {b : Builder} (hn : b.finished = false) (hf : b.isFailed = false) :
    EndsAsShown b.state.slots b.display b.finish.result b.finish.builder
      b.finish.builder.display := by
  obtain ⟨state, finished⟩ := b
  obtain rfl : finished = false := hn
  cases state with
  | failed message => cases hf
  | inProgress segments format? =>
    unfold finish
    rw [if_neg Bool.false_ne_true]
    dsimp only [BuilderState.slots]
    rcases Template.assemble_cases segments with ⟨hs, ha⟩ | ⟨slot, reason, hs, ha, hk⟩
    · rw [ha, hs]
      refine ⟨⟨fun _ => rfl, fun _ => ⟨_, rfl⟩⟩, ?_, fun h => absurd rfl h⟩
      rintro sql ⟨⟩
      exact ⟨rfl, rfl⟩
    · have hne : Template.slots segments ≠ [] := by
        intro h
        simp [h] at hs
      rw [ha]
      refine ⟨⟨?_, fun h => absurd h hne⟩, ?_, fun _ => ⟨rfl, rfl, ?_⟩⟩
      · rintro ⟨sql, ⟨⟩⟩
      · rintro sql ⟨⟩
      · rcases hk with ⟨rfl, rfl⟩ | ⟨rfl, rfl⟩
        · exact .inl ⟨hs, rfl⟩
        · exact .inr ⟨hs, rfl⟩

end Builder

namespace Query

open Builder (Operation)

/-- What a query shows after its first access is what its builder shows, and the statement is that
too. -/
theorem Awaits.endsAsShown {q : Query} {b : Builder} (h : q.Awaits b) (hf : b.isFailed = false) :
    EndsAsShown b.state.slots q.display q.sql.outcome q.sql.query.builder
      q.sql.query.display := by
  have hb := Builder.endsAsShown h.unfinished hf
  obtain ⟨hout, hr⟩ := h.sql
  have hd : q.sql.query.display = b.finish.builder.display := by
    rw [Query.display, hr.outcome?, hr.builder]
    cases ho : b.finish.result with
    | ok sql => exact (hb.statement sql ho).2.symm
    | error f => rfl
  rw [h.display, hout, hr.builder, hd]
  exact hb

/-- **The statement is what is displayed.** After any operations, from any template or SQL taken as
it is, the end of a builder that has not failed gives a statement if and only if no slot is left,
and then the statement is the display before and after; else the builder is failed, and displays one
of two messages that depends on nothing but the kind of the first slot left. The same holds of a
query that has not been rendered, whatever has been done to it and to its configuration. -/
theorem sql_eq_display (source : Source) :
    (∀ operations, let b := (Builder.ofSource source).operateAll operations
      b.isFailed = false →
      EndsAsShown b.state.slots b.display b.finish.result b.finish.builder
        b.finish.builder.display) ∧
    (∀ config uses, Use.sql ∉ uses → let q := (ofSource source config).useAll uses
      q.builder.isFailed = false →
      EndsAsShown q.builder.state.slots q.display q.sql.outcome q.sql.query.builder
        q.sql.query.display) := by
  refine ⟨?_, ?_⟩
  · intro operations b hf
    have hn : b.finished = false :=
      Builder.finished_operateAll (Builder.finished_ofSource source) operations
    exact Builder.endsAsShown hn hf
  · intro config uses hu q hf
    have hw := (awaits_ofSource source config).useAll hu
    rw [← hw.builder] at hw
    exact hw.endsAsShown hf

/-! ## A literal that looks like a slot -/

def markedUses : List Use :=
  [.operation (.argument Writer.dispatcher (.text "?fields".toList)), .display,
    .operation (.format (some "CSV".toList))]

/-- A query without slots left shows its statement. A builder with one left shows the placeholder.
-/
theorem sql_eq_display_marks :
    let q := (ofSource (.template "SELECT ?? IN (?)".toList) ⟨.null, .bool true⟩).useAll markedUses
    let b := (Builder.ofSource (.template "SELECT ?fields, ?".toList)).operateAll
      [.format (some "CSV".toList), .argument Writer.dispatcher (.text "?".toList)]
    (Use.sql ∉ markedUses ∧ q.builder.isFailed = false ∧ q.builder.state.slots = [] ∧
      q.sql.outcome = .ok q.display ∧
      q.display = "SELECT ? IN ('?fields') FORMAT CSV".toList) ∧
    b.isFailed = false ∧ b.display = "SELECT ?fields, '?' FORMAT CSV".toList ∧
    b.finish.builder.display = "invalid SQL: unbound query argument ?fields".toList := by
  intro q b
  have hu : Use.sql ∉ markedUses := by simp [markedUses]
  have hq : q.builder.isFailed = false := rfl
  have hb : b.isFailed = false := rfl
  have hs : q.builder.state.slots = [] := rfl
  have hl : b.state.slots = [.fields] := rfl
  have query := (sql_eq_display (.template "SELECT ?? IN (?)".toList)).2 _ markedUses hu hq
  have builder := (sql_eq_display (.template "SELECT ?fields, ?".toList)).1 _ hb
  obtain ⟨sql, ho⟩ := query.statement_iff.2 hs
  refine ⟨⟨hu, hq, hs, ?_, rfl⟩, hb, rfl, ?_⟩
  · rw [(query.statement sql ho).1]
    exact ho
  · rcases (builder.failure (hl ▸ List.cons_ne_nil _ _)).2.2 with ⟨h, -⟩ | ⟨-, h⟩
    · cases h
    · exact h

end Query

end SqlTemplate
