import Mathlib.Data.List.Induction
import SqlTemplate.Proofs.Builder.LifeCycle
import SqlTemplate.Proofs.Template.Canonical

/-!
# SQL that is taken as it is

A builder around SQL that is taken as it is, and one for the template in which each question mark of
it is doubled, cannot be told apart by what they are used for (`raw_alike_doubled`). They may hold
different segments, one empty literal or none; but segments without slots show nothing but their
text (`Template.Slotless`), and two states that hold such segments of one text, or the same failure,
stay so side by side (`Alike.use`).

What such a builder comes to is told by `operateAll_raw`: any argument is one too many, columns go
nowhere, and all that is ever put behind the SQL is the clause of the format set last.
-/

namespace SqlTemplate

namespace Template

/-- The segments are literals only. -/
def Slotless (segments : List Segment) : Prop := ∀ s ∈ segments, ∃ text, s = .literal text

namespace Slotless

variable {segments : List Segment}

theorem nil : Slotless [] := by
  intro s hs
  cases hs

theorem singleton (text : Text) : Slotless [.literal text] := by
  intro s hs
  exact ⟨text, List.mem_singleton.1 hs⟩

/-- Segments without slots contain none. -/
theorem contains_eq_false (h : Slotless segments) {slot : Segment}
    (hs : ∀ text, slot ≠ .literal text) : segments.contains slot = false := by
  rw [List.contains_eq_mem, decide_eq_false_iff_not]
  intro hm
  obtain ⟨text, e⟩ := h slot hm
  exact hs text e

/-- Columns change nothing where no slot is. -/
theorem fillFields_eq (h : Slotless segments) (text : Text) :
    Builder.fillFields text segments = segments := by
  unfold Builder.fillFields
  have hi : ∀ s ∈ segments, (if s = .fields then .literal text else s) = s := by
    intro s hs
    obtain ⟨t, rfl⟩ := h s hs
    rfl
  rw [List.map_congr_left hi, List.map_id']

/-- Without slots the statement is what is displayed. -/
theorem assemble_eq (h : Slotless segments) :
    Builder.assemble segments = .ok (Template.display segments) := by
  induction segments with
  | nil => rfl
  | cons s rest ih =>
    obtain ⟨text, rfl⟩ := h s List.mem_cons_self
    have hr : Slotless rest := fun s hs => h s (List.mem_cons_of_mem _ hs)
    rw [Builder.assemble, ih hr]
    rfl

end Slotless

/-- Doubled question marks leave one literal, or nothing of an empty text. -/
theorem parse_doubled_eq (text : Text) :
    Slotless (parse (Text.doubled text)) ∧ display (parse (Text.doubled text)) = text := by
  have hp : parse (Text.doubled text) = text.foldr prepend [] := by
    have h := parse_doubled text []
    rwa [List.append_nil] at h
  cases text with
  | nil => exact ⟨.nil, rfl⟩
  | cons c rest =>
    have hl : (c :: rest).foldr prepend [] = [.literal (c :: rest)] :=
      foldr_prepend (by intro t ht; cases ht) (List.cons_ne_nil c rest)
    rw [hp, hl]
    exact ⟨.singleton _, List.append_nil _⟩

end Template

namespace Builder

open Template (Slotless)

/-! ## Where there is no slot -/

/-- What an operation makes of segments without slots: an argument is one too many, columns are
looked up and go nowhere, and a format is taken. -/
theorem operate_slotless {segments : List Segment} (hs : Slotless segments)
    (format? : Option Text) (o : Operation) :
    let b : Builder := ⟨.inProgress segments format?, false⟩
    b.operate o = match o with
      | .argument .. => .ok (b.fail surplusReason)
      | .columns rows row =>
        ((rows.joinedColumns row).result.map fun _ => b.keep).mapError .columns
      | .format format?' => .ok (keep ⟨.inProgress segments format?', false⟩) := by
  intro b
  cases o with
  | format format?' => rfl
  | argument d v =>
    have hc : segments.contains .argument = false := hs.contains_eq_false (by simp)
    dsimp only [operate, Builder.bind]
    rw [bindWritten, if_neg Bool.false_ne_true]
    dsimp only [b]
    rw [hc, if_neg Bool.false_ne_true]
    rfl
  | columns rows row =>
    have hc : segments.contains .fields = false := hs.contains_eq_false (by simp)
    have hb : ∀ columns?, b.bindFields columns? = b.keep := by
      intro columns?
      rw [bindFields, if_neg Bool.false_ne_true]
      dsimp only [b]
      cases columns? with
      | some text =>
        dsimp only
        rw [hs.fillFields_eq]
      | none =>
        dsimp only
        rw [hc, if_neg Bool.false_ne_true]
    have ho : b.operate (.columns rows row) =
        ((rows.joinedColumns row).result.map b.bindFields).mapError .columns := rfl
    dsimp only
    rw [ho, funext hb]

/-- The end of the work on segments without slots gives their text with the clause of the format. -/
theorem finish_slotless {segments : List Segment} (hs : Slotless segments)
    (format? : Option Text) :
    finish ⟨.inProgress segments format?, false⟩ =
      let sql := Template.display segments ++ BuilderState.formatClause format?
      ⟨.ok sql, ⟨.inProgress segments format?, true⟩, some (.finished sql format?)⟩ := by
  rw [finish, if_neg Bool.false_ne_true]
  dsimp only
  rw [hs.assemble_eq]

/-! ## Builders that show the same -/

/-- The same failure, or segments without slots that have the same text, with the same format. -/
inductive Alike : Builder → Builder → Prop
  | failed (message : Text) (finished : Bool) :
      Alike ⟨.failed message, finished⟩ ⟨.failed message, finished⟩
  | inProgress {segments segments' : List Segment} (format? : Option Text) (finished : Bool) :
      Slotless segments → Slotless segments' →
      Template.display segments = Template.display segments' →
      Alike ⟨.inProgress segments format?, finished⟩ ⟨.inProgress segments' format?, finished⟩

/-- The same result, and builders that show the same. -/
structure UsedAlike (u u' : Used) : Prop where
  result : u.result = u'.result
  builder : u.builder.Alike u'.builder

/-- Whether a use tells what segments a builder holds. -/
def Use.tellsSegments : Use → Bool
  | .read .displayed | .read .state => true
  | _ => false

namespace Alike

variable {b b' : Builder}

theorem finished_eq (h : b.Alike b') : b.finished = b'.finished := by
  cases h with
  | failed message finished => rfl
  | inProgress format? finished hs hs' hd => rfl

theorem display_eq (h : b.Alike b') : b.display = b'.display := by
  cases h with
  | failed message finished => rfl
  | inProgress format? finished hs hs' hd =>
    exact congrArg (· ++ BuilderState.formatClause format?) hd

theorem errorMessage?_eq (h : b.Alike b') : b.errorMessage? = b'.errorMessage? := by
  cases h with
  | failed message finished => rfl
  | inProgress format? finished hs hs' hd => rfl

theorem isFailed_eq (h : b.Alike b') : b.isFailed = b'.isFailed :=
  congrArg Option.isSome h.errorMessage?_eq

/-- Look-ups of columns leave the same behind. -/
theorem rows_bindRow_eq (h : b.Alike b') (rows : Rows) (row : RowType) :
    (b.bindRow rows row).rows = (b'.bindRow rows row).rows := by
  have ha : b.acceptsFields = b'.acceptsFields := by
    rw [acceptsFields, acceptsFields, h.finished_eq, h.isFailed_eq]
  unfold bindRow
  rw [ha]
  split <;> rfl

/-! ## One use of both -/

/-- Finished builders refuse the same. -/
theorem use_finished (h : b.Alike b') (hf : b.finished = true) {u : Use}
    (hu : ∀ r, u ≠ .read r) : UsedAlike (b.use u) (b'.use u) := by
  have hf' : b'.finished = true := h.finished_eq.symm.trans hf
  rw [Builder.use_finished hf hu, Builder.use_finished hf' hu]
  exact ⟨rfl, h⟩

/-- Alike builders do alike under every operation. -/
theorem use_operation (h : b.Alike b') (o : Operation) :
    UsedAlike (b.use (.operation o)) (b'.use (.operation o)) := by
  cases hf : b.finished with
  | true => exact h.use_finished hf (by intro r; simp)
  | false =>
    cases h with
    | failed message finished =>
      rw [Builder.use, operate_failed hf rfl o]
      exact ⟨rfl, .failed message finished⟩
    | inProgress format? finished hs hs' hd =>
      obtain rfl : finished = false := hf
      rw [Builder.use, Builder.use, operate_slotless hs, operate_slotless hs']
      cases o with
      | argument d v => exact ⟨rfl, .failed _ false⟩
      | format format?' => exact ⟨rfl, .inProgress format?' false hs hs' hd⟩
      | columns rows row =>
        dsimp only
        cases (rows.joinedColumns row).result with
        | error fault => exact ⟨rfl, .inProgress format? false hs hs' hd⟩
        | ok columns? => exact ⟨rfl, .inProgress format? false hs hs' hd⟩

/-- And they end alike. -/
theorem use_finish (h : b.Alike b') : UsedAlike (b.use .finish) (b'.use .finish) := by
  cases hf : b.finished with
  | true => exact h.use_finished hf (by intro r; simp)
  | false =>
    cases h with
    | failed message finished =>
      obtain rfl : finished = false := hf
      exact ⟨rfl, .failed message true⟩
    | inProgress format? finished hs hs' hd =>
      obtain rfl : finished = false := hf
      rw [Builder.use, Builder.use, finish_slotless hs, finish_slotless hs', hd]
      exact ⟨rfl, .inProgress format? true hs hs' hd⟩

/-- **One use** has the same result on both, unless it tells the segments, and leaves them alike. -/
theorem use (h : b.Alike b') (u : Use) :
    (u.tellsSegments = false → (b.use u).result = (b'.use u).result) ∧
      (b.use u).builder.Alike (b'.use u).builder := by
  cases u with
  | operation o =>
    have hu := h.use_operation o
    exact ⟨fun _ => hu.result, hu.builder⟩
  | finish =>
    have hu := h.use_finish
    exact ⟨fun _ => hu.result, hu.builder⟩
  | read r =>
    refine ⟨fun hr => ?_, h⟩
    cases r with
    | display => exact congrArg (Except.ok <| Answer.text ·) h.display_eq
    | displayed => cases hr
    | state => cases hr
    | isFailed => exact congrArg (Except.ok <| Answer.flag ·) h.isFailed_eq
    | errorMessage => exact congrArg (Except.ok <| Answer.message ·) h.errorMessage?_eq

/-- **Any uses** leave both alike. -/
theorem useAll (h : b.Alike b') (uses : List Use) : (b.useAll uses).Alike (b'.useAll uses) := by
  induction uses generalizing b b' with
  | nil => exact h
  | cons u rest ih => exact ih (h.use u).2

end Alike

/-- A text that is taken as it is and the template with its marks doubled begin alike. -/
theorem raw_alike_doubled (sql : Text) :
    (ofSource (.raw sql)).Alike (ofSource (.template (Text.doubled sql))) := by
  obtain ⟨hs, hd⟩ := Template.parse_doubled_eq sql
  have ht : Template.display [.literal sql] = sql := List.append_nil _
  exact .inProgress none false (.singleton sql) hs (ht.trans hd.symm)

/-! ## What becomes of the SQL -/

def Use.operation? : Use → Option Operation
  | operation o => some o
  | _ => none

def Operation.isArgument : Operation → Bool
  | argument .. => true
  | _ => false

def Operation.format? : Operation → Option (Option Text)
  | format format? => some format?
  | _ => none

/-- The format that is set last, if any is. -/
def Operation.lastFormat? (operations : List Operation) : Option Text :=
  (operations.filterMap Operation.format?).getLast?.join

/-- The last format that was set counts. -/
theorem Operation.lastFormat?_snoc (operations : List Operation) (o : Operation) :
    lastFormat? (operations ++ [o]) = o.format?.getD (lastFormat? operations) := by
  rw [lastFormat?, List.filterMap_append]
  cases h : o.format? <;> simp [lastFormat?, h]

/-- The state of a builder around SQL that is taken as it is, after some operations. -/
def verbatim (sql : Text) (operations : List Operation) : BuilderState :=
  if operations.any Operation.isArgument then .failed (failureMessage surplusReason)
  else .inProgress [.literal sql] (Operation.lastFormat? operations)

theorem operated_verbatim (sql : Text) (operations : List Operation) (o : Operation) :
    operated ⟨verbatim sql operations, false⟩ o = ⟨verbatim sql (operations ++ [o]), false⟩ := by
  unfold verbatim
  rw [List.any_append, Operation.lastFormat?_snoc]
  cases ha : operations.any Operation.isArgument with
  | true =>
    rw [if_pos rfl, Bool.true_or, if_pos rfl, operated, operate_failed rfl rfl o]
    rfl
  | false =>
    have ho := operate_slotless (.singleton sql) (Operation.lastFormat? operations) o
    rw [if_neg Bool.false_ne_true, operated, ho]
    cases o with
    | argument d v => rfl
    | format format? => rfl
    | columns rows row =>
      dsimp only
      cases (rows.joinedColumns row).result <;> rfl

/-- A text that is taken as it is takes in formats and nothing else. -/
theorem operateAll_raw (sql : Text) (operations : List Operation) :
    (ofSource (.raw sql)).operateAll operations = ⟨verbatim sql operations, false⟩ := by
  induction operations using List.reverseRecOn with
  | nil => rfl
  | append_singleton operations o ih =>
    rw [operateAll_append, ih]
    exact operated_verbatim sql operations o

/-- Up to the end of the work only the operations among the uses count. -/
theorem useAll_eq_operateAll (b : Builder) {uses : List Use} (h : Use.finish ∉ uses) :
    b.useAll uses = b.operateAll (uses.filterMap Use.operation?) := by
  induction uses generalizing b with
  | nil => rfl
  | cons u rest ih =>
    rw [List.mem_cons, not_or] at h
    have hr := ih (b.use u).builder h.2
    rw [useAll, List.foldl_cons, ← useAll, hr]
    cases u with
    | finish => exact absurd rfl h.1
    | read r => rfl
    | operation o =>
      rw [builder_use_operation]
      rfl

/-- **SQL that is taken as it is is a template with its question marks doubled**: after any uses of
a builder for each, every use has the same result on both, they display the same and have failed
alike, and look-ups of columns leave the same behind; only what tells the segments may tell them
apart. And what comes of the SQL is itself with the clause of the format set last behind it,
whatever columns are bound, or the failure that there was an argument. -/
theorem raw_eq_doubled (sql : Text) (uses : List Use) :
    let b := (ofSource (.raw sql)).useAll uses
    let b' := (ofSource (.template (Text.doubled sql))).useAll uses
    ((∀ u : Use, u.tellsSegments = false → (b.use u).result = (b'.use u).result) ∧
      b.display = b'.display ∧ b.isFailed = b'.isFailed ∧ b.errorMessage? = b'.errorMessage? ∧
      ∀ rows row, (b.bindRow rows row).rows = (b'.bindRow rows row).rows) ∧
    (Use.finish ∉ uses →
      let operations := uses.filterMap Use.operation?
      (b.use .finish).result =
        if operations.any Operation.isArgument then
          .error (.failure (invalid (failureMessage surplusReason)))
        else .ok (.text
          (sql ++ BuilderState.formatClause (Operation.lastFormat? operations)))) := by
  intro b b'
  have h : b.Alike b' := (raw_alike_doubled sql).useAll uses
  refine ⟨⟨?_, h.display_eq, h.isFailed_eq, h.errorMessage?_eq, h.rows_bindRow_eq⟩, ?_⟩
  · intro u hu
    exact (h.use u).1 hu
  · intro hn operations
    have hb : b = ⟨verbatim sql operations, false⟩ :=
      (useAll_eq_operateAll _ hn).trans (operateAll_raw sql operations)
    rw [hb, verbatim]
    cases operations.any Operation.isArgument with
    | true => rfl
    | false =>
      have ht : Template.display [.literal sql] = sql := List.append_nil _
      rw [if_neg Bool.false_ne_true, if_neg Bool.false_ne_true, use,
        finish_slotless (.singleton sql), ht]
      rfl

/-! ## Question marks in front of a word -/

def singleRow : RowType :=
  .cls ⟨[⟨0, "Row".toList, .record [⟨"a".toList, .own⟩]⟩], Class.object⟩

def markedUses : List Use :=
  [.operation (.columns .empty singleRow), .operation (.format (some "CSV".toList))]

/-- Marks that look like slots are doubled, and come out as they were. -/
theorem raw_eq_doubled_marks :
    let sql := "SELECT ???fields".toList
    let b := (ofSource (.template "SELECT ??????fields".toList)).useAll markedUses
    Use.tellsSegments .finish = false ∧ Use.finish ∉ markedUses ∧
    (b.use .finish).result = .ok (.text (sql ++ " FORMAT CSV".toList)) := by
  intro sql b
  have hn : Use.finish ∉ markedUses := by simp [markedUses]
  obtain ⟨⟨same, -⟩, statement⟩ := raw_eq_doubled sql markedUses
  refine ⟨rfl, hn, ?_⟩
  exact (same .finish rfl).symm.trans ((statement hn).trans rfl)

end Builder

end SqlTemplate
