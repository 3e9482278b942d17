import SqlTemplate.Proofs.Builder.Operation
import SqlTemplate.Proofs.Row.Agreement
import SqlTemplate.Proofs.Row.Identifiers

/-!
# Binding columns

The joined columns of a row type that have not been looked up before can be read back, so they tell
the columns (`columns_read_back`). A builder puts them into each slot for columns and touches
nothing else. From then on it holds no such slot (`ColumnsBound`), nothing that is done to it brings
one back (`ColumnsBound.operateAll`), and to bind columns again changes nothing, be there columns or
not (`ColumnsBound.operate_columns`).
-/

namespace SqlTemplate

namespace Rows

/-- No joined columns of the row type are remembered. -/
def IsUnjoined (rows : Rows) : RowType → Prop
  | .cls c => rows.joined.find? c.key = none
  | .value _ => True

/-- Columns that are not remembered as joined are looked up and joined. -/
theorem IsUnjoined.result_joinedColumns {rows : Rows} {row : RowType} (h : rows.IsUnjoined row) :
    (rows.joinedColumns row).result = (rows.columnNames row).1.map (Option.map join) := by
  cases row with
  | value v => rfl
  | cls c =>
    have hj := rows.result_classJoined c
    rw [h] at hj
    exact hj

end Rows

namespace Builder

open Segment (literal fields)

/-! ## Segments without slots for columns -/

/-- Without a slot for columns there is nothing to fill. -/
theorem fillFields_of_not_mem {segments : List Segment} (h : fields ∉ segments) (text : Text) :
    fillFields text segments = segments := by
  have hi : ∀ s ∈ segments, (if s = fields then literal text else s) = s := by
    intro s hs
    apply if_neg
    rintro rfl
    exact h hs
  rw [fillFields, List.map_congr_left hi, List.map_id']

/-- Filling the slots for columns leaves none. -/
theorem not_mem_fillFields (text : Text) (segments : List Segment) :
    fields ∉ fillFields text segments := by
  intro h
  obtain ⟨s, -, hs⟩ := List.mem_map.1 h
  by_cases hf : s = fields
  · rw [if_pos hf] at hs
    cases hs
  · rw [if_neg hf] at hs
    exact hf hs

/-- Filling a slot for an argument brings no slot for columns in. -/
theorem not_mem_fillArgument? {text : Text} {segments filled : List Segment}
    (hf : fillArgument? text segments = some filled) (h : fields ∉ segments) : fields ∉ filled := by
  induction segments generalizing filled with
  | nil => cases hf
  | cons s rest ih =>
    rw [List.mem_cons, not_or] at h
    cases s with
    | fields => exact absurd rfl h.1
    | argument =>
      cases hf
      simp [h.2]
    | literal t =>
      obtain ⟨filled, hr, rfl⟩ := Option.map_eq_some_iff.1 hf
      simp [ih hr h.2]

/-! ## Builders without slots for columns -/

/-- A binding of columns that is accepted looks them up first. -/
theorem operate_accepted {b : Builder} (ha : b.acceptsFields = true) {rows : Rows} {row : RowType}
    {columns? : Option Text} (hr : (rows.joinedColumns row).result = .ok columns?) :
    b.operate (.columns rows row) = .ok (b.bindFields columns?) := by
  rw [operate, bindRow, if_pos ha]
  dsimp only
  rw [hr]
  rfl

/-- The builder holds no slot for columns. -/
def ColumnsBound (b : Builder) : Prop :=
  ∀ segments format?, b.state = .inProgress segments format? → fields ∉ segments

namespace ColumnsBound

variable {b : Builder}

theorem of_failed {b : Builder} {message : Text} (h : b.state = .failed message) :
    b.ColumnsBound := by
  intro segments format? hs
  cases h.symm.trans hs

theorem inProgress {segments : List Segment} (h : fields ∉ segments) (format? : Option Text)
    (finished : Bool) : ColumnsBound ⟨.inProgress segments format?, finished⟩ := by
  rintro _ _ ⟨⟩
  exact h

theorem setFormat (h : b.ColumnsBound) (format? : Option Text) :
    (b.setFormat format?).builder.ColumnsBound := by
  unfold Builder.setFormat
  split
  · exact h
  · split
    · rename_i segments _ hs
      exact inProgress (h _ _ hs) _ _
    · exact h

theorem bindWritten (h : b.ColumnsBound) (w : Written) :
    (b.attempt (b.bindWritten w)).ColumnsBound := by
  unfold Builder.bindWritten
  split
  · exact h
  · split
    · exact h
    · rename_i segments format? hs
      split
      · split
        · rename_i fault _
          cases fault.message with
          | ok message => exact of_failed rfl
          | error cause => exact h
        · rename_i text _
          apply inProgress
          cases hf : fillArgument? text segments with
          | none => exact h _ _ hs
          | some filled => exact not_mem_fillArgument? hf (h _ _ hs)
      · exact of_failed rfl

/-- To bind columns where there is no slot for them changes nothing. -/
theorem bindFields (h : b.ColumnsBound) (hn : b.finished = false) (columns? : Option Text) :
    b.bindFields columns? = b.keep := by
  unfold Builder.bindFields
  rw [if_neg (by simp [hn])]
  cases hs : b.state with
  | failed message => rfl
  | inProgress segments format? =>
    have hb : b = ⟨.inProgress segments format?, b.finished⟩ := by rw [← hs]
    cases columns? with
    | some text =>
      dsimp only
      rw [fillFields_of_not_mem (h _ _ hs), ← hb]
    | none =>
      have hc : segments.contains fields = false := by simpa using h _ _ hs
      dsimp only
      rw [hc, if_neg Bool.false_ne_true]

/-- Columns that are bound again are looked up, and go nowhere. -/
theorem operate_columns (h : b.ColumnsBound) (hn : b.finished = false) {rows : Rows}
    {row : RowType} (hl : (Operation.columns rows row).LooksUp) :
    b.operate (.columns rows row) = .ok b.keep := by
  obtain ⟨text?, hr⟩ := hl
  by_cases ha : b.acceptsFields = true
  · rw [operate_accepted ha hr, h.bindFields hn]
  · rw [operate, bindRow, if_neg ha]
    dsimp only
    rw [h.bindFields hn none]
    rfl

/-- Once no slot for columns is left, none comes back. -/
theorem operated (h : b.ColumnsBound) (hn : b.finished = false) (o : Operation) :
    (b.operated o).ColumnsBound := by
  cases o with
  | argument d v =>
    rw [operated_argument]
    exact h.bindWritten _
  | format format? => exact h.setFormat format?
  | columns rows row =>
    have hk : ∀ columns?, b.bindFields columns? = b.keep := h.bindFields hn
    rw [operated_columns, bindRow, funext hk]
    by_cases ha : b.acceptsFields = true
    · rw [if_pos ha]
      dsimp only
      cases (rows.joinedColumns row).result with
      | ok columns? => exact h
      | error fault => exact h
    · rw [if_neg ha]
      exact h

/-- **Nothing brings a slot for columns back.** -/
theorem operateAll (h : b.ColumnsBound) (hn : b.finished = false) (operations : List Operation) :
    (b.operateAll operations).ColumnsBound := by
  induction operations generalizing b with
  | nil => exact h
  | cons o rest ih => exact ih (h.operated hn o) (finished_operated hn o)

end ColumnsBound

/-! ## Binding columns for the first time -/

/-- **The columns of a row type can be read back and are bound once.** Where the joined columns of a
row type with columns are looked up for the first time, their text, read as identifiers with commas
between them, gives the columns, so another row type with this text has the same columns. A builder
that binds them puts the text into each of its slots for columns, and leaves all other segments and
the format. Whatever is done to it later, to bind the columns of any row type, or that it has none,
succeeds and changes nothing. -/
theorem columns_read_back {rows : Rows} {row : RowType} {columns : List Text}
    (hu : rows.IsUnjoined row) (hc : (rows.columnNames row).1 = .ok (some columns)) :
    ∃ text, (rows.joinedColumns row).result = .ok (some text) ∧
      Text.readIdentifiers? text = some columns ∧
      (∀ (rows' : Rows) (row' : RowType) (columns' : List Text), rows'.IsUnjoined row' →
        (rows'.columnNames row').1 = .ok (some columns') →
        (rows'.joinedColumns row').result = .ok (some text) → columns' = columns) ∧
      ∀ segments format?, ∃ segments',
        let b : Builder := ⟨.inProgress segments format?, false⟩
        let b' : Builder := ⟨.inProgress segments' format?, false⟩
        b.operate (.columns rows row) = .ok b'.keep ∧
        (∀ i : Nat, segments'[i]? =
          segments[i]?.map fun s => if s = fields then literal text else s) ∧
        ∀ later rows' row', (Operation.columns rows' row').LooksUp →
          (b'.operateAll later).operate (.columns rows' row') = .ok (b'.operateAll later).keep := by
  have hj : ∀ {rows : Rows} {row : RowType} {columns : List Text}, rows.IsUnjoined row →
      (rows.columnNames row).1 = .ok (some columns) →
      (rows.joinedColumns row).result = .ok (some (Rows.join columns)) := by
    intro rows row columns hu hc
    rw [hu.result_joinedColumns, hc]
    rfl
  refine ⟨Rows.join columns, hj hu hc, Rows.readIdentifiers?_join columns, ?_, ?_⟩
  · intro rows' row' columns' hu' hc' ht
    rw [hj hu' hc'] at ht
    exact Rows.join_inj.1 (Option.some.inj (Except.ok.inj ht))
  · intro segments format?
    refine ⟨fillFields (Rows.join columns) segments, ?_, ?_, ?_⟩
    · exact operate_accepted rfl (hj hu hc)
    · intro i
      rw [fillFields, List.getElem?_map]
    · intro later rows' row' hl
      have hb := ColumnsBound.inProgress (not_mem_fillFields (Rows.join columns) segments)
        format? false
      exact (hb.operateAll rfl later).operate_columns (finished_operateAll rfl later) hl

/-! ## Names that look like lists -/

/-- A class with names for columns that hold a quote, a separator and an escape, nothing, or what
looks like a slot. -/
def awkwardClass : RowClass :=
  let places : List Text := [['`', ',', '`'], ['\\'], [], "?fields".toList]
  ⟨[⟨0, "Row".toList, .plain [] (some places)⟩], Class.tuple⟩

/-- Columns whose names hold backticks, commas, backslashes and placeholders, and an empty one. -/
theorem columns_read_back_awkward :
    let columns : List Text := [['`', ',', '`'], ['\\'], [], "?fields".toList]
    let text := Rows.join columns
    let bound : Builder :=
      ⟨.inProgress [.literal text, .literal "?fields".toList, .literal text] none, false⟩
    (Rows.empty.columnNames (.cls awkwardClass)).1 = .ok (some columns) ∧
    Text.readIdentifiers? text = some columns ∧
    (ofTemplate "?fields??fields?fields".toList).operate (.columns .empty (.cls awkwardClass)) =
      .ok bound.keep ∧
    bound.operate (.columns .empty (.value .null)) = .ok bound.keep := by
  intro columns text bound
  have hc : (Rows.empty.columnNames (.cls awkwardClass)).1 = .ok (some columns) := rfl
  have hu : Rows.empty.IsUnjoined (.cls awkwardClass) := rfl
  obtain ⟨read, hr, hread, -, binds⟩ := columns_read_back hu hc
  obtain rfl : read = text := Option.some.inj (Except.ok.inj hr.symm)
  obtain ⟨segments', ho, hs, again⟩ := binds [fields, literal "?fields".toList, fields] none
  obtain rfl : segments' = [literal text, literal "?fields".toList, literal text] := by
    apply List.ext_getElem?
    intro i
    rw [hs, ← List.getElem?_map]
    rfl
  exact ⟨hc, hread, ho, again [] .empty (.value .null) ⟨none, rfl⟩⟩

end Builder

end SqlTemplate
