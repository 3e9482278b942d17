import SqlTemplate.Row.Lookup

/-!
# Remembered column lists

Whatever changes between look-ups, a text that is remembered for the columns of a row class, or
given by a look-up, is one that joining some columns makes (`Rows.Joins`).
-/

namespace SqlTemplate

namespace Recent

variable {κ ρ : Type} [BEq κ]

/-- What is found is remembered. -/
theorem mem_of_find? {r : Recent κ ρ} {key : κ} {result : ρ} (h : r.find? key = some result) :
    ∃ k, (k, result) ∈ r.entries := by
  obtain ⟨entries⟩ := r
  change entries.lookup key = some result at h
  change ∃ k, (k, result) ∈ entries
  induction entries with
  | nil => cases h
  | cons entry rest ih =>
    obtain ⟨k, v⟩ := entry
    rw [List.lookup_cons] at h
    cases hk : key == k with
    | true =>
      obtain rfl : v = result := by simpa [hk] using h
      exact ⟨k, List.mem_cons_self⟩
    | false =>
      obtain ⟨l, hl⟩ := ih (by simpa [hk] using h)
      exact ⟨l, List.mem_cons_of_mem _ hl⟩

/-- Touching an entry adds none. -/
theorem mem_of_mem_touch {r : Recent κ ρ} {key : κ} {entry : κ × ρ}
    (h : entry ∈ (r.touch key).entries) : entry ∈ r.entries := by
  unfold touch at h
  split at h
  · rename_i found hf
    rcases List.mem_cons.1 h with rfl | h
    · exact List.mem_of_find?_eq_some hf
    · exact (List.mem_filter.1 h).1
  · exact h

omit [BEq κ] in
/-- Inserting one adds no other. -/
theorem mem_of_mem_insert {r : Recent κ ρ} {key : κ} {result : ρ} {entry : κ × ρ}
    (h : entry ∈ (r.insert key result).entries) : entry = (key, result) ∨ entry ∈ r.entries :=
  List.mem_cons.1 (List.mem_of_mem_take h)

end Recent

namespace Rows

/-- Every remembered text joins some columns. -/
def Joins (rows : Rows) : Prop :=
  ∀ entry ∈ rows.joined.entries, ∀ text ∈ entry.2, ∃ columns, text = join columns

/-- At first there is nothing to join. -/
theorem joins_empty : empty.Joins := by
  intro entry h
  cases h

/-- Setting columns keeps joined texts what they are. -/
theorem Joins.setColumns {rows rows' : Rows} (h : rows.Joins) {c : RowClass} {columns : List Text}
    (hs : rows.setColumns c columns = .ok rows') : rows'.Joins := by
  unfold Rows.setColumns at hs
  split at hs
  · cases hs
  · cases hs
    exact h

/-- So does deleting them. -/
theorem Joins.deleteColumns {rows rows' : Rows} (h : rows.Joins) {c : RowClass}
    (hs : rows.deleteColumns c = .ok rows') : rows'.Joins := by
  unfold Rows.deleteColumns at hs
  split at hs
  · cases hs
  · split at hs
    · cases hs
      exact h
    · cases hs

theorem joined_classColumns (rows : Rows) (c : RowClass) :
    (rows.classColumns c).2.joined = rows.joined := by
  have hk : (rows.kind c).2.joined = rows.joined := by
    unfold Rows.kind
    split <;> rfl
  unfold classColumns
  split
  · rename_i h
    rw [← hk, h]
  · rename_i h
    rw [← hk, h]

/-- So does looking them up. -/
theorem Joins.columnNames {rows : Rows} (h : rows.Joins) (row : RowType) :
    (rows.columnNames row).2.Joins := by
  cases row with
  | cls c =>
    unfold Joins
    rw [Rows.columnNames, joined_classColumns]
    exact h
  | value v => exact h

/-- A look-up remembers and gives only texts that join some columns. -/
theorem Joins.joinedColumns {rows : Rows} (h : rows.Joins) (row : RowType) :
    (rows.joinedColumns row).rows.Joins ∧
      ∀ text, (rows.joinedColumns row).result = .ok (some text) →
        ∃ columns, text = join columns := by
  cases row with
  | value v => exact ⟨h, fun text ht => by cases ht⟩
  | cls c =>
    unfold Rows.joinedColumns classJoined
    dsimp only
    split
    · rename_i text? hf
      refine ⟨fun entry he => h entry (Recent.mem_of_mem_touch he), fun text ht => ?_⟩
      obtain ⟨k, hk⟩ := Recent.mem_of_find? hf
      exact h _ hk text (Except.ok.inj ht)
    · have hj := rows.joined_classColumns c
      split
      · rename_i fault rows' hc
        rw [hc] at hj
        dsimp only at hj
        refine ⟨?_, fun text ht => by cases ht⟩
        unfold Joins
        rw [hj]
        exact h
      · rename_i columns? rows' hc
        rw [hc] at hj
        dsimp only at hj
        have hm : ∀ text ∈ columns?.map join, ∃ columns, text = join columns := by
          intro text ht
          obtain ⟨columns, -, rfl⟩ := Option.map_eq_some_iff.1 ht
          exact ⟨columns, rfl⟩
        refine ⟨fun entry he => ?_, fun text ht => hm text (Except.ok.inj ht)⟩
        rcases Recent.mem_of_mem_insert he with rfl | he
        · exact hm
        · rw [hj] at he
          exact h entry he

end Rows

end SqlTemplate
