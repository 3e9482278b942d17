import SqlTemplate.Log.Setup
import SqlTemplate.Proofs.Json.Encode
import SqlTemplate.Proofs.Overlay

/-!
# Log lines are read back

The entries of a record go by different names, the four that every record has before all others
(`Record.names_entries`). A structured line is read back as the object of these entries
(`Record.read_structuredLine`) and holds no line feed, whatever the message and the details of the
record are.

So what a structured console writes falls into one line for each record that is passed on
(`LogSetup.read_written`): no record can pretend to be several. In the plain style one can
(`LogSetup.written_plain_forged`).
-/

namespace SqlTemplate

namespace Record

/-! ## Entries -/

/-- The entries that every record has. -/
def baseEntries (r : Record) (time : Text) : Fields :=
  [("timestamp".toList, .text time), ("level".toList, .text r.level.name),
    ("logger".toList, .text r.logger), ("message".toList, .text r.message)]

def baseNames : List Text :=
  ["timestamp".toList, "level".toList, "logger".toList, "message".toList]

theorem names_baseEntries (r : Record) (time : Text) :
    (r.baseEntries time).map (·.1) = baseNames := rfl

/-- The details and the exception, which come over the entries that every record has. -/
def details (r : Record) (exception? : Option Fault) : Fields :=
  (r.fields?.getD []) ++
    (exception?.map fun fault => ("exception".toList, Value.text (exceptionText fault))).toList

theorem entries_eq (r : Record) (time : Text) (exception? : Option Fault) :
    r.entries time exception? = overlay (·.1) (r.baseEntries time) (r.details exception?) := rfl

/-- **The names of the entries**: those of every record first, and none twice. -/
theorem names_entries (r : Record) (time : Text) (exception? : Option Fault) :
    baseNames <+: (r.entries time exception?).map (·.1) ∧
      ((r.entries time exception?).map (·.1)).Nodup := by
  have hn : ((r.baseEntries time).map (·.1)).Nodup := by
    rw [names_baseEntries]
    decide
  rw [entries_eq, ← r.names_baseEntries time]
  exact ⟨names_prefix_overlay _ _, nodup_names_overlay hn _⟩

/-- Each entry holds the last detail of its name, or else what every record has under the name. -/
theorem mem_entries {r : Record} {time : Text} {exception? : Option Fault} {entry : Text × Value} :
    entry ∈ r.entries time exception? ↔
      entry ∈ latest (·.1) (r.details exception?) ∨
      entry ∈ r.baseEntries time ∧ ∀ detail ∈ r.details exception?, detail.1 ≠ entry.1 := by
  rw [entries_eq]
  exact mem_overlay

/-- No detail hides the exception that a record is about. -/
theorem exception_mem_entries (r : Record) (time : Text) (fault : Fault) :
    ("exception".toList, Value.text (exceptionText fault)) ∈ r.entries time (some fault) := by
  refine mem_entries.2 (.inl ?_)
  rw [details]
  induction r.fields?.getD [] with
  | nil => exact List.mem_cons_self
  | cons detail rest ih => exact mem_latest_cons.2 (.inl ih)

/-! ## Lines -/

/-- The tree of a structured line. -/
def tree (r : Record) (time : Text) (exception? : Option Fault) : Json.Tree :=
  .object ((r.entries time exception?).map fun e => (e.1, Json.ofValue e.2))

/-- A structured line is the compact text of its entries. -/
theorem spells_structuredLine (r : Record) (time : Text) (exception? : Option Fault) :
    Json.Spells (r.tree time exception?) (r.structuredLine time exception?) := by
  have he : ∀ e ∈ (r.entries time exception?).map fun e =>
      (e.1, Json.ofValue e.2, Json.encode e.2), Json.Spells e.2.1 e.2.2 := by
    intro e he
    obtain ⟨e, -, rfl⟩ := List.mem_map.1 he
    exact Json.spells_encode e.2
  have := Json.Spells.object he
  rw [List.map_map, List.map_map] at this
  exact this

/-- **A structured line is read back** as its entries. -/
theorem read_structuredLine (r : Record) (time : Text) (exception? : Option Fault) :
    Json.read? (r.structuredLine time exception?) = some (r.tree time exception?, []) := by
  have he : Literal.EndsToken [] := by simp [Literal.EndsToken]
  have := (r.spells_structuredLine time exception?).read he
  rwa [List.append_nil] at this

/-- A structured line is one line. -/
theorem newline_not_mem_structuredLine (r : Record) (time : Text) (exception? : Option Fault) :
    '\n' ∉ r.structuredLine time exception? := by
  intro h
  exact absurd ((r.spells_structuredLine time exception?).visible '\n' h) (by decide)

end Record

namespace LogSetup

/-! ## What the console writes -/

/-- Lines that hold no line feed are told apart by the one behind each of them. -/
theorem splitOn_lines {lines : List Text} (h : ∀ line ∈ lines, '\n' ∉ line) :
    (lines.map (· ++ ['\n'])).flatten.splitOn '\n' = lines ++ [[]] := by
  have he : (lines.map (· ++ ['\n'])).flatten = List.intercalate ['\n'] (lines ++ [[]]) := by
    clear h
    induction lines with
    | nil => rfl
    | cons line rest ih =>
      rw [List.map_cons, List.flatten_cons, ih]
      cases rest <;> simp [List.intercalate]
  rw [he]
  refine List.splitOn_intercalate '\n' ?_ (by simp)
  simpa [or_imp, forall_and] using h

/-- **What a structured console writes is read back**, line by line: one object for each record that
is passed on, and nothing behind the last line feed. -/
theorem read_written {s : LogSetup} (h : s.console? = some .structured) (time : Text)
    (records : List Record) :
    ((s.written time records).flatten.splitOn '\n').map Json.read? =
      (s.passed records).map (fun r => some (r.tree time none, [])) ++ [none] := by
  have hw : s.written time records =
      ((s.passed records).map (·.structuredLine time none)).map (· ++ ['\n']) := by
    unfold written
    rw [h, List.map_map]
    rfl
  have hn : ∀ line ∈ (s.passed records).map (·.structuredLine time none), '\n' ∉ line := by
    intro line hl
    obtain ⟨r, -, rfl⟩ := List.mem_map.1 hl
    exact r.newline_not_mem_structuredLine time none
  have hr : Json.read? [] = none := by rw [Json.read?, Json.readTree, Option.map_none]
  rw [hw, splitOn_lines hn, List.map_append, List.map_map, List.map_singleton, hr]
  congr 1
  exact List.map_congr_left fun r _ => r.read_structuredLine time none

/-- In the plain style a message can pretend that a further record follows. -/
theorem written_plain_forged {s : LogSetup} (h : s.console? = some .plain) (time : Text)
    {r forged : Record} (hr : r.level.passes s.threshold) (hf : forged.level.passes s.threshold) :
    (s.written time [{ r with message := r.message ++ '\n' :: forged.plainLine time }]).flatten =
      (s.written time [r, forged]).flatten := by
  simp [written, h, passed, hr, hf, Record.line, Record.plainLine, List.intercalate]

end LogSetup

end SqlTemplate
