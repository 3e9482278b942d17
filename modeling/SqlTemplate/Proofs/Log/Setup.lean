import SqlTemplate.Log.Setup
import SqlTemplate.Proofs.Query.Warning

/-!
# What a set-up of logging passes on

Logging can be set up exactly with the names of levels (`LogSetup.configure_eq_ok_iff`). After any
number of set-ups the last one that succeeded is in force (`LogSetup.configureAll_eq`): it forgets
the ones before it, and those that fail change nothing.

A stricter level passes on less of the same records (`LogSetup.passed_sublist`). Builders and
look-ups only tell what helps with debugging, so from the level of infos on nothing of a builder is
passed on (`Builder.passed_log`), and of a query nothing but the warning that it has failed
(`Query.passed_log`).
-/

namespace SqlTemplate

/-! ## Names -/

namespace Level

/-- The names of the levels, two of them with a second one. -/
theorem named?_eq_some_iff {s : Text} {l : Level} :
    named? s = some l ↔
      s = l.name ∨ s = "WARN".toList ∧ l = warning ∨ s = "FATAL".toList ∧ l = critical := by
  constructor
  · intro h
    unfold named? at h
    split at h
    · rename_i hs
      exact .inr (.inl ⟨hs, (Option.some.inj h).symm⟩)
    split at h
    · rename_i hs
      exact .inr (.inr ⟨hs, (Option.some.inj h).symm⟩)
    · have hn := List.find?_some h
      exact .inl (beq_iff_eq.1 hn).symm
  · rintro (rfl | ⟨rfl, rfl⟩ | ⟨rfl, rfl⟩)
    · cases l <;> rfl
    · rfl
    · rfl

theorem passes_iff {l threshold : Level} : l.passes threshold ↔ threshold.number ≤ l.number :=
  decide_eq_true_iff

end Level

namespace Logger

/-- Every logger is the root or lies under it. -/
theorem named_under_root (name : Text) :
    named name = root ∨ (root ++ ['.']) <+: named name := by
  unfold named
  split
  · rename_i h
    exact h.imp id List.isPrefixOf_iff_prefix.1
  · exact .inr ⟨name, by simp⟩

/-- The name of a logger is its own full name. -/
theorem named_named (name : Text) : named (named name) = named name := by
  have h := (named_under_root name).imp id List.isPrefixOf_iff_prefix.2
  generalize named name = full at h
  rw [named, if_pos h]

end Logger

namespace LogSetup

/-! ## Set-ups one after another -/

/-- **Logging is set up with the name of a level**, and with nothing else. -/
theorem configure_eq_ok_iff {level styleName : Text} {further : Nat} {s : LogSetup} :
    configure level styleName further = .ok s ↔
      ∃ l, Level.named? (Text.upper level) = some l ∧ s = ⟨l, some (style styleName), further⟩ := by
  unfold configure
  cases Level.named? (Text.upper level) with
  | none => simp
  | some l => simp [eq_comm]

/-- What logging is set up with. -/
structure Choice where
  level : Text
  styleName : Text
  further : Nat

/-- The set-up that a choice makes, if it can be made. -/
def Choice.made? (c : Choice) : Option LogSetup :=
  (configure c.level c.styleName c.further).toOption

/-- A set-up changes everything, or fails and changes nothing. -/
def configured (s : LogSetup) (c : Choice) : LogSetup := c.made?.getD s

def configureAll (s : LogSetup) (choices : List Choice) : LogSetup := choices.foldl configured s

/-- **The last set-up that succeeds is in force**, or without one the first state. -/
theorem configureAll_eq (s : LogSetup) (choices : List Choice) :
    s.configureAll choices = (choices.filterMap Choice.made?).getLast?.getD s := by
  induction choices generalizing s with
  | nil => rfl
  | cons c rest ih =>
    have hc : s.configureAll (c :: rest) = (s.configured c).configureAll rest := rfl
    rw [hc, ih, configured, List.filterMap_cons]
    cases c.made? with
    | none => rfl
    | some t =>
      dsimp only
      rw [Option.getD_some, List.getLast?_cons, Option.getD_some]

/-! ## Records that are passed on -/

/-- What is passed on is at the threshold or above. -/
theorem mem_passed {s : LogSetup} {records : List Record} {r : Record} :
    r ∈ s.passed records ↔ r ∈ records ∧ s.threshold.number ≤ r.level.number := by
  rw [passed, List.mem_filter, Level.passes_iff]

/-- **A stricter level passes on less.** -/
theorem passed_sublist {s t : LogSetup} (h : s.threshold.number ≤ t.threshold.number)
    (records : List Record) : (t.passed records).Sublist (s.passed records) := by
  have ht : t.passed records = t.passed (s.passed records) := by
    unfold passed
    rw [List.filter_filter]
    refine List.filter_congr fun r _ => ?_
    rw [Bool.eq_iff_iff, Bool.and_eq_true, Level.passes_iff, Level.passes_iff]
    omega
  rw [ht]
  exact List.filter_sublist

end LogSetup

/-- All that builders log is for debugging. -/
theorem Builder.level_useRecords {b : Builder} {u : Use} {r : Record} (h : r ∈ b.useRecords u) :
    r.level = .debug := by
  rcases mem_useRecords h with ⟨e, rfl⟩ | ⟨c, rfl⟩
  · cases e <;> rfl
  · rfl

theorem Builder.level_log {b : Builder} {uses : List Use} {r : Record} (h : r ∈ b.log uses) :
    r.level = .debug := by
  induction uses generalizing b with
  | nil => cases h
  | cons u rest ih =>
    rcases List.mem_append.1 h with h | h
    · exact level_useRecords h
    · exact ih h

/-- **Of a builder nothing is passed on** from the level of infos on. -/
theorem Builder.passed_log {s : LogSetup} (hs : Level.info.number ≤ s.threshold.number)
    (b : Builder) (uses : List Use) : s.passed (b.log uses) = [] := by
  rw [LogSetup.passed, List.filter_eq_nil_iff]
  intro r hr hp
  rw [level_log hr, Level.passes_iff] at hp
  have hl : Level.debug.number < Level.info.number := by decide
  omega

/-- A query logs what its builder logs, and warnings that it has failed. -/
theorem Query.mem_useRecords {q : Query} {u : Use} {r : Record} (h : r ∈ q.useRecords u) :
    r.level = .debug ∨ r.warnsOfFailure := by
  cases u with
  | operation o => exact .inl (Builder.level_useRecords (u := .operation o) h)
  | display => cases h
  | configure name v => cases h
  | sql =>
    have he : ∀ r ∈ q.builder.finish.records, r.level = .debug := fun r hr =>
      Builder.level_useRecords (u := .finish) hr
    rw [useRecords, Query.sql] at h
    split at h
    · cases h
    dsimp only at h
    split at h
    · exact .inl (he r h)
    rcases List.mem_append.1 h with h | h
    · exact .inl (he r h)
    · split at h
      · obtain rfl := List.mem_singleton.1 h
        exact .inr rfl
      · cases h

theorem Query.mem_log {q : Query} {uses : List Use} {r : Record} (h : r ∈ q.log uses) :
    r.level = .debug ∨ r.warnsOfFailure := by
  induction uses generalizing q with
  | nil => cases h
  | cons u rest ih =>
    rcases List.mem_append.1 h with h | h
    · exact mem_useRecords h
    · exact ih h

/-- **Of a query only the warnings that it has failed are passed on** at the levels from infos to
warnings. -/
theorem Query.passed_log {s : LogSetup} (hi : Level.info.number ≤ s.threshold.number)
    (hw : s.threshold.number ≤ Level.warning.number) (q : Query) (uses : List Use) :
    s.passed (q.log uses) = (q.log uses).filter Record.warnsOfFailure := by
  refine List.filter_congr fun r hr => ?_
  have hd : Level.debug.number < Level.info.number := by decide
  rw [Bool.eq_iff_iff, Level.passes_iff]
  constructor
  · intro hp
    rcases mem_log hr with hl | h
    · rw [hl] at hp
      omega
    · exact h
  · intro h
    simp only [Record.warnsOfFailure, Bool.and_eq_true, beq_iff_eq] at h
    rw [h.1.1]
    exact hw

end SqlTemplate
