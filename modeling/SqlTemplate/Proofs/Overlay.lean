import SqlTemplate.Overlay

/-!
# What is left after an overlay

Of several new entries with one name the last one counts (`latest`). An overlay holds these, and of
the entries before it those that no new one goes by the name of (`mem_overlay`). The names of the
entries before come first (`names_prefix_overlay`), and no name comes twice
(`nodup_names_overlay`).
-/

namespace SqlTemplate

variable {α : Type} {name : α → Text}

/-- The entries that no later one of the same name replaces. -/
def latest (name : α → Text) : List α → List α
  | [] => []
  | entry :: rest =>
    if rest.any (name · == name entry) then latest name rest else entry :: latest name rest

/-- An entry put over others takes the place of those with its name. -/
theorem mem_overlayOne {kept : List α} {new entry : α} :
    entry ∈ overlayOne name kept new ↔ entry = new ∨ entry ∈ kept ∧ name new ≠ name entry := by
  unfold overlayOne
  split
  · rename_i h
    obtain ⟨old, ho, hn⟩ := List.any_eq_true.1 h
    rw [List.mem_map]
    constructor
    · rintro ⟨old, ho, rfl⟩
      split
      · exact .inl rfl
      · rename_i hne
        exact .inr ⟨ho, fun e => hne (beq_iff_eq.2 e.symm)⟩
    · rintro (rfl | ⟨he, hne⟩)
      · exact ⟨old, ho, if_pos hn⟩
      · refine ⟨entry, he, if_neg ?_⟩
        intro e
        exact hne (beq_iff_eq.1 e).symm
  · rename_i h
    rw [List.mem_append, List.mem_singleton]
    constructor
    · rintro (he | rfl)
      · refine .inr ⟨he, fun e => h ?_⟩
        exact List.any_eq_true.2 ⟨entry, he, beq_iff_eq.2 e.symm⟩
      · exact .inl rfl
    · rintro (rfl | ⟨he, -⟩)
      · exact .inr rfl
      · exact .inl he

theorem mem_latest_cons {new entry : α} {rest : List α} :
    entry ∈ latest name (new :: rest) ↔
      entry ∈ latest name rest ∨ entry = new ∧ ∀ later ∈ rest, name later ≠ name new := by
  rw [latest]
  split
  · rename_i h
    obtain ⟨later, hl, hn⟩ := List.any_eq_true.1 h
    refine ⟨.inl, ?_⟩
    rintro (he | ⟨-, hne⟩)
    · exact he
    · exact absurd (beq_iff_eq.1 hn) (hne later hl)
  · rename_i h
    have hne : ∀ later ∈ rest, name later ≠ name new := by
      intro later hl hn
      exact h (List.any_eq_true.2 ⟨later, hl, beq_iff_eq.2 hn⟩)
    rw [List.mem_cons, or_comm]
    exact or_congr_right ⟨fun e => ⟨e, hne⟩, And.left⟩

/-- An overlay holds the latest new entries, and the old ones under other names. -/
theorem mem_overlay {base new : List α} {entry : α} :
    entry ∈ overlay name base new ↔
      entry ∈ latest name new ∨ entry ∈ base ∧ ∀ n ∈ new, name n ≠ name entry := by
  induction new generalizing base with
  | nil => simp [overlay, latest]
  | cons n rest ih =>
    have ho : overlay name base (n :: rest) = overlay name (overlayOne name base n) rest := rfl
    rw [ho, ih, mem_overlayOne, mem_latest_cons, List.forall_mem_cons, or_assoc]
    refine or_congr_right ?_
    constructor
    · rintro ⟨rfl | ⟨he, hn⟩, hr⟩
      · exact .inl ⟨rfl, hr⟩
      · exact .inr ⟨he, hn, hr⟩
    · rintro (⟨rfl, hr⟩ | ⟨he, hn, hr⟩)
      · exact ⟨.inl rfl, hr⟩
      · exact ⟨.inr ⟨he, hn⟩, hr⟩

/-- A name that is used counts with its last entry. -/
theorem exists_mem_latest {entries : List α} {entry : α} (h : entry ∈ entries) :
    ∃ last ∈ latest name entries, name last = name entry := by
  induction entries generalizing entry with
  | nil => cases h
  | cons first rest ih =>
    have later : ∀ entry ∈ rest, ∃ last ∈ latest name (first :: rest), name last = name entry := by
      intro entry he
      obtain ⟨last, hm, hn⟩ := ih he
      exact ⟨last, mem_latest_cons.2 (.inl hm), hn⟩
    rcases List.mem_cons.1 h with rfl | h
    · by_cases hl : ∃ next ∈ rest, name next = name entry
      · obtain ⟨next, hm, hn⟩ := hl
        exact hn ▸ later next hm
      · have hne : ∀ next ∈ rest, name next ≠ name entry := fun next hm hn => hl ⟨next, hm, hn⟩
        exact ⟨entry, mem_latest_cons.2 (.inr ⟨rfl, hne⟩), rfl⟩
    · exact later entry h

/-- The names of an overlay are those of both its parts. -/
theorem mem_names_overlay {base new : List α} {entry : α} (h : entry ∈ new) :
    name entry ∈ (overlay name base new).map name := by
  obtain ⟨last, hm, hn⟩ : ∃ last ∈ latest name new, name last = name entry := exists_mem_latest h
  exact List.mem_map.2 ⟨last, mem_overlay.2 (.inl hm), hn⟩

/-- Renaming entries does not change which are the latest. -/
theorem latest_map {β : Type} {key : β → Text} (f : α → β) (entries : List α) :
    latest key (entries.map f) = (latest (fun entry => key (f entry)) entries).map f := by
  induction entries with
  | nil => rfl
  | cons entry rest ih =>
    simp only [List.map_cons, latest, List.any_map, Function.comp_def, ih]
    split
    · rfl
    · rfl

/-! ## Names in order -/

/-- An entry whose name is used leaves the names as they are, another adds its own at the end. -/
theorem names_overlayOne (kept : List α) (new : α) :
    (overlayOne name kept new).map name =
      if name new ∈ kept.map name then kept.map name else kept.map name ++ [name new] := by
  have hm : name new ∈ kept.map name ↔ kept.any (name · == name new) = true := by simp
  unfold overlayOne
  split
  · rename_i h
    rw [if_pos (hm.2 h), List.map_map]
    refine List.map_congr_left fun old _ => ?_
    rw [Function.comp_apply]
    split
    · rename_i he
      exact (beq_iff_eq.1 he).symm
    · rfl
  · rename_i h
    rw [if_neg (h ∘ hm.1), List.map_append, List.map_singleton]

/-- The names of the entries before come first, in their order. -/
theorem names_prefix_overlay (base new : List α) :
    base.map name <+: (overlay name base new).map name := by
  induction new generalizing base with
  | nil => exact List.prefix_rfl
  | cons n rest ih =>
    refine List.IsPrefix.trans ?_ (ih (overlayOne name base n))
    rw [names_overlayOne]
    split
    · exact List.prefix_rfl
    · exact List.prefix_append _ _

/-- An overlay of entries with different names has each name once. -/
theorem nodup_names_overlay {base : List α} (h : (base.map name).Nodup) (new : List α) :
    ((overlay name base new).map name).Nodup := by
  induction new generalizing base with
  | nil => exact h
  | cons n rest ih =>
    refine ih ?_
    rw [names_overlayOne]
    split
    · exact h
    · rename_i hn
      refine List.nodup_append.2 ⟨h, by simp, ?_⟩
      rintro a ha b hb rfl
      exact hn (List.mem_singleton.1 hb ▸ ha)

end SqlTemplate
