import SqlTemplate.Text.Replace

/-!
# Replacing, step by step

`Replaced pat sub s t` says that `t` comes of `s` by going through it from left to right: where the
pattern is found the substitute is put and the search goes on behind it, and any other character is
kept. It leaves out the count of characters to be passed over, and `replace` follows it for every
pattern but the empty one (`replaced_replace`), which is put before each character and at the end
(`interleave_inj`).
-/

namespace SqlTemplate.Text

/-- The second text is the first one with the occurrences of the pattern replaced. -/
inductive Replaced (pat sub : Text) : Text → Text → Prop
  | nil : Replaced pat sub [] []
  | found {s t : Text} : Replaced pat sub s t → Replaced pat sub (pat ++ s) (sub ++ t)
  | kept {c : Char} {s t : Text} :
      ¬ pat <+: c :: s → Replaced pat sub s t → Replaced pat sub (c :: s) (c :: t)

theorem replaceFrom_skip (pat sub : Text) : ∀ (n : Nat) (s : Text),
    replaceFrom pat sub n s = replaceFrom pat sub 0 (s.drop n)
  | 0, _ => rfl
  | _ + 1, [] => rfl
  | n + 1, _ :: s => replaceFrom_skip pat sub n s

theorem replaceFrom_append {pat : Text} (hp : pat ≠ []) (sub s : Text) :
    replaceFrom pat sub 0 (pat ++ s) = sub ++ replaceFrom pat sub 0 s := by
  obtain ⟨c, rest, rfl⟩ := List.exists_cons_of_ne_nil hp
  have hm : (c :: rest).isPrefixOf (c :: (rest ++ s)) = true :=
    List.isPrefixOf_iff_prefix.2 (List.prefix_append (c :: rest) s)
  rw [List.cons_append, replaceFrom, if_pos hm, replaceFrom_skip, List.length_cons,
    Nat.add_sub_cancel, List.drop_left]

theorem replaceFrom_cons {pat : Text} (sub : Text) {c : Char} {s : Text} (h : ¬ pat <+: c :: s) :
    replaceFrom pat sub 0 (c :: s) = c :: replaceFrom pat sub 0 s := by
  rw [replaceFrom, if_neg]
  rwa [List.isPrefixOf_iff_prefix]

theorem replaced_replaceFrom {pat : Text} (hp : pat ≠ []) (sub s : Text) :
    Replaced pat sub s (replaceFrom pat sub 0 s) := by
  by_cases hm : pat <+: s
  · obtain ⟨rest, rfl⟩ := hm
    have hl : rest.length < (pat ++ rest).length := by
      have := List.length_pos_iff.2 hp
      simp only [List.length_append]
      omega
    rw [replaceFrom_append hp]
    exact .found (replaced_replaceFrom hp sub rest)
  · cases s with
    | nil => exact .nil
    | cons c s =>
      rw [replaceFrom_cons sub hm]
      exact .kept hm (replaced_replaceFrom hp sub s)
termination_by s.length

/-- Replacing a nonempty pattern relates a text to its replacement. -/
theorem replaced_replace {pat : Text} (hp : pat ≠ []) (sub s : Text) :
    Replaced pat sub s (replace pat sub s) := by
  rw [replace, if_neg (by simpa using hp)]
  exact replaced_replaceFrom hp sub s

/-- What was put between the characters can be taken out again. -/
theorem interleave_inj {sub s t : Text} : interleave sub s = interleave sub t ↔ s = t := by
  refine ⟨fun h => ?_, congrArg _⟩
  induction s generalizing t with
  | nil =>
    cases t with
    | nil => rfl
    | cons d t => simp [interleave] at h
  | cons c s ih =>
    cases t with
    | nil => simp [interleave] at h
    | cons d t =>
      obtain ⟨rfl, hs⟩ := List.cons.inj (List.append_cancel_left h)
      rw [ih hs]

end SqlTemplate.Text
