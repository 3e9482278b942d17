import SqlTemplate.Proofs.Literal.Spelling
import SqlTemplate.Proofs.Text.Quoted
import SqlTemplate.Row.Lookup

/-!
# Reading lists of identifiers

`readIdentifiers?` reads a text as identifiers between backticks with commas between them. Whatever
the names are, the joined text of columns is read as these columns again (`readIdentifiers?_join`):
the empty text stands for no column at all, and a single empty name is told from it by its two
backticks.
-/

namespace SqlTemplate

namespace Text

theorem takeContent?_length {q : Char} {s t rest : Text} (h : takeContent? q s = some (t, rest)) :
    rest.length < s.length := by
  fun_induction takeContent? q s generalizing t rest with
  | case1 => cases h
  | case2 c s ih =>
    obtain ⟨r, hr, e⟩ := Option.map_eq_some_iff.1 h
    have := ih hr
    grind
  | case3 => grind
  | case4 c s _ _ ih =>
    obtain ⟨r, hr, e⟩ := Option.map_eq_some_iff.1 h
    have := ih hr
    grind

theorem takeQuoted?_length {q : Char} {s t rest : Text} (h : takeQuoted? q s = some (t, rest)) :
    rest.length < s.length := by
  cases s with
  | nil => cases h
  | cons c s =>
    by_cases hc : c = q
    · rw [takeQuoted?, if_pos hc] at h
      have := takeContent?_length h
      rw [List.length_cons]
      omega
    · rw [takeQuoted?, if_neg hc] at h
      cases h

/-- A quoted identifier is taken off the front of a text. -/
theorem takeQuoted?_identifier (s rest : Text) :
    takeQuoted? '`' (quotedIdentifier s ++ rest) = some (s, rest) := by
  have he : quotedIdentifier s ++ rest = '`' :: (escape ['`'] s ++ '`' :: rest) := by
    simp [quotedIdentifier, quoted, backtick]
  rw [he, takeQuoted?, if_pos rfl]
  exact takeContent?_escape (by decide) s rest

/-- Reads at least one identifier, and further ones behind commas up to the end of the text. -/
def readMoreIdentifiers? (s : Text) : Option (List Text) :=
  match h : takeQuoted? '`' s with
  | some (name, []) => some [name]
  | some (name, c :: rest) =>
    have : rest.length < s.length := by
      have := takeQuoted?_length h
      rw [List.length_cons] at this
      omega
    if c = ',' then (readMoreIdentifiers? rest).map (name :: ·) else none
  | none => none
termination_by s.length

/-- Reads identifiers with commas between them up to the end of the text. -/
def readIdentifiers? : Text → Option (List Text)
  | [] => some []
  | c :: s => readMoreIdentifiers? (c :: s)

theorem readMoreIdentifiers?_last {s name : Text} (h : takeQuoted? '`' s = some (name, [])) :
    readMoreIdentifiers? s = some [name] := by
  rw [readMoreIdentifiers?]
  split
  · simp_all
  · simp_all
  · simp_all

theorem readMoreIdentifiers?_cons {s name rest : Text}
    (h : takeQuoted? '`' s = some (name, ',' :: rest)) :
    readMoreIdentifiers? s = (readMoreIdentifiers? rest).map (name :: ·) := by
  rw [readMoreIdentifiers?]
  split
  · simp_all
  · simp_all
  · simp_all

end Text

namespace Rows

open Text

/-- Joined names are read back, if there are any. -/
theorem readMoreIdentifiers?_join : ∀ {columns : List Text}, columns ≠ [] →
    readMoreIdentifiers? (join columns) = some columns
  | [name], _ => by
    rw [join, List.map_singleton, Literal.commaJoined_singleton]
    apply readMoreIdentifiers?_last
    have h := takeQuoted?_identifier name []
    rwa [List.append_nil] at h
  | name :: next :: rest, _ => by
    have ih := readMoreIdentifiers?_join (List.cons_ne_nil next rest)
    rw [join, List.map_cons, List.map_cons, Literal.commaJoined_cons_cons, ← List.map_cons,
      readMoreIdentifiers?_cons (takeQuoted?_identifier name _)]
    exact congrArg (Option.map (name :: ·)) ih

/-- **The joined text of columns is read as the columns**, whatever their names are. -/
theorem readIdentifiers?_join (columns : List Text) :
    readIdentifiers? (join columns) = some columns := by
  cases columns with
  | nil => rfl
  | cons name rest =>
    have h := readMoreIdentifiers?_join (List.cons_ne_nil name rest)
    obtain ⟨c, s, hs⟩ : ∃ c s, join (name :: rest) = c :: s := by
      apply List.exists_cons_of_ne_nil
      cases rest with
      | nil => simp [join, quotedIdentifier, quoted, backtick]
      | cons next rest => simp [join, Literal.commaJoined_cons_cons]
    rw [hs] at h ⊢
    exact h

/-- Different columns are joined to different texts. -/
theorem join_inj {columns columns' : List Text} :
    join columns = join columns' ↔ columns = columns' := by
  refine ⟨fun h => ?_, congrArg join⟩
  have hr := readIdentifiers?_join columns
  rw [h, readIdentifiers?_join] at hr
  exact (Option.some.inj hr).symm

end Rows

end SqlTemplate
