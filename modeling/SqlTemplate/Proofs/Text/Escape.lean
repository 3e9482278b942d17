import SqlTemplate.Text.Quoted

/-!
# Escaping character by character

Where the quote is a single character other than the backslash, the two replacements that escape a
text come to one pass over its characters (`escape_single`): a backslash is doubled, the quote gets
a backslash, every other character stays.
-/

namespace SqlTemplate.Text

theorem replaceFrom_single (p : Char) (sub s : Text) :
    replaceFrom [p] sub 0 s = s.flatMap fun c => if c = p then sub else [c] := by
  induction s with
  | nil => rfl
  | cons c s ih =>
    by_cases hc : c = p
    · subst hc
      simp [replaceFrom, ih]
    · simp [replaceFrom, ih, hc, Ne.symm hc]

theorem replace_single (p : Char) (sub s : Text) :
    replace [p] sub s = s.flatMap fun c => if c = p then sub else [c] := by
  rw [replace, replaceFrom_single]
  rfl

/-- One character of a text quoted between two `q`s. -/
def escapeChar (q c : Char) : Text :=
  if c = '\\' then ['\\', '\\'] else if c = q then ['\\', q] else [c]

theorem escape_single {q : Char} (hq : q ≠ '\\') (s : Text) :
    escape [q] s = s.flatMap (escapeChar q) := by
  rw [escape, replace_single, replace_single, List.flatMap_assoc]
  congr 1
  funext c
  by_cases hc : c = '\\'
  · subst hc
    simp [escapeChar, hq.symm]
  · simp [escapeChar, hc]

/-- A text without the quote and without backslashes stays as it is. -/
theorem escape_of_not_mem {q : Char} (hq : q ≠ '\\') {s : Text} (hs : q ∉ s) (hb : '\\' ∉ s) :
    escape [q] s = s := by
  rw [escape_single hq]
  induction s with
  | nil => rfl
  | cons c s ih =>
    rw [List.mem_cons, not_or] at hs hb
    rw [List.flatMap_cons, ih hs.2 hb.2, escapeChar, if_neg (Ne.symm hb.1), if_neg (Ne.symm hs.1)]
    rfl

end SqlTemplate.Text
