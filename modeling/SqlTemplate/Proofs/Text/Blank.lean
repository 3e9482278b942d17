import Mathlib.Data.List.DropRight
import SqlTemplate.Text.Blank

/-!
# What stripping changes

A text that does not begin with a blank is changed by stripping exactly where it ends with one
(`strip_ne_self_iff`). Whether it does is decided by its end alone (`blankAtEnd_append`).
-/

namespace SqlTemplate.Text

/-- The text is empty or ends with a blank. -/
def BlankAtEnd (s : Text) : Prop := s.getLast?.all isBlank = true

instance (s : Text) : Decidable (BlankAtEnd s) :=
  inferInstanceAs (Decidable (s.getLast?.all isBlank = true))

theorem blankAtEnd_append_of_ne_nil (s : Text) {t : Text} (ht : t ≠ []) :
    BlankAtEnd (s ++ t) ↔ BlankAtEnd t := by
  rw [BlankAtEnd, BlankAtEnd, List.getLast?_append_of_ne_nil s ht]

theorem blankAtEnd_append {s : Text} (hs : BlankAtEnd s) (t : Text) :
    BlankAtEnd (s ++ t) ↔ BlankAtEnd t := by
  cases t with
  | nil =>
    rw [List.append_nil]
    exact iff_of_true hs rfl
  | cons c rest => exact blankAtEnd_append_of_ne_nil s (List.cons_ne_nil c rest)

theorem strip_eq_rdropWhile {c : Char} (hc : isBlank c = false) (rest : Text) :
    strip (c :: rest) = (c :: rest).rdropWhile isBlank := by
  have hd : stripStart (c :: rest) = c :: rest :=
    List.dropWhile_cons_of_neg (Bool.eq_false_iff.1 hc)
  rw [strip, hd]
  rfl

/-- A text that does not begin with a blank is changed exactly if it ends in one. -/
theorem strip_ne_self_iff {c : Char} (hc : isBlank c = false) (rest : Text) :
    strip (c :: rest) ≠ c :: rest ↔ BlankAtEnd (c :: rest) := by
  have hl : (c :: rest).getLast? = some ((c :: rest).getLast (List.cons_ne_nil c rest)) :=
    List.getLast?_eq_some_getLast _
  rw [strip_eq_rdropWhile hc, ne_eq, List.rdropWhile_eq_self_iff, BlankAtEnd, hl]
  simp

end SqlTemplate.Text
