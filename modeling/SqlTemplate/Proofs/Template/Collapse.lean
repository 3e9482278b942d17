import SqlTemplate.Proofs.Query.Shown
import SqlTemplate.Proofs.Template.Canonical
import SqlTemplate.Proofs.Text.Replace

/-!
# The display of an untouched template

A builder that has just been made shows its template, each doubled question mark collapsed into one.
Parsing cuts the template up, takes in whole words and merges what lies between the slots; replacing
goes through it once from left to right. Both pair the question marks alike, whatever is put for a
pair (`Template.replace_marks_eq`): a single question mark in its place gives the display, and
nothing in its place leaves the question marks of the slots alone, so that they can be counted
(`length_slots_parse`).
-/

namespace SqlTemplate

/-- The text of a segment with `sub` for each question mark that stands for itself. -/
def Segment.textWith (sub : Text) : Segment → Text
  | literal text => text.flatMap fun c => if c = '?' then sub else [c]
  | slot => slot.text

/-! ## Replacing doubled question marks -/

namespace Text

theorem replace_marks_cons (sub rest : Text) :
    replace "??".toList sub ('?' :: '?' :: rest) = sub ++ replace "??".toList sub rest :=
  replaceFrom_append (by decide) sub rest

theorem replace_marks_lone (sub : Text) {rest : Text} (h : ¬ "?".toList <+: rest) :
    replace "??".toList sub ('?' :: rest) = '?' :: replace "??".toList sub rest := by
  refine replaceFrom_cons sub ?_
  intro hp
  exact h (List.cons_prefix_cons.1 hp).2

/-- Other characters stay. -/
theorem replace_marks_other (sub : Text) {c : Char} (hc : c ≠ '?') (rest : Text) :
    replace "??".toList sub (c :: rest) = c :: replace "??".toList sub rest := by
  refine replaceFrom_cons sub ?_
  intro hp
  exact hc (List.cons_prefix_cons.1 hp).1.symm

theorem replace_marks_append (sub : Text) {word : Text} (hw : '?' ∉ word) (rest : Text) :
    replace "??".toList sub (word ++ rest) = word ++ replace "??".toList sub rest := by
  induction word with
  | nil => rfl
  | cons c word ih =>
    obtain ⟨hc, hw⟩ := List.ne_and_not_mem_of_not_mem_cons hw
    rw [List.cons_append, replace_marks_other sub hc.symm, ih hw]
    rfl

end Text

namespace Template

open Segment

theorem flatMap_prepend (sub : Text) (c : Char) (segments : List Segment) :
    (prepend c segments).flatMap (textWith sub) =
      (if c = '?' then sub else [c]) ++ segments.flatMap (textWith sub) := by
  unfold prepend
  split
  · simp only [List.flatMap_cons, textWith, List.append_assoc]
  · simp only [List.flatMap_cons, textWith, List.flatMap_nil, List.append_nil]

/-- **Replacing and parsing pair question marks alike**, whatever is put for a pair. -/
theorem replace_marks_eq (sub t : Text) :
    Text.replace "??".toList sub t = (parse t).flatMap (textWith sub) := by
  fun_induction parse t with
  | case1 => rfl
  | case2 rest ih => rw [flatMap_prepend, if_pos rfl, ← ih, Text.replace_marks_cons]
  | case3 rest ih =>
    -- behind its question mark the word of a slot for columns is passed over whole
    have hl : ¬ "?".toList <+: "fields".toList ++ rest := by simp
    have hw : '?' ∉ "fields".toList := by decide
    have hm := Text.replace_marks_lone sub hl
    rw [Text.replace_marks_append sub hw, ih] at hm
    exact hm
  | case4 rest hm hf ih =>
    have hl : ¬ "?".toList <+: rest := by
      rintro ⟨r, rfl⟩
      exact hm r rfl
    rw [Text.replace_marks_lone sub hl, ih]
    rfl
  | case5 c rest _ _ hc ih =>
    rw [flatMap_prepend, if_neg hc, ← ih, Text.replace_marks_other sub hc]
    rfl

theorem textWith_mark : textWith "?".toList = Segment.text := by
  funext s
  cases s with
  | literal text =>
    have hc : (fun c : Char => if c = '?' then "?".toList else [c]) = fun c => [c] := by
      funext c
      split
      · rename_i h
        rw [h]
        rfl
      · rfl
    rw [textWith, hc]
    exact List.flatMap_singleton' text
  | argument => rfl
  | fields => rfl

/-- Displaying a template collapses its doubled marks, from left to right. -/
theorem display_parse (t : Text) :
    display (parse t) = Text.replace "??".toList "?".toList t := by
  rw [replace_marks_eq, textWith_mark]
  rfl

/-- With nothing put for its own question marks, a segment has one if it is a slot. -/
theorem count_textWith_nil (s : Segment) :
    (textWith [] s).count '?' = if s.isSlot then 1 else 0 := by
  cases s with
  | literal text =>
    refine List.count_eq_zero.2 ?_
    intro hm
    obtain ⟨c, -, hc⟩ := List.mem_flatMap.1 hm
    split at hc
    · cases hc
    · rename_i hne
      exact hne (List.mem_singleton.1 hc).symm
  | argument => rfl
  | fields => rfl

/-- There are as many slots as question marks are left without the doubled ones. -/
theorem length_slots_parse (t : Text) :
    (slots (parse t)).length = (Text.replace "??".toList [] t).count '?' := by
  rw [replace_marks_eq]
  induction parse t with
  | nil => rfl
  | cons s rest ih =>
    rw [List.flatMap_cons, List.count_append, count_textWith_nil, ← ih, slots, List.filter_cons]
    split
    · rw [List.length_cons, Nat.add_comm]
      rfl
    · rw [Nat.zero_add]
      rfl

end Template

namespace Builder

/-- **The display of an untouched template collapses its escapes**, and does nothing else: it is the
template with each doubled question mark replaced by one, from left to right. The end of the work
gives this text as the statement, and no other one, if and only if there is no slot; and there are
as many slots as question marks are left once the doubled ones are taken out. -/
theorem display_ofTemplate (t : Text) :
    let b := ofTemplate t
    let collapsed := Text.replace "??".toList "?".toList t
    b.display = collapsed ∧
      (∀ sql, b.finish.result = .ok sql ↔
        Template.slots (Template.parse t) = [] ∧ sql = collapsed) ∧
      (Template.slots (Template.parse t)).length = (Text.replace "??".toList [] t).count '?' := by
  intro b collapsed
  have hd : b.display = collapsed := (List.append_nil _).trans (Template.display_parse t)
  have he := endsAsShown (b := b) rfl rfl
  refine ⟨hd, ?_, Template.length_slots_parse t⟩
  intro sql
  constructor
  · intro hs
    exact ⟨he.statement_iff.1 ⟨sql, hs⟩, (he.statement sql hs).1.symm.trans hd⟩
  · rintro ⟨hn, rfl⟩
    obtain ⟨sql, hs⟩ := he.statement_iff.2 hn
    rw [hs, ← (he.statement sql hs).1, hd]

/-- A run of question marks is paired from the left, and the word for columns keeps its mark. -/
example : (ofTemplate "a???fields???".toList).display = "a??fields??".toList := by decide

end Builder

end SqlTemplate
