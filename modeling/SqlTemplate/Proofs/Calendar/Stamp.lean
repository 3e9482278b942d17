import SqlTemplate.Proofs.Calendar.Civil
import SqlTemplate.Proofs.Text.Quoted

/-!
# Reading civil times

`Civil.read?` reads a date and a time of day with a blank between them, `YYYY-MM-DD HH:MM:SS` and
nothing else: every number has its fixed width, and a fraction of a second has six digits and is not
zero. It gives back each civil time of the calendar (`Civil.read?_toText`). The text of a civil time
has digits and separators only (`Civil.not_mem_toText`), so that it stands between apostrophes as it
is (`Civil.quotedString_toText`).
-/

namespace SqlTemplate

/-! ## Numbers of fixed width -/

namespace Text

/-- Reads a number of the given width off the front: the number and the rest. -/
def readDigits? (width : Nat) (s : Text) : Option (Nat × Text) :=
  if (s.take width).length = width ∧ (s.take width).all Char.isDigit then
    some (Nat.ofDigitChars 10 (s.take width) 0, s.drop width)
  else none

/-- The rest behind a character that stands at the front. -/
def behind? (c : Char) : Text → Option Text
  | [] => none
  | d :: s => if d = c then some s else none

theorem behind?_cons (c : Char) (s : Text) : behind? c (c :: s) = some s := if_pos rfl

/-- A number that fits is padded to the width. -/
theorem length_padded {width n : Nat} (hw : 0 < width) (h : n < Nat.pow 10 width) :
    (padded 10 width n).length = width := by
  have hd : (Nat.toDigits 10 n).length ≤ width :=
    (Nat.length_toDigits_le_iff (by decide) hw).2 h
  rw [padded, List.length_append, List.length_replicate]
  omega

/-- It is made of digits. -/
theorem isDigit_padded {width n : Nat} {c : Char} (hc : c ∈ padded 10 width n) :
    c.isDigit = true := by
  rcases List.mem_append.1 hc with hc | hc
  · rw [List.eq_of_mem_replicate hc]
    rfl
  · exact Nat.isDigit_of_mem_toDigits (by decide) (by decide) hc

theorem not_mem_padded {width n : Nat} {c : Char} (h : c.isDigit = false) :
    c ∉ padded 10 width n := fun hc => by
  rw [isDigit_padded hc] at h
  cases h

/-- It is read back from them. -/
theorem ofDigitChars_padded (width n : Nat) : Nat.ofDigitChars 10 (padded 10 width n) 0 = n := by
  have hz : ∀ k, Nat.ofDigitChars 10 (List.replicate k '0') 0 = 0 := by
    intro k
    induction k with
    | zero => rfl
    | succ k ih => exact ih
  rw [padded, Nat.ofDigitChars_append, hz]
  exact Nat.ofDigitChars_toDigits (by decide) (by decide)

/-- A number that fits into the width is read back. -/
theorem readDigits?_padded {width n : Nat} (hw : 0 < width) (h : n < Nat.pow 10 width)
    (rest : Text) :
    readDigits? width (padded 10 width n ++ rest) = some (n, rest) := by
  have hl := length_padded hw h
  have hall : (padded 10 width n).all Char.isDigit = true :=
    List.all_eq_true.2 fun c hc => isDigit_padded hc
  rw [readDigits?, List.take_left' hl, List.drop_left' hl, if_pos ⟨hl, hall⟩, ofDigitChars_padded]

end Text

/-! ## Dates and times of day -/

open Text (readDigits? behind?)

namespace Date

theorem monthLength_le (d : Date) : d.monthLength ≤ 31 := by
  have hall : ∀ length ∈ monthLengths d.year, length ≤ 31 := by
    unfold monthLengths
    cases isLeap d.year <;> decide
  rw [monthLength, List.getD_eq_getElem?_getD]
  cases hl : (monthLengths d.year)[d.month - 1]? with
  | none => exact Nat.zero_le _
  | some length => exact hall length (List.mem_of_getElem? hl)

/-- Reads `YYYY-MM-DD` off the front: the date and the rest. -/
def read? (s : Text) : Option (Date × Text) := do
  let (year, s) ← readDigits? 4 s
  let (month, s) ← readDigits? 2 (← behind? '-' s)
  let (day, s) ← readDigits? 2 (← behind? '-' s)
  return (⟨year, month, day⟩, s)

/-- A date is read back from its text, whatever follows. -/
theorem read?_toText {d : Date} (h : d.Valid) (rest : Text) :
    read? (d.toText ++ rest) = some (d, rest) := by
  have hy : d.year < Nat.pow 10 4 := Nat.lt_of_le_of_lt h.year_le (by decide)
  have hm : d.month < Nat.pow 10 2 := Nat.lt_of_le_of_lt h.month_le (by decide)
  have hd : d.day < Nat.pow 10 2 :=
    Nat.lt_of_le_of_lt (Nat.le_trans h.day_le d.monthLength_le) (by decide)
  simp only [read?, toText, List.append_assoc, List.cons_append, Text.behind?_cons,
    Text.readDigits?_padded (by decide) hy, Text.readDigits?_padded (by decide) hm,
    Text.readDigits?_padded (by decide) hd, bind, Option.bind, pure]

end Date

namespace Clock

/-- Reads a fraction of a second, as microseconds: nothing, or a point and six digits that are not
all nought. -/
def readFraction? : Text → Option Nat
  | [] => some 0
  | c :: s => do
    let (micro, rest) ← readDigits? 6 (← behind? '.' (c :: s))
    if rest = [] ∧ micro ≠ 0 then some micro else none

/-- Reads `HH:MM:SS` and a fraction, to the end. -/
def read? (s : Text) : Option Clock := do
  let (hour, s) ← readDigits? 2 s
  let (minute, s) ← readDigits? 2 (← behind? ':' s)
  let (second, s) ← readDigits? 2 (← behind? ':' s)
  let micro ← readFraction? s
  return ⟨hour, minute, second, micro⟩

/-- The fraction of a second is read back, nought from no text at all. -/
theorem readFraction?_fractionText {micro : Nat} (h : micro < 1000000) :
    readFraction? (fractionText micro) = some micro := by
  unfold fractionText
  split
  · rename_i hz
    rw [hz]
    rfl
  · rename_i hz
    have hr : readDigits? 6 (Text.padded 10 6 micro) = some (micro, []) := by
      simpa using Text.readDigits?_padded (by decide) h []
    simp [readFraction?, Text.behind?_cons, hr, hz]

theorem read?_toText {c : Clock} (h : c.Valid) : read? c.toText = some c := by
  have hh : c.hour < Nat.pow 10 2 := Nat.lt_trans h.hour_lt (by decide)
  have hm : c.minute < Nat.pow 10 2 := Nat.lt_trans h.minute_lt (by decide)
  have hs : c.second < Nat.pow 10 2 := Nat.lt_trans h.second_lt (by decide)
  simp only [read?, toText, List.append_assoc, List.cons_append, Text.behind?_cons,
    Text.readDigits?_padded (by decide) hh, Text.readDigits?_padded (by decide) hm,
    Text.readDigits?_padded (by decide) hs, readFraction?_fractionText h.micro_lt, bind,
    Option.bind, pure]

end Clock

/-! ## Civil times -/

namespace Civil

/-- Reads `YYYY-MM-DD HH:MM:SS` and a fraction, to the end. -/
def read? (s : Text) : Option Civil := do
  let (date, s) ← Date.read? s
  let clock ← Clock.read? (← behind? ' ' s)
  return ⟨date, clock⟩

/-- Reads a civil time between apostrophes. -/
def readQuoted? (s : Text) : Option Civil := do
  let (content, rest) ← Text.takeQuoted? '\'' s
  if rest = [] then read? content else none

/-- **A civil time of the calendar is read back.** -/
theorem read?_toText {c : Civil} (h : c.Valid) : read? (c.toText ' ') = some c := by
  simp only [read?, toText, Date.read?_toText h.date, Text.behind?_cons,
    Clock.read?_toText h.clock, bind, Option.bind, pure]

/-- A civil time is read back from between quotes. -/
theorem readQuoted?_quotedString {c : Civil} (h : c.Valid) :
    readQuoted? (Text.quotedString (c.toText ' ')) = some c := by
  have hq : Text.takeQuoted? '\'' (Text.quotedString (c.toText ' ')) =
      some (c.toText ' ', []) := by
    simpa [Text.quotedString, Text.quoted, Text.apostrophe, Text.takeQuoted?] using
      Text.takeContent?_escape (q := '\'') (by decide) (c.toText ' ') []
  simp only [readQuoted?, hq, bind, Option.bind, if_true, read?_toText h]

/-! ## Digits and separators -/

/-- The text of a civil time has digits and separators only. -/
theorem not_mem_toText {c : Char} (hd : c.isDigit = false) (hs : c ∉ ['-', ' ', ':', '.'])
    (t : Civil) : c ∉ t.toText ' ' := by
  have hp : ∀ width n, c ∉ Text.padded 10 width n := fun _ _ => Text.not_mem_padded hd
  have hf : c ∉ Clock.fractionText t.clock.micro := by
    unfold Clock.fractionText
    split
    · exact List.not_mem_nil
    · simp_all
  simp_all [toText, Date.toText, Clock.toText]

/-- A civil time stands between apostrophes as it is. -/
theorem quotedString_toText (t : Civil) :
    Text.quotedString (t.toText ' ') = '\'' :: t.toText ' ' ++ ['\''] := by
  have hq : '\'' ∉ t.toText ' ' := not_mem_toText (by decide) (by decide) t
  have hb : '\\' ∉ t.toText ' ' := not_mem_toText (by decide) (by decide) t
  rw [Text.quotedString, Text.quoted, Text.apostrophe]
  exact congrArg (fun s => ['\''] ++ s ++ ['\'']) (Text.escape_of_not_mem (by decide) hq hb)

/-- A point stands in the text where there is a fraction. -/
theorem point_mem_toText (t : Civil) : '.' ∈ t.toText ' ' ↔ t.clock.micro ≠ 0 := by
  have hp : ∀ width n, '.' ∉ Text.padded 10 width n := fun _ _ => Text.not_mem_padded (by decide)
  have hf : '.' ∈ Clock.fractionText t.clock.micro ↔ t.clock.micro ≠ 0 := by
    unfold Clock.fractionText
    split
    · simp_all
    · simp_all
  simp [toText, Date.toText, Clock.toText, hp, hf]

end Civil

end SqlTemplate
