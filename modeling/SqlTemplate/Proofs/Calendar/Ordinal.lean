import SqlTemplate.Calendar.Date

/-!
# Dates and their ordinals

The dates of the calendar (`Date.Valid`) and the numbers from 1 to `Date.lastOrdinal` correspond to
each other: `Date.ofOrdinal` gives a date with the ordinal (`ofOrdinal_spec`), and the only one
(`ofOrdinal_ordinal`). The count is that of the calendar: it begins with the first of January of
year 1, and a day has the number behind that of the day before (`ordinal_next`).

A date lies in the span of the ordinals of its year (`Valid.ordinal_mem_year`), and these spans
follow one another (`daysBefore_succ`), so that a number belongs to one year. In the same way, its
day of the year lies in the span of its month.
-/

namespace SqlTemplate

namespace Date

/-! ## Years -/

def yearLength (year : Nat) : Nat := if isLeap year then 366 else 365

/-- Leap years are every fourth one, of the full centuries every fourth. -/
theorem isLeap_iff (year : Nat) :
    isLeap year = true ↔ year % 4 = 0 ∧ (year % 100 ≠ 0 ∨ year % 400 = 0) := by
  simp [isLeap]

theorem succ_div_of_mod {y k : Nat} (h : (y + 1) % k = 0) : (y + 1) / k = y / k + 1 := by
  rw [Nat.succ_div, if_pos (Nat.dvd_of_mod_eq_zero h)]

theorem succ_div_of_not_mod {y k : Nat} (h : (y + 1) % k ≠ 0) : (y + 1) / k = y / k := by
  rw [Nat.succ_div, if_neg (mt Nat.mod_eq_zero_of_dvd h), Nat.add_zero]

/-- The years follow one another. -/
theorem daysBefore_succ {year : Nat} (h : 1 ≤ year) :
    daysBefore (year + 1) = daysBefore year + yearLength year := by
  obtain ⟨y, rfl⟩ : ∃ y, year = y + 1 := ⟨year - 1, by omega⟩
  have hle : y / 100 ≤ y := Nat.div_le_self y 100
  simp only [daysBefore, yearLength, isLeap_iff, Nat.add_sub_cancel]
  by_cases h4 : (y + 1) % 4 = 0
  · by_cases h100 : (y + 1) % 100 = 0
    · by_cases h400 : (y + 1) % 400 = 0
      · rw [succ_div_of_mod h4, succ_div_of_mod h100, succ_div_of_mod h400,
          if_pos ⟨h4, .inr h400⟩]
        omega
      · rw [succ_div_of_mod h4, succ_div_of_mod h100, succ_div_of_not_mod h400,
          if_neg fun hl => hl.2.elim (absurd h100) h400]
        omega
    · have h400 : (y + 1) % 400 ≠ 0 := by omega
      rw [succ_div_of_mod h4, succ_div_of_not_mod h100, succ_div_of_not_mod h400,
        if_pos ⟨h4, .inl h100⟩]
      omega
  · have h100 : (y + 1) % 100 ≠ 0 := by omega
    have h400 : (y + 1) % 400 ≠ 0 := by omega
    rw [succ_div_of_not_mod h4, succ_div_of_not_mod h100, succ_div_of_not_mod h400,
      if_neg fun hl => h4 hl.1]
    omega

/-- Later years begin later. -/
theorem daysBefore_mono {y z : Nat} (h : y ≤ z) : daysBefore y ≤ daysBefore z := by
  induction h with
  | refl => exact Nat.le_refl _
  | @step z _ ih =>
    by_cases hz : 1 ≤ z
    · rw [Nat.succ_eq_add_one, daysBefore_succ hz]
      omega
    · obtain rfl : z = 0 := by omega
      exact ih

/-- A number belongs to one year at most. -/
theorem year_unique {y z n : Nat} (hy : daysBefore y < n ∧ n ≤ daysBefore (y + 1))
    (hz : daysBefore z < n ∧ n ≤ daysBefore (z + 1)) : y = z := by
  rcases Nat.lt_trichotomy y z with h | h | h
  · have hm : daysBefore (y + 1) ≤ daysBefore z := daysBefore_mono h
    omega
  · exact h
  · have hm : daysBefore (z + 1) ≤ daysBefore y := daysBefore_mono h
    omega

section

variable {cycles centuries fours years : Nat}
  (hc : centuries ≤ 3) (hf : fours ≤ 24) (hy : years ≤ 3)

include hc hf hy

/-- The days before a year, by its place in cycles of 400, 100 and 4 years. -/
theorem daysBefore_cycles :
    daysBefore (400 * cycles + 100 * centuries + 4 * fours + years + 1) =
      146097 * cycles + 36524 * centuries + 1461 * fours + 365 * years := by
  simp only [daysBefore]
  omega

/-- The last year of four is a leap year, but that of a century only if the century is the last of
its cycle. -/
theorem isLeap_cycles :
    isLeap (400 * cycles + 100 * centuries + 4 * fours + years + 1) = true ↔
      years = 3 ∧ (fours < 24 ∨ centuries = 3) := by
  rw [isLeap_iff]
  omega

end

/-- What is split off as whole cycles is a year, and what is left is a day of this year. -/
theorem yearAndDay_spec {n : Nat} (h : 1 ≤ n) :
    1 ≤ (yearAndDay n).1 ∧ (yearAndDay n).2 < yearLength (yearAndDay n).1 ∧
      daysBefore (yearAndDay n).1 + (yearAndDay n).2 + 1 = n := by
  simp only [yearAndDay]
  -- With a name for each quotient and rest, all that follows is linear in them.
  generalize hcycles : (n - 1) / 146097 = cycles
  generalize hinCycle : (n - 1) % 146097 = inCycle
  generalize hcenturies : min (inCycle / 36524) 3 = centuries
  generalize hinCentury : inCycle - centuries * 36524 = inCentury
  generalize hfours : inCentury / 1461 = fours
  generalize hinFour : inCentury % 1461 = inFour
  generalize hyears : min (inFour / 365) 3 = years
  have hc : centuries ≤ 3 := by omega
  have hf : fours ≤ 24 := by omega
  have hy : years ≤ 3 := by omega
  rw [daysBefore_cycles hc hf hy]
  refine ⟨by omega, ?_, by omega⟩
  unfold yearLength
  split
  · omega
  · rename_i hl
    rw [isLeap_cycles hc hf hy] at hl
    omega

/-! ## Months -/

theorem daysInFirst_succ (n : Nat) (lengths : List Nat) :
    daysInFirst (n + 1) lengths = daysInFirst n lengths + lengths.getD n 0 := by
  induction n generalizing lengths with
  | zero => cases lengths <;> simp [daysInFirst]
  | succ n ih =>
    cases lengths with
    | nil => simp [daysInFirst]
    | cons length rest =>
      rw [daysInFirst, ih, daysInFirst, List.getD_cons_succ, Nat.add_assoc]

theorem daysInFirst_mono {m n : Nat} (h : m ≤ n) (lengths : List Nat) :
    daysInFirst m lengths ≤ daysInFirst n lengths := by
  induction h with
  | refl => exact Nat.le_refl _
  | @step n _ ih =>
    rw [Nat.succ_eq_add_one, daysInFirst_succ]
    omega

/-- All months of a year make up the year. -/
theorem daysInFirst_monthLengths (year : Nat) :
    daysInFirst (monthLengths year).length (monthLengths year) = yearLength year := by
  unfold monthLengths yearLength
  cases isLeap year <;> rfl

/-- A day of the year belongs to one month at most. -/
theorem month_unique {m n day : Nat} {lengths : List Nat}
    (hm : daysInFirst m lengths < day ∧ day ≤ daysInFirst (m + 1) lengths)
    (hn : daysInFirst n lengths < day ∧ day ≤ daysInFirst (n + 1) lengths) : m = n := by
  rcases Nat.lt_trichotomy m n with h | h | h
  · have hle : daysInFirst (m + 1) lengths ≤ daysInFirst n lengths := daysInFirst_mono h lengths
    omega
  · exact h
  · have hle : daysInFirst (n + 1) lengths ≤ daysInFirst m lengths := daysInFirst_mono h lengths
    omega

/-- The walk over the lengths of the months ends in the month of the day. -/
theorem monthAndDay_spec (first : Nat) {n : Nat} {lengths : List Nat}
    (h : n < daysInFirst lengths.length lengths) :
    ∃ m day, monthAndDay first n lengths = (first + m, day) ∧ m < lengths.length ∧ 1 ≤ day ∧
      day ≤ lengths.getD m 0 ∧ daysInFirst m lengths + day = n + 1 := by
  induction lengths generalizing first n with
  | nil => exact absurd h (Nat.not_lt_zero n)
  | cons length rest ih =>
    rw [monthAndDay]
    by_cases hn : n < length
    · refine ⟨0, n + 1, if_pos hn, Nat.succ_pos _, by omega, hn, ?_⟩
      simp [daysInFirst]
    · rw [List.length_cons, daysInFirst] at h
      have hr : n - length < daysInFirst rest.length rest := by omega
      obtain ⟨m, day, he, hm, hpos, hle, hsum⟩ := ih (first + 1) hr
      refine ⟨m + 1, day, ?_, by simpa using hm, hpos, by simpa using hle, ?_⟩
      · rw [if_neg hn, he, Nat.add_assoc, Nat.add_comm 1 m]
      · rw [daysInFirst]
        omega

/-! ## Dates -/

/-- The number of days of the month that the date is in. -/
def monthLength (d : Date) : Nat := (monthLengths d.year).getD (d.month - 1) 0

/-- The date is one of the calendar. -/
structure Valid (d : Date) : Prop where
  year_pos : 1 ≤ d.year
  year_le : d.year ≤ 9999
  month_pos : 1 ≤ d.month
  month_le : d.month ≤ 12
  day_pos : 1 ≤ d.day
  day_le : d.day ≤ d.monthLength

instance (d : Date) : Decidable d.Valid :=
  decidable_of_iff ((1 ≤ d.year ∧ d.year ≤ 9999) ∧ (1 ≤ d.month ∧ d.month ≤ 12) ∧
      1 ≤ d.day ∧ d.day ≤ d.monthLength)
    ⟨fun ⟨⟨a, b⟩, ⟨c, d⟩, e, f⟩ => ⟨a, b, c, d, e, f⟩,
      fun ⟨a, b, c, d, e, f⟩ => ⟨⟨a, b⟩, ⟨c, d⟩, e, f⟩⟩

/-- The number of the day in its year, from one. -/
def dayOfYear (d : Date) : Nat := daysInFirst (d.month - 1) (monthLengths d.year) + d.day

theorem ordinal_eq (d : Date) : d.ordinal = daysBefore d.year + d.dayOfYear :=
  Nat.add_assoc _ _ _

section

variable {d e : Date}

/-- A day of the year lies in its month. -/
theorem Valid.dayOfYear_mem_month (h : d.Valid) :
    daysInFirst (d.month - 1) (monthLengths d.year) < d.dayOfYear ∧
      d.dayOfYear ≤ daysInFirst (d.month - 1 + 1) (monthLengths d.year) := by
  have hpos := h.day_pos
  have hle := h.day_le
  rw [daysInFirst_succ, dayOfYear]
  unfold monthLength at hle
  omega

/-- No day lies beyond the end of its year. -/
theorem Valid.dayOfYear_le (h : d.Valid) : d.dayOfYear ≤ yearLength d.year := by
  have hm : d.month - 1 + 1 ≤ (monthLengths d.year).length := by
    have := h.month_le
    simp only [monthLengths, List.length_cons, List.length_nil]
    omega
  have hle := daysInFirst_mono hm (monthLengths d.year)
  rw [daysInFirst_monthLengths] at hle
  exact Nat.le_trans h.dayOfYear_mem_month.2 hle

/-- A date lies in the span of the ordinals of its year. -/
theorem Valid.ordinal_mem_year (h : d.Valid) :
    daysBefore d.year < d.ordinal ∧ d.ordinal ≤ daysBefore (d.year + 1) := by
  have hpos := h.dayOfYear_mem_month.1
  have hle := h.dayOfYear_le
  rw [daysBefore_succ h.year_pos, ordinal_eq]
  omega

theorem Valid.ordinal_pos (h : d.Valid) : 1 ≤ d.ordinal :=
  Nat.one_le_of_lt h.ordinal_mem_year.1

/-- No date lies beyond the last one. -/
theorem Valid.ordinal_le (h : d.Valid) : d.ordinal ≤ lastOrdinal :=
  Nat.le_trans h.ordinal_mem_year.2 (daysBefore_mono (Nat.succ_le_succ h.year_le))

/-- **A date is known by its ordinal.** -/
theorem ordinal_inj (hd : d.Valid) (he : e.Valid) : d.ordinal = e.ordinal ↔ d = e := by
  refine ⟨fun h => ?_, congrArg _⟩
  -- From the outside in: the year, the day of the year, the month, the day.
  have hy : d.year = e.year := year_unique hd.ordinal_mem_year (h ▸ he.ordinal_mem_year)
  have hday : d.dayOfYear = e.dayOfYear := by
    rw [ordinal_eq, ordinal_eq, hy] at h
    omega
  have hm : d.month - 1 = e.month - 1 := by
    have hme := he.dayOfYear_mem_month
    rw [← hy, ← hday] at hme
    exact month_unique hd.dayOfYear_mem_month hme
  have hmonth : d.month = e.month := by
    have := hd.month_pos
    have := he.month_pos
    omega
  rw [dayOfYear, dayOfYear, hm, hy] at hday
  cases d
  cases e
  simp_all

end

/-- **Every number of the count is the ordinal of a date.** -/
theorem ofOrdinal_spec {n : Nat} (h : 1 ≤ n) (hn : n ≤ lastOrdinal) :
    (ofOrdinal n).Valid ∧ (ofOrdinal n).ordinal = n := by
  obtain ⟨hy, hday, hsum⟩ := yearAndDay_spec h
  generalize hyd : yearAndDay n = yd at hy hday hsum
  obtain ⟨year, day⟩ := yd
  dsimp only at hy hday hsum
  rw [← daysInFirst_monthLengths] at hday
  obtain ⟨m, dayOfMonth, he, hm, hpos, hle, hd⟩ := monthAndDay_spec 1 hday
  have ho : ofOrdinal n = ⟨year, m + 1, dayOfMonth⟩ := by
    simp only [ofOrdinal, hyd, he, Nat.add_comm 1 m]
  have hlast : year ≤ 9999 := by
    apply Nat.le_of_not_lt
    intro hc
    have hm : daysBefore 10000 ≤ daysBefore year := daysBefore_mono (by omega)
    have hl : daysBefore 10000 = lastOrdinal := rfl
    omega
  rw [ho]
  refine ⟨⟨hy, hlast, Nat.succ_pos m, hm, hpos, hle⟩, ?_⟩
  rw [ordinal_eq, dayOfYear, Nat.add_sub_cancel]
  dsimp only
  omega

/-- **The ordinal of a date gives the date back.** -/
theorem ofOrdinal_ordinal {d : Date} (h : d.Valid) : ofOrdinal d.ordinal = d := by
  obtain ⟨hv, ho⟩ := ofOrdinal_spec h.ordinal_pos h.ordinal_le
  exact (ordinal_inj hv h).1 ho

/-! ## One day after the other -/

/-- The day after a date. -/
def next (d : Date) : Date :=
  if d.day < d.monthLength then ⟨d.year, d.month, d.day + 1⟩
  else if d.month < 12 then ⟨d.year, d.month + 1, 1⟩
  else ⟨d.year + 1, 1, 1⟩

/-- **The count of days is that of the calendar**: it goes on by one from day to day. -/
theorem ordinal_next {d : Date} (h : d.Valid) : d.next.ordinal = d.ordinal + 1 := by
  have hmonth := h.month_pos
  unfold next
  split
  · rfl
  · rename_i hd
    have hday : d.day = d.monthLength := Nat.le_antisymm h.day_le (Nat.le_of_not_lt hd)
    have hsum : d.dayOfYear = daysInFirst d.month (monthLengths d.year) := by
      rw [dayOfYear, hday, monthLength, ← daysInFirst_succ, Nat.sub_add_cancel hmonth]
    split
    · rw [ordinal_eq d, hsum, ordinal_eq, dayOfYear, Nat.add_sub_cancel, Nat.add_assoc]
    · rename_i hm
      have hlast : d.month = (monthLengths d.year).length := Nat.le_antisymm h.month_le
        (Nat.le_of_not_lt hm)
      rw [ordinal_eq d, hsum, hlast, daysInFirst_monthLengths, ← daysBefore_succ h.year_pos]
      rfl

/-- The count begins with the first of January of year 1. -/
example : (⟨1, 1, 1⟩ : Date).ordinal = 1 := by decide

end Date

end SqlTemplate
