import SqlTemplate.Calendar.Time
import SqlTemplate.Proofs.Calendar.Ordinal

/-!
# Civil times and their counts of microseconds

The civil times of the calendar (`Civil.Valid`) and the counts of microseconds from its start to its
end correspond to each other (`Civil.ofMicros?_eq_some_iff`): a count is split into whole days,
which give the ordinal of a date, and the microseconds of a time of day. So there is a civil time in
universal time for one with an offset exactly where the calendar has one at the same instant
(`DateTime.universal?_offset`).
-/

namespace SqlTemplate

/-! ## Times of day -/

namespace Clock

/-- The time of day is one of the 24 hours of a day. -/
structure Valid (c : Clock) : Prop where
  hour_lt : c.hour < 24
  minute_lt : c.minute < 60
  second_lt : c.second < 60
  micro_lt : c.micro < 1000000

instance (c : Clock) : Decidable c.Valid :=
  decidable_of_iff (c.hour < 24 ∧ c.minute < 60 ∧ c.second < 60 ∧ c.micro < 1000000)
    ⟨fun ⟨a, b, c, d⟩ => ⟨a, b, c, d⟩, fun ⟨a, b, c, d⟩ => ⟨a, b, c, d⟩⟩

/-- A time of day lies before the end of the day. -/
theorem Valid.micros_lt {c : Clock} (h : c.Valid) : c.micros < Civil.dayMicros := by
  obtain ⟨hh, hm, hs, hu⟩ := h
  unfold micros Civil.dayMicros
  omega

/-- The time of day at a count of microseconds is a valid one with that count. -/
theorem ofMicros_spec {n : Nat} (h : n < Civil.dayMicros) :
    (ofMicros n).Valid ∧ (ofMicros n).micros = n := by
  unfold Civil.dayMicros at h
  refine ⟨⟨?_, ?_, ?_, ?_⟩, ?_⟩ <;> simp only [ofMicros, micros] <;> omega

/-- A time of day is given back from its microseconds. -/
theorem ofMicros_micros {c : Clock} (h : c.Valid) : ofMicros c.micros = c := by
  obtain ⟨hour, minute, second, micro⟩ := c
  obtain ⟨hh, hm, hs, hu⟩ := h
  simp only [ofMicros, micros, Clock.mk.injEq] at *
  omega

end Clock

/-! ## Civil times -/

namespace Civil

/-- Date and time of day are those of the calendar. -/
structure Valid (c : Civil) : Prop where
  date : c.date.Valid
  clock : c.clock.Valid

instance (c : Civil) : Decidable c.Valid :=
  decidable_of_iff (c.date.Valid ∧ c.clock.Valid) ⟨fun ⟨a, b⟩ => ⟨a, b⟩, fun ⟨a, b⟩ => ⟨a, b⟩⟩

variable {c : Civil}

theorem Valid.micros_div (h : c.Valid) : c.micros / dayMicros + 1 = c.date.ordinal := by
  have hpos := h.date.ordinal_pos
  have hlt := h.clock.micros_lt
  unfold micros dayMicros at *
  omega

theorem Valid.micros_mod (h : c.Valid) : c.micros % dayMicros = c.clock.micros := by
  rw [micros, Nat.mul_comm, Nat.mul_add_mod, Nat.mod_eq_of_lt h.clock.micros_lt]

/-- All civil times of the calendar lie before its end. -/
theorem Valid.micros_lt (h : c.Valid) : c.micros < Date.lastOrdinal * dayMicros := by
  have hle := h.date.ordinal_le
  have hdiv := h.micros_div
  unfold dayMicros at *
  omega

/-- **Civil times correspond to counts of microseconds.** -/
theorem ofMicros?_eq_some_iff {n : Int} :
    ofMicros? n = some c ↔ c.Valid ∧ (c.micros : Int) = n := by
  unfold ofMicros?
  constructor
  · intro h
    split at h
    · rename_i hn
      obtain rfl := Option.some.inj h
      have hmod : n.toNat % dayMicros < dayMicros := Nat.mod_lt _ (by decide)
      have hdiv : n.toNat / dayMicros + 1 ≤ Date.lastOrdinal := by
        unfold dayMicros at *
        omega
      obtain ⟨hdate, ho⟩ := Date.ofOrdinal_spec (Nat.le_add_left 1 _) hdiv
      obtain ⟨hclock, hm⟩ := Clock.ofMicros_spec hmod
      refine ⟨⟨hdate, hclock⟩, ?_⟩
      rw [micros, ho, hm, Nat.add_sub_cancel, Nat.div_add_mod']
      omega
    · cases h
  · rintro ⟨hc, rfl⟩
    have hlt := hc.micros_lt
    rw [if_pos ⟨Int.natCast_nonneg _, Int.ofNat_lt.2 hlt⟩, Int.toNat_natCast, hc.micros_div,
      hc.micros_mod, Date.ofOrdinal_ordinal hc.date, Clock.ofMicros_micros hc.clock]

/-- **A civil time is known by its count of microseconds.** -/
theorem micros_inj {c d : Civil} (hc : c.Valid) (hd : d.Valid) : c.micros = d.micros ↔ c = d := by
  refine ⟨fun h => ?_, congrArg _⟩
  have hc' := ofMicros?_eq_some_iff.2 ⟨hc, rfl⟩
  have hd' := ofMicros?_eq_some_iff.2 ⟨hd, rfl⟩
  rw [h, hd'] at hc'
  exact (Option.some.inj hc').symm

end Civil

/-! ## Universal time -/

/-- In universal time, a civil time with an offset is the one at the same instant. -/
theorem DateTime.universal?_offset {civil utc : Civil} {offset : Int} :
    (DateTime.mk civil (.offset offset)).universal? = some utc ↔
      utc.Valid ∧ (utc.micros : Int) = instant civil offset :=
  Civil.ofMicros?_eq_some_iff

end SqlTemplate
