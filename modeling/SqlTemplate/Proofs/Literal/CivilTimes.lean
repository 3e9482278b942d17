import SqlTemplate.Proofs.Calendar.Stamp
import SqlTemplate.Proofs.Literal.Tree
import SqlTemplate.Proofs.Literal.Written

/-!
# Literal forms of civil times

A civil time with an offset is written as the one in universal time at the same instant, if the
calendar has it; any other is written as it is. So the literal form tells the instant, and nothing
else: the offset that it was given in is lost.
-/

namespace SqlTemplate

/-- A civil time is written exactly if its instant is in the calendar. -/
theorem dateTimeLiteral_eq_ok {t : DateTime} {s : Text} :
    dateTimeLiteral t = .ok s ↔
      ∃ civil, t.universal? = some civil ∧ s = '\'' :: civil.toText ' ' ++ ['\''] := by
  unfold dateTimeLiteral
  cases t.universal? with
  | none => simp [Written.fault_ne_ok]
  | some civil => simp [Written.ok_inj, Civil.quotedString_toText, eq_comm]

/-- A quoted civil time is read back. -/
theorem Civil.readQuoted?_toText {c : Civil} (h : c.Valid) :
    Civil.readQuoted? ('\'' :: c.toText ' ' ++ ['\'']) = some c := by
  rw [← Civil.quotedString_toText, Civil.readQuoted?_quotedString h]

namespace Value

/-- **What is written for a civil time with an offset**: the civil time in universal time. -/
theorem writeLiteral_offset {civil : Civil} {offset : Int} {s : Text} :
    writeLiteral Writer.dispatcher (dateTime ⟨civil, .offset offset⟩) = .ok s ↔
      ∃ utc : Civil, utc.Valid ∧ (utc.micros : Int) = DateTime.instant civil offset ∧
        s = '\'' :: utc.toText ' ' ++ ['\''] := by
  show dateTimeLiteral _ = _ ↔ _
  simp only [dateTimeLiteral_eq_ok, DateTime.universal?_offset, and_assoc]

/-- Two civil times with offsets are written alike where they are at the same instant, and only
there. -/
theorem writeLiteral_offset_inj {civil civil' : Civil} {offset offset' : Int} {s s' : Text}
    (h : writeLiteral Writer.dispatcher (dateTime ⟨civil, .offset offset⟩) = .ok s)
    (h' : writeLiteral Writer.dispatcher (dateTime ⟨civil', .offset offset'⟩) = .ok s') :
    s = s' ↔ DateTime.instant civil offset = DateTime.instant civil' offset' := by
  obtain ⟨utc, hv, hi, rfl⟩ := writeLiteral_offset.1 h
  obtain ⟨utc', hv', hi', rfl⟩ := writeLiteral_offset.1 h'
  rw [← hi, ← hi', Int.ofNat_inj, Civil.micros_inj hv hv']
  refine ⟨fun he => ?_, fun he => by rw [he]⟩
  have hr := Civil.readQuoted?_toText hv
  rw [he, Civil.readQuoted?_toText hv'] at hr
  exact (Option.some.inj hr).symm

/-- **The literal forms of civil times.** One with an offset has a literal form exactly where its
instant, the local time less the offset, is that of a civil time of the calendar. This one is what
is written, with a fraction where it has microseconds, and it is read back; so two of them are
written alike exactly where they are at the same instant. One without an offset is written as it is,
and read back. -/
theorem writeLiteral_dateTime (civil : Civil) :
    (∀ offset : Int,
      ((∃ s, writeLiteral Writer.dispatcher (dateTime ⟨civil, .offset offset⟩) = .ok s) ↔
        ∃ utc : Civil, utc.Valid ∧ (utc.micros : Int) = civil.micros - offset) ∧
      (∀ s, writeLiteral Writer.dispatcher (dateTime ⟨civil, .offset offset⟩) = .ok s →
        ∃ utc : Civil, utc.Valid ∧ (utc.micros : Int) = civil.micros - offset ∧
          s = '\'' :: utc.toText ' ' ++ ['\''] ∧ ('.' ∈ s ↔ utc.clock.micro ≠ 0) ∧
          Civil.readQuoted? s = some utc) ∧
      ∀ (civil' : Civil) (offset' : Int) (s s' : Text),
        writeLiteral Writer.dispatcher (dateTime ⟨civil, .offset offset⟩) = .ok s →
        writeLiteral Writer.dispatcher (dateTime ⟨civil', .offset offset'⟩) = .ok s' →
        (s = s' ↔ (civil.micros - offset : Int) = civil'.micros - offset')) ∧
    ∀ zone : Zone, zone.offset? = none →
      writeLiteral Writer.dispatcher (dateTime ⟨civil, zone⟩) =
        .ok ('\'' :: civil.toText ' ' ++ ['\'']) ∧
      (civil.Valid → Civil.readQuoted? ('\'' :: civil.toText ' ' ++ ['\'']) = some civil) := by
  refine ⟨fun offset => ⟨?_, fun s hs => ?_, fun civil' offset' s s' => ?_⟩, fun zone hz => ?_⟩
  · simp only [writeLiteral_offset]
    refine ⟨fun ⟨_, utc, hv, hi, _⟩ => ⟨utc, hv, hi⟩, fun ⟨utc, hv, hi⟩ => ⟨_, utc, hv, hi, rfl⟩⟩
  · obtain ⟨utc, hv, hi, rfl⟩ := writeLiteral_offset.1 hs
    refine ⟨utc, hv, hi, rfl, ?_, Civil.readQuoted?_toText hv⟩
    rw [← Civil.point_mem_toText]
    simp
  · exact writeLiteral_offset_inj
  · refine ⟨?_, Civil.readQuoted?_toText⟩
    refine dateTimeLiteral_eq_ok.2 ⟨civil, ?_, rfl⟩
    rw [DateTime.universal?, hz]

/-- The first of March at an offset of one microsecond, and the last microsecond of the calendar. -/
theorem writeLiteral_dateTime_edges :
    let march : Civil := ⟨⟨2024, 3, 1⟩, ⟨0, 0, 0, 0⟩⟩
    let last : Civil := ⟨⟨9999, 12, 31⟩, ⟨23, 59, 59, 999999⟩⟩
    let written := "'2024-02-29 23:59:59.999999'".toList
    writeLiteral Writer.dispatcher (dateTime ⟨march, .offset 1⟩) = .ok written ∧
    Civil.readQuoted? written = some ⟨⟨2024, 2, 29⟩, ⟨23, 59, 59, 999999⟩⟩ ∧
    (¬ ∃ s, writeLiteral Writer.dispatcher (dateTime ⟨last, .offset (-1)⟩) = .ok s) ∧
    Civil.readQuoted? ('\'' :: last.toText ' ' ++ ['\'']) = some last := by
  intro march last written
  let february : Civil := ⟨⟨2024, 2, 29⟩, ⟨23, 59, 59, 999999⟩⟩
  have hf : february.Valid := by decide
  have hm : march.micros = february.micros + 1 := by decide
  obtain ⟨hs, hw, -⟩ := (writeLiteral_dateTime march).1 1
  obtain ⟨s, hs⟩ := hs.2 ⟨february, hf, by omega⟩
  obtain ⟨utc, hv, hi, rfl, -, hr⟩ := hw s hs
  obtain rfl : utc = february := (Civil.micros_inj hv hf).1 (by omega)
  have ht : '\'' :: february.toText ' ' ++ ['\''] = written := by decide
  rw [ht] at hs hr
  refine ⟨hs, hr, fun hl => ?_, ((writeLiteral_dateTime last).2 .unknown rfl).2 (by decide)⟩
  obtain ⟨utc, hv, hi⟩ := ((writeLiteral_dateTime last).1 (-1)).1.1 hl
  have hlt := hv.micros_lt
  have hend : last.micros + 1 = Date.lastOrdinal * Civil.dayMicros := by decide
  omega

end Value

end SqlTemplate
