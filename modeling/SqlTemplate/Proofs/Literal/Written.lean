import SqlTemplate.Literal.Written

/-!
# Writing to the end

When a writing comes to its end, so have all its parts, and its text is put together from theirs;
where it stops, it is at the fault of the first part that stops. There is one lemma of each sort for
each way to combine writings.
-/

namespace SqlTemplate.Written

/-- A writing succeeds exactly if it comes to its end. -/
theorem toExcept_eq_ok {w : Written} {t : Text} : w.toExcept = .ok t ↔ w = .ok t := by
  obtain ⟨text, fault?⟩ := w
  cases fault? <;> simp [toExcept, ok]

theorem ok_inj {t u : Text} : ok t = ok u ↔ t = u := by simp [ok]

theorem fault_ne_ok (f : Fault) (t : Text) : fault f ≠ ok t := by simp [ok, fault]

/-- Two writings come to their end when both do. -/
theorem followedBy_eq_ok {a b : Written} {t : Text} :
    a.followedBy b = ok t ↔ ∃ u v, a = ok u ∧ b = ok v ∧ t = u ++ v := by
  obtain ⟨u, fa⟩ := a
  obtain ⟨v, fb⟩ := b
  cases fa with
  | some f => simp [followedBy, ok]
  | none =>
    simp only [followedBy, ok, mk.injEq, and_true]
    constructor
    · rintro ⟨rfl, rfl⟩
      exact ⟨u, v, rfl, ⟨rfl, rfl⟩, rfl⟩
    · rintro ⟨u', v', rfl, ⟨rfl, rfl⟩, rfl⟩
      exact ⟨rfl, rfl⟩

/-- So do several ones. -/
theorem commaJoined_eq_ok : ∀ {ws : List Written} {t : Text}, commaJoined ws = ok t →
    ∃ ts : List Text, ws = ts.map ok ∧ t = Text.commaJoined ts
  | [], t, h => ⟨[], rfl, (ok_inj.1 h).symm⟩
  | [w], t, h => ⟨[t], by simp [← h, commaJoined], by simp [Text.commaJoined, List.intercalate]⟩
  | v :: w :: ws, t, h => by
    obtain ⟨a, b, rfl, hb, rfl⟩ := followedBy_eq_ok.1 h
    obtain ⟨c, d, hc, hd, rfl⟩ := followedBy_eq_ok.1 hb
    obtain ⟨ts, hts, rfl⟩ := commaJoined_eq_ok hd
    refine ⟨a :: ts, by rw [hts]; rfl, ?_⟩
    cases ts with
    | nil => cases hts
    | cons e ts => simp [← ok_inj.1 hc, Text.commaJoined, List.intercalate]

theorem bracketed_eq_ok {opening closing : Text} {ws : List Written} {t : Text}
    (h : bracketed opening closing ws = ok t) :
    ∃ ts : List Text, ws = ts.map ok ∧ t = opening ++ Text.commaJoined ts ++ closing := by
  obtain ⟨a, b, ha, hb, rfl⟩ := followedBy_eq_ok.1 h
  obtain ⟨c, d, hc, hd, rfl⟩ := followedBy_eq_ok.1 hb
  obtain ⟨ts, rfl, rfl⟩ := commaJoined_eq_ok hc
  exact ⟨ts, rfl, by rw [← ok_inj.1 ha, ← ok_inj.1 hd, List.append_assoc]⟩

/-! ## Faults -/

/-- Of two faults the first one counts. -/
theorem fault?_followedBy (a b : Written) : (a.followedBy b).fault? = a.fault?.or b.fault? := by
  unfold followedBy
  cases h : a.fault? with
  | some f => rw [h, Option.some_or]
  | none => rfl

/-- So it does of several ones. -/
theorem fault?_commaJoined (ws : List Written) : (commaJoined ws).fault? = ws.findSome? fault? := by
  induction ws with
  | nil => rfl
  | cons w rest ih =>
    have hs : (w :: rest).findSome? fault? = w.fault?.or (rest.findSome? fault?) := by
      rw [List.findSome?_cons]
      cases w.fault? <;> rfl
    rw [hs]
    cases rest with
    | nil => exact Option.or_none.symm
    | cons v rest => rw [commaJoined, fault?_followedBy, fault?_followedBy, ih, ok, Option.none_or]

theorem fault?_bracketed (opening closing : Text) (ws : List Written) :
    (bracketed opening closing ws).fault? = ws.findSome? fault? := by
  rw [bracketed, fault?_followedBy, fault?_followedBy, fault?_commaJoined, ok, ok, Option.none_or,
    Option.or_none]

end SqlTemplate.Written
