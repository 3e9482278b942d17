import Mathlib.Data.Char
import Mathlib.Data.List.Lex
import SqlTemplate.Value.Order

/-!
# Comparing whole numbers, texts and tuples

Values are compared, and equal, as what they are built on (`Value.less_eq_core`,
`Value.equal_eq_core`). Whole numbers are so by size, although they are compared as decimals, which
looks at the places of their leading digits first (`Decimal.compare?_whole`); texts by code points;
tuples by the first place where their parts differ. A whole number and a text have no order.
-/

namespace SqlTemplate

/-! ## Whole numbers as decimals -/

namespace Decimal

theorem lt_of_length_toDigits {m n : Nat}
    (h : (Nat.toDigits 10 m).length < (Nat.toDigits 10 n).length) : m < n := by
  have hm : m < 10 ^ (Nat.toDigits 10 m).length :=
    (Nat.length_toDigits_le_iff (by omega) Nat.length_toDigits_pos).1 (Nat.le_refl _)
  have hn : ¬ n < 10 ^ (Nat.toDigits 10 m).length :=
    mt (Nat.length_toDigits_le_iff (by omega) Nat.length_toDigits_pos).2 (Nat.not_le.2 h)
  omega

/-- Of two whole numbers the one with fewer digits is the smaller one. -/
theorem compareMagnitude_whole (m n : Nat) : compareMagnitude m 0 n 0 = compare m n := by
  unfold compareMagnitude
  split
  · rfl
  · dsimp only
    split
    · rename_i hp
      have hne : (Nat.toDigits 10 m).length ≠ (Nat.toDigits 10 n).length := by omega
      rcases Nat.lt_or_gt_of_ne hne with h | h
      · rw [Nat.compare_eq_lt.2 (lt_of_length_toDigits h), Int.compare_eq_lt]
        omega
      · rw [Nat.compare_eq_gt.2 (lt_of_length_toDigits h), Int.compare_eq_gt]
        omega
    · simp

/-- Whole numbers are compared by size. -/
theorem compare?_whole (m n : Int) :
    compare? (.finite (m < 0) m.natAbs 0) (.finite (n < 0) n.natAbs 0) = some (compare m n) := by
  have hsign : ∀ i : Int, (decide (i < 0) && i.natAbs != 0) = decide (i < 0) := by
    intro i
    by_cases hi : i < 0
    · have : i.natAbs ≠ 0 := by omega
      simp [hi, this]
    · simp [hi]
  simp only [compare?, compareFinite, hsign, compareMagnitude_whole]
  by_cases hm : m < 0
  · by_cases hn : n < 0
    · simp only [hm, hn, decide_true, Nat.compare_eq_ite_lt, Int.compare_eq_ite_lt]
      grind
    · simp only [hm, hn, decide_true, decide_false, Int.compare_eq_ite_lt]
      grind
  · by_cases hn : n < 0
    · simp only [hm, hn, decide_true, decide_false, Int.compare_eq_ite_lt]
      grind
    · simp only [hm, hn, decide_false, Nat.compare_eq_ite_lt, Int.compare_eq_ite_lt]
      grind

end Decimal

/-! ## Comparing what values are built on -/

namespace Value

theorem lessCore_core (v w : Value) : lessCore v.core w = lessCore v w := by
  cases v with
  | mixed cls core value => rw [Value.core, lessCore_core core w, lessCore]
  | object cls core payload => rw [Value.core, lessCore_core core w, lessCore]
  | selfWriting cls program core payload => rw [Value.core, lessCore_core core w, lessCore]
  | _ => rfl

theorem equalCore_core (v w : Value) : equalCore v.core w = equalCore v w := by
  cases v with
  | mixed cls core value => rw [Value.core, equalCore_core core w, equalCore]
  | object cls core payload => rw [Value.core, equalCore_core core w, equalCore]
  | selfWriting cls program core payload => rw [Value.core, equalCore_core core w, equalCore]
  | _ => rfl

/-- Values are in the order of what they are built on. -/
theorem less_eq_core (v w : Value) : v.less w = lessCore v.core w.core :=
  (lessCore_core v w.core).symm

theorem equal_eq_core (v w : Value) : v.equal w = equalCore v.core w.core :=
  (equalCore_core v w.core).symm

/-- The whole number that a value is built on; the two truth values are nought and one. -/
def whole? (v : Value) : Option Int :=
  match v.core with
  | int n => some n
  | bool b => some (if b then 1 else 0)
  | _ => none

def text? (v : Value) : Option Text :=
  match v.core with
  | text s => some s
  | _ => none

/-- The parts of a tuple. -/
def parts? (v : Value) : Option (List Value) :=
  match v.core with
  | sequence kind items => if kind.isTuple then some items else none
  | _ => none

theorem whole?_eq_some {v : Value} {n : Int} (h : v.whole? = some n) :
    v.core = int n ∨ ∃ b, v.core = bool b ∧ n = if b then 1 else 0 := by
  unfold whole? at h
  split at h
  · rename_i hc
    exact .inl (by rw [hc, Option.some.inj h])
  · rename_i b hc
    exact .inr ⟨b, hc, (Option.some.inj h).symm⟩
  · cases h

theorem text?_eq_some {v : Value} {s : Text} (h : v.text? = some s) : v.core = text s := by
  unfold text? at h
  split at h
  · rename_i hc
    rw [hc, Option.some.inj h]
  · cases h

theorem parts?_eq_some {v : Value} {items : List Value} (h : v.parts? = some items) :
    ∃ kind : SequenceKind, kind.isTuple = true ∧ v.core = sequence kind items := by
  unfold parts? at h
  split at h
  · rename_i kind items' hc
    split at h
    · rename_i hk
      exact ⟨kind, hk, by rw [hc, Option.some.inj h]⟩
    · cases h
  · cases h

/-- The core of a whole number is compared as the decimal of that number. -/
theorem atom_of_whole? {v : Value} {n : Int} (h : v.whole? = some n) :
    v.core.number? = some (.finite (n < 0) n.natAbs 0) ∧ lessCore v.core = lessAtom v.core ∧
      equalCore v.core = sameAtom v.core := by
  rcases whole?_eq_some h with hc | ⟨b, hc, rfl⟩
  · rw [hc]
    exact ⟨rfl, rfl, funext fun w => by simp [equalCore]⟩
  · rw [hc]
    refine ⟨?_, rfl, funext fun w => by simp [equalCore]⟩
    cases b <;> rfl

/-- Whole numbers compare as such, also where they are truth values. -/
theorem less_whole {v w : Value} {m n : Int} (hv : v.whole? = some m) (hw : w.whole? = some n) :
    v.less w = .ok (decide (m < n)) := by
  obtain ⟨hm, hl, -⟩ := atom_of_whole? hv
  obtain ⟨hn, -, -⟩ := atom_of_whole? hw
  rw [less_eq_core, hl]
  simp only [lessAtom, hm, hn, Decimal.compare?_whole]
  congr 1
  rw [beq_eq_decide, decide_eq_decide, Int.compare_eq_lt]

theorem equal_whole {v w : Value} {m n : Int} (hv : v.whole? = some m) (hw : w.whole? = some n) :
    v.equal w = decide (m = n) := by
  obtain ⟨hm, -, he⟩ := atom_of_whole? hv
  obtain ⟨hn, -, -⟩ := atom_of_whole? hw
  rw [equal_eq_core, he]
  simp only [sameAtom, hm, hn, Decimal.compare?_whole]
  rw [beq_eq_decide, decide_eq_decide, Option.some_inj, Int.compare_eq_eq]

theorem lexLess_text (s t : Text) :
    lexLess (fun c d : Char => c.toNat < d.toNat) s t = decide (s < t) := by
  induction s generalizing t with
  | nil => cases t <;> simp [lexLess]
  | cons c s ih =>
    cases t with
    | nil => simp [lexLess]
    | cons d t =>
      rw [lexLess, ih]
      by_cases hc : c = d
      · simp [hc]
      · have hlt : c.toNat < d.toNat ↔ c < d := Iff.rfl
        simp [hc, List.cons_lt_cons_iff, hlt]

/-- Texts compare as such. -/
theorem less_text {v w : Value} {s t : Text} (hv : v.text? = some s) (hw : w.text? = some t) :
    v.less w = .ok (decide (s < t)) := by
  rw [less_eq_core, text?_eq_some hv, text?_eq_some hw, ← lexLess_text]
  rfl

theorem equal_text {v w : Value} {s t : Text} (hv : v.text? = some s) (hw : w.text? = some t) :
    v.equal w = decide (s = t) := by
  simp [equal_eq_core, text?_eq_some hv, text?_eq_some hw, equalCore, sameAtom, number?,
    beq_eq_decide]

/-- A whole number and a text have no order. -/
theorem less_whole_text {v w : Value} {n : Int} {s : Text} (hv : v.whole? = some n)
    (hw : w.text? = some s) : v.less w = .error .incomparable := by
  obtain ⟨hn, hl, -⟩ := atom_of_whole? hv
  have ht : (text s).number? = none := rfl
  simp only [less_eq_core, hl, text?_eq_some hw, lessAtom, hn, ht]

theorem less_text_whole {v w : Value} {n : Int} {s : Text} (hv : v.text? = some s)
    (hw : w.whole? = some n) : v.less w = .error .incomparable := by
  obtain ⟨hn, -, -⟩ := atom_of_whole? hw
  rw [less_eq_core, text?_eq_some hv]
  show lessAtom (text s) w.core = .error .incomparable
  have ht : (text s).number? = none := rfl
  simp only [lessAtom, hn, ht]

/-- Tuples and records are compared with one another, and with nothing else. -/
theorem sameFamily_left {k : SequenceKind} (hk : k.isTuple = true) (m : SequenceKind) :
    sameFamily k m = m.isTuple := by
  cases k with
  | tuple | record => cases m <;> rfl
  | _ => cases hk

theorem sameFamily_right {k : SequenceKind} (hk : k.isTuple = true) (m : SequenceKind) :
    sameFamily m k = m.isTuple := by
  cases k with
  | tuple | record => cases m <;> rfl
  | _ => cases hk

/-- Tuples compare item by item. -/
theorem less_tuple {v w : Value} {xs ys : List Value} (hv : v.parts? = some xs)
    (hw : w.parts? = some ys) : v.less w = lessItems xs ys := by
  obtain ⟨k, hk, hxs⟩ := parts?_eq_some hv
  obtain ⟨l, hl, hys⟩ := parts?_eq_some hw
  rw [less_eq_core, hxs, hys, lessCore, sameFamily_left hk, if_pos hl]

theorem equal_tuple {v w : Value} {xs ys : List Value} (hv : v.parts? = some xs)
    (hw : w.parts? = some ys) : v.equal w = equalItems xs ys := by
  obtain ⟨k, hk, hxs⟩ := parts?_eq_some hv
  obtain ⟨l, hl, hys⟩ := parts?_eq_some hw
  rw [equal_eq_core, hxs, hys, equalCore, sameFamily_left hk, hl, Bool.true_and]

/-- The first items that are not equal decide. -/
theorem lessItems_cons (v w : Value) (xs ys : List Value) :
    lessItems (v :: xs) (w :: ys) = if v.equal w then lessItems xs ys else v.less w := by
  rw [lessItems]
  rfl

theorem equalItems_cons (v w : Value) (xs ys : List Value) :
    equalItems (v :: xs) (w :: ys) = (v.equal w && equalItems xs ys) := by
  rw [equalItems]
  rfl

end Value

end SqlTemplate
