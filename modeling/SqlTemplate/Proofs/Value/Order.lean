import SqlTemplate.Value.Order

/-!
# Values without order

A comparison of two values fails for want of an order (`OrderFault.noOrder`) only where it comes
upon a number in each of them such that one of the two is not a number and one is a decimal
(`less_noOrder`). Such numbers stand somewhere inside the two values: `Part` tells what does.
-/

namespace SqlTemplate

def Decimal.isNotANumber : Decimal → Bool
  | notANumber .. => true
  | _ => false

theorem Decimal.compare?_eq_none {m n : Decimal} (h : m.compare? n = none) :
    m.isNotANumber = true ∨ n.isNotANumber = true := by
  cases m with
  | notANumber => exact .inl rfl
  | finite =>
    cases n with
    | notANumber => exact .inr rfl
    | finite => cases h
    | infinite => cases h
  | infinite =>
    cases n with
    | notANumber => exact .inr rfl
    | finite => cases h
    | infinite => cases h

namespace Value

/-- The first value is the second one or stands somewhere inside of it. -/
inductive Part (v : Value) : Value → Prop
  | self : Part v v
  | item {kind : SequenceKind} {items : List Value} {w : Value} :
      w ∈ items → Part v w → Part v (sequence kind items)
  | element {kind : SetKind} {items : List Value} {w : Value} :
      w ∈ items → Part v w → Part v (set kind items)
  | key {kind : MappingKind} {entries : List (Value × Value)} {e : Value × Value} :
      e ∈ entries → Part v e.1 → Part v (mapping kind entries)
  | entry {kind : MappingKind} {entries : List (Value × Value)} {e : Value × Value} :
      e ∈ entries → Part v e.2 → Part v (mapping kind entries)
  | member {cls : Class} {value : Value} : Part v value → Part v (member cls value)
  | mixed {cls : Class} {core value : Value} : Part v value → Part v (mixed cls core value)
  | mixedCore {cls : Class} {core value : Value} : Part v core → Part v (mixed cls core value)
  | objectCore {cls : Class} {core payload : Value} : Part v core → Part v (object cls core payload)
  | selfWritingCore {cls : Class} {program : List Action} {core payload : Value} :
      Part v core → Part v (selfWriting cls program core payload)

/-- What stands inside of the value that another one is built on stands inside of that one. -/
theorem Part.of_core {v w : Value} (h : Part v w.core) : Part v w := by
  cases w with
  | mixed cls core value => exact .mixedCore (of_core h)
  | object cls core payload => exact .objectCore (of_core h)
  | selfWriting cls program core payload => exact .selfWritingCore (of_core h)
  | _ => exact h

/-- A number inside of one of the values and one inside of the other cannot be put in order: one of
them is not a number, and one is a decimal. -/
def Clash (v w : Value) : Prop :=
  ∃ a b m n, Part a v ∧ Part b w ∧ a.number? = some m ∧ b.number? = some n ∧
    (m.isNotANumber = true ∨ n.isNotANumber = true) ∧ (a.isDecimal = true ∨ b.isDecimal = true)

theorem Clash.mono {v v' w w' : Value} (h : Clash v w) (hv : ∀ a, Part a v → Part a v')
    (hw : ∀ b, Part b w → Part b w') : Clash v' w' := by
  obtain ⟨a, b, m, n, ha, hb, h⟩ := h
  exact ⟨a, b, m, n, hv a ha, hw b hb, h⟩

/-- Atoms without order clash. -/
theorem lessAtom_noOrder {v w : Value} (h : lessAtom v w = .error .noOrder) : Clash v w := by
  unfold lessAtom at h
  split at h
  · rename_i m n hm hn
    split at h
    · cases h
    · rename_i hc
      split at h
      · rename_i hd
        exact ⟨v, w, m, n, .self, .self, hm, hn, Decimal.compare?_eq_none hc, by simpa using hd⟩
      · cases h
  · split at h
    · cases h
    · split at h <;> cases h
    · cases h
    · cases h
    · split at h <;> cases h
    · split at h <;> cases h
    · cases h
  · cases h

mutual

/-- Where a comparison finds no order, two parts clash. -/
theorem lessCore_noOrder {v w : Value} (h : lessCore v w = .error .noOrder) : Clash v w := by
  cases v with
  | sequence k xs =>
    cases w with
    | sequence l ys =>
      rw [lessCore] at h
      split at h
      · obtain ⟨x, hx, y, hy, hc⟩ := lessItems_noOrder h
        exact hc.mono (fun _ => .item hx) (fun _ => .item hy)
      · cases h
    | _ => cases h
  | set k xs => cases w <;> cases h
  | mapping k entries => cases h
  | member cls value => cases h
  | mixed cls core value =>
    rw [lessCore] at h
    exact (lessCore_noOrder h).mono (fun _ => .mixedCore) (fun _ => id)
  | object cls core payload =>
    rw [lessCore] at h
    exact (lessCore_noOrder h).mono (fun _ => .objectCore) (fun _ => id)
  | selfWriting cls program core payload =>
    rw [lessCore] at h
    exact (lessCore_noOrder h).mono (fun _ => .selfWritingCore) (fun _ => id)
  | _ => exact lessAtom_noOrder h

theorem lessItems_noOrder : ∀ {xs ys : List Value}, lessItems xs ys = .error .noOrder →
    ∃ x ∈ xs, ∃ y ∈ ys, Clash x y
  | [], ys, h => by cases h
  | x :: xs, [], h => by cases h
  | x :: xs, y :: ys, h => by
    rw [lessItems] at h
    split at h
    · obtain ⟨x', hx, y', hy, hc⟩ := lessItems_noOrder h
      exact ⟨x', List.mem_cons_of_mem x hx, y', List.mem_cons_of_mem y hy, hc⟩
    · have hc := (lessCore_noOrder h).mono (fun _ => id) (fun _ => Part.of_core)
      exact ⟨x, List.mem_cons_self, y, List.mem_cons_self, hc⟩

end

end Value

end SqlTemplate
