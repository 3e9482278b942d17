/-!
# Computations that may fail

What comes of a computation that may fail is told by `Ends`: if there is a result, it is good, and
if there is none, the fault is a bad one. Computations that go on from a result are told about by
what they go on from (`Ends.bind`, `Ends.ask`), or are compared with others that go on alike
(`bind_eq_map`).
-/

namespace SqlTemplate

/-- A mapped result is a failure only if the result is. -/
theorem map_eq_error {ε β γ : Type} {r : Except ε β} {f : β → γ} {e : ε} (h : r.map f = .error e) :
    r = .error e := by
  cases r with
  | ok b => cases h
  | error e' =>
    cases h
    rfl

/-- The result behind a mapped one. -/
theorem exists_of_map_eq_ok {ε β γ : Type} {r : Except ε β} {f : β → γ} {c : γ}
    (h : r.map f = .ok c) : ∃ b, r = .ok b ∧ f b = c := by
  cases r with
  | ok b => exact ⟨b, rfl, Except.ok.inj h⟩
  | error e => cases h

/-- If the computation gives a result, it is good, and if it fails, it fails with a bad fault. -/
def Ends {ε β : Type} (r : Except ε β) (good : β → Prop) (bad : ε → Prop) : Prop :=
  match r with
  | .ok b => good b
  | .error e => bad e

namespace Ends

variable {ε β γ : Type} {r : Except ε β} {good : β → Prop} {bad : ε → Prop}

theorem mono {good' : β → Prop} {bad' : ε → Prop} (h : Ends r good bad)
    (hg : ∀ b, good b → good' b) (hb : ∀ e, bad e → bad' e) : Ends r good' bad' := by
  cases r with
  | ok b => exact hg b h
  | error e => exact hb e h

theorem imp {good' : β → Prop} (h : Ends r good bad) (hg : ∀ b, good b → good' b) :
    Ends r good' bad := h.mono hg fun _ => id

/-- A computation goes on from a good result. -/
theorem bind {k : β → Except ε γ} {good' : γ → Prop} (h : Ends r good bad)
    (hk : ∀ b, good b → Ends (k b) good' bad) : Ends (r >>= k) good' bad := by
  cases r with
  | ok b => exact hk b h
  | error e => exact h

theorem map {f : β → γ} {good' : γ → Prop} (h : Ends r good bad) (hf : ∀ b, good b → good' (f b)) :
    Ends (r.map f) good' bad := by
  cases r with
  | ok b => exact hf b h
  | error e => exact h

theorem and {good' : β → Prop} (h : Ends r good bad) (h' : Ends r good' bad) :
    Ends r (fun b => good b ∧ good' b) bad := by
  cases r with
  | ok b => exact ⟨h, h'⟩
  | error e => exact h

/-- What a first step may give or fail with decides. -/
theorem ask {k : β → Except ε γ} {good' : γ → Prop} (hb : ∀ e, r = .error e → bad e)
    (hk : ∀ b, r = .ok b → Ends (k b) good' bad) : Ends (r >>= k) good' bad := by
  cases r with
  | ok b => exact hk b rfl
  | error e => exact hb e rfl

theorem of_ok {b : β} (h : Ends r good bad) (hr : r = .ok b) : good b := by
  subst hr
  exact h

theorem of_error {e : ε} (h : Ends r good bad) (hr : r = .error e) : bad e := by
  subst hr
  exact h

end Ends

/-- The computation gives a result, and it is good. -/
abbrev Succeeds {ε β : Type} (r : Except ε β) (good : β → Prop) : Prop :=
  Ends r good fun _ => False

section

variable {ε β β' γ γ' : Type}

/-- Computations that go on alike behind the same result. -/
theorem bind_eq_map {r : Except ε β} {k : β → Except ε γ} {k' : β → Except ε γ'} {g : γ → γ'}
    (hk : ∀ b, r = .ok b → k' b = (k b).map g) : (r >>= k') = (r >>= k).map g := by
  cases r with
  | ok b => exact hk b rfl
  | error e => rfl

/-- They go on alike behind the image of a result. -/
theorem map_bind_eq_map {r : Except ε β} {f : β → β'} {k : β → Except ε γ} {k' : β' → Except ε γ'}
    {g : γ → γ'} (hk : ∀ b, r = .ok b → k' (f b) = (k b).map g) :
    (r.map f >>= k') = (r >>= k).map g := by
  cases r with
  | ok b => exact hk b rfl
  | error e => rfl

end

end SqlTemplate
