import Mathlib.Data.List.Forall2
import SqlTemplate.Proofs.Value.Comparison

/-!
# Values that compare alike

Two values are `Interchangeable` when no comparison tells them apart: with any further value, either
way round, they are equal alike and in order alike. Values that are built on the same are, tuples
and sets whose items are, and progressions with the same terms.
-/

namespace SqlTemplate

/-! ## Progressions -/

namespace Progression

theorem length_terms (p : Progression) : p.terms.length = p.size := by simp [terms]

theorem getElem?_terms {p : Progression} {i : Nat} (h : i < p.size) :
    p.terms[i]? = some (p.start + i * p.step) := by
  simp [terms, h]

/-- Progressions are the same exactly when they have the same terms. -/
theorem same_iff {p q : Progression} : p.same q = true ↔ p.terms = q.terms := by
  have hsame : p.same q = true ↔
      p.size = q.size ∧ (p.size = 0 ∨ p.start = q.start ∧ (p.size = 1 ∨ p.step = q.step)) := by
    simp [same]
  rw [hsame]
  constructor
  · rintro ⟨hsize, h⟩
    rw [terms, terms, ← hsize]
    refine List.map_congr_left ?_
    intro i hi
    have hlt := List.mem_range.1 hi
    rcases h with h0 | ⟨hstart, h1 | hstep⟩
    · omega
    · obtain rfl : i = 0 := by omega
      simp [hstart]
    · rw [hstart, hstep]
  · intro h
    have hsize : p.size = q.size := by rw [← length_terms, h, length_terms]
    have hterm : ∀ i : Nat, i < p.size → p.start + i * p.step = q.start + i * q.step := by
      intro i hi
      have hp := getElem?_terms hi
      rw [h, getElem?_terms (hsize ▸ hi)] at hp
      exact (Option.some.inj hp).symm
    refine ⟨hsize, ?_⟩
    by_cases h0 : p.size = 0
    · exact .inl h0
    · have hfirst := hterm 0 (by omega)
      refine .inr ⟨by simpa using hfirst, ?_⟩
      by_cases h1 : p.size = 1
      · exact .inl h1
      · have hsecond := hterm 1 (by omega)
        refine .inr ?_
        omega

end Progression

namespace Value

/-- Whether the value is built on another one. -/
def isWrapped : Value → Bool
  | mixed .. | object .. | selfWriting .. => true
  | _ => false

theorem isWrapped_core (v : Value) : v.core.isWrapped = false := by
  cases v with
  | mixed cls core value => exact isWrapped_core core
  | object cls core payload => exact isWrapped_core core
  | selfWriting cls program core payload => exact isWrapped_core core
  | _ => rfl

/-- No comparison tells the values apart. -/
structure Interchangeable (v w : Value) : Prop where
  equal_left : ∀ u, v.equal u = w.equal u
  equal_right : ∀ u : Value, u.equal v = u.equal w
  less_left : ∀ u, v.less u = w.less u
  less_right : ∀ u : Value, u.less v = u.less w

namespace Interchangeable

variable {v w v' w' : Value}

/-- Every value can stand for itself. -/
theorem refl (v : Value) : Interchangeable v v :=
  ⟨fun _ => rfl, fun _ => rfl, fun _ => rfl, fun _ => rfl⟩

/-- Values that stand for each other equal the same values. -/
theorem equal (hv : Interchangeable v v') (hw : Interchangeable w w') :
    v.equal w = v'.equal w' := by
  rw [hv.equal_left, hw.equal_right]

/-- And they compare alike. -/
theorem less (hv : Interchangeable v v') (hw : Interchangeable w w') : v.less w = v'.less w' := by
  rw [hv.less_left, hw.less_right]

/-- Comparisons see what values are built on, and on the right only what is built on nothing
else. -/
theorem of_core
    (left : ∀ u : Value,
      equalCore v.core u = equalCore w.core u ∧ lessCore v.core u = lessCore w.core u)
    (right : ∀ u : Value, u.isWrapped = false →
      equalCore u v.core = equalCore u w.core ∧ lessCore u v.core = lessCore u w.core) :
    Interchangeable v w := by
  refine ⟨?_, ?_, ?_, ?_⟩
  · intro u
    rw [equal_eq_core, equal_eq_core, (left u.core).1]
  · intro u
    rw [equal_eq_core, equal_eq_core, (right u.core (isWrapped_core u)).1]
  · intro u
    rw [less_eq_core, less_eq_core, (left u.core).2]
  · intro u
    rw [less_eq_core, less_eq_core, (right u.core (isWrapped_core u)).2]

/-- Values that are built on interchangeable ones are interchangeable. -/
theorem of_core_eq {x y : Value} (h : Interchangeable x y) (hv : v.core = x.core)
    (hw : w.core = y.core) : Interchangeable v w := by
  refine ⟨?_, ?_, ?_, ?_⟩
  · intro u
    rw [equal_eq_core, equal_eq_core, hv, hw, ← equal_eq_core, ← equal_eq_core, h.equal_left]
  · intro u
    rw [equal_eq_core, equal_eq_core, hv, hw, ← equal_eq_core, ← equal_eq_core, h.equal_right]
  · intro u
    rw [less_eq_core, less_eq_core, hv, hw, ← less_eq_core, ← less_eq_core, h.less_left]
  · intro u
    rw [less_eq_core, less_eq_core, hv, hw, ← less_eq_core, ← less_eq_core, h.less_right]

/-- A member of an enumeration is compared by its class. -/
theorem of_member (cls : Class) (v w : Value) :
    Interchangeable (member cls v) (member cls w) := by
  refine of_core ?_ ?_
  · intro u
    cases u <;> simp [core, equalCore, lessCore]
  · intro u hu
    cases u <;> simp_all [isWrapped, core, equalCore, lessCore, sameAtom, lessAtom, number?]

theorem of_range {p q : Progression} (h : p.terms = q.terms) :
    Interchangeable (range p) (range q) := by
  have left : ∀ r, p.same r = q.same r := by
    intro r
    rw [Bool.eq_iff_iff, Progression.same_iff, Progression.same_iff, h]
  have right : ∀ r : Progression, r.same p = r.same q := by
    intro r
    rw [Bool.eq_iff_iff, Progression.same_iff, Progression.same_iff, h]
  refine of_core ?_ ?_
  · intro u
    cases u <;> simp [core, equalCore, lessCore, sameAtom, lessAtom, number?, left]
  · intro u hu
    cases u <;> simp_all [isWrapped, core, equalCore, lessCore, sameAtom, lessAtom, number?]

end Interchangeable

/-! ## Containers -/

section

variable {xs xs' ys ys' : List Value}

theorem equalItems_congr (hx : List.Forall₂ Interchangeable xs xs')
    (hy : List.Forall₂ Interchangeable ys ys') : equalItems xs ys = equalItems xs' ys' := by
  induction hx generalizing ys ys' with
  | nil => cases hy <;> simp [equalItems]
  | cons hv _ ih =>
    cases hy with
    | nil => simp [equalItems]
    | cons hw hy => rw [equalItems_cons, equalItems_cons, hv.equal hw, ih hy]

theorem lessItems_congr (hx : List.Forall₂ Interchangeable xs xs')
    (hy : List.Forall₂ Interchangeable ys ys') : lessItems xs ys = lessItems xs' ys' := by
  induction hx generalizing ys ys' with
  | nil => cases hy <;> rfl
  | cons hv _ ih =>
    cases hy with
    | nil => rfl
    | cons hw hy => rw [lessItems_cons, lessItems_cons, hv.equal hw, hv.less hw, ih hy]

theorem any_equal_congr {v v' : Value} (hv : Interchangeable v v')
    (hy : List.Forall₂ Interchangeable ys ys') : ys.any v.equal = ys'.any v'.equal := by
  induction hy with
  | nil => rfl
  | cons hw _ ih => rw [List.any_cons, List.any_cons, hv.equal hw, ih]

theorem equalSome_congr (hx : List.Forall₂ Interchangeable xs xs')
    (hy : List.Forall₂ Interchangeable ys ys') : equalSome xs ys = equalSome xs' ys' := by
  induction hx with
  | nil => simp [equalSome]
  | cons hv _ ih =>
    rw [equalSome, equalSome, ih]
    exact congrArg (· && _) (any_equal_congr hv hy)

end

namespace Interchangeable

variable {v w : Value} {xs ys : List Value}

theorem forall₂_refl (xs : List Value) : List.Forall₂ Interchangeable xs xs :=
  List.forall₂_same.2 fun v _ => refl v

/-- **Tuples and records compare alike** where their items do. -/
theorem of_tuples {k l : SequenceKind} (hk : k.isTuple = true) (hl : l.isTuple = true)
    (hv : v.core = sequence k xs) (hw : w.core = sequence l ys)
    (h : List.Forall₂ Interchangeable xs ys) : Interchangeable v w := by
  refine of_core ?_ ?_
  · intro u
    cases u with
    | sequence m zs =>
      simp only [hv, hw, equalCore, lessCore, sameFamily_left hk, sameFamily_left hl,
        equalItems_congr h (forall₂_refl zs), lessItems_congr h (forall₂_refl zs), and_self]
    | _ => simp [hv, hw, equalCore, lessCore]
  · intro u hu
    cases u with
    | sequence m zs =>
      simp only [hv, hw, equalCore, lessCore, sameFamily_right hk, sameFamily_right hl,
        equalItems_congr (forall₂_refl zs) h, lessItems_congr (forall₂_refl zs) h, and_self]
    | _ => simp_all [isWrapped, equalCore, lessCore, sameAtom, lessAtom, number?]

/-- Sets of any kinds compare alike where their items do. -/
theorem of_sets {k l : SetKind} (hv : v.core = set k xs) (hw : w.core = set l ys)
    (h : List.Forall₂ Interchangeable xs ys) : Interchangeable v w := by
  refine of_core ?_ ?_
  · intro u
    cases u with
    | set m zs =>
      simp only [hv, hw, equalCore, lessCore, h.length_eq, equalSome_congr h (forall₂_refl zs),
        and_self]
    | _ => simp [hv, hw, equalCore, lessCore]
  · intro u hu
    cases u with
    | set m zs =>
      simp only [hv, hw, equalCore, lessCore, h.length_eq, equalSome_congr (forall₂_refl zs) h,
        and_self]
    | _ => simp_all [isWrapped, equalCore, lessCore, sameAtom, lessAtom, number?]

end Interchangeable

end Value

end SqlTemplate
