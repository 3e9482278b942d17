import Mathlib.Data.List.Pairwise
import Mathlib.Order.Lattice
import SqlTemplate.Proofs.Sorting

/-!
# The order in which sorting puts the items

Where the items have keys of a linear order and the comparison is that of the keys, sorting succeeds
and the keys ascend (`sorted_of_key`). A leap over ascending items finds the very place of an item
(`leap_eq`), whatever strides it takes. So one step of a merging takes items that come before all
that are left. Of these the last one of the first run stays behind all of the second one, which is
why the merging may stop when it is the only one left.
-/

namespace SqlTemplate

namespace Sorting

/-! ## The place that is found -/

section

variable {ε : Type} {holds : Nat → Except ε Bool} {k : Nat}

/-- Halving finds the place from which on the condition does not hold. -/
theorem halve_eq {fromEnd : Bool} {fuel low size : Nat}
    (hh : ∀ i < low + size, holds i = .ok (decide (i < k))) (hf : size ≤ fuel) (hl : low ≤ k)
    (hk : k ≤ low + size) : halve holds fromEnd fuel low size = .ok k := by
  induction fuel generalizing low size with
  | zero =>
    obtain rfl : low = k := by omega
    rfl
  | succ fuel ih =>
    rw [halve]
    split
    · obtain rfl : low = k := by omega
      rfl
    · rename_i hs
      have hm : (if fromEnd then size - 1 else size) / 2 < size := by split <;> omega
      generalize (if fromEnd then size - 1 else size) / 2 = half at hm
      show (holds (low + half) >>= _) = _
      rw [hh (low + half) (by omega)]
      by_cases hk' : low + half < k
      · rw [decide_eq_true hk']
        exact ih (fun i hi => hh i (by omega)) (by omega) (by omega) (by omega)
      · rw [decide_eq_false hk']
        exact ih (fun i hi => hh i (by omega)) (by omega) hl (by omega)

/-- So do strides, wherever they go. -/
theorem stride_eq {fromEnd : Bool} {count fuel last next : Nat}
    (hh : ∀ i < count, holds i = .ok (decide (i < k))) (hl : last < k) (hk : k ≤ count) :
    stride holds fromEnd count fuel last next = .ok k := by
  have hhalve : halve holds fromEnd count (last + 1) (count - (last + 1)) = .ok k :=
    halve_eq (fun i hi => hh i (by omega)) (by omega) hl (by omega)
  induction fuel generalizing last next with
  | zero => exact hhalve
  | succ fuel ih =>
    rw [stride]
    split
    · exact hhalve
    · rw [hh next (by omega)]
      by_cases hn : next < k
      · rw [decide_eq_true hn]
        exact ih hn (halve_eq (fun i hi => hh i (by omega)) (by omega) hn (by omega))
      · rw [decide_eq_false hn]
        exact halve_eq (fun i hi => hh i (by omega)) (by omega) hl (by omega)

/-- **A leap finds the place** from which on the condition does not hold. -/
theorem leap_eq {fromEnd : Bool} {count : Nat}
    (hh : ∀ i < count, holds i = .ok (decide (i < k))) (hk : k ≤ count) :
    leap holds fromEnd count = .ok k := by
  rw [leap]
  split
  · obtain rfl : k = 0 := by omega
    rfl
  · rw [hh 0 (by omega)]
    by_cases h0 : 0 < k
    · rw [decide_eq_true h0]
      exact stride_eq hh h0 hk
    · rw [decide_eq_false h0, Nat.eq_zero_of_not_pos h0]
      rfl

end

section

variable {α ε : Type} {test : α → Except ε Bool} {front behind : List α}

/-- Of items that pass a test up to some place each one tells on which side of it it is. -/
theorem passesAt_split (hf : ∀ x ∈ front, test x = .ok true)
    (hb : ∀ x ∈ behind, test x = .ok false) :
    ∀ i < (front ++ behind).length,
      passesAt test (front ++ behind) i = .ok (decide (i < front.length)) := by
  intro i hi
  rw [passesAt, List.getElem?_eq_getElem hi]
  by_cases h : i < front.length
  · rw [List.getElem_append_left h, decide_eq_true h]
    exact hf _ (List.getElem_mem h)
  · rw [List.getElem_append_right (Nat.le_of_not_lt h), decide_eq_false h]
    exact hb _ (List.getElem_mem _)

/-- So a leap goes over those that pass. -/
theorem leap_split (hf : ∀ x ∈ front, test x = .ok true)
    (hb : ∀ x ∈ behind, test x = .ok false) (fromEnd : Bool) :
    leap (passesAt test (front ++ behind)) fromEnd (front ++ behind).length =
      .ok front.length :=
  leap_eq (passesAt_split hf hb) (by simp)

/-- If nothing has a property behind an item that has not, the items with it stand before those
without it. -/
theorem exists_split {p : α → Prop} [DecidablePred p] {items : List α}
    (h : items.Pairwise fun a b => p b → p a) :
    ∃ front behind, items = front ++ behind ∧ (∀ x ∈ front, p x) ∧ ∀ x ∈ behind, ¬ p x := by
  induction items with
  | nil => exact ⟨[], [], rfl, by simp, by simp⟩
  | cons x items ih =>
    obtain ⟨hx, hrest⟩ := List.pairwise_cons.1 h
    by_cases hp : p x
    · obtain ⟨front, behind, rfl, hf, hb⟩ := ih hrest
      exact ⟨x :: front, behind, rfl, List.forall_mem_cons.2 ⟨hp, hf⟩, hb⟩
    · exact ⟨[], x :: items, rfl, by simp,
        List.forall_mem_cons.2 ⟨hp, fun y hy => mt (hx y hy) hp⟩⟩

end
end Sorting

section

variable {α κ ε : Type} [LinearOrder κ]

/-- The keys ascend; equal ones may follow one another. -/
def Ascending (key : α → κ) (items : List α) : Prop := items.Pairwise fun a b => key a ≤ key b

variable {key : α → κ}

instance Ascending.trans : IsTrans α fun a b => key a ≤ key b := ⟨fun _ _ _ => le_trans⟩

instance Ascending.trans_swap : IsTrans α fun a b => key b ≤ key a :=
  ⟨fun _ _ _ hab hbc => hbc.trans hab⟩

theorem Ascending.append {as bs : List α} (ha : Ascending key as) (hb : Ascending key bs)
    (h : ∀ a ∈ as, ∀ b ∈ bs, key a ≤ key b) : Ascending key (as ++ bs) :=
  List.pairwise_append.2 ⟨ha, hb, h⟩

theorem Ascending.head_le {x : α} {items : List α} (h : Ascending key (x :: items)) :
    ∀ y ∈ x :: items, key x ≤ key y := by
  intro y hy
  rcases List.mem_cons.1 hy with rfl | hy
  · exact le_rfl
  · exact List.rel_of_pairwise_cons h hy

/-- No item comes behind the last one. -/
theorem Ascending.le_getLast {x : α} {items : List α} (h : Ascending key items)
    (hx : x ∈ items.getLast?) : ∀ y ∈ items, key y ≤ key x := by
  obtain ⟨init, rfl⟩ := List.getLast?_eq_some_iff.1 hx
  intro y hy
  rcases List.mem_append.1 hy with hy | hy
  · exact (List.pairwise_append.1 h).2.2 y hy x (by simp)
  · rw [List.mem_singleton.1 hy]

theorem Ascending.sublist {items items' : List α} (h : Ascending key items)
    (hs : items'.Sublist items) : Ascending key items' := List.Pairwise.sublist hs h

/-- The place of a key separates ascending items. -/
theorem Ascending.exists_split_le {items : List α} (h : Ascending key items) (k : κ) :
    ∃ front behind, items = front ++ behind ∧ (∀ x ∈ front, key x ≤ k) ∧
      ∀ x ∈ behind, k < key x := by
  obtain ⟨front, behind, hi, hf, hb⟩ := Sorting.exists_split
    (h.imp fun hab (hb : key _ ≤ k) => hab.trans hb)
  exact ⟨front, behind, hi, hf, fun x hx => not_le.1 (hb x hx)⟩

theorem Ascending.exists_split_lt {items : List α} (h : Ascending key items) (k : κ) :
    ∃ front behind, items = front ++ behind ∧ (∀ x ∈ front, key x < k) ∧
      ∀ x ∈ behind, k ≤ key x := by
  obtain ⟨front, behind, hi, hf, hb⟩ := Sorting.exists_split
    (h.imp fun hab (hb : key _ < k) => hab.trans_lt hb)
  exact ⟨front, behind, hi, hf, fun x hx => not_lt.1 (hb x hx)⟩

end

section

variable {α κ ε : Type} [LinearOrder κ] {key : α → κ} {less : α → α → Except ε Bool}
  (hless : ∀ a b, less a b = .ok (decide (key a < key b)))

/-! ## Runs -/

section

include hless

theorem descendingRun_ascending {last : α} {run : List α} (rest : List α)
    (h : Ascending key (last :: run)) :
    Succeeds (descendingRun less last (last :: run) rest) (fun cut => Ascending key cut.1) := by
  induction rest generalizing last run with
  | nil => exact h
  | cons x rest ih =>
    rw [descendingRun, hless]
    by_cases hx : key x < key last
    · rw [decide_eq_true hx]
      exact ih (List.pairwise_cons_cons_iff_of_trans.2 ⟨hx.le, h⟩)
    · rw [decide_eq_false hx]
      exact h

theorem ascendingRun_ascending {last : α} {run : List α} (rest : List α)
    (h : (last :: run).Pairwise fun a b => key b ≤ key a) :
    Succeeds (ascendingRun less last (last :: run) rest)
      (fun cut => Ascending key cut.1.reverse) := by
  induction rest generalizing last run with
  | nil => exact List.pairwise_reverse.2 h
  | cons x rest ih =>
    rw [ascendingRun, hless]
    by_cases hx : key x < key last
    · rw [decide_eq_true hx]
      exact List.pairwise_reverse.2 h
    · rw [decide_eq_false hx]
      exact ih (List.pairwise_cons_cons_iff_of_trans.2 ⟨not_lt.1 hx, h⟩)

/-- The first run is found, and is ascending. -/
theorem firstRun_ascending (items : List α) :
    Succeeds (firstRun less items) (fun cut => Ascending key cut.1) := by
  match items with
  | [] => exact List.Pairwise.nil
  | [x] => exact List.pairwise_singleton _ x
  | x :: y :: rest =>
    rw [firstRun, hless]
    by_cases hy : key y < key x
    · rw [decide_eq_true hy]
      exact descendingRun_ascending hless rest (List.pairwise_pair.2 hy.le)
    · rw [decide_eq_false hy]
      exact (ascendingRun_ascending hless rest (List.pairwise_pair.2 (not_lt.1 hy))).bind
        fun _ => id

theorem not_less_of_le {x y : α} (h : key x ≤ key y) : (less y x).map not = .ok true := by
  rw [hless, decide_eq_false (not_lt.2 h)]
  rfl

theorem not_less_of_lt {x y : α} (h : key y < key x) : (less y x).map not = .ok false := by
  rw [hless, decide_eq_true h]
  rfl

/-- An item is inserted behind those that it does not come before. -/
theorem insertSorted_ascending {items : List α} (h : Ascending key items) (x : α) :
    Succeeds (insertSorted less items x) (Ascending key) := by
  obtain ⟨front, behind, rfl, hf, hb⟩ := h.exists_split_le (key x)
  have hh := Sorting.passesAt_split (fun y hy => not_less_of_le hless (hf y hy))
    fun y hy => not_less_of_lt hless (hb y hy)
  rw [insertSorted, Sorting.halve_eq (by simpa using hh) (Nat.le_refl _) (Nat.zero_le _)
    (by simp)]
  show Ascending key (_ ++ x :: _)
  rw [List.take_left, List.drop_left]
  obtain ⟨hfront, hbehind, -⟩ := List.pairwise_append.1 h
  have hx : Ascending key (x :: behind) :=
    List.pairwise_cons.2 ⟨fun b hm => (hb b hm).le, hbehind⟩
  exact .append hfront hx fun a ha b hm => (hf a ha).trans (hx.head_le b hm)

theorem foldlM_insertSorted_ascending {run : List α} (h : Ascending key run) (rest : List α) :
    Succeeds (rest.foldlM (insertSorted less) run) (Ascending key) := by
  induction rest generalizing run with
  | nil => exact h
  | cons x rest ih =>
    rw [List.foldlM_cons]
    exact (insertSorted_ascending hless h x).bind fun run' hr => ih hr

theorem Sorting.nextRun_ascending (least : Nat) (items : List α) :
    Succeeds (Sorting.nextRun less least items) (fun cut => Ascending key cut.1) :=
  (firstRun_ascending hless items).bind fun (_, _) ha =>
    (foldlM_insertSorted_ascending hless ha _).bind fun _ => id

end

namespace Sorting

/-! ## Merging two runs -/

/-- Two runs that are left of a merging ascend, and the second one has nothing that comes behind the
last item of the first one. -/
structure Interlaced (key : α → κ) (first second : List α) : Prop where
  ascends : Ascending key first
  ascends' : Ascending key second
  last : ∀ y ∈ second, ∀ x ∈ first.getLast?, key y ≤ key x

/-- It stays like that when items are taken from the front. -/
theorem Interlaced.of_suffix {first first' second second' : List α}
    (h : Interlaced key first second) (hf : first' <:+ first) (hs : second' <:+ second) :
    Interlaced key first' second' where
  ascends := h.ascends.sublist hf.sublist
  ascends' := h.ascends'.sublist hs.sublist
  last y hy x hx := by
    obtain ⟨front, rfl⟩ := hf
    refine h.last y (hs.subset hy) x ?_
    rw [List.getLast?_append, hx]
    rfl

/-- A step takes ascending items that come before all that it leaves. -/
structure Step.Ascends (key : α → κ) (step : Step α) : Prop where
  items : Ascending key step.items
  before : ∀ a ∈ step.items, ∀ b ∈ step.first ++ step.second, key a ≤ key b
  left : Interlaced key step.first step.second
  some : step.items ≠ []

section

include hless

theorem singleStep_ascends {x x' y : α} {first second : List α}
    (h : Interlaced key (x :: x' :: first) (y :: second)) (patience won lost : Nat) :
    Succeeds (singleStep less patience won lost x (x' :: first) y second) (Step.Ascends key) := by
  rw [singleStep, hless]
  by_cases hyx : key y < key x
  · rw [decide_eq_true hyx]
    refine ⟨List.pairwise_singleton _ y, ?_, h.of_suffix (List.suffix_refl _)
      (List.suffix_cons y second), by simp⟩
    intro a ha b hb
    rw [List.mem_singleton.1 ha]
    rcases List.mem_append.1 hb with hb | hb
    · exact hyx.le.trans (h.ascends.head_le b hb)
    · exact h.ascends'.head_le b (List.mem_cons_of_mem y hb)
  · rw [decide_eq_false hyx]
    refine ⟨List.pairwise_singleton _ x, ?_, h.of_suffix (List.suffix_cons x _)
      (List.suffix_refl _), by simp⟩
    intro a ha b hb
    rw [List.mem_singleton.1 ha]
    rcases List.mem_append.1 hb with hb | hb
    · exact h.ascends.head_le b (List.mem_cons_of_mem x hb)
    · exact (not_lt.1 hyx).trans (h.ascends'.head_le b hb)

/-- What is leapt over is not greater than the item that the leap is made for. -/
theorem leapFirst_ascends {y : α} {first second : List α}
    (h : Interlaced key first (y :: second)) (hl : 2 ≤ first.length) (fromEnd : Bool)
    (pace : Nat → Pace) :
    Succeeds (leapFirst less fromEnd pace first y second) (Step.Ascends key) := by
  obtain ⟨front, behind, rfl, hf, hb⟩ := h.ascends.exists_split_le (key y)
  have hleap := leap_split (fun x hx => not_less_of_le hless (hf x hx))
    (fun x hx => not_less_of_lt hless (hb x hx)) fromEnd
  have hfront : Ascending key front := h.ascends.sublist (List.sublist_append_left _ _)
  have hbefore : ∀ a ∈ front, ∀ b ∈ behind ++ y :: second, key a ≤ key b := by
    intro a ha b hm
    rcases List.mem_append.1 hm with hm | hm
    · exact (hf a ha).trans (hb b hm).le
    · exact (hf a ha).trans (h.ascends'.head_le b hm)
  rw [leapFirst, hleap]
  show Succeeds (if _ then _ else _) _
  rw [List.take_left, List.drop_left]
  split
  · rename_i ht
    have hne : front ≠ [] := by
      rintro rfl
      simp only [List.nil_append, List.length_nil] at hl ht
      omega
    exact ⟨hfront, hbefore, h.of_suffix (List.suffix_append _ _) (List.suffix_refl _), hne⟩
  · refine ⟨hfront.append (List.pairwise_singleton _ y) fun a ha b hm => ?_, ?_,
      h.of_suffix (List.suffix_append _ _) (List.suffix_cons y second), by simp⟩
    · rw [List.mem_singleton.1 hm]
      exact hf a ha
    · intro a ha b hm
      rcases List.mem_append.1 ha with ha | ha
      · exact hbefore a ha b (List.append_subset.2 ⟨List.subset_append_left _ _,
          fun z hz => List.mem_append_right _ (List.mem_cons_of_mem y hz)⟩ hm)
      · rw [List.mem_singleton.1 ha]
        rcases List.mem_append.1 hm with hm | hm
        · exact (hb b hm).le
        · exact h.ascends'.head_le b (List.mem_cons_of_mem y hm)

theorem leapSecond_ascends {x x' : α} {first second : List α}
    (h : Interlaced key (x :: x' :: first) second) (fromEnd : Bool) (pace : Nat → Pace) :
    Succeeds (leapSecond less fromEnd pace x (x' :: first) second) (Step.Ascends key) := by
  obtain ⟨front, behind, rfl, hf, hb⟩ := h.ascends'.exists_split_lt (key x)
  have hleap := leap_split (fun y hy => (hless y x).trans (by rw [decide_eq_true (hf y hy)]))
    (fun y hy => (hless y x).trans (by rw [decide_eq_false (not_lt.2 (hb y hy))])) fromEnd
  rw [leapSecond, hleap]
  show Step.Ascends key ⟨_, _, _, _⟩
  rw [List.take_left, List.drop_left]
  refine ⟨(h.ascends'.sublist (List.sublist_append_left _ _)).append
    (List.pairwise_singleton _ x) fun a ha b hm => ?_, fun a ha b hm => ?_,
    h.of_suffix (List.suffix_cons x _) (List.suffix_append _ _), by simp⟩
  · rw [List.mem_singleton.1 hm]
    exact (hf a ha).le
  · have hx : key x ≤ key b := by
      rcases List.mem_append.1 hm with hm | hm
      · exact h.ascends.head_le b (List.mem_cons_of_mem x hm)
      · exact hb b hm
    rcases List.mem_append.1 ha with ha | ha
    · exact (hf a ha).le.trans hx
    · rwa [List.mem_singleton.1 ha]

/-- **Whichever step is made**, what it takes comes before what it leaves. -/
theorem mergeStep_ascends {x x' y : α} {first second : List α}
    (h : Interlaced key (x :: x' :: first) (y :: second)) (fromEnd : Bool) (patience : Nat)
    (pace : Pace) :
    Succeeds (mergeStep less fromEnd patience x (x' :: first) y second pace)
      (Step.Ascends key) := by
  cases pace with
  | single won lost => exact singleStep_ascends hless h patience won lost
  | _ =>
    show Succeeds (if _ then _ else _) _
    split
    · exact leapFirst_ascends hless h (by simp) fromEnd _
    · exact leapSecond_ascends hless h fromEnd _

end

end Sorting
end

namespace Sorting

section

variable {α κ ε : Type} [LinearOrder κ] {key : α → κ} {less : α → α → Except ε Bool}
  (hless : ∀ a b, less a b = .ok (decide (key a < key b)))

include hless

/-- No comparison fails. -/
theorem succeeds {β : Type} {r : Except ε β} {good : β → Prop} {all : List α}
    (h : Ends r good (Fails less all)) : Succeeds r good :=
  h.mono (fun _ => id) fun e ⟨x, _, y, _, he⟩ => by
    rw [hless] at he
    cases he

/-- **The items come out in ascending order**, as each step takes those that come before all that it
leaves. -/
theorem mergeRest_ascending (fromEnd : Bool) {fuel : Nat} {first second : List α}
    (h : Interlaced key first second) (hf : first.length + second.length ≤ fuel) (pace : Pace)
    (patience : Nat) :
    Succeeds (mergeRest less fromEnd fuel pace patience first second)
      (fun out => Ascending key out.1) := by
  induction fuel generalizing first second pace patience with
  | zero =>
    obtain ⟨rfl, rfl⟩ : first = [] ∧ second = [] := by
      simp only [← List.length_eq_zero_iff]
      omega
    exact List.Pairwise.nil
  | succ fuel ih =>
    match first, second with
    | [], second => exact h.ascends'.append List.Pairwise.nil (by simp)
    | [x], second =>
      exact h.ascends'.append (List.pairwise_singleton _ x) fun a ha b hb =>
        List.mem_singleton.1 hb ▸ h.last a ha x rfl
    | x :: x' :: first, [] => exact h.ascends
    | x :: x' :: first, y :: second =>
      have hstep := mergeStep_ascends hless h fromEnd (pace.next patience).2 (pace.next patience).1
      have hperm := succeeds hless (mergeStep_ends
        (List.Subset.refl (x :: x' :: first ++ y :: second)) fromEnd (pace.next patience).2
        (pace.next patience).1)
      refine (hstep.and hperm).bind fun step ⟨ha, hp⟩ => ?_
      have hl : step.first.length + step.second.length ≤ fuel := by
        have hsome := List.length_pos_iff.2 ha.some
        have hlength := hp.length_eq
        simp only [Step.whole, List.length_append] at hlength hf
        omega
      have hrest := (ih ha.left hl step.pace (pace.next patience).2).and
        (succeeds hless (mergeRest_ends fromEnd (List.Subset.refl _) fuel _ _))
      refine hrest.bind fun out ⟨ho, hq⟩ => ?_
      exact ha.items.append ho fun a hm b hb => ha.before a hm b (hq.mem_iff.1 hb)

/-- Two runs are merged if the one that the merging begins with has what comes first of all. -/
theorem mergeFrom_ascending (fromEnd : Bool) {first second : List α}
    (h : Interlaced key first second) (hh : ∀ y ∈ second.head?, ∀ x ∈ first, key y ≤ key x)
    (patience : Nat) :
    Succeeds (mergeFrom less fromEnd patience first second) (fun out => Ascending key out.1) := by
  cases second with
  | nil => exact h.ascends
  | cons y second =>
    have hs := h.of_suffix (List.suffix_refl first) (List.suffix_cons y second)
    have hrest := (mergeRest_ascending hless fromEnd hs (Nat.le_refl _) (.single 0 0)
      patience).and (succeeds hless (mergeRest_ends fromEnd (List.Subset.refl _) _ _ _))
    refine hrest.bind fun out ⟨ho, hp⟩ => List.pairwise_cons.2 ⟨fun b hb => ?_, ho⟩
    rcases List.mem_append.1 (hp.mem_iff.1 hb) with hb | hb
    · exact hh y rfl b hb
    · exact h.ascends'.head_le b (List.mem_cons_of_mem y hb)

theorem mergeBoth_ascending {first second : List α} (h : Interlaced key first second)
    (hh : ∀ y ∈ second.head?, ∀ x ∈ first, key y ≤ key x) (patience : Nat) :
    Succeeds (mergeBoth less patience first second) (fun out => Ascending key out.1) := by
  rw [mergeBoth]
  split
  · exact mergeFrom_ascending hless false h hh patience
  · -- Reversed runs ascend in the reversed order, in which the two have changed places.
    have hr : Interlaced (fun x => OrderDual.toDual (key x)) second.reverse first.reverse := by
      refine ⟨List.pairwise_reverse.2 h.ascends', List.pairwise_reverse.2 h.ascends, ?_⟩
      intro y hy x hx
      rw [List.getLast?_reverse] at hx
      exact hh x hx y (List.mem_reverse.1 hy)
    refine (mergeFrom_ascending (fun a b => hless b a) true hr ?_ patience).map fun out ho => ?_
    · intro y hy x hx
      rw [List.head?_reverse] at hy
      exact h.last x (List.mem_reverse.1 hx) y hy
    · exact List.pairwise_reverse.2 ho

end

end Sorting

section

variable {α κ ε : Type} [LinearOrder κ] {key : α → κ} {less : α → α → Except ε Bool}
  (hless : ∀ a b, less a b = .ok (decide (key a < key b)))

include hless

namespace Sorting

/-- Items from the end on that are not less than another one are leapt over. -/
theorem leap_late_eq {front late : List α} {x : α} (hf : ∀ z ∈ front, key z < key x)
    (hl : ∀ z ∈ late, key x ≤ key z) :
    leap (passesAt (fun z => (less z x).map not) (front ++ late).reverse) true
      (front ++ late).length = .ok late.length := by
  have h := leap_split (fun z hz => not_less_of_le hless (hl z (List.mem_reverse.1 hz)))
    (fun z hz => not_less_of_lt hless (hf z (List.mem_reverse.1 hz))) true
  rwa [← List.reverse_append, List.length_reverse, List.length_reverse] at h

omit hless in
/-- What is merged of two runs lies between what stays before it and what stays behind it. -/
theorem ascending_enclosed {early rest front late middle : List α} {x : α}
    (hf : Ascending key (early ++ rest)) (hs : Ascending key (front ++ late))
    (hbefore : ∀ a ∈ early, ∀ b ∈ front ++ late, key a ≤ key b) (hx : x ∈ rest.getLast?)
    (hfront : ∀ z ∈ front, key z < key x) (hlate : ∀ z ∈ late, key x ≤ key z)
    (hm : Ascending key middle) (hp : middle.Perm (rest ++ front)) :
    Ascending key (early ++ middle ++ late) := by
  obtain ⟨hearly, hrest, hearly'⟩ := List.pairwise_append.1 hf
  have hmiddle : ∀ z ∈ middle, key z ≤ key x ∧ ∀ a ∈ early, key a ≤ key z := by
    intro z hz
    rcases List.mem_append.1 (hp.mem_iff.1 hz) with hz | hz
    · exact ⟨Ascending.le_getLast hrest hx z hz, fun a ha => hearly' a ha z hz⟩
    · exact ⟨(hfront z hz).le, fun a ha => hbefore a ha z (List.mem_append_left _ hz)⟩
  have hfirst := Ascending.append hearly hm fun a ha z hz => (hmiddle z hz).2 a ha
  refine hfirst.append (hs.sublist (List.sublist_append_right _ _)) fun a ha b hb => ?_
  rcases List.mem_append.1 ha with ha | ha
  · exact hbefore a ha b (List.mem_append_right _ hb)
  · exact (hmiddle a ha).1.trans (hlate b hb)

/-- What is left out of the merging of two runs stays on its side of what is merged. -/
theorem mergeRuns_ascending {first second : List α} (hf : Ascending key first)
    (hs : Ascending key second) (patience : Nat) :
    Succeeds (mergeRuns less patience first second) (fun out => Ascending key out.1) := by
  cases second with
  | nil => exact hf
  | cons y second =>
    obtain ⟨early, rest, rfl, hearly, hrest⟩ := hf.exists_split_le (key y)
    have hbefore : ∀ a ∈ early, ∀ b ∈ y :: second, key a ≤ key b :=
      fun a ha b hb => (hearly a ha).trans (hs.head_le b hb)
    have hleap := leap_split (fun x hx => not_less_of_le hless (hearly x hx))
      (fun x hx => not_less_of_lt hless (hrest x hx)) false
    rw [mergeRuns, hleap]
    simp only [bind, Except.bind, List.take_left, List.drop_left]
    cases hx : rest.getLast? with
    | none =>
      rw [List.getLast?_eq_none_iff] at hx
      rw [hx, List.append_nil] at hf ⊢
      exact hf.append hs hbefore
    | some x =>
      obtain ⟨front, late, hsplit, hfront, hlate⟩ := hs.exists_split_lt (key x)
      have hlength : (front ++ late).length - late.length = front.length := by simp
      rw [hsplit] at hs hbefore ⊢
      simp only [leap_late_eq hless hfront hlate, hlength]
      rw [List.take_left, List.drop_left]
      have hi : Interlaced key rest front :=
        ⟨hf.sublist (List.sublist_append_right _ _), hs.sublist (List.sublist_append_left _ _),
          fun z hz w hw => by
            obtain rfl := Option.some.inj (hx.symm.trans hw)
            exact (hfront z hz).le⟩
      have hh : ∀ z ∈ front.head?, ∀ w ∈ rest, key z ≤ key w := by
        intro z hz w hw
        obtain ⟨front', rfl⟩ := List.head?_eq_some_iff.1 hz
        obtain rfl := (List.cons.inj hsplit).1
        exact (hrest w hw).le
      have hmerged := (mergeBoth_ascending hless hi hh patience).and
        (succeeds hless (mergeBoth_ends patience (List.Subset.refl _)))
      exact hmerged.bind fun out ⟨ho, hp⟩ =>
        ascending_enclosed hf hs hbefore hx hfront hlate ho hp

/-! ## Merging all runs -/

/-- Each of the runs ascends. -/
def Ascendings (key : α → κ) (waiting : List (Waiting α)) (last : List α) : Prop :=
  (∀ w ∈ waiting, Ascending key w.run) ∧ Ascending key last

theorem mergeGreater_ascending (limit : Nat) {waiting : List (Waiting α)} {last : List α}
    (h : Ascendings key waiting last) (patience : Nat) :
    Succeeds (mergeGreater less limit waiting last patience)
      (fun out => Ascendings key out.1 out.2.1) := by
  induction waiting generalizing last patience with
  | nil => exact h
  | cons w waiting ih =>
    obtain ⟨hw, hwaiting⟩ := List.forall_mem_cons.1 h.1
    rw [mergeGreater]
    split
    · exact (mergeRuns_ascending hless hw h.2 patience).bind
        fun out ho => ih ⟨hwaiting, ho⟩ out.2
    · exact h

/-- In whatever order runs are merged, the result ascends. -/
theorem mergeAll_ascending (fuel : Nat) {waiting : List (Waiting α)} {last : List α}
    (h : Ascendings key waiting last) (patience : Nat) :
    Succeeds (mergeAll less fuel waiting last patience) (Ascending key) := by
  induction fuel generalizing waiting last patience with
  | zero => exact h.2
  | succ fuel ih =>
    match waiting with
    | [] => exact h.2
    | [w] =>
      exact (mergeRuns_ascending hless (h.1 w (by simp)) h.2 patience).bind fun _ => id
    | w :: v :: waiting =>
      obtain ⟨hw, hwaiting⟩ := List.forall_mem_cons.1 h.1
      obtain ⟨hv, hwaiting'⟩ := List.forall_mem_cons.1 hwaiting
      rw [mergeAll]
      split
      · exact (mergeRuns_ascending hless hv hw patience).bind
          fun out ho => ih ⟨List.forall_mem_cons.2 ⟨ho, hwaiting'⟩, h.2⟩ out.2
      · exact (mergeRuns_ascending hless hw h.2 patience).bind
          fun out ho => ih ⟨hwaiting, ho⟩ out.2

theorem sortRest_ascending (length fuel : Nat) {waiting : List (Waiting α)} {last : List α}
    (h : Ascendings key waiting last) (patience : Nat) (rest : List α) :
    Succeeds (sortRest less length fuel waiting last patience rest) (Ascending key) := by
  induction fuel generalizing waiting last patience rest with
  | zero => exact mergeAll_ascending hless _ h patience
  | succ fuel ih =>
    cases rest with
    | nil => exact mergeAll_ascending hless _ h patience
    | cons x rest =>
      refine (nextRun_ascending hless (leastRun length) (x :: rest)).bind fun (run, rest') hr => ?_
      refine (mergeGreater_ascending hless _ h patience).bind
        fun (waiting', last', patience') hg => ?_
      exact ih ⟨List.forall_mem_cons.2 ⟨hg.2, hg.1⟩, hr⟩ patience' rest'

end Sorting

/-- **Sorting by a linear order succeeds** and puts the items into ascending order. -/
theorem sorted_of_key (items : List α) :
    ∃ ordered, sorted less items = .ok ordered ∧ Ascending key ordered := by
  have h : Succeeds (sorted less items) (Ascending key) :=
    (Sorting.nextRun_ascending hless (Sorting.leastRun items.length) items).bind
      fun (run, rest) hr => Sorting.sortRest_ascending hless items.length items.length
        ⟨by simp, hr⟩ 7 rest
  cases hs : sorted less items with
  | ok ordered => exact ⟨ordered, rfl, h.of_ok hs⟩
  | error e => exact (h.of_error hs).elim

end

end SqlTemplate
