import SqlTemplate.Proofs.Ends
import SqlTemplate.Sorting

/-!
# What sorting does to the items

Sorting puts the items in another order and neither adds nor loses any (`sorted_perm`). Where it
fails, the comparison of two of the items has failed (`sorted_error`), and where the comparison
succeeds between items of one class only, sorting succeeds for items of one class only
(`Uniform.of_sorted`): every item is compared with one of the run that it joins, and so is each run
with the one that it is merged with.

The three facts are proved together, one statement for each function of the sort, of the form: what
comes out is an arrangement of what went in, in runs of one class, or the comparison of two of the
items is what failed.
-/

namespace SqlTemplate

namespace Sorting

/-! ## Looking for a place -/

section

variable {ε : Type} {holds : Nat → Except ε Bool}

/-- Looking for a place fails where the condition does. -/
theorem halve_ends (fromEnd : Bool) (fuel low size : Nat) :
    Ends (halve holds fromEnd fuel low size) (fun _ => True) fun e => ∃ i, holds i = .error e := by
  induction fuel generalizing low size with
  | zero => trivial
  | succ fuel ih =>
    rw [halve]
    split
    · trivial
    · refine .ask (fun e he => ⟨_, he⟩) fun b _ => ?_
      split
      · exact ih _ _
      · exact ih _ _

/-- So does looking further in strides. -/
theorem stride_ends (fromEnd : Bool) (count fuel last next : Nat) :
    Ends (stride holds fromEnd count fuel last next) (fun _ => True)
      fun e => ∃ i, holds i = .error e := by
  induction fuel generalizing last next with
  | zero => exact halve_ends fromEnd count _ _
  | succ fuel ih =>
    rw [stride]
    split
    · exact halve_ends fromEnd count _ _
    · refine .ask (fun e he => ⟨_, he⟩) fun b _ => ?_
      split
      · exact ih _ _
      · exact halve_ends fromEnd count _ _

/-- A leap over some places asks for the first one. -/
theorem leap_ends (fromEnd : Bool) (count : Nat) :
    Ends (leap holds fromEnd count) (fun _ => 0 < count → ∃ b, holds 0 = .ok b)
      fun e => ∃ i, holds i = .error e := by
  rw [leap]
  split
  · rename_i h
    exact fun hc => absurd h (Nat.ne_of_gt hc)
  · refine .ask (fun e he => ⟨0, he⟩) fun b hb => ?_
    split
    · exact (stride_ends fromEnd count count 0 1).imp fun _ _ _ => ⟨b, hb⟩
    · exact fun _ => ⟨b, hb⟩

/-- Halving asks for some place, unless there is none. -/
theorem halve_asks {fromEnd : Bool} {fuel low size k : Nat}
    (h : halve holds fromEnd (fuel + 1) low size = .ok k) (hs : 0 < size) :
    ∃ i < low + size, ∃ b, holds i = .ok b := by
  rw [halve, if_neg (Nat.ne_of_gt hs)] at h
  refine ⟨low + (if fromEnd then size - 1 else size) / 2, ?_, ?_⟩
  · split <;> omega
  · cases hm : holds (low + (if fromEnd then size - 1 else size) / 2) with
    | error e =>
      simp only [hm] at h
      cases h
    | ok b => exact ⟨b, rfl⟩

end

section

variable {α ε : Type} {test : α → Except ε Bool} {items : List α} {i : Nat}

theorem exists_of_passesAt_error {e : ε} (h : passesAt test items i = .error e) :
    ∃ x ∈ items, test x = .error e := by
  unfold passesAt at h
  cases hi : items[i]? with
  | none =>
    rw [hi] at h
    cases h
  | some x => exact ⟨x, List.mem_of_getElem? hi, by rwa [hi] at h⟩

theorem exists_of_passesAt_ok {b : Bool} (h : passesAt test items i = .ok b)
    (hi : i < items.length) : ∃ x ∈ items, test x = .ok b := by
  rw [passesAt, List.getElem?_eq_getElem hi] at h
  exact ⟨items[i], List.getElem_mem hi, h⟩

/-- A leap over items fails in a test of one of them, and tests one unless there is none. -/
theorem leap_items_ends {bad : ε → Prop} (hb : ∀ x ∈ items, ∀ e, test x = .error e → bad e)
    (fromEnd : Bool) :
    Ends (leap (passesAt test items) fromEnd items.length)
      (fun _ => items ≠ [] → ∃ x ∈ items, ∃ b, test x = .ok b) bad := by
  refine (leap_ends fromEnd items.length).mono (fun _ h hn => ?_) fun e ⟨i, hi⟩ => ?_
  · have hl := List.length_pos_iff.2 hn
    obtain ⟨b, h0⟩ := h hl
    obtain ⟨x, hx, ht⟩ := exists_of_passesAt_ok h0 hl
    exact ⟨x, hx, b, ht⟩
  · obtain ⟨x, hx, ht⟩ := exists_of_passesAt_error hi
    exact hb x hx e ht

end

end Sorting

/-! ## Arrangements -/

section

variable {α κ ε : Type}

/-- The comparison of two of the items fails. -/
def Fails (less : α → α → Except ε Bool) (items : List α) (e : ε) : Prop :=
  ∃ x ∈ items, ∃ y ∈ items, less x y = .error e

/-- All items are of one class. -/
def Uniform (cls : α → κ) (items : List α) : Prop := ∀ a ∈ items, ∀ b ∈ items, cls a = cls b

variable {cls : α → κ}

theorem Uniform.mono {items items' : List α} (h : Uniform cls items) (hs : items' ⊆ items) :
    Uniform cls items' :=
  fun a ha b hb => h a (hs ha) b (hs hb)

/-- One item is of one class. -/
theorem Uniform.singleton (x : α) : Uniform cls [x] := by simp [Uniform]

/-- Items of one class stay that with others of which one has the class of one of them. -/
theorem Uniform.append {as bs : List α} (ha : Uniform cls as) (hb : Uniform cls bs) {x y : α}
    (hx : x ∈ as) (hy : y ∈ bs) (hxy : cls x = cls y) : Uniform cls (as ++ bs) := by
  have h : ∀ a ∈ as ++ bs, cls a = cls x := by
    intro a h
    rcases List.mem_append.1 h with h | h
    · exact ha a h x hx
    · exact (hb a h y hy).trans hxy.symm
  exact fun a h₁ b h₂ => (h a h₁).trans (h b h₂).symm

/-- A list is cut into a run of one class and a rest, which is shorter unless there are no items. -/
structure Cut (cls : α → κ) (items : List α) (cut : List α × List α) : Prop where
  perm : (cut.1 ++ cut.2).Perm items
  uniform : Uniform cls cut.1
  shorter : items ≠ [] → cut.2.length < items.length

theorem Cut.of_perm {items items' : List α} {cut : List α × List α} (h : Cut cls items cut)
    (hp : items.Perm items') : Cut cls items' cut where
  perm := h.perm.trans hp
  uniform := h.uniform
  shorter hn := by
    rw [← hp.length_eq]
    exact h.shorter fun he => hn (List.perm_nil.1 (he ▸ hp.symm))

end

section

variable {α κ ε : Type} {less : α → α → Except ε Bool} {cls : α → κ}
  (hless : ∀ a b r, less a b = .ok r → cls a = cls b) {all : List α}

include hless

/-- Every item that goes on descending has been compared with the one before it. -/
theorem descendingRun_ends {last : α} {run rest : List α} (hl : last ∈ run)
    (hu : Uniform cls run) (hs : run ++ rest ⊆ all) :
    Ends (descendingRun less last run rest) (Cut cls (run ++ rest)) (Fails less all) := by
  induction rest generalizing last run with
  | nil => exact ⟨.refl _, hu, fun _ => by simpa using List.length_pos_of_mem hl⟩
  | cons x rest ih =>
    refine .ask (fun e he => ⟨x, hs (by simp), last, hs (List.mem_append_left _ hl), he⟩)
      fun b hb => ?_
    split
    · have hp : (x :: run ++ rest).Perm (run ++ x :: rest) := List.perm_middle.symm
      have hx : Uniform cls (x :: run) :=
        (Uniform.singleton x).append hu List.mem_cons_self hl (hless _ _ _ hb)
      exact (ih List.mem_cons_self hx fun z hz => hs (hp.mem_iff.1 hz)).imp
        fun _ hc => hc.of_perm hp
    · exact ⟨.refl _, hu, fun _ => by simpa using List.length_pos_of_mem hl⟩

theorem ascendingRun_ends {last : α} {run rest : List α} (hl : last ∈ run)
    (hu : Uniform cls run) (hs : run ++ rest ⊆ all) :
    Ends (ascendingRun less last run rest) (Cut cls (run ++ rest)) (Fails less all) := by
  induction rest generalizing last run with
  | nil => exact ⟨.refl _, hu, fun _ => by simpa using List.length_pos_of_mem hl⟩
  | cons x rest ih =>
    refine .ask (fun e he => ⟨x, hs (by simp), last, hs (List.mem_append_left _ hl), he⟩)
      fun b hb => ?_
    split
    · exact ⟨.refl _, hu, fun _ => by simpa using List.length_pos_of_mem hl⟩
    · have hp : (x :: run ++ rest).Perm (run ++ x :: rest) := List.perm_middle.symm
      have hx : Uniform cls (x :: run) :=
        (Uniform.singleton x).append hu List.mem_cons_self hl (hless _ _ _ hb)
      exact (ih List.mem_cons_self hx fun z hz => hs (hp.mem_iff.1 hz)).imp
        fun _ hc => hc.of_perm hp

/-- A list is cut behind its first run. -/
theorem firstRun_ends {items : List α} (hs : items ⊆ all) :
    Ends (firstRun less items) (Cut cls items) (Fails less all) := by
  match items with
  | [] => exact ⟨.refl _, by simp [Uniform], fun h => absurd rfl h⟩
  | [x] => exact ⟨.refl _, .singleton x, fun _ => Nat.one_pos⟩
  | x :: y :: rest =>
    have hp : ([y, x] ++ rest).Perm (x :: y :: rest) := List.Perm.swap x y rest
    have hs' : [y, x] ++ rest ⊆ all := fun z hz => hs (hp.mem_iff.1 hz)
    refine .ask (fun e he => ⟨y, hs (by simp), x, hs (by simp), he⟩) fun b hb => ?_
    have hu : Uniform cls [y, x] :=
      (Uniform.singleton y).append (.singleton x) List.mem_cons_self List.mem_cons_self
        (hless _ _ _ hb)
    split
    · exact (descendingRun_ends hless List.mem_cons_self hu hs').imp
        fun _ hc => hc.of_perm hp
    · refine (ascendingRun_ends hless List.mem_cons_self hu hs').bind fun cut hc => ?_
      obtain ⟨hperm, hunif, hshort⟩ := hc.of_perm hp
      exact ⟨((List.reverse_perm cut.1).append_right cut.2).trans hperm,
        hunif.mono fun z => List.mem_reverse.1, hshort⟩

/-- An inserted item has been compared with one of the others. -/
theorem insertSorted_ends {items : List α} {x : α} (hu : Uniform cls items)
    (hs : x :: items ⊆ all) :
    Ends (insertSorted less items x) (fun out => out.Perm (x :: items) ∧ Uniform cls out)
      (Fails less all) := by
  have hp (place : Nat) : (items.take place ++ x :: items.drop place).Perm (x :: items) := by
    have h : (items.take place ++ x :: items.drop place).Perm
        (x :: (items.take place ++ items.drop place)) := List.perm_middle
    rwa [List.take_append_drop] at h
  refine .ask (fun e he => ?_) fun place hk => ⟨hp place, Uniform.mono ?_ (hp place).subset⟩
  · obtain ⟨i, hi⟩ := (Sorting.halve_ends false _ _ _).of_error he
    obtain ⟨y, hy, hxy⟩ := Sorting.exists_of_passesAt_error hi
    exact ⟨x, hs List.mem_cons_self, y, hs (List.mem_cons_of_mem x hy), map_eq_error hxy⟩
  · cases items with
    | nil => exact .singleton x
    | cons z items =>
      obtain ⟨i, hi, b, hb⟩ := Sorting.halve_asks hk (Nat.succ_pos _)
      rw [Nat.zero_add] at hi
      obtain ⟨y, hy, hxy⟩ := Sorting.exists_of_passesAt_ok hb hi
      obtain ⟨r, hr, -⟩ := exists_of_map_eq_ok hxy
      exact (Uniform.singleton x).append hu List.mem_cons_self hy (hless _ _ _ hr)

theorem foldlM_insertSorted_ends {run rest : List α} (hu : Uniform cls run)
    (hs : run ++ rest ⊆ all) :
    Ends (rest.foldlM (insertSorted less) run)
      (fun out => out.Perm (run ++ rest) ∧ Uniform cls out) (Fails less all) := by
  induction rest generalizing run with
  | nil => exact ⟨by rw [List.append_nil], hu⟩
  | cons x rest ih =>
    have hp : (x :: run ++ rest).Perm (run ++ x :: rest) := List.perm_middle.symm
    have hs' : x :: run ++ rest ⊆ all := fun z hz => hs (hp.mem_iff.1 hz)
    rw [List.foldlM_cons]
    refine (insertSorted_ends hless hu fun z hz => hs' (List.mem_append_left _ hz)).bind
      fun run' ⟨hr, hu'⟩ => ?_
    have hp' : (run' ++ rest).Perm (run ++ x :: rest) := (hr.append_right rest).trans hp
    exact (ih hu' fun z hz => hs (hp'.mem_iff.1 hz)).imp
      fun out ⟨ho, hv⟩ => ⟨ho.trans hp', hv⟩

namespace Sorting

/-- It is cut behind this run and the items that it takes in. -/
theorem nextRun_ends (least : Nat) {items : List α} (hs : items ⊆ all) :
    Ends (nextRun less least items) (Cut cls items) (Fails less all) := by
  refine (firstRun_ends hless hs).bind fun (run, rest) hc => ?_
  have hsplit := List.take_append_drop (least - run.length) rest
  refine (foldlM_insertSorted_ends hless hc.uniform fun z hz => hs (hc.perm.mem_iff.1 ?_)).bind
    fun run' ⟨hr, hu⟩ => ⟨?_, hu, fun hn => ?_⟩
  · rw [← hsplit, ← List.append_assoc]
    exact List.mem_append_left _ hz
  · have h := hr.append_right (rest.drop (least - run.length))
    rw [List.append_assoc, hsplit] at h
    exact h.trans hc.perm
  · exact Nat.lt_of_le_of_lt (by simp) (hc.shorter hn)

end Sorting
end

namespace Sorting

/-! ## Merging two runs -/

/-- What a step takes of two runs, and what it leaves of them. -/
def Step.whole {α : Type} (step : Step α) : List α := step.items ++ (step.first ++ step.second)

section

variable {α ε : Type} {less : α → α → Except ε Bool} {all : List α}

/-- The item that wins is taken. -/
theorem singleStep_ends {x y : α} {first second : List α}
    (hs : x :: first ++ y :: second ⊆ all) (patience won lost : Nat) :
    Ends (singleStep less patience won lost x first y second)
      (fun step => step.whole.Perm (x :: first ++ y :: second)) (Fails less all) := by
  refine .ask (fun e he => ⟨y, hs (by simp), x, hs (by simp), he⟩) fun b _ => ?_
  split
  · have hp : (y :: (x :: first ++ second)).Perm (x :: first ++ y :: second) :=
      List.perm_middle.symm
    exact hp
  · have hp : (x :: (first ++ y :: second)).Perm (x :: first ++ y :: second) := .refl _
    exact hp

/-- The items that are leapt over are taken. -/
theorem leapFirst_ends {y : α} {first second : List α} (hs : first ++ y :: second ⊆ all)
    (fromEnd : Bool) (pace : Nat → Pace) :
    Ends (leapFirst less fromEnd pace first y second)
      (fun step => step.whole.Perm (first ++ y :: second)) (Fails less all) := by
  have hf : ∀ x ∈ first, ∀ e, (less y x).map not = .error e → Fails less all e :=
    fun x hx e he => ⟨y, hs (by simp), x, hs (List.mem_append_left _ hx), map_eq_error he⟩
  refine (leap_items_ends hf fromEnd).bind fun taken _ => ?_
  have hsplit := List.take_append_drop taken first
  split
  · show (first.take taken ++ (first.drop taken ++ y :: second)).Perm _
    rw [← List.append_assoc, hsplit]
  · show (first.take taken ++ [y] ++ (first.drop taken ++ second)).Perm _
    have h : (y :: (first.drop taken ++ second)).Perm (first.drop taken ++ y :: second) :=
      List.perm_middle.symm
    have h' := h.append_left (first.take taken)
    rw [← List.append_assoc _ _ (y :: second), hsplit] at h'
    rwa [List.append_assoc]

theorem leapSecond_ends {x : α} {first second : List α} (hs : x :: first ++ second ⊆ all)
    (fromEnd : Bool) (pace : Nat → Pace) :
    Ends (leapSecond less fromEnd pace x first second)
      (fun step => step.whole.Perm (x :: first ++ second)) (Fails less all) := by
  have hf : ∀ y ∈ second, ∀ e, less y x = .error e → Fails less all e :=
    fun y hy e he => ⟨y, hs (List.mem_append_right _ hy), x, hs (by simp), he⟩
  refine (leap_items_ends hf fromEnd).bind fun taken _ => ?_
  show (second.take taken ++ [x] ++ (first ++ second.drop taken)).Perm _
  have h : (second.take taken ++ x :: first).Perm (x :: first ++ second.take taken) :=
    List.perm_append_comm
  have h' := h.append_right (second.drop taken)
  rw [List.append_assoc (x :: first), List.take_append_drop] at h'
  simpa using h'

/-- A step of a merging takes items of the two runs and leaves the others. -/
theorem mergeStep_ends {x y : α} {first second : List α}
    (hs : x :: first ++ y :: second ⊆ all) (fromEnd : Bool) (patience : Nat) (pace : Pace) :
    Ends (mergeStep less fromEnd patience x first y second pace)
      (fun step => step.whole.Perm (x :: first ++ y :: second)) (Fails less all) := by
  cases pace with
  | single won lost => exact singleStep_ends hs patience won lost
  | _ =>
    show Ends (if _ then _ else _) _ _
    split
    · exact leapFirst_ends hs fromEnd _
    · exact leapSecond_ends hs fromEnd _

/-- A merging arranges what is left of the two runs. -/
theorem mergeRest_ends (fromEnd : Bool) {first second : List α} (hs : first ++ second ⊆ all)
    (fuel : Nat) (pace : Pace) (patience : Nat) :
    Ends (mergeRest less fromEnd fuel pace patience first second)
      (fun out => out.1.Perm (first ++ second)) (Fails less all) := by
  induction fuel generalizing pace patience first second with
  | zero => exact List.perm_append_comm
  | succ fuel ih =>
    match first, second with
    | [], second => exact List.perm_append_comm
    | [x], second => exact List.perm_append_comm
    | x :: x' :: first, [] => exact List.perm_append_comm
    | x :: x' :: first, y :: second =>
      refine (mergeStep_ends hs fromEnd _ _).bind fun step hp => ?_
      have hs' : step.first ++ step.second ⊆ all := fun z hz =>
        hs (hp.mem_iff.1 (List.mem_append_right _ hz))
      exact (ih hs' step.pace _).bind fun out ho => (ho.append_left step.items).trans hp

theorem mergeFrom_ends (fromEnd : Bool) (patience : Nat) {first second : List α}
    (hs : first ++ second ⊆ all) :
    Ends (mergeFrom less fromEnd patience first second)
      (fun out => out.1.Perm (first ++ second)) (Fails less all) := by
  cases second with
  | nil => exact .of_eq (List.append_nil first).symm
  | cons y second =>
    have hp : (y :: (first ++ second)).Perm (first ++ y :: second) := List.perm_middle.symm
    refine (mergeRest_ends fromEnd (fun z hz => hs (hp.mem_iff.1 (List.mem_cons_of_mem y hz)))
      _ _ patience).bind fun out ho => ?_
    exact (ho.cons y).trans hp

/-- Whether two runs are merged from the front or from the end, none of their items is lost. -/
theorem mergeBoth_ends (patience : Nat) {first second : List α} (hs : first ++ second ⊆ all) :
    Ends (mergeBoth less patience first second)
      (fun out => out.1.Perm (first ++ second)) (Fails less all) := by
  rw [mergeBoth]
  split
  · exact mergeFrom_ends false patience hs
  · have hp : (second.reverse ++ first.reverse).Perm (first ++ second) := by
      rw [← List.reverse_append]
      exact List.reverse_perm _
    have h : Ends (mergeFrom (fun x y => less y x) true patience second.reverse first.reverse)
        (fun out => out.1.Perm (second.reverse ++ first.reverse))
        (Fails (fun x y => less y x) all) :=
      mergeFrom_ends true patience fun z hz => hs (hp.mem_iff.1 hz)
    refine (h.mono (fun _ => id) fun e ⟨x, hx, y, hy, he⟩ => ⟨y, hy, x, hx, he⟩).map
      fun out ho => ?_
    exact (List.reverse_perm out.1).trans (ho.trans hp)

variable {κ : Type} {cls : α → κ} (hless : ∀ a b r, less a b = .ok r → cls a = cls b)

include hless in
/-- Two runs of one class each are merged only if their classes are the same: the first item of the
second run is compared with one of the first run. -/
theorem mergeRuns_ends (patience : Nat) {first second : List α} (hf : Uniform cls first)
    (hu : Uniform cls second) (hs : first ++ second ⊆ all) :
    Ends (mergeRuns less patience first second)
      (fun out => out.1.Perm (first ++ second) ∧ Uniform cls out.1) (Fails less all) := by
  cases second with
  | nil => exact ⟨.of_eq (List.append_nil first).symm, hf⟩
  | cons y second =>
    have hy : ∀ x ∈ first, ∀ e, (less y x).map not = .error e → Fails less all e :=
      fun x hx e he => ⟨y, hs (by simp), x, hs (List.mem_append_left _ hx), map_eq_error he⟩
    refine (leap_items_ends hy false).bind fun early he => ?_
    have hall : Uniform cls (first ++ y :: second) := by
      by_cases hn : first = []
      · rwa [hn]
      · obtain ⟨x, hx, b, hb⟩ := he hn
        obtain ⟨r, hr, -⟩ := exists_of_map_eq_ok hb
        exact hf.append hu hx List.mem_cons_self (hless _ _ _ hr).symm
    cases hx : (first.drop early).getLast? with
    | none => exact ⟨.refl _, hall⟩
    | some x =>
      have hxm : x ∈ first := List.mem_of_mem_drop (List.mem_of_getLast? hx)
      have hz : ∀ z ∈ (y :: second).reverse, ∀ e, (less z x).map not = .error e →
          Fails less all e :=
        fun z hz e he => ⟨z, hs (List.mem_append_right _ (List.mem_reverse.1 hz)), x,
          hs (List.mem_append_left _ hxm), map_eq_error he⟩
      have hl := leap_items_ends hz true
      rw [List.length_reverse] at hl
      refine hl.bind fun late _ => ?_
      have hcut : first ++ y :: second = first.take early ++
          (first.drop early ++ (y :: second).take ((y :: second).length - late)) ++
            (y :: second).drop ((y :: second).length - late) := by
        rw [← List.append_assoc, List.take_append_drop, List.append_assoc, List.take_append_drop]
      refine (mergeBoth_ends patience fun z hz => hs ?_).bind fun middle hm => ?_
      · rw [hcut]
        exact List.mem_append_left _ (List.mem_append_right _ hz)
      · have hp : (first.take early ++ middle.1 ++
            (y :: second).drop ((y :: second).length - late)).Perm (first ++ y :: second) := by
          rw [hcut]
          exact (hm.append_left _).append_right _
        exact ⟨hp, hall.mono hp.subset⟩

end


/-! ## Merging all runs -/

section

variable {α κ ε : Type} {less : α → α → Except ε Bool} {cls : α → κ} {all : List α}

/-- The items of the runs that wait, and of the last run. -/
def pending (waiting : List (Waiting α)) (last : List α) : List α :=
  waiting.flatMap Waiting.run ++ last

/-- Each of the runs is of one class. -/
def Uniforms (cls : α → κ) (waiting : List (Waiting α)) (last : List α) : Prop :=
  (∀ w ∈ waiting, Uniform cls w.run) ∧ Uniform cls last

/-- The last of the waiting runs is merged with the last run. -/
theorem pending_cons_last (w : Waiting α) (waiting : List (Waiting α)) (last : List α) :
    (pending waiting (w.run ++ last)).Perm (pending (w :: waiting) last) := by
  have h : (waiting.flatMap Waiting.run ++ w.run).Perm (w.run ++ waiting.flatMap Waiting.run) :=
    List.perm_append_comm
  simpa [pending] using h.append_right last

/-- The two last of the waiting runs are merged. -/
theorem pending_cons_cons (w v : Waiting α) (waiting : List (Waiting α)) (last : List α) :
    (pending (⟨v.run ++ w.run, v.power⟩ :: waiting) last).Perm
      (pending (w :: v :: waiting) last) := by
  have h : (v.run ++ w.run).Perm (w.run ++ v.run) := List.perm_append_comm
  simpa [pending] using h.append_right (waiting.flatMap Waiting.run ++ last)

/-- The last run waits for the one behind it. -/
theorem pending_push {waiting waiting' : List (Waiting α)} {last last' run rest rest' : List α}
    (hp : (pending waiting' last').Perm (pending waiting last)) (hc : (run ++ rest').Perm rest)
    (limit : Nat) :
    (pending (⟨last', limit⟩ :: waiting') run ++ rest').Perm (pending waiting last ++ rest) := by
  have h₁ : (last' ++ waiting'.flatMap Waiting.run).Perm (pending waiting' last') :=
    List.perm_append_comm
  have h₂ := ((h₁.trans hp).append_right (run ++ rest')).trans (hc.append_left _)
  rwa [← List.append_assoc] at h₂

variable (hless : ∀ a b r, less a b = .ok r → cls a = cls b)

include hless

/-- The runs that are merged early are of one class. -/
theorem mergeGreater_ends (limit : Nat) {waiting : List (Waiting α)} {last : List α}
    (hu : Uniforms cls waiting last) (hs : pending waiting last ⊆ all) (patience : Nat) :
    Ends (mergeGreater less limit waiting last patience)
      (fun out => (pending out.1 out.2.1).Perm (pending waiting last) ∧
        Uniforms cls out.1 out.2.1) (Fails less all) := by
  induction waiting generalizing last patience with
  | nil => exact ⟨.refl _, hu⟩
  | cons w waiting ih =>
    rw [mergeGreater]
    split
    · obtain ⟨hw, hwaiting⟩ := List.forall_mem_cons.1 hu.1
      have hp := pending_cons_last w waiting last
      refine (mergeRuns_ends hless patience hw hu.2 fun z hz =>
        hs (hp.mem_iff.1 (List.mem_append_right _ hz))).bind fun out ⟨ho, hv⟩ => ?_
      have hp' := (ho.append_left (waiting.flatMap Waiting.run)).trans hp
      exact (ih ⟨hwaiting, hv⟩ (fun z hz => hs (hp'.mem_iff.1 hz)) out.2).imp
        fun _ hr => ⟨hr.1.trans hp', hr.2⟩
    · exact ⟨.refl _, hu⟩

/-- In the end all runs are merged. -/
theorem mergeAll_ends {fuel : Nat} {waiting : List (Waiting α)} {last : List α}
    (hf : waiting.length ≤ fuel) (hu : Uniforms cls waiting last)
    (hs : pending waiting last ⊆ all) (patience : Nat) :
    Ends (mergeAll less fuel waiting last patience)
      (fun out => out.Perm (pending waiting last) ∧ Uniform cls out) (Fails less all) := by
  induction fuel generalizing waiting last patience with
  | zero =>
    obtain rfl := List.length_eq_zero_iff.1 (Nat.le_zero.1 hf)
    exact ⟨.refl _, hu.2⟩
  | succ fuel ih =>
    match waiting with
    | [] => exact ⟨.refl _, hu.2⟩
    | [w] =>
      have hp : pending [w] last = w.run ++ last := by simp [pending]
      rw [hp] at hs ⊢
      exact (mergeRuns_ends hless patience (hu.1 w (by simp)) hu.2 hs).bind fun _ => id
    | w :: v :: waiting =>
      obtain ⟨hw, hv, hwaiting⟩ : Uniform cls w.run ∧ Uniform cls v.run ∧
          ∀ u ∈ waiting, Uniform cls u.run := by simpa using hu.1
      rw [mergeAll]
      split
      · -- The two runs before the last one are merged.
        have hp := pending_cons_cons w v waiting last
        refine (mergeRuns_ends hless patience hv hw fun z hz => hs (hp.mem_iff.1
          (List.mem_append_left last (List.mem_append_left _ hz)))).bind fun out ⟨ho, hr⟩ => ?_
        have hp' : (pending (⟨out.1, v.power⟩ :: waiting) last).Perm
            (pending (w :: v :: waiting) last) :=
          ((ho.append_right (waiting.flatMap Waiting.run)).append_right last).trans hp
        exact (ih (by simpa using hf) ⟨List.forall_mem_cons.2 ⟨hr, hwaiting⟩, hu.2⟩
          (fun z hz => hs (hp'.mem_iff.1 hz)) out.2).imp fun _ hq => ⟨hq.1.trans hp', hq.2⟩
      · have hp := pending_cons_last w (v :: waiting) last
        refine (mergeRuns_ends hless patience hw hu.2 fun z hz =>
          hs (hp.mem_iff.1 (List.mem_append_right _ hz))).bind fun out ⟨ho, hr⟩ => ?_
        have hp' := (ho.append_left ((v :: waiting).flatMap Waiting.run)).trans hp
        exact (ih (by simpa using hf) ⟨List.forall_mem_cons.2 ⟨hv, hwaiting⟩, hr⟩
          (fun z hz => hs (hp'.mem_iff.1 hz)) out.2).imp fun _ hq => ⟨hq.1.trans hp', hq.2⟩

theorem sortRest_ends (length : Nat) {fuel : Nat} {waiting : List (Waiting α)}
    {last rest : List α} (hf : rest.length ≤ fuel) (hu : Uniforms cls waiting last)
    (hs : pending waiting last ++ rest ⊆ all) (patience : Nat) :
    Ends (sortRest less length fuel waiting last patience rest)
      (fun out => out.Perm (pending waiting last ++ rest) ∧ Uniform cls out)
      (Fails less all) := by
  induction fuel generalizing waiting last rest patience with
  | zero =>
    obtain rfl := List.length_eq_zero_iff.1 (Nat.le_zero.1 hf)
    rw [List.append_nil] at hs ⊢
    exact mergeAll_ends hless (Nat.le_refl _) hu hs patience
  | succ fuel ih =>
    cases rest with
    | nil =>
      rw [List.append_nil] at hs ⊢
      exact mergeAll_ends hless (Nat.le_refl _) hu hs patience
    | cons x rest =>
      refine (nextRun_ends hless (leastRun length) fun z hz =>
        hs (List.mem_append_right _ hz)).bind fun (run, rest') hc => ?_
      dsimp only
      generalize power length length _ _ = limit
      refine (mergeGreater_ends hless limit hu (fun z hz => hs (List.mem_append_left _ hz))
        patience).bind fun (waiting', last', patience') ⟨hp, hu'⟩ => ?_
      have hr : rest'.length ≤ fuel := by
        have := hc.shorter (List.cons_ne_nil x rest)
        simp only [List.length_cons] at this hf
        omega
      have hp' := pending_push hp hc.perm limit
      exact (ih hr ⟨List.forall_mem_cons.2 ⟨hu'.2, hu'.1⟩, hc.uniform⟩
        (fun z hz => hs (hp'.mem_iff.1 hz)) patience').imp fun _ ho => ⟨ho.1.trans hp', ho.2⟩

/-- Sorting arranges the items, which are of one class, or the comparison of two of them fails. -/
theorem sorted_ends (items : List α) :
    Ends (sorted less items) (fun out => out.Perm items ∧ Uniform cls out) (Fails less items) := by
  refine (nextRun_ends hless (leastRun items.length) (List.Subset.refl items)).bind
    fun (run, rest) hc => ?_
  have hr : rest.length ≤ items.length := by
    have := hc.perm.length_eq
    simp only [List.length_append] at this
    omega
  have hp : (pending [] run ++ rest).Perm items := hc.perm
  exact (sortRest_ends hless items.length hr ⟨by simp, hc.uniform⟩ hp.subset 7).imp
    fun _ ho => ⟨ho.1.trans hp, ho.2⟩

end

end Sorting

section

variable {α κ ε : Type}

/-- Items of any kind are of one class. -/
def oneClass (_ : α) : Unit := ()

theorem oneClass_eq (less : α → α → Except ε Bool) :
    ∀ x y b, less x y = .ok b → oneClass x = oneClass y := fun _ _ _ _ => rfl

variable (less : α → α → Except ε Bool)

/-- **Sorting gives the items that it was given.** -/
theorem sorted_perm (items : List α) {ordered : List α} (h : sorted less items = .ok ordered) :
    ordered.Perm items :=
  ((Sorting.sorted_ends (oneClass_eq less) items).of_ok h).1

/-- Sorting fails where the comparison of two of the items does. -/
theorem sorted_error (items : List α) {e : ε} (h : sorted less items = .error e) :
    Fails less items e :=
  (Sorting.sorted_ends (oneClass_eq less) items).of_error h

variable {less}

/-- **Sorting succeeds for items of one class only**, where the comparison of items of two classes
fails. -/
theorem Uniform.of_sorted {cls : α → κ} (hless : ∀ a b r, less a b = .ok r → cls a = cls b)
    {items ordered : List α} (h : sorted less items = .ok ordered) : Uniform cls items := by
  obtain ⟨hp, hu⟩ := (Sorting.sorted_ends hless items).of_ok h
  exact hu.mono hp.symm.subset

end

end SqlTemplate
