import SqlTemplate.Proofs.Sorting

/-!
# What sorting depends on

Sorting looks at the items through the comparison only, and compares items at different places only,
each with another. So if the images of any two items at different places compare as the items do,
the images are sorted as the items are, and the sorting fails alike (`sorted_images`), whatever the
comparisons say of an item and itself. So items that carry something along are sorted as what they
are compared by (`sorted_map`).
-/

namespace SqlTemplate

variable {α β ε : Type} {f : α → β} {less : α → α → Except ε Bool}
  {less' : β → β → Except ε Bool}

/-- The images of two items compare as the items do, either way round. -/
def ComparedAlike (f : α → β) (less : α → α → Except ε Bool) (less' : β → β → Except ε Bool)
    (x y : α) : Prop :=
  less' (f x) (f y) = less x y ∧ less' (f y) (f x) = less y x

theorem ComparedAlike.symm {x y : α} (h : ComparedAlike f less less' x y) :
    ComparedAlike f less less' y x := And.symm h

/-! ## Runs -/

theorem descendingRun_images {last : α} {rest : List α}
    (h : (last :: rest).Pairwise (ComparedAlike f less less')) (run : List α) :
    descendingRun less' (f last) (run.map f) (rest.map f) =
      (descendingRun less last run rest).map (Prod.map (List.map f) (List.map f)) := by
  induction rest generalizing last run with
  | nil => rfl
  | cons x rest ih =>
    obtain ⟨hlast, hrest⟩ := List.pairwise_cons.1 h
    rw [List.map_cons, descendingRun, descendingRun, (hlast x List.mem_cons_self).2]
    refine bind_eq_map fun b _ => ?_
    cases b with
    | true => exact ih hrest (x :: run)
    | false => rfl

theorem ascendingRun_images {last : α} {rest : List α}
    (h : (last :: rest).Pairwise (ComparedAlike f less less')) (run : List α) :
    ascendingRun less' (f last) (run.map f) (rest.map f) =
      (ascendingRun less last run rest).map (Prod.map (List.map f) (List.map f)) := by
  induction rest generalizing last run with
  | nil => rfl
  | cons x rest ih =>
    obtain ⟨hlast, hrest⟩ := List.pairwise_cons.1 h
    rw [List.map_cons, ascendingRun, ascendingRun, (hlast x List.mem_cons_self).2]
    refine bind_eq_map fun b _ => ?_
    cases b with
    | true => rfl
    | false => exact ih hrest (x :: run)

/-- The images begin with the image of the first run. -/
theorem firstRun_images {items : List α} (h : items.Pairwise (ComparedAlike f less less')) :
    firstRun less' (items.map f) =
      (firstRun less items).map (Prod.map (List.map f) (List.map f)) := by
  match items with
  | [] => rfl
  | [x] => rfl
  | x :: y :: rest =>
    obtain ⟨hx, hrest⟩ := List.pairwise_cons.1 h
    rw [List.map_cons, List.map_cons, firstRun, firstRun, (hx y List.mem_cons_self).2]
    refine bind_eq_map fun b _ => ?_
    cases b with
    | true => exact descendingRun_images hrest [y, x]
    | false =>
      have hr := ascendingRun_images hrest [y, x]
      rw [List.map_cons, List.map_cons, List.map_nil] at hr
      rw [if_neg Bool.false_ne_true, if_neg Bool.false_ne_true, hr]
      refine map_bind_eq_map fun cut _ => ?_
      simp [Except.map, pure, Except.pure]

/-- A test of the images is the test of the items. -/
theorem passesAt_images {test : α → Except ε Bool} {test' : β → Except ε Bool} {items : List α}
    (h : ∀ x ∈ items, test' (f x) = test x) :
    Sorting.passesAt test' (items.map f) = Sorting.passesAt test items := by
  funext i
  rw [Sorting.passesAt, Sorting.passesAt, List.getElem?_map]
  cases hi : items[i]? with
  | none => rfl
  | some x => exact h x (List.mem_of_getElem? hi)

/-- So it is whether they are behind another one. -/
theorem passesAt_behind_images {y : α} {items : List α}
    (h : ∀ x ∈ items, less' (f y) (f x) = less y x) :
    Sorting.passesAt (fun x => (less' (f y) x).map not) (items.map f) =
      Sorting.passesAt (fun x => (less y x).map not) items :=
  passesAt_images fun x hx => by rw [h x hx]

theorem insertSorted_images {items : List α} {x : α}
    (h : ∀ y ∈ items, less' (f x) (f y) = less x y) :
    insertSorted less' (items.map f) (f x) = (insertSorted less items x).map (List.map f) := by
  rw [insertSorted, insertSorted, passesAt_behind_images h, List.length_map]
  refine bind_eq_map fun place _ => ?_
  simp [Except.map, pure, Except.pure, List.map_take, List.map_drop]

/-- What has been sorted so far is compared with every further item. -/
theorem foldlM_insertSorted_images {run rest : List α}
    (h : (run ++ rest).Pairwise (ComparedAlike f less less')) :
    (rest.map f).foldlM (insertSorted less') (run.map f) =
      (rest.foldlM (insertSorted less) run).map (List.map f) := by
  induction rest generalizing run with
  | nil => rfl
  | cons x rest ih =>
    have hx : ∀ y ∈ run, less' (f x) (f y) = less x y := by
      intro y hy
      exact ((List.pairwise_append.1 h).2.2 y hy x List.mem_cons_self).2
    rw [List.map_cons, List.foldlM_cons, List.foldlM_cons, insertSorted_images hx]
    refine map_bind_eq_map fun run' hi => ?_
    have hr := ((insertSorted_ends (oneClass_eq less) (fun _ _ _ _ => rfl)
      (List.Subset.refl (x :: run))).of_ok hi).1
    have hp : (run' ++ rest).Perm (run ++ x :: rest) :=
      (hr.append_right rest).trans List.perm_middle.symm
    exact ih ((hp.pairwise_iff ComparedAlike.symm).2 h)

namespace Sorting

theorem nextRun_images {items : List α} (h : items.Pairwise (ComparedAlike f less less'))
    (least : Nat) :
    nextRun less' least (items.map f) =
      (nextRun less least items).map (Prod.map (List.map f) (List.map f)) := by
  rw [nextRun, nextRun, firstRun_images h]
  refine map_bind_eq_map fun (run, rest) hf => ?_
  have hp := ((firstRun_ends (oneClass_eq less) (List.Subset.refl items)).of_ok hf).perm
  have hr := (hp.pairwise_iff ComparedAlike.symm).2 h
  have ht : (run ++ rest.take (least - run.length)).Pairwise (ComparedAlike f less less') :=
    hr.sublist ((List.take_sublist _ rest).append_left run)
  simp only [Prod.map, List.length_map, ← List.map_take, ← List.map_drop]
  rw [foldlM_insertSorted_images ht]
  exact map_bind_eq_map fun run' _ => rfl

/-! ## Merging -/

/-- The step of which the items are the images. -/
def Step.map (f : α → β) (step : Step α) : Step β :=
  ⟨step.items.map f, step.first.map f, step.second.map f, step.pace⟩

/-- The items of two runs compare as their images, each of the one with each of the other. -/
def ComparedAcross (f : α → β) (less : α → α → Except ε Bool) (less' : β → β → Except ε Bool)
    (first second : List α) : Prop :=
  ∀ x ∈ first, ∀ y ∈ second, ComparedAlike f less less' x y

theorem ComparedAcross.of_pairwise {first second : List α}
    (h : (first ++ second).Pairwise (ComparedAlike f less less')) :
    ComparedAcross f less less' first second := (List.pairwise_append.1 h).2.2

/-- A step of the merging of images is the image of a step. -/
theorem singleStep_images {x y : α} {first second : List α}
    (h : ComparedAcross f less less' (x :: first) (y :: second)) (patience won lost : Nat) :
    singleStep less' patience won lost (f x) (first.map f) (f y) (second.map f) =
      (singleStep less patience won lost x first y second).map (Step.map f) := by
  rw [singleStep, singleStep, (h x List.mem_cons_self y List.mem_cons_self).2]
  refine bind_eq_map fun b _ => ?_
  cases b with
  | true => rfl
  | false => rfl

theorem leapFirst_images {y : α} {first second : List α}
    (h : ComparedAcross f less less' first (y :: second)) (fromEnd : Bool) (pace : Nat → Pace) :
    leapFirst less' fromEnd pace (first.map f) (f y) (second.map f) =
      (leapFirst less fromEnd pace first y second).map (Step.map f) := by
  rw [leapFirst, leapFirst, passesAt_behind_images fun x hx => (h x hx y List.mem_cons_self).2,
    List.length_map]
  refine bind_eq_map fun taken _ => ?_
  split
  · simp [Step.map, Except.map, pure, Except.pure, List.map_take, List.map_drop]
  · simp [Step.map, Except.map, pure, Except.pure, List.map_take, List.map_drop]

theorem leapSecond_images {x : α} {first second : List α}
    (h : ComparedAcross f less less' (x :: first) second) (fromEnd : Bool) (pace : Nat → Pace) :
    leapSecond less' fromEnd pace (f x) (first.map f) (second.map f) =
      (leapSecond less fromEnd pace x first second).map (Step.map f) := by
  have ht : passesAt (fun y => less' y (f x)) (second.map f) =
      passesAt (fun y => less y x) second :=
    passesAt_images fun y hy => (h x List.mem_cons_self y hy).2
  rw [leapSecond, leapSecond, ht, List.length_map]
  refine bind_eq_map fun taken _ => ?_
  simp [Step.map, Except.map, pure, Except.pure, List.map_take, List.map_drop]

theorem mergeStep_images {x y : α} {first second : List α}
    (h : ComparedAcross f less less' (x :: first) (y :: second)) (fromEnd : Bool) (patience : Nat)
    (pace : Pace) :
    mergeStep less' fromEnd patience (f x) (first.map f) (f y) (second.map f) pace =
      (mergeStep less fromEnd patience x first y second pace).map (Step.map f) := by
  cases pace with
  | single won lost => exact singleStep_images h patience won lost
  | _ =>
    show (if _ then _ else _) = Except.map _ (if _ then _ else _)
    split
    · exact leapFirst_images h fromEnd _
    · exact leapSecond_images h fromEnd _

theorem mergeRest_images {first second : List α}
    (h : (first ++ second).Pairwise (ComparedAlike f less less')) (fromEnd : Bool) (fuel : Nat)
    (pace : Pace) (patience : Nat) :
    mergeRest less' fromEnd fuel pace patience (first.map f) (second.map f) =
      (mergeRest less fromEnd fuel pace patience first second).map (Prod.map (List.map f) id) := by
  have hdone (as bs : List α) (p : Nat) : Except.ok (bs.map f ++ as.map f, p) =
      (Except.ok (bs ++ as, p) : Except ε (List α × Nat)).map (Prod.map (List.map f) id) := by
    rw [← List.map_append]
    rfl
  induction fuel generalizing pace patience first second with
  | zero => exact hdone first second patience
  | succ fuel ih =>
    match first, second with
    | [], second => exact hdone [] second patience
    | [x], second => exact hdone [x] second patience
    | x :: x' :: first, [] => exact hdone (x :: x' :: first) [] patience
    | x :: x' :: first, y :: second =>
      simp only [List.map_cons, mergeRest]
      have hs := mergeStep_images (.of_pairwise h) fromEnd (pace.next patience).2
        (pace.next patience).1
      rw [List.map_cons] at hs
      rw [hs]
      refine map_bind_eq_map fun step hstep => ?_
      have hp := (mergeStep_ends (List.Subset.refl _) fromEnd _ _).of_ok hstep
      have hstep' : (step.first ++ step.second).Pairwise (ComparedAlike f less less') :=
        ((hp.pairwise_iff ComparedAlike.symm).2 h).sublist (List.sublist_append_right _ _)
      rw [Step.map, ih hstep' step.pace]
      refine map_bind_eq_map fun out _ => ?_
      simp [Except.map, pure, Except.pure]

/-- Two runs are merged as their images are, from whichever end. -/
theorem mergeFrom_images {first second : List α}
    (h : (first ++ second).Pairwise (ComparedAlike f less less')) (fromEnd : Bool)
    (patience : Nat) :
    mergeFrom less' fromEnd patience (first.map f) (second.map f) =
      (mergeFrom less fromEnd patience first second).map (Prod.map (List.map f) id) := by
  cases second with
  | nil => rfl
  | cons y second =>
    have hr : (first ++ second).Pairwise (ComparedAlike f less less') :=
      h.sublist ((List.sublist_cons_self y second).append_left first)
    rw [List.map_cons, mergeFrom, mergeFrom, mergeRest_images hr, List.length_map,
      List.length_map]
    exact map_bind_eq_map fun out _ => rfl

theorem mergeBoth_images {first second : List α}
    (h : (first ++ second).Pairwise (ComparedAlike f less less')) (patience : Nat) :
    mergeBoth less' patience (first.map f) (second.map f) =
      (mergeBoth less patience first second).map (Prod.map (List.map f) id) := by
  rw [mergeBoth, mergeBoth, List.length_map, List.length_map]
  split
  · exact mergeFrom_images h false patience
  · have hr : (second.reverse ++ first.reverse).Pairwise
        (ComparedAlike f (fun x y => less y x) fun x y => less' y x) := by
      rw [← List.reverse_append, List.pairwise_reverse]
      exact h.imp id
    rw [← List.map_reverse, ← List.map_reverse, mergeFrom_images hr]
    cases mergeFrom (fun x y => less y x) true patience second.reverse first.reverse with
    | error e => rfl
    | ok out => simp [Except.map, Prod.map]

/-- So what stays out of the merging is the same. -/
theorem mergeRuns_images {first second : List α}
    (h : (first ++ second).Pairwise (ComparedAlike f less less')) (patience : Nat) :
    mergeRuns less' patience (first.map f) (second.map f) =
      (mergeRuns less patience first second).map (Prod.map (List.map f) id) := by
  cases second with
  | nil => rfl
  | cons y second =>
    have ha := ComparedAcross.of_pairwise h
    rw [List.map_cons, mergeRuns, mergeRuns,
      passesAt_behind_images fun x hx => (ha x hx y List.mem_cons_self).2, List.length_map]
    refine bind_eq_map fun early _ => ?_
    rw [← List.map_drop, List.getLast?_map]
    cases hx : (first.drop early).getLast? with
    | none => simp [Except.map, pure, Except.pure]
    | some x =>
      have hxm : x ∈ first := List.mem_of_mem_drop (List.mem_of_getLast? hx)
      have ht : passesAt (fun z => (less' z (f x)).map not) ((y :: second).reverse.map f) =
          passesAt (fun z => (less z x).map not) (y :: second).reverse := by
        refine passesAt_images fun z hz => ?_
        rw [(ha x hxm z (List.mem_reverse.1 hz)).2]
      rw [List.map_reverse, List.map_cons] at ht
      simp only [Option.map_some]
      rw [ht, List.length_cons, List.length_map, ← List.length_cons]
      refine bind_eq_map fun late _ => ?_
      have hm : (first.drop early ++ (y :: second).take ((y :: second).length - late)).Pairwise
          (ComparedAlike f less less') :=
        h.sublist ((List.drop_sublist _ first).append (List.take_sublist _ _))
      have hi := mergeBoth_images hm patience
      rw [List.map_take, List.map_cons] at hi
      rw [hi]
      refine map_bind_eq_map fun out _ => ?_
      simp [Except.map, pure, Except.pure, List.map_take, List.map_drop]

end Sorting

variable {α β ε : Type} {f : α → β} {less : α → α → Except ε Bool}
  {less' : β → β → Except ε Bool}

namespace Sorting

/-- The waiting run of the images. -/
def Waiting.map (f : α → β) (w : Waiting α) : Waiting β := ⟨w.run.map f, w.power⟩

/-- What the merging of runs of items of any class makes of them. -/
theorem mergeRuns_perm {patience : Nat} {first second : List α} {out : List α × Nat}
    (h : mergeRuns less patience first second = .ok out) : out.1.Perm (first ++ second) :=
  ((mergeRuns_ends (oneClass_eq less) patience (fun _ _ _ _ => rfl) (fun _ _ _ _ => rfl)
    (List.Subset.refl _)).of_ok h).1

theorem mergeGreater_perm {limit patience : Nat} {waiting : List (Waiting α)} {last : List α}
    {out : List (Waiting α) × List α × Nat}
    (h : mergeGreater less limit waiting last patience = .ok out) :
    (pending out.1 out.2.1).Perm (pending waiting last) :=
  ((mergeGreater_ends (oneClass_eq less) limit ⟨fun _ _ _ _ _ _ => rfl, fun _ _ _ _ => rfl⟩
    (List.Subset.refl _) patience).of_ok h).1

theorem mergeGreater_images {waiting : List (Waiting α)} {last : List α}
    (h : (pending waiting last).Pairwise (ComparedAlike f less less')) (limit patience : Nat) :
    mergeGreater less' limit (waiting.map (Waiting.map f)) (last.map f) patience =
      (mergeGreater less limit waiting last patience).map
        (Prod.map (List.map (Waiting.map f)) (Prod.map (List.map f) id)) := by
  induction waiting generalizing last patience with
  | nil => rfl
  | cons w waiting ih =>
    rw [List.map_cons, mergeGreater, mergeGreater, Waiting.map]
    split
    · have hp := pending_cons_last w waiting last
      have h' := (hp.pairwise_iff ComparedAlike.symm).2 h
      rw [mergeRuns_images (h'.sublist (List.sublist_append_right _ _))]
      refine map_bind_eq_map fun out ho => ih ?_ out.2
      exact (((mergeRuns_perm ho).append_left _).pairwise_iff ComparedAlike.symm).2 h'
    · rfl

theorem mergeAll_images {waiting : List (Waiting α)} {last : List α}
    (h : (pending waiting last).Pairwise (ComparedAlike f less less')) (fuel patience : Nat) :
    mergeAll less' fuel (waiting.map (Waiting.map f)) (last.map f) patience =
      (mergeAll less fuel waiting last patience).map (List.map f) := by
  induction fuel generalizing waiting last patience with
  | zero => rfl
  | succ fuel ih =>
    match waiting with
    | [] => rfl
    | [w] =>
      have hp : pending [w] last = w.run ++ last := by simp [pending]
      rw [hp] at h
      simp only [List.map_cons, List.map_nil, mergeAll, Waiting.map]
      rw [mergeRuns_images h]
      exact map_bind_eq_map fun out _ => rfl
    | w :: v :: waiting =>
      simp only [List.map_cons, mergeAll, Waiting.map, List.length_map]
      split
      · have h' := ((pending_cons_cons w v waiting last).pairwise_iff ComparedAlike.symm).2 h
        rw [mergeRuns_images (h'.sublist (.trans (List.sublist_append_left _ _)
          (List.sublist_append_left _ _)))]
        refine map_bind_eq_map fun out ho => ?_
        have hi : (pending (⟨out.1, v.power⟩ :: waiting) last).Pairwise
            (ComparedAlike f less less') :=
          ((((mergeRuns_perm ho).append_right _).append_right last).pairwise_iff
            ComparedAlike.symm).2 h'
        exact ih hi out.2
      · have h' := ((pending_cons_last w (v :: waiting) last).pairwise_iff ComparedAlike.symm).2 h
        rw [mergeRuns_images (h'.sublist (List.sublist_append_right _ _))]
        refine map_bind_eq_map fun out ho => ?_
        have hi : (pending (v :: waiting) out.1).Pairwise (ComparedAlike f less less') :=
          (((mergeRuns_perm ho).append_left _).pairwise_iff ComparedAlike.symm).2 h'
        exact ih hi out.2

theorem sortRest_images {waiting : List (Waiting α)} {last rest : List α}
    (h : (pending waiting last ++ rest).Pairwise (ComparedAlike f less less'))
    (length fuel patience : Nat) :
    sortRest less' length fuel (waiting.map (Waiting.map f)) (last.map f) patience (rest.map f) =
      (sortRest less length fuel waiting last patience rest).map (List.map f) := by
  have hall {waiting : List (Waiting α)} {last rest : List α} (patience : Nat)
      (h : (pending waiting last ++ rest).Pairwise (ComparedAlike f less less')) :
      mergeAll less' (waiting.map (Waiting.map f)).length (waiting.map (Waiting.map f))
          (last.map f) patience =
        (mergeAll less waiting.length waiting last patience).map (List.map f) := by
    rw [List.length_map]
    exact mergeAll_images (h.sublist (List.sublist_append_left _ rest)) waiting.length patience
  induction fuel generalizing waiting last patience rest with
  | zero => exact hall patience h
  | succ fuel ih =>
    cases rest with
    | nil => exact hall patience h
    | cons x rest =>
      have hn := nextRun_images (h.sublist (List.sublist_append_right _ _)) (leastRun length)
      rw [List.map_cons] at hn
      rw [List.map_cons, sortRest, sortRest, hn]
      refine map_bind_eq_map fun (run, rest') hr => ?_
      have hc := ((nextRun_ends (oneClass_eq less) (leastRun length)
        (List.Subset.refl (x :: rest))).of_ok hr).perm
      simp only [Prod.map, List.length_map]
      generalize power length length _ _ = limit
      rw [mergeGreater_images (h.sublist (List.sublist_append_left _ _))]
      refine map_bind_eq_map fun (waiting', last', patience') hg => ?_
      have hw := mergeGreater_perm hg
      have hi : (pending (⟨last', limit⟩ :: waiting') run ++ rest').Pairwise
          (ComparedAlike f less less') :=
        ((pending_push hw hc limit).pairwise_iff ComparedAlike.symm).2 h
      exact ih hi patience'

end Sorting

/-- **The images of items are sorted as the items are**, and the sorting fails alike, if they
compare as the items do at any two different places. -/
theorem sorted_images {items : List α} (h : items.Pairwise (ComparedAlike f less less')) :
    sorted less' (items.map f) = (sorted less items).map (List.map f) := by
  rw [sorted, sorted, List.length_map, Sorting.nextRun_images h]
  refine map_bind_eq_map fun (run, rest) hr => ?_
  have hc := ((Sorting.nextRun_ends (oneClass_eq less) (Sorting.leastRun items.length)
    (List.Subset.refl items)).of_ok hr).perm
  have hi : (Sorting.pending [] run ++ rest).Pairwise (ComparedAlike f less less') :=
    (hc.pairwise_iff ComparedAlike.symm).2 h
  exact Sorting.sortRest_images hi items.length items.length 7

/-- Sorting the images of items is sorting the items by their images. -/
theorem sorted_map (less' : β → β → Except ε Bool) (f : α → β) (items : List α) :
    sorted less' (items.map f) =
      (sorted (fun a b => less' (f a) (f b)) items).map (List.map f) :=
  sorted_images (List.pairwise_of_forall fun _ _ => ⟨rfl, rfl⟩)

end SqlTemplate
