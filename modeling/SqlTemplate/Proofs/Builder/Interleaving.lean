import SqlTemplate.Proofs.Builder.Operation
import SqlTemplate.Proofs.Builder.Run

/-!
# Independent calls commute

Arguments, row types and output formats may be bound in any interleaving that keeps the order of
each list (`Interleaves`). What can fail among the calls of one kind depends on the calls of that
kind only (`IsApart`). So a run fails when the arguments alone or the row types alone would, with
the message of these if the others would not (`firstFailure?_filter`); and where nothing fails, what
the builder has come to depends on the lists alone (`interleavings_agree`).
-/

namespace SqlTemplate

namespace Offer

def isArgument : Offer → Bool
  | argument _ => true
  | _ => false

def isColumns : Offer → Bool
  | columns _ => true
  | _ => false

/-- The other offers bring no arguments. -/
theorem arguments_filter (offers : List Offer) :
    arguments (offers.filter isArgument) = arguments offers := by
  unfold arguments
  rw [List.filterMap_filter]
  congr 1
  funext o
  cases o <;> rfl

/-- The other offers bring no columns. -/
theorem firstColumns?_filter (offers : List Offer) :
    firstColumns? (offers.filter isColumns) = firstColumns? offers := by
  unfold firstColumns?
  rw [← List.head?_filterMap, ← List.head?_filterMap, List.filterMap_filter]
  congr 2
  funext o
  cases o <;> rfl

end Offer

namespace Builder

open Template (failure? firstFailure? filled)

/-! ## Failures among the calls of one kind -/

/-- Whether something can be offered depends, for offers of the given kind, on the offers of that
kind before it only. -/
def IsApart (segments : List Segment) (p : Offer → Bool) : Prop :=
  ∀ before o, p o = true → failure? segments (before.filter p) o = failure? segments before o

/-- Whether an argument fails depends on the arguments before it only. -/
theorem isApart_argument (segments : List Segment) : IsApart segments Offer.isArgument := by
  intro before o ho
  cases o with
  | argument w => simp only [failure?, Offer.arguments_filter]
  | columns found => cases ho
  | format format? => cases ho

/-- Whether columns fail depends on the columns before them only. -/
theorem isApart_columns (segments : List Segment) : IsApart segments Offer.isColumns := by
  intro before o ho
  cases o with
  | argument w => cases ho
  | columns found =>
    rcases found with fault | (_ | text)
    · rfl
    · simp only [failure?, Offer.firstColumns?_filter]
    · rfl
  | format format? => cases ho

section

variable {segments : List Segment} {p q : Offer → Bool}

/-- Offers of one kind that fail alone fail among others too. -/
theorem firstFailure?_filter_eq_none (hp : IsApart segments p) {before offers : List Offer}
    (h : firstFailure? segments before offers = none) :
    firstFailure? segments (before.filter p) (offers.filter p) = none := by
  induction offers generalizing before with
  | nil => rfl
  | cons o rest ih =>
    rw [firstFailure?, Option.or_eq_none_iff] at h
    obtain ⟨ho, hrest⟩ := h
    have ih := ih hrest
    rw [List.filter_append] at ih
    by_cases hpo : p o = true
    · rw [List.filter_cons_of_pos hpo, firstFailure?, hp before o hpo, ho, Option.none_or]
      rw [List.filter_cons_of_pos hpo] at ih
      exact ih
    · rw [List.filter_cons_of_neg hpo]
      rw [List.filter_cons_of_neg hpo, List.filter_nil, List.append_nil] at ih
      exact ih

/-- Where offers of one kind do not fail alone, the first failure is that of the other kind. -/
theorem firstFailure?_filter (hp : IsApart segments p) (hq : IsApart segments q)
    (hpq : ∀ before o, p o = false → q o = false → failure? segments before o = none)
    {before offers : List Offer}
    (h : firstFailure? segments (before.filter q) (offers.filter q) = none) :
    firstFailure? segments before offers =
      firstFailure? segments (before.filter p) (offers.filter p) := by
  induction offers generalizing before with
  | nil => rfl
  | cons o rest ih =>
    -- the offer does not fail if it is of the other kind, and the rest of these do not either
    have hrest : (q o = true → failure? segments before o = none) ∧
        firstFailure? segments ((before ++ [o]).filter q) (rest.filter q) = none := by
      rw [List.filter_append]
      by_cases hqo : q o = true
      · rw [List.filter_cons_of_pos hqo, firstFailure?, hq before o hqo,
          Option.or_eq_none_iff] at h
        rw [List.filter_cons_of_pos hqo]
        exact ⟨fun _ => h.1, h.2⟩
      · rw [List.filter_cons_of_neg hqo] at h
        rw [List.filter_cons_of_neg hqo, List.filter_nil, List.append_nil]
        exact ⟨fun hqo' => absurd hqo' hqo, h⟩
    obtain ⟨ho, hrest⟩ := hrest
    rw [firstFailure?, ih hrest, List.filter_append]
    by_cases hpo : p o = true
    · rw [List.filter_cons_of_pos hpo, List.filter_cons_of_pos hpo, firstFailure?, hp before o hpo]
      rfl
    · have hn : failure? segments before o = none := by
        by_cases hqo : q o = true
        · exact ho hqo
        · exact hpq before o (Bool.eq_false_iff.2 hpo) (Bool.eq_false_iff.2 hqo)
      rw [List.filter_cons_of_neg hpo, List.filter_cons_of_neg hpo, hn, Option.none_or,
        List.filter_nil, List.append_nil]

end

/-! ## Interleaved calls -/

/-- The calls are those that bind arguments, row types and output formats, each list in its own
order. -/
inductive Interleaves (d : Dispatcher Writer) :
    List Value → List RowType → List (Option Text) → List Call → Prop
  | nil : Interleaves d [] [] [] []
  | argument {A F G calls} (v : Value) : Interleaves d A F G calls →
      Interleaves d (v :: A) F G (.argument d v :: calls)
  | columns {A F G calls} (row : RowType) : Interleaves d A F G calls →
      Interleaves d A (row :: F) G (.columns row :: calls)
  | format {A F G calls} (format? : Option Text) : Interleaves d A F G calls →
      Interleaves d A F (format? :: G) (.format format? :: calls)

def argumentOffers (d : Dispatcher Writer) (A : List Value) : List Offer :=
  A.map fun v => .argument (writeLiteral d v).toExcept

/-- What look-ups one after another offer. -/
def columnOffers (rows : Rows) : List RowType → List Offer
  | [] => []
  | row :: rest =>
    .columns (rows.joinedColumns row).result :: columnOffers (rows.joinedColumns row).rows rest

theorem offers_cons (rows : Rows) (call : Call) (calls : List Call) :
    (offers rows (call :: calls)).1 =
      (call.offer rows).1 :: (offers (call.offer rows).2 calls).1 := by
  have step : ∀ (calls : List Call) (made : List Offer) (rows : Rows),
      (calls.foldl (fun r call => (r.1 ++ [(call.offer r.2).1], (call.offer r.2).2))
        (made, rows)).1 = made ++ (offers rows calls).1 := by
    intro calls
    induction calls with
    | nil => intro made rows; exact (List.append_nil made).symm
    | cons call rest ih =>
      intro made rows
      rw [offers, List.foldl_cons, List.foldl_cons, ih, ih, List.nil_append, List.append_assoc]
  rw [offers, List.foldl_cons, step]
  rfl

section

variable {d : Dispatcher Writer} {A : List Value} {F : List RowType} {G : List (Option Text)}
  {calls : List Call}

/-- The offers of each kind are those of the list of that kind. -/
theorem Interleaves.offers (h : Interleaves d A F G calls) (rows : Rows) :
    (offers rows calls).1.filter Offer.isArgument = argumentOffers d A ∧
    (offers rows calls).1.filter Offer.isColumns = columnOffers rows F ∧
    (offers rows calls).1.filterMap Offer.format? = G := by
  induction h generalizing rows with
  | nil => exact ⟨rfl, rfl, rfl⟩
  | argument v h ih =>
    obtain ⟨ha, hc, hf⟩ := ih rows
    rw [offers_cons]
    exact ⟨congrArg _ ha, hc, hf⟩
  | columns row h ih =>
    obtain ⟨ha, hc, hf⟩ := ih (rows.joinedColumns row).rows
    rw [offers_cons]
    exact ⟨ha, congrArg _ hc, hf⟩
  | format format? h ih =>
    obtain ⟨ha, hc, hf⟩ := ih rows
    rw [offers_cons]
    exact ⟨ha, hc, congrArg _ hf⟩

/-- Arguments alone are an interleaving. -/
theorem interleaves_arguments (d : Dispatcher Writer) (A : List Value) :
    Interleaves d A [] [] (A.map (.argument d)) := by
  induction A with
  | nil => exact .nil
  | cons v rest ih => exact .argument v ih

/-- Row types alone are one as well. -/
theorem interleaves_columns (d : Dispatcher Writer) (F : List RowType) :
    Interleaves d [] F [] (F.map .columns) := by
  induction F with
  | nil => exact .nil
  | cons row rest ih => exact .columns row ih

/-- The failure of some calls is that of their arguments where their row types do not fail alone,
and the other way round; and no failure is lost. -/
theorem Interleaves.firstFailure? (h : Interleaves d A F G calls) (segments : List Segment)
    (rows : Rows) :
    let failure? := Template.firstFailure? segments []
    (failure? (columnOffers rows F) = none →
      failure? (Builder.offers rows calls).1 = failure? (argumentOffers d A)) ∧
    (failure? (argumentOffers d A) = none →
      failure? (Builder.offers rows calls).1 = failure? (columnOffers rows F)) ∧
    (failure? (Builder.offers rows calls).1 = none →
      failure? (argumentOffers d A) = none ∧ failure? (columnOffers rows F) = none) := by
  intro failure?
  obtain ⟨ha, hc, -⟩ := h.offers rows
  have hp := isApart_argument segments
  have hq := isApart_columns segments
  have other : ∀ before o, o.isArgument = false → o.isColumns = false →
      Template.failure? segments before o = none := by
    intro before o hao hco
    cases o with
    | argument w => cases hao
    | columns found => cases hco
    | format format? => rfl
  rw [← ha, ← hc]
  refine ⟨?_, ?_, ?_⟩
  · intro hn
    exact firstFailure?_filter hp hq other hn
  · intro hn
    exact firstFailure?_filter hq hp (fun before o hco hao => other before o hao hco) hn
  · intro hn
    exact ⟨firstFailure?_filter_eq_none hp hn, firstFailure?_filter_eq_none hq hn⟩

/-- An interleaving fails exactly if its arguments alone do, or its row types alone. -/
theorem Interleaves.isSome_firstFailure? (h : Interleaves d A F G calls)
    (segments : List Segment) (rows : Rows) :
    (Template.firstFailure? segments [] (Builder.offers rows calls).1).isSome =
      ((Template.firstFailure? segments [] (argumentOffers d A)).isSome ||
        (Template.firstFailure? segments [] (columnOffers rows F)).isSome) := by
  obtain ⟨harg, hcol, hnone⟩ := h.firstFailure? segments rows
  cases hc : Template.firstFailure? segments [] (columnOffers rows F) with
  | none => rw [harg hc, Option.isSome_none, Bool.or_false]
  | some reason =>
    rw [Option.isSome_some, Bool.or_true, Option.isSome_iff_ne_none]
    intro hn
    have := (hnone hn).2
    rw [hc] at this
    cases this

end

/-! ## What interleaved calls come to -/

theorem isFailed_after (segments : List Segment) (offers : List Offer) :
    (after segments offers).isFailed = (firstFailure? segments [] offers).isSome := by
  have h := errorMessage?_after segments offers
  rw [errorMessage?] at h
  rw [isFailed, h, Option.isSome_map]

/-- Where nothing fails, the offers of each kind decide what the builder comes to. -/
theorem after_congr {segments : List Segment} {offers offers' : List Offer}
    (h : firstFailure? segments [] offers = none) (h' : firstFailure? segments [] offers' = none)
    (ha : offers.filter Offer.isArgument = offers'.filter Offer.isArgument)
    (hc : offers.filter Offer.isColumns = offers'.filter Offer.isColumns)
    (hf : offers.filterMap Offer.format? = offers'.filterMap Offer.format?) :
    after segments offers = after segments offers' := by
  rw [after_inProgress h, after_inProgress h', Offer.lastFormat?, Offer.lastFormat?, hf,
    ← Offer.arguments_filter offers, ← Offer.arguments_filter offers', ha,
    ← Offer.firstColumns?_filter offers, ← Offer.firstColumns?_filter offers', hc]

theorem run_ofSource (source : Source) (rows : Rows) (calls : List Call) :
    ((Session.mk (ofSource source) rows).run calls).builder =
      after source.segments (offers rows calls).1 := by
  rw [ofSource_eq]
  exact run_builder source.segments rows calls

/-- **Independent calls commute**: any two interleavings of the same arguments, row types and output
formats fail alike. Where they do not fail they come to the same state, hence to the same display
and the same end. Where they fail, and either the arguments or the row types would not fail alone,
they fail with the same message. -/
theorem interleavings_agree (source : Source) (rows : Rows) {d : Dispatcher Writer}
    {A : List Value} {F : List RowType} {G : List (Option Text)} {calls calls' : List Call}
    (h : Interleaves d A F G calls) (h' : Interleaves d A F G calls') :
    let run (calls : List Call) := ((Session.mk (ofSource source) rows).run calls).builder
    (run calls).isFailed = (run calls').isFailed ∧
    ((run calls).isFailed = false →
      (run calls).state = (run calls').state ∧ (run calls).display = (run calls').display ∧
        (run calls).finish.result = (run calls').finish.result) ∧
    ((run (A.map (.argument d))).isFailed ≠ (run (F.map .columns)).isFailed →
      (run calls).errorMessage? = (run calls').errorMessage?) := by
  intro run
  have hrun : ∀ calls, run calls = after source.segments (offers rows calls).1 :=
    run_ofSource source rows
  have failed : ∀ {A F G calls}, Interleaves d A F G calls → (run calls).isFailed =
      ((firstFailure? source.segments [] (argumentOffers d A)).isSome ||
        (firstFailure? source.segments [] (columnOffers rows F)).isSome) := by
    intro A F G calls h
    rw [hrun, isFailed_after, h.isSome_firstFailure?]
  refine ⟨?_, ?_, ?_⟩
  · rw [failed h, failed h']
  · intro hn
    have hn' := hn
    rw [failed h, ← failed h'] at hn'
    rw [hrun, isFailed_after, Option.isSome_eq_false_iff, Option.isNone_iff_eq_none] at hn hn'
    obtain ⟨ha, hc, hf⟩ := h.offers rows
    obtain ⟨ha', hc', hf'⟩ := h'.offers rows
    have hs : run calls = run calls' := by
      rw [hrun, hrun]
      exact after_congr hn hn' (ha.trans ha'.symm) (hc.trans hc'.symm) (hf.trans hf'.symm)
    rw [hs]
    exact ⟨rfl, rfl, rfl⟩
  · intro hne
    rw [failed (interleaves_arguments d A), failed (interleaves_columns d F)] at hne
    obtain ⟨harg, hcol, -⟩ := h.firstFailure? source.segments rows
    obtain ⟨harg', hcol', -⟩ := h'.firstFailure? source.segments rows
    rw [hrun, hrun, errorMessage?_after, errorMessage?_after]
    cases hA : firstFailure? source.segments [] (argumentOffers d A) with
    | none => rw [hcol hA, hcol' hA]
    | some reason =>
      cases hF : firstFailure? source.segments [] (columnOffers rows F) with
      | none => rw [harg hF, harg' hF]
      | some reason' =>
        rw [hA, hF] at hne
        exact absurd rfl hne

/-! ## Two orders of the same calls -/

def columnsOfIds : RowType :=
  .cls ⟨[⟨0, "Row".toList, .record [⟨"id".toList, .own⟩]⟩], Class.object⟩

/-- A slot for columns in front of one for an argument, and an argument too many. -/
theorem interleavings_agree_reversed :
    let source : Source := .template "SELECT ?fields WHERE a = ?".toList
    let argument (n : Int) : Call := .argument Writer.dispatcher (.int n)
    let run (calls : List Call) := ((Session.mk (ofSource source) .empty).run calls).builder
    (run [.format (some "CSV".toList), .columns columnsOfIds, argument 1]).finish.result =
      .ok "SELECT `id` WHERE a = 1 FORMAT CSV".toList ∧
    (run [.columns columnsOfIds, argument 1, argument 2]).errorMessage? =
      some (failureMessage surplusReason) := by
  intro source argument run
  obtain ⟨-, same, -⟩ := interleavings_agree source .empty (d := Writer.dispatcher)
    (.argument (.int 1) (.columns columnsOfIds (.format (some "CSV".toList) .nil)))
    (.format (some "CSV".toList) (.columns columnsOfIds (.argument (.int 1) .nil)))
  obtain ⟨-, -, message⟩ := interleavings_agree source .empty (d := Writer.dispatcher)
    (.argument (.int 1) (.argument (.int 2) (.columns columnsOfIds .nil)))
    (.columns columnsOfIds (.argument (.int 1) (.argument (.int 2) .nil)))
  refine ⟨?_, ?_⟩
  · exact (same (by decide +kernel)).2.2.symm.trans rfl
  · exact (message (by decide +kernel)).symm.trans rfl

end Builder

end SqlTemplate
