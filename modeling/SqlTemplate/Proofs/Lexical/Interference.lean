import SqlTemplate.Proofs.Builder.Run
import SqlTemplate.Proofs.Ends
import SqlTemplate.Proofs.Lexical.Pieces
import SqlTemplate.Proofs.Literal.RoundTrip
import SqlTemplate.Proofs.Row.Joined
import SqlTemplate.Proofs.Template.Canonical

/-!
# How bound values bear on the rest of a statement

Literals and column lists are neutral, so a statement is read as its template is with opaque words
in all slots, up to one thing: a text of the template that ends in a dash or a slash may open a
comment together with what is bound behind it, a negative number, or an empty column list and the
text behind that. `ownItems_finish_iff` says that nothing else can happen, and that this does make a
difference.
-/

namespace SqlTemplate.Lexical

open State Builder

/-! ## The pieces of a statement -/

/-- The pieces of a statement that is made of the segments, the arguments and the joined columns. -/
def pieces : List Segment → List Text → Text → List Piece
  | [], _, _ => []
  | .literal text :: rest, arguments, columns => .own text :: pieces rest arguments columns
  | .argument :: rest, arguments, columns =>
    .filled (arguments.headD []) :: pieces rest arguments.tail columns
  | .fields :: rest, arguments, columns => .filled columns :: pieces rest arguments columns

def outline (w : Text) (segments : List Segment) : List Piece :=
  segments.map fun
    | .literal text => .own text
    | _ => .filled w

/-- With opaque words in its slots a template is its outline. -/
theorem blanked_pieces (w : Text) (segments : List Segment) (arguments : List Text)
    (columns : Text) : blanked w (pieces segments arguments columns) = outline w segments := by
  fun_induction pieces segments arguments columns with
  | case1 => rfl
  | case2 text rest arguments columns ih => exact congrArg (Piece.own text :: ·) ih
  | case3 rest arguments columns ih => exact congrArg (Piece.filled w :: ·) ih
  | case4 rest arguments columns ih => exact congrArg (Piece.filled w :: ·) ih

/-- The pieces put together are the statement. -/
theorem statement_pieces {segments : List Segment} {arguments : List Text}
    {columns? : Option Text} {text : Text}
    (h : Template.substituted segments arguments columns? = .ok text) :
    statement (pieces segments arguments (columns?.getD [])) = text := by
  fun_induction Template.substituted segments arguments columns? generalizing text with
  | case1 => exact Except.ok.inj h
  | case2 t rest arguments columns? ih =>
    obtain ⟨u, hu, rfl⟩ := exists_of_map_eq_ok h
    rw [pieces, statement_cons, ih hu]
    rfl
  | case3 => cases h
  | case4 rest t arguments columns? ih =>
    obtain ⟨u, hu, rfl⟩ := exists_of_map_eq_ok h
    rw [pieces, statement_cons, List.tail_cons, ih hu]
    rfl
  | case5 => cases h
  | case6 rest arguments t ih =>
    obtain ⟨u, hu, rfl⟩ := exists_of_map_eq_ok h
    rw [pieces, statement_cons, ih hu]
    rfl

theorem filled_mem_pieces {segments : List Segment} {arguments : List Text} {columns t : Text}
    (h : .filled t ∈ pieces segments arguments columns) :
    t = [] ∨ t ∈ arguments ∨ t = columns := by
  fun_induction pieces segments arguments columns with
  | case1 => cases h
  | case2 text rest arguments columns ih =>
    rcases List.mem_cons.1 h with h | h
    · cases h
    · exact ih h
  | case3 rest arguments columns ih =>
    cases arguments with
    | nil =>
      rcases List.mem_cons.1 h with h | h
      · exact .inl (Piece.filled.inj h)
      · exact ih h
    | cons a arguments =>
      rcases List.mem_cons.1 h with h | h
      · exact .inr (.inl (by rw [Piece.filled.inj h]; exact List.mem_cons_self))
      · exact (ih h).imp_right (Or.imp_left (List.mem_cons_of_mem a))
  | case4 rest arguments columns ih =>
    rcases List.mem_cons.1 h with h | h
    · exact .inr (.inr (Piece.filled.inj h))
    · exact ih h

theorem own_mem_pieces {segments : List Segment} {arguments : List Text} {columns t : Text}
    (h : .own t ∈ pieces segments arguments columns) : .literal t ∈ segments := by
  fun_induction pieces segments arguments columns with
  | case1 => cases h
  | case2 text rest arguments columns ih =>
    rcases List.mem_cons.1 h with h | h
    · rw [Piece.own.inj h]
      exact List.mem_cons_self
    · exact List.mem_cons_of_mem _ (ih h)
  | case3 rest arguments columns ih =>
    rcases List.mem_cons.1 h with h | h
    · cases h
    · exact List.mem_cons_of_mem _ (ih h)
  | case4 rest arguments columns ih =>
    rcases List.mem_cons.1 h with h | h
    · cases h
    · exact List.mem_cons_of_mem _ (ih h)

theorem own_head_pieces {segments : List Segment} {arguments : List Text} {columns t : Text}
    (h : (pieces segments arguments columns).head? = some (.own t)) :
    segments.head? = some (.literal t) := by
  cases segments with
  | nil => cases h
  | cons s rest =>
    cases s with
    | literal text => rw [Piece.own.inj (Option.some.inj h)]; rfl
    | argument => cases h
    | fields => cases h

/-- The pieces of a canonical template between neutral texts are proper. -/
theorem proper_pieces {segments : List Segment} (h : Template.Canonical segments)
    {arguments : List Text} (ha : ∀ t ∈ arguments, Neutral t) {columns : Text}
    (hc : Neutral columns) : Proper (pieces segments arguments columns) := by
  refine ⟨fun t ht e => h.nonempty _ (own_mem_pieces ht) (e ▸ rfl), ?_, fun t ht => ?_⟩
  · clear ha hc
    fun_induction pieces segments arguments columns with
    | case1 => exact .nil
    | case2 text rest arguments columns ih =>
      refine List.isChain_cons.2 ⟨fun q hq => ?_, ih (Template.canonical_cons.1 h).2.2⟩
      cases q with
      | filled t => exact .inr rfl
      | own t => exact absurd (own_head_pieces hq) (Template.literal_head h t)
    | case3 rest arguments columns ih =>
      exact List.isChain_cons.2 ⟨fun _ _ => .inl rfl, ih (Template.canonical_cons.1 h).2.2⟩
    | case4 rest arguments columns ih =>
      exact List.isChain_cons.2 ⟨fun _ _ => .inl rfl, ih (Template.canonical_cons.1 h).2.2⟩
  · rcases filled_mem_pieces ht with rfl | ht | rfl
    · exact .nil
    · exact ha t ht
    · exact hc

/-! ## What calls offer -/

/-- The call binds no value that writes itself, and the registrations are the standard ones. -/
def Call.IsPlain : Call → Prop
  | .argument d v => d.find = Writer.dispatcher.find ∧ v.Plain
  | _ => True

/-- What is offered for a slot is neutral. -/
def NeutralOffer : Offer → Prop
  | .argument (.ok text) => Neutral text
  | .columns (.ok (some text)) => Neutral text
  | _ => True

/-- Joined columns are neutral. -/
theorem neutral_join (columns : List Text) : Neutral (Rows.join columns) := by
  refine .commaJoined fun t ht => ?_
  obtain ⟨column, -, rfl⟩ := List.mem_map.1 ht
  exact neutral_of_spells (Literal.spells_quotedIdentifier column)

/-- Literals are neutral. -/
theorem neutral_writeLiteral {d : Dispatcher Writer} (hd : d.find = Writer.dispatcher.find)
    {v : Value} (hv : v.Plain) {t : Text} (h : (writeLiteral d v).toExcept = .ok t) :
    Neutral t :=
  neutral_of_spells ((Value.spelled_write hd hv).1 t (Written.toExcept_eq_ok.1 h))

theorem Call.IsPlain.offer {call : Call} (hc : Call.IsPlain call) {rows : Rows}
    (hr : rows.Joins) : NeutralOffer (call.offer rows).1 ∧ (call.offer rows).2.Joins := by
  cases call with
  | argument d v =>
    refine ⟨?_, hr⟩
    rw [Call.offer]
    cases h : (writeLiteral d v).toExcept with
    | ok t => exact neutral_writeLiteral hc.1 hc.2 h
    | error fault => trivial
  | format format? => exact ⟨trivial, hr⟩
  | columns row =>
    obtain ⟨hj, ht⟩ := hr.joinedColumns row
    refine ⟨?_, hj⟩
    rw [Call.offer]
    cases h : (rows.joinedColumns row).result with
    | error fault => trivial
    | ok columns? =>
      cases columns? with
      | none => trivial
      | some text =>
        obtain ⟨columns, rfl⟩ := ht text h
        exact neutral_join columns

/-- What plain calls offer is neutral. -/
theorem neutral_offers {rows : Rows} (hr : rows.Joins) {calls : List Call}
    (hc : ∀ call ∈ calls, Call.IsPlain call) :
    (∀ offer ∈ (offers rows calls).1, NeutralOffer offer) ∧ (offers rows calls).2.Joins := by
  induction calls using List.reverseRecOn with
  | nil => exact ⟨by simp [offers], hr⟩
  | append_singleton calls call ih =>
    obtain ⟨ho, hj⟩ := ih fun c h => hc c (List.mem_append_left _ h)
    obtain ⟨hn, hj⟩ := Call.IsPlain.offer (hc call (by simp)) hj
    rw [offers_snoc]
    refine ⟨fun offer h => ?_, hj⟩
    rcases List.mem_append.1 h with h | h
    · exact ho offer h
    · rw [List.mem_singleton.1 h]
      exact hn

theorem neutral_arguments {os : List Offer} (h : ∀ offer ∈ os, NeutralOffer offer) :
    ∀ t ∈ Offer.arguments os, Neutral t := by
  intro t ht
  obtain ⟨offer, ho, e⟩ := List.mem_filterMap.1 ht
  have hn := h offer ho
  unfold Offer.argument? at e
  split at e
  · rw [← Option.some.inj e]
    exact hn
  · cases e

theorem neutral_firstColumns {os : List Offer} (h : ∀ offer ∈ os, NeutralOffer offer) :
    Neutral ((Offer.firstColumns? os).getD []) := by
  cases e : Offer.firstColumns? os with
  | none => exact .nil
  | some text =>
    obtain ⟨offer, ho, e⟩ := List.exists_of_findSome?_eq_some e
    have hn := h offer ho
    unfold Offer.columns? at e
    split at e
    · rw [e] at hn
      exact hn
    · cases e

/-! ## Statements -/

/-- The pieces of a statement that is made of a template and what calls offer. -/
def boundPieces (template : Text) (offers : List Offer) : List Piece :=
  pieces (Template.parse template) (Offer.arguments offers)
    ((Offer.firstColumns? offers).getD [])

theorem silent_formatClause (format? : Option Text) :
    Silent (BuilderState.formatClause format?).head? := by
  cases format? with
  | none => exact .none
  | some format => rintro c ⟨⟩; decide

/-- **What is bound bears on the rest of a statement only where the two fuse.** Where the slots of a
template stand in code, a finished statement is its pieces and the format clause, and the characters
of the template belong to what they belong to with opaque words in the slots, unless a text of the
template ends in code in the first character of an opener of a comment, and the second one stands
behind it; then they do not. -/
theorem ownItems_finish_iff {w : Text} (hw : Opaque w) {template : Text}
    (hs : SlotsInCode (inside .code) (outline w (Template.parse template)))
    {rows : Rows} (hr : rows.Joins) {calls : List Call} (hc : ∀ call ∈ calls, Call.IsPlain call)
    {sql : Text}
    (h : ((Session.mk (.ofTemplate template) rows).run calls).builder.finish.result = .ok sql) :
    let bound := boundPieces template (offers rows calls).1
    let blank := outline w (Template.parse template)
    (∃ format?, sql = statement bound ++ BuilderState.formatClause format?) ∧
      (ownItems bound (modes (inside .code) sql none) =
          ownItems blank (modes (inside .code) (statement blank) none) ↔
        ∀ m ∈ walk (inside .code) bound, ¬ m.2.1.Fuses m.1 m.2.2) := by
  intro bound blank
  have hf : Template.statement (Template.parse template) (offers rows calls).1 = .ok sql := by
    rw [← h, ← finish_after, ← run_builder]
    rfl
  obtain ⟨text, ht, rfl⟩ := Template.statement_eq_ok hf
  have hb : statement bound = text := statement_pieces ht
  obtain ⟨ho, -⟩ := neutral_offers hr hc
  have hp : Proper bound := proper_pieces (Template.parse_canonical template)
    (neutral_arguments ho) (neutral_firstColumns ho)
  have he : blanked w bound = blank := blanked_pieces w _ _ _
  have hown : ownItems bound (modes (inside .code)
      (statement bound ++ BuilderState.formatClause (Offer.lastFormat? (offers rows calls).1)) none) =
      ownModes (inside .code) bound := ownItems_modes (silent_formatClause _) _ bound
  have hnil : Silent ([] : Text).head? := .none
  have hblank : ownItems blank (modes (inside .code) (statement blank ++ []) none) =
      ownModes (inside .code) blank := ownItems_modes hnil _ blank
  rw [List.append_nil] at hblank
  refine ⟨⟨Offer.lastFormat? (offers rows calls).1, by rw [hb]⟩, ?_⟩
  rw [← hb, hown, hblank, ← he]
  exact ownModes_eq_iff hw hp (by rw [he]; exact hs)

/-- A text with a quote and dashes, between a dash and a comment. -/
theorem ownItems_finish_quote :
    let template := "SELECT - ?, 'x' -- y".toList
    let calls := [Call.argument Writer.dispatcher (.text "'; --".toList)]
    let blank := outline "x".toList (Template.parse template)
    ownItems (boundPieces template (offers .empty calls).1)
        (modes (inside .code) "SELECT - '\\'; --', 'x' -- y".toList none) =
      ownItems blank (modes (inside .code) (statement blank) none) := by
  have hc : ∀ call ∈ [Call.argument Writer.dispatcher (.text "'; --".toList)],
      Call.IsPlain call := by
    intro call h
    rw [List.mem_singleton.1 h]
    exact ⟨rfl, .text _⟩
  exact (ownItems_finish_iff (by decide) (by decide) Rows.joins_empty hc rfl).2.2 (by decide)

/-- A negative number behind a dash makes a comment of the rest of the template. -/
theorem ownItems_negative_number :
    let template := "SELECT 10 -? AS a".toList
    let calls := [Call.argument Writer.dispatcher (.int (-1))]
    let blank := outline "x".toList (Template.parse template)
    Opaque "x".toList ∧ SlotsInCode (inside .code) blank ∧
      ((Session.mk (.ofTemplate template) .empty).run calls).builder.finish.result =
        .ok "SELECT 10 --1 AS a".toList ∧
      ownItems (boundPieces template (offers .empty calls).1)
          (modes (inside .code) "SELECT 10 --1 AS a".toList none) ≠
        ownItems blank (modes (inside .code) (statement blank) none) :=
  ⟨by decide, by decide, rfl, by decide⟩

end SqlTemplate.Lexical
