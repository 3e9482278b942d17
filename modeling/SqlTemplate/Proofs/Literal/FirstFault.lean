import SqlTemplate.Proofs.Literal.Layout

/-!
# Where writing stops and what it leaves behind

Under the standard registrations writing stops at the first leaf that cannot be written on its own
(`writeLiteral_stops`). Behind the text that was there before then stand the text in front of this
leaf and what the leaf itself wrote before it failed. The text in front of the leaf is that of the
same containers with other leaves from there on (`Value.refill`), whatever these are.
-/

namespace SqlTemplate

/-! ## Other leaves -/

namespace Piece

/-- The pieces with the given leaves in place of the first ones. -/
def fill : List Piece → List Value → List Piece
  | [], _ => []
  | mark t :: ps, ls => mark t :: fill ps ls
  | leaf v :: ps, ls => leaf (ls.headD v) :: fill ps ls.tail

/-- Each of the lists of pieces in turn with the given leaves in place of the first ones. -/
def fillAll : List (List Piece) → List Value → List (List Piece)
  | [], _ => []
  | ps :: rest, ls => fill ps ls :: fillAll rest (ls.drop (leaves ps).length)

/-- Filling goes on with the leaves that are left. -/
theorem fill_append (ps qs : List Piece) (ls : List Value) :
    fill (ps ++ qs) ls = fill ps ls ++ fill qs (ls.drop (leaves ps).length) := by
  induction ps generalizing ls with
  | nil => rfl
  | cons p ps ih =>
    cases p with
    | mark t => rw [List.cons_append, fill, fill, ih]; rfl
    | leaf v =>
      rw [List.cons_append, fill, fill, ih, ← List.drop_one, List.drop_drop, Nat.add_comm]
      rfl

theorem fill_commaJoined : ∀ (pss : List (List Piece)) (ls : List Value),
    fill (commaJoined pss) ls = commaJoined (fillAll pss ls)
  | [], _ => rfl
  | [_], _ => rfl
  | ps :: qs :: rest, ls => by
    rw [commaJoined, fill_append, fill, fill_commaJoined (qs :: rest)]
    rfl

/-- Its own leaves change nothing. -/
theorem fill_leaves (ps : List Piece) (ls : List Value) : fill ps (leaves ps ++ ls) = ps := by
  induction ps with
  | nil => rfl
  | cons p ps ih =>
    cases p with
    | mark t => exact congrArg (mark t :: ·) ih
    | leaf v => exact congrArg (leaf v :: ·) ih

/-- The leaves that were filled in are the leaves then. -/
theorem leaves_fill {ps : List Piece} {ls : List Value} (h : ls.length = (leaves ps).length) :
    leaves (fill ps ls) = ls := by
  induction ps generalizing ls with
  | nil => exact (List.length_eq_zero_iff.1 h).symm
  | cons p ps ih =>
    cases p with
    | mark t => exact ih h
    | leaf v =>
      cases ls with
      | nil => cases h
      | cons l ls => exact congrArg (l :: ·) (ih (Nat.succ.inj h))

/-! ## Up to a leaf that cannot be written -/

section

variable {setting : Setting} {ps front : List Piece}

/-- Without a fault at a leaf there is none. -/
theorem written_eq_ok (h : ∀ x ∈ leaves ps, (SqlTemplate.write setting x).fault? = none) :
    written setting ps = .ok (written setting ps).text := by
  refine Written.eq_ok_of_fault? ?_
  rw [fault?_written]
  exact List.findSome?_eq_none_iff.2 h

variable (h : ∀ x ∈ leaves front, (SqlTemplate.write setting x).fault? = none)

include h

/-- What is written up to a leaf that cannot be written. -/
theorem written_of_fault {u : Value} (hu : (SqlTemplate.write setting u).fault? ≠ none)
    (back : List Piece) : written setting (front ++ leaf u :: back) =
      ⟨(written setting front).text ++ (SqlTemplate.write setting u).text,
        (SqlTemplate.write setting u).fault?⟩ := by
  rw [written_append, written_cons, write, Written.followedBy_of_fault hu, written_eq_ok h]
  rfl

/-- With another leaf in its place, and others behind it. -/
theorem written_of_no_fault {x : Value} (hx : (SqlTemplate.write setting x).fault? = none)
    {back : List Piece} (hb : ∀ x ∈ leaves back, (SqlTemplate.write setting x).fault? = none) :
    written setting (front ++ leaf x :: back) =
      .ok ((written setting front).text ++ (SqlTemplate.write setting x).text ++
        (written setting back).text) := by
  rw [written_append, written_cons, write, written_eq_ok h, written_eq_ok hb,
    Written.eq_ok_of_fault? hx, List.append_assoc]
  rfl

end

end Piece

namespace Value

/-- Numbers with the given values in place of the first ones. -/
def refillTerms : List Int → List Value → List Value
  | [], _ => []
  | n :: rest, ls => ls.headD (int n) :: refillTerms rest ls.tail

mutual

/-- The value with the given leaves inside of what it is built on. As a progression cannot have
other terms, it becomes a queue where it has any. -/
def refillParts : Value → List Value → Value
  | sequence kind items, ls => sequence kind (refillItems items ls)
  | mapping kind entries, ls => mapping kind (refillEntries entries ls)
  | range p, ls =>
    if p.terms.isEmpty then range p else sequence .queue (refillTerms p.terms ls)
  | mixed cls core value, ls => mixed cls (refillParts core ls) value
  | object cls core payload, ls => object cls (refillParts core ls) payload
  | v, _ => v

def refillItems : List Value → List Value → List Value
  | [], _ => []
  | v :: rest, ls =>
    (if v.isLeaf then ls.headD v else refillParts v ls) ::
      refillItems rest (ls.drop v.leaves.length)

def refillEntries : List (Value × Value) → List Value → List (Value × Value)
  | [], _ => []
  | (k, v) :: rest, ls =>
    let ls' := ls.drop k.leaves.length
    (if k.isLeaf then ls.headD k else refillParts k ls,
      if v.isLeaf then ls'.headD v else refillParts v ls') ::
      refillEntries rest (ls'.drop v.leaves.length)

end

/-- The value with the given leaves in place of its first ones, in the same containers. -/
def refill (v : Value) (ls : List Value) : Value :=
  if v.isLeaf then ls.headD v else v.refillParts ls

/-- Each of the values in turn with the given leaves in place of its first ones. -/
def refillAll : List Value → List Value → List Value
  | [], _ => []
  | v :: rest, ls => v.refill ls :: refillAll rest (ls.drop v.leaves.length)

theorem refillItems_eq (items ls : List Value) : refillItems items ls = refillAll items ls := by
  induction items generalizing ls with
  | nil => rfl
  | cons v rest ih => rw [refillItems, ih]; rfl

theorem refillEntries_eq (entries : List (Value × Value)) (ls : List Value) :
    ((refillEntries entries ls).flatMap fun e => [e.1, e.2]) =
      refillAll (entries.flatMap fun e => [e.1, e.2]) ls := by
  induction entries generalizing ls with
  | nil => rfl
  | cons e rest ih => rw [refillEntries, List.flatMap_cons, ih]; rfl

theorem refillTerms_eq (terms : List Int) (ls : List Value) :
    refillTerms terms ls = refillAll (terms.map int) ls := by
  induction terms generalizing ls with
  | nil => rfl
  | cons n rest ih => rw [refillTerms, ih, ← List.drop_one]; rfl

theorem brackets?_queue (items : List Value) :
    (sequence .queue items).brackets? = some (['['], [']']) := by
  cases items <;> rfl

theorem isEmpty_refillItems (items ls : List Value) :
    (refillItems items ls).isEmpty = items.isEmpty := by
  cases items <;> rfl

/-- A progression with other terms, which it has as many of. -/
theorem refillParts_range {cls : Class} {p : Progression} {around : Text × Text}
    (h : cls.brackets? (range p) = some around) (ls : List Value) :
    ((range p).refillParts ls).partsInOrder = refillAll (range p).partsInOrder ls ∧
      cls.brackets? ((range p).refillParts ls) = some around := by
  rw [refillParts]
  cases ht : p.terms with
  | nil =>
    rw [List.isEmpty_nil, if_pos rfl]
    refine ⟨?_, h⟩
    rw [partsInOrder, ht]
    rfl
  | cons n rest =>
    rw [List.isEmpty_cons, if_neg Bool.false_ne_true]
    refine ⟨?_, ?_⟩
    · rw [partsInOrder, partsInOrder, ht]
      exact refillTerms_eq (n :: rest) ls
    · rw [Class.brackets?] at h
      split at h
      · rename_i hf
        rw [Class.brackets?, Option.isNone_iff_eq_none.1 hf]
        exact h
      · cases h

/-- Other leaves, the same containers. -/
theorem refillParts_of_brackets? {cls : Class} {core : Value} {around : Text × Text}
    (h : cls.brackets? core = some around) (ls : List Value) :
    (core.refillParts ls).partsInOrder = refillAll core.partsInOrder ls ∧
      cls.brackets? (core.refillParts ls) = some around := by
  cases core with
  | sequence kind items =>
    refine ⟨refillItems_eq items ls, ?_⟩
    rw [refillParts, Class.brackets?, isEmpty_refillItems]
    exact h
  | mapping kind entries => exact ⟨refillEntries_eq entries ls, h⟩
  | range p => exact refillParts_range h ls
  | _ => cases h

/-- A leaf is replaced as a whole. -/
theorem refill_of_isLeaf {v : Value} (h : v.brackets? = none) (ls : List Value) :
    v.refill ls = ls.headD v := by
  rw [refill, isLeaf, h]
  rfl

/-- A container keeps its brackets, and its parts are refilled. -/
theorem refill_of_brackets? {v : Value} {around : Text × Text} (h : v.brackets? = some around)
    (ls : List Value) : (v.refill ls).brackets? = some around ∧
      (v.refill ls).base.partsInOrder = refillAll v.base.partsInOrder ls := by
  obtain ⟨hp, hb⟩ := refillParts_of_brackets? h ls
  have hr : v.refill ls = v.refillParts ls := by
    rw [refill, isLeaf, h]
    rfl
  rw [hr]
  cases v with
  | sequence kind items => exact ⟨hb, hp⟩
  | mapping kind entries => exact ⟨hb, hp⟩
  | mixed cls core value => exact ⟨hb, hp⟩
  | object cls core payload => exact ⟨hb, hp⟩
  | range p =>
    -- the progression keeps its brackets when it becomes a queue
    have hp' : ((range p).refillParts ls).partsInOrder = refillAll (range p).partsInOrder ls := hp
    by_cases he : p.terms.isEmpty = true
    · have hq : (range p).refillParts ls = range p := by rw [refillParts, if_pos he]
      rw [hq] at hp' ⊢
      exact ⟨h, hp'⟩
    · have hq : (range p).refillParts ls = sequence .queue (refillTerms p.terms ls) := by
        rw [refillParts, if_neg he]
      rw [hq] at hp' ⊢
      exact ⟨(brackets?_queue _).trans h, hp'⟩
  | _ => cases h

theorem map_pieces_refillAll {us : List Value} (h : ∀ u ∈ us, ∀ ls : List Value,
    (∀ l ∈ ls, l.isLeaf = true) → (u.refill ls).pieces = Piece.fill u.pieces ls)
    {ls : List Value} (hl : ∀ l ∈ ls, l.isLeaf = true) :
    (refillAll us ls).map pieces = Piece.fillAll (us.map pieces) ls := by
  induction us generalizing ls with
  | nil => rfl
  | cons u rest ih =>
    have hd : ∀ l ∈ ls.drop u.leaves.length, l.isLeaf = true :=
      fun l hm => hl l (List.mem_of_mem_drop hm)
    rw [refillAll, List.map_cons, List.map_cons, Piece.fillAll, h u List.mem_cons_self ls hl,
      ih (fun w hw => h w (List.mem_cons_of_mem u hw)) hd]
    rfl

/-- **Other leaves, the same marks.** -/
theorem pieces_refill (v : Value) {ls : List Value} (hl : ∀ l ∈ ls, l.isLeaf = true) :
    (v.refill ls).pieces = Piece.fill v.pieces ls := by
  induction v using layout_induction generalizing ls with
  | leaf v h =>
    rw [refill_of_isLeaf h, pieces_of_isLeaf h]
    cases ls with
    | nil => exact pieces_of_isLeaf h
    | cons l ls =>
      exact pieces_of_isLeaf (Option.isNone_iff_eq_none.1 (hl l List.mem_cons_self))
  | node v opening closing h ih =>
    obtain ⟨hb, hp⟩ := refill_of_brackets? h ls
    rw [pieces_of_brackets? h, pieces_of_brackets? hb, hp,
      map_pieces_refillAll (fun u hu ls hl => ih u hu hl) hl, List.cons_append,
      List.cons_append, Piece.fill, Piece.fill_append, Piece.fill_commaJoined]
    rfl

/-- With other leaves from a certain one on, the pieces in front of that one stay. -/
theorem pieces_refill_from {v u x : Value} {front back : List Piece} {others : List Value}
    (hp : v.pieces = front ++ .leaf u :: back) (hx : x.isLeaf = true)
    (ho : ∀ y ∈ others, y.isLeaf = true) :
    (v.refill (Piece.leaves front ++ x :: others)).pieces =
      front ++ .leaf x :: Piece.fill back others := by
  have hl : ∀ l ∈ Piece.leaves front ++ x :: others, l.isLeaf = true := by
    intro l hm
    rcases List.mem_append.1 hm with hf | hm
    · refine isLeaf_of_mem_leaves (v := v) ?_
      rw [leaves, hp, Piece.leaves_append]
      exact List.mem_append_left _ hf
    · rcases List.mem_cons.1 hm with rfl | hm
      · exact hx
      · exact ho l hm
  rw [pieces_refill v hl, hp, Piece.fill_append, Piece.fill_leaves, List.drop_left]
  rfl

/-! ## The first leaf that cannot be written -/

section

variable {setting : Setting} (hs : setting.find = Writer.dispatcher.find) {v u : Value}
  {front back : List Piece} (hp : v.pieces = front ++ .leaf u :: back)
  (hf : ∀ y ∈ Piece.leaves front, (write setting y).fault? = none)

include hs hp hf

/-- The output stops behind the first leaf that cannot be written. -/
theorem write_of_fault (hu : (write setting u).fault? ≠ none) : write setting v =
    ⟨(Piece.written setting front).text ++ (write setting u).text, (write setting u).fault?⟩ := by
  rw [write_eq_written hs v, hp, Piece.written_of_fault hf hu]

/-- With other leaves, which can be written, from a certain one on, the text in front of that one
stays, and the text behind it does not depend on it. -/
theorem write_refill {x : Value} {others : List Value}
    (hlen : others.length = (Piece.leaves back).length)
    (ho : ∀ y ∈ others, y.isLeaf = true ∧ (write setting y).fault? = none)
    (hx : x.isLeaf = true) (hn : (write setting x).fault? = none) :
    let tree := v.refill (Piece.leaves front ++ x :: others)
    tree.leaves = Piece.leaves front ++ x :: others ∧
    write setting tree = .ok ((Piece.written setting front).text ++ (write setting x).text ++
      (Piece.written setting (Piece.fill back others)).text) := by
  intro tree
  have ht : tree.pieces = front ++ .leaf x :: Piece.fill back others :=
    pieces_refill_from hp hx fun y hy => (ho y hy).1
  have hl : Piece.leaves (Piece.fill back others) = others := Piece.leaves_fill hlen
  constructor
  · rw [leaves, ht, Piece.leaves_append]
    exact congrArg (Piece.leaves front ++ x :: ·) hl
  · rw [write_eq_written hs tree, ht]
    apply Piece.written_of_no_fault hf hn
    rw [hl]
    exact fun y hy => (ho y hy).2

end

/-- **Where writing stops and what it leaves behind.** Writing fails if and only if a leaf cannot be
written on its own, and with the fault of the first such leaf. What has been written then is what
was there before, the text in front of this leaf and what the leaf itself wrote; the text in front
of it is the same for all leaves that can be written in its place, and with any such leaves behind.
When writing comes to its end, the literal form stands behind what was there before. -/
theorem writeLiteral_stops (buffer : Text) (v : Value) :
    let w := writeLiteral Writer.dispatcher
    let after := (Written.ok buffer).followedBy (w v)
    ((∃ fault, after.fault? = some fault) ↔ ∃ u ∈ v.leaves, ∃ fault, (w u).fault? = some fault) ∧
    (∀ fault, after.fault? = some fault → ∃ before u later front,
      v.leaves = before ++ u :: later ∧ (∀ x ∈ before, (w x).fault? = none) ∧
      (w u).fault? = some fault ∧ after.text = buffer ++ front ++ (w u).text ∧
      ∀ others, others.length = later.length →
        (∀ y ∈ others, y.isLeaf = true ∧ (w y).fault? = none) → ∃ rest,
        ∀ x, x.isLeaf = true → (w x).fault? = none →
          let tree := v.refill (before ++ x :: others)
          tree.leaves = before ++ x :: others ∧
          w tree = .ok (front ++ (w x).text ++ rest)) ∧
    (after.fault? = none → ∃ text, (w v).toExcept = .ok text ∧ after.text = buffer ++ text) := by
  intro w after
  let setting : Setting := .nested Writer.dispatcher depthLimit
  have hs : setting.find = Writer.dispatcher.find := rfl
  have hf : after.fault? = v.leaves.findSome? fun u => (w u).fault? :=
    calc after.fault?
        = (write setting v).fault? := rfl
      _ = (Piece.written setting v.pieces).fault? := by rw [write_eq_written hs v]
      _ = v.leaves.findSome? fun u => (w u).fault? := Piece.fault?_written setting v.pieces
  refine ⟨?_, ?_, ?_⟩
  · rw [hf, ← Option.isSome_iff_exists, List.findSome?_isSome_iff]
    simp only [Option.isSome_iff_exists]
  · intro fault h
    rw [hf] at h
    obtain ⟨before, u, later, hv, hu, hb⟩ := List.findSome?_eq_some_iff.1 h
    obtain ⟨front, back, hp, rfl, rfl⟩ := Piece.exists_of_leaves hv
    have hn : (write setting u).fault? ≠ none := by
      intro hn
      cases hn.symm.trans hu
    refine ⟨_, u, _, (Piece.written setting front).text, hv, hb, hu, ?_, ?_⟩
    · calc after.text
          = buffer ++ (write setting v).text := rfl
        _ = buffer ++ ((Piece.written setting front).text ++ (w u).text) := by
            rw [write_of_fault hs hp hb hn]
            rfl
        _ = buffer ++ (Piece.written setting front).text ++ (w u).text :=
            (List.append_assoc _ _ _).symm
    · intro others hlen ho
      refine ⟨(Piece.written setting (Piece.fill back others)).text, ?_⟩
      intro x hx hxf
      exact write_refill hs hp hb hlen ho hx hxf
  · intro h
    refine ⟨(w v).text, ?_, rfl⟩
    have hn : (w v).fault? = none := h
    rw [Written.toExcept, hn]

/-- Containers in containers. A key that cannot be written stands behind a value that writes some
text and a list before it fails. -/
def assortment : Value :=
  list [int 1, tuple [text "a".toList, range ⟨0, 2, 1⟩],
    mapping .userDict [
      (text "k".toList, sequence .queue [null, selfWriting Class.object
        [.text "ab".toList, .literal (list [int 7]), .raise .outOfCalendar] null null]),
      (decimal (.infinite false), int 5)]]

/-- Of two leaves that cannot be written the first one counts; others can stand for it and for the
key and the number behind it. -/
theorem writeLiteral_stops_assortment :
    let w := writeLiteral Writer.dispatcher
    let after := (Written.ok "x = ".toList).followedBy (w assortment)
    after = ⟨"x = [1,('a',[0,1]),map('k',[NULL,ab[7]".toList, some .outOfCalendar⟩ ∧
    (w (assortment.refill [int 1, text "a".toList, int 0, int 1, text "k".toList, null, int 3, null,
      bool true])).text = "[1,('a',[0,1]),map('k',[NULL,3],NULL,true)]".toList ∧
    ∃ before u later front rest, assortment.leaves = before ++ u :: later ∧
      (w u).fault? = some .outOfCalendar ∧ after.text = "x = ".toList ++ front ++ (w u).text ∧
      w (assortment.refill (before ++ int 3 :: later.map fun _ => null)) =
        .ok (front ++ (w (int 3)).text ++ rest) := by
  intro w after
  obtain ⟨-, stops, -⟩ := writeLiteral_stops "x = ".toList assortment
  obtain ⟨before, u, later, front, hv, -, hu, ht, other⟩ := stops .outOfCalendar rfl
  obtain ⟨rest, hr⟩ := other (later.map fun _ => null) (List.length_map _) fun y hy => by
    obtain ⟨-, -, rfl⟩ := List.mem_map.1 hy
    exact ⟨rfl, rfl⟩
  exact ⟨rfl, rfl, before, u, later, front, rest, hv, hu, ht, (hr (int 3) rfl rfl).2⟩

end Value

end SqlTemplate
