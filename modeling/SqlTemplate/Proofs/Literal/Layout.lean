import SqlTemplate.Proofs.Literal.Reach

/-!
# The layout of a literal

Under the standard registrations an ordered container or a mapping is written part by part, between
brackets and with commas. So its literal form consists of marks, which are the same whatever its
parts are, and of the literal forms of its leaves, the values inside of it that are not written part
by part themselves. `Value.pieces` lists marks and leaves in the order in which they are written,
and what is written for a value is what is written for its pieces in turn (`write_eq_written`).
-/

namespace SqlTemplate

/-! ## In turn -/

namespace Written

/-- Several writings one after another. -/
def inTurn : List Written → Written
  | [] => ok []
  | w :: rest => w.followedBy (inTurn rest)

theorem eq_ok_of_fault? {w : Written} (h : w.fault? = none) : w = ok w.text := by
  rw [ok, ← h]

theorem followedBy_nil (w : Written) : w.followedBy (ok []) = w := by
  by_cases h : w.fault? = none
  · rw [eq_ok_of_fault? h]
    simp [followedBy, ok]
  · exact followedBy_of_fault h _

/-- Writing in turn is associative. -/
theorem followedBy_assoc (a b c : Written) :
    (a.followedBy b).followedBy c = a.followedBy (b.followedBy c) := by
  by_cases h : a.fault? = none
  · rw [eq_ok_of_fault? h]
    by_cases hb : b.fault? = none
    · rw [eq_ok_of_fault? hb]
      simp [followedBy, ok]
    · rw [followedBy_of_fault hb]
      exact followedBy_of_fault (by simpa [followedBy, ok] using hb) c
  · simp only [followedBy_of_fault h]

theorem inTurn_append (ws vs : List Written) :
    inTurn (ws ++ vs) = (inTurn ws).followedBy (inTurn vs) := by
  induction ws with
  | nil => rfl
  | cons w ws ih => rw [List.cons_append, inTurn, inTurn, ih, followedBy_assoc]

end Written

/-! ## Pieces -/

/-- A piece of a literal form: a text that is there whatever the leaves are, or a leaf. -/
inductive Piece where
  | mark (text : Text)
  | leaf (v : Value)

namespace Piece

def write (setting : Setting) : Piece → Written
  | mark text => .ok text
  | leaf v => SqlTemplate.write setting v

def leaf? : Piece → Option Value
  | mark _ => none
  | leaf v => some v

/-- What is written for several pieces. -/
def written (setting : Setting) (ps : List Piece) : Written := .inTurn (ps.map (write setting))

def leaves (ps : List Piece) : List Value := ps.filterMap leaf?

/-- The pieces of several values with commas between them. -/
def commaJoined : List (List Piece) → List Piece
  | [] => []
  | [ps] => ps
  | ps :: qs :: rest => ps ++ mark [','] :: commaJoined (qs :: rest)

variable (setting : Setting)

/-- Pieces are written in turn. -/
theorem written_append (ps qs : List Piece) :
    written setting (ps ++ qs) = (written setting ps).followedBy (written setting qs) := by
  rw [written, List.map_append, Written.inTurn_append]
  rfl

theorem written_cons (p : Piece) (ps : List Piece) :
    written setting (p :: ps) = (p.write setting).followedBy (written setting ps) := rfl

theorem written_singleton (p : Piece) : written setting [p] = p.write setting :=
  Written.followedBy_nil _

/-- Pieces with commas between them are written like the parts with commas between them. -/
theorem written_commaJoined : ∀ pss : List (List Piece),
    written setting (commaJoined pss) = .commaJoined (pss.map (written setting))
  | [] => rfl
  | [_] => rfl
  | ps :: qs :: rest => by
    rw [commaJoined, written_append, written_cons, written_commaJoined (qs :: rest)]
    rfl

/-- The fault of pieces is that of the first leaf that has one. -/
theorem fault?_written (ps : List Piece) :
    (written setting ps).fault? = (leaves ps).findSome? fun v =>
      (SqlTemplate.write setting v).fault? := by
  induction ps with
  | nil => rfl
  | cons p ps ih =>
    rw [written_cons, Written.fault?_followedBy, ih]
    cases p with
    | mark t => rfl
    | leaf v =>
      rw [show leaves (leaf v :: ps) = v :: leaves ps from rfl, List.findSome?_cons, write]
      cases (SqlTemplate.write setting v).fault? <;> rfl

theorem leaves_append (ps qs : List Piece) : leaves (ps ++ qs) = leaves ps ++ leaves qs :=
  List.filterMap_append

theorem leaves_commaJoined : ∀ pss : List (List Piece),
    leaves (commaJoined pss) = pss.flatMap leaves
  | [] => rfl
  | [ps] => (List.append_nil _).symm
  | ps :: qs :: rest => by
    rw [commaJoined, leaves_append, List.flatMap_cons, ← leaves_commaJoined (qs :: rest)]
    rfl

/-- Where a leaf stands among the leaves, it stands among the pieces. -/
theorem exists_of_leaves {ps : List Piece} {before later : List Value} {u : Value}
    (h : leaves ps = before ++ u :: later) : ∃ front back,
      ps = front ++ leaf u :: back ∧ leaves front = before ∧ leaves back = later := by
  obtain ⟨front, back, rfl, hf, hb⟩ := List.filterMap_eq_append_iff.1 h
  obtain ⟨marks, p, back, rfl, hm, hp, hl⟩ := List.filterMap_eq_cons_iff.1 hb
  cases p with
  | mark t => cases hp
  | leaf v =>
    cases hp
    refine ⟨front ++ marks, back, by rw [List.append_assoc], ?_, hl⟩
    rw [leaves_append, leaves, hf, leaves, List.filterMap_eq_nil_iff.2 hm, List.append_nil]

end Piece

/-! ## Containers that are written part by part -/

/-- What a writer puts around the parts of an ordered container. -/
def Writer.listBrackets? : Option Writer → Option (Text × Text)
  | none | some (.standard .list) => some (['['], [']'])
  | some (.standard .tuple) => some (['('], [')'])
  | _ => none

/-- What a writer puts around the parts of a mapping. -/
def Writer.mapBrackets? : Option Writer → Option (Text × Text)
  | none | some (.standard .mapping) => some ("map(".toList, [')'])
  | _ => none

/-- What stands around the parts of a value of class `cls` that is built on `core`, where it is
written part by part. -/
def Class.brackets? (cls : Class) : Value → Option (Text × Text)
  | .sequence _ items =>
    if items.isEmpty && cls.isUnknownMapping then Writer.mapBrackets? none
    else Writer.listBrackets? (Writer.dispatcher.find cls)
  | .range _ => if (Writer.dispatcher.find cls).isNone then Writer.listBrackets? none else none
  | .mapping .. => Writer.mapBrackets? (Writer.dispatcher.find cls)
  | _ => none

namespace Value

/-- What a value is built on, which may again be built on something else. -/
def base : Value → Value
  | mixed _ core _ => core
  | object _ core _ => core
  | v => v

def brackets? (v : Value) : Option (Text × Text) := v.cls.brackets? v.base

/-- The value is not written part by part: it has no parts, it writes itself, its items are put in
order first, it is a member of an enumeration and written as its value, or it cannot be written. -/
def isLeaf (v : Value) : Bool := v.brackets?.isNone

/-- The pieces of a value, from those of its parts. -/
def framed (v : Value) (parts : List (List Piece)) : List Piece :=
  match v.brackets? with
  | some (opening, closing) => .mark opening :: Piece.commaJoined parts ++ [.mark closing]
  | none => [.leaf v]

mutual

/-- The pieces of each part of what a value is built on. -/
def partPieces : Value → List (List Piece)
  | sequence _ items => itemPieces items
  | mapping _ entries => entryPieces entries
  | range p => p.terms.map fun n => [.leaf (int n)]
  | mixed _ core _ => partPieces core
  | object _ core _ => partPieces core
  | _ => []

def itemPieces : List Value → List (List Piece)
  | [] => []
  | v :: rest => framed v (partPieces v) :: itemPieces rest

/-- The pieces of the key and of the item of each entry. -/
def entryPieces : List (Value × Value) → List (List Piece)
  | [] => []
  | (k, v) :: rest => framed k (partPieces k) :: framed v (partPieces v) :: entryPieces rest

end

/-- Marks and leaves of a value in the order in which they are written. -/
def pieces (v : Value) : List Piece := v.framed v.partPieces

/-- The leaves of a value in the order in which they are written. -/
def leaves (v : Value) : List Value := Piece.leaves v.pieces

theorem itemPieces_eq_map (items : List Value) : itemPieces items = items.map pieces := by
  induction items with
  | nil => rfl
  | cons v rest ih => rw [itemPieces, ih, List.map_cons, pieces]

theorem entryPieces_eq_map (entries : List (Value × Value)) :
    entryPieces entries = (entries.flatMap fun e => [e.1, e.2]).map pieces := by
  induction entries with
  | nil => rfl
  | cons e rest ih => rw [entryPieces, ih]; rfl

theorem pieces_of_isLeaf {v : Value} (h : v.brackets? = none) : v.pieces = [.leaf v] := by
  rw [pieces, framed, h]

/-! ## Containers from their parts -/

variable {setting : Setting}

/-- A value that is written part by part is written between its brackets. -/
theorem deliver_of_brackets? (hs : setting.find = Writer.dispatcher.find) {cls : Class}
    {core : Value} {opening closing : Text} (h : cls.brackets? core = some (opening, closing))
    (payload : Written) :
    setting.deliver cls core.core (writeParts setting core) payload =
      .bracketed opening closing (core.partsInOrder.map (write setting)) := by
  rw [Setting.deliver, hs]
  cases core with
  | sequence kind items =>
    rw [Class.brackets?] at h
    by_cases hm : (items.isEmpty && cls.isUnknownMapping) = true
    · -- an unknown class that is a mapping, and no items
      rw [if_pos hm] at h
      cases h
      obtain ⟨he, hu⟩ := Bool.and_eq_true_iff.1 hm
      obtain rfl := List.isEmpty_iff.1 he
      obtain ⟨hu, hd⟩ := Bool.and_eq_true_iff.1 hu
      rw [Option.isNone_iff_eq_none.1 hu]
      dsimp only [writeParts, writeItems]
      rw [Setting.assemble, hd]
      rfl
    rw [if_neg hm] at h
    simp only [writeParts, writeItems_eq_map]
    unfold Writer.listBrackets? at h
    -- no writer, that of lists, that of tuples, or another one
    split at h
    · rename_i hf
      cases h
      have hn : ¬ ((items.map (write setting)).isEmpty && cls.derivesFrom Class.mapping) = true := by
        rwa [Class.isUnknownMapping, Class.isUnknown, hf, Option.isNone_none, Bool.true_and,
          ← List.isEmpty_map (f := write setting)] at hm
      rw [hf]
      dsimp only
      rw [Setting.assemble, if_neg hn]
      rfl
    · rename_i hf
      cases h
      rw [hf]
      rfl
    · rename_i hf
      cases h
      rw [hf]
      rfl
    · cases h
  | mapping kind entries =>
    rw [Class.brackets?] at h
    unfold Writer.mapBrackets? at h
    split at h
    · rename_i hf
      cases h
      rw [hf]
      exact mapLiteral_writeEntries entries
    · rename_i hf
      cases h
      rw [hf]
      exact mapLiteral_writeEntries entries
    · cases h
  | range p =>
    rw [Class.brackets?] at h
    split at h
    · rename_i hf
      cases h
      rw [Option.isNone_iff_eq_none.1 hf, partsInOrder, List.map_map]
      rfl
    · cases h
  | _ => cases h

/-- A member of an enumeration is written as its value is. -/
theorem brackets?_enumeration {cls : Class}
    (hf : Writer.dispatcher.find cls = some (.standard .enumeration)) (core : Value) :
    cls.brackets? core = none := by
  cases core with
  | sequence kind items =>
    rw [Class.brackets?, Class.isUnknownMapping, Class.isUnknown, hf, Option.isNone_some,
      Bool.false_and, Bool.and_false]
    rfl
  | mapping kind entries => rw [Class.brackets?, hf]; rfl
  | range p => rw [Class.brackets?, hf]; rfl
  | _ => rfl

/-- A container is written as its parts between its brackets. -/
theorem write_of_brackets? (hs : setting.find = Writer.dispatcher.find) {v : Value}
    {opening closing : Text} (h : v.brackets? = some (opening, closing)) :
    write setting v = .bracketed opening closing (v.base.partsInOrder.map (write setting)) := by
  cases v with
  | sequence kind items => exact deliver_of_brackets? hs h _
  | mapping kind entries => exact deliver_of_brackets? hs h _
  | range p => exact deliver_of_brackets? hs h _
  | object cls core payload => exact deliver_of_brackets? hs h _
  | mixed cls core value =>
    rw [write]
    split
    · rename_i hf
      rw [hs] at hf
      exact absurd (h.symm.trans (brackets?_enumeration hf core)) (Option.some_ne_none _)
    · exact deliver_of_brackets? hs h _
  | _ => cases h

theorem partPieces_eq_map {cls : Class} {core : Value} {around : Text × Text}
    (h : cls.brackets? core = some around) : partPieces core = core.partsInOrder.map pieces := by
  cases core with
  | sequence kind items => exact itemPieces_eq_map items
  | mapping kind entries => exact entryPieces_eq_map entries
  | range p =>
    rw [partPieces, partsInOrder, List.map_map]
    rfl
  | _ => cases h

/-- Its pieces are those of its parts between its brackets. -/
theorem pieces_of_brackets? {v : Value} {opening closing : Text}
    (h : v.brackets? = some (opening, closing)) :
    v.pieces = .mark opening :: Piece.commaJoined (v.base.partsInOrder.map pieces) ++
      [.mark closing] := by
  have hb : v.partPieces = v.base.partPieces := by cases v <;> rfl
  rw [pieces, framed, h, hb, partPieces_eq_map h]

/-- What holds of the leaves, and of a container that is written part by part if it does of its
parts, holds of all values. -/
theorem layout_induction {P : Value → Prop} (leaf : ∀ v, v.brackets? = none → P v)
    (node : ∀ v opening closing, v.brackets? = some (opening, closing) →
      (∀ u ∈ v.base.partsInOrder, P u) → P v) (v : Value) : P v := by
  cases h : v.brackets? with
  | none => exact leaf v h
  | some around => exact node v around.1 around.2 h fun u hu => layout_induction leaf node u
termination_by Dispatcher.rank v
decreasing_by
  cases v with
  | null => cases h
  | int n => cases h
  | mixed cls core value =>
    refine Dispatcher.rank_lt_of_mem rfl ?_ hu
    simp only [base, Value.mixed.sizeOf_spec]
    omega
  | object cls core payload =>
    refine Dispatcher.rank_lt_of_mem rfl ?_ hu
    simp only [base, Value.object.sizeOf_spec]
    omega
  | _ => exact Dispatcher.rank_lt_of_mem rfl (Nat.le_refl _) hu

/-- **What is written for a value** is what is written for its pieces in turn. -/
theorem write_eq_written (hs : setting.find = Writer.dispatcher.find) (v : Value) :
    write setting v = Piece.written setting v.pieces := by
  induction v using layout_induction with
  | leaf v h => rw [pieces_of_isLeaf h, Piece.written_singleton, Piece.write]
  | node v opening closing h ih =>
    have hp : v.base.partsInOrder.map (write setting) =
        (v.base.partsInOrder.map pieces).map (Piece.written setting) := by
      rw [List.map_map]
      exact List.map_congr_left ih
    calc write setting v
        = .bracketed opening closing (v.base.partsInOrder.map (write setting)) :=
          write_of_brackets? hs h
      _ = (Written.ok opening).followedBy
            ((Piece.written setting (Piece.commaJoined (v.base.partsInOrder.map pieces))).followedBy
              (.ok closing)) := by rw [Written.bracketed, hp, Piece.written_commaJoined]
      _ = Piece.written setting v.pieces := by
          rw [pieces_of_brackets? h, List.cons_append, Piece.written_cons, Piece.written_append,
            Piece.written_singleton, Piece.write, Piece.write]

theorem leaves_of_isLeaf {v : Value} (h : v.brackets? = none) : v.leaves = [v] := by
  rw [leaves, pieces_of_isLeaf h]
  rfl

theorem leaves_of_brackets? {v : Value} {opening closing : Text}
    (h : v.brackets? = some (opening, closing)) :
    v.leaves = v.base.partsInOrder.flatMap leaves := by
  have hn : ∀ t, Piece.leaves [.mark t] = [] := fun _ => rfl
  rw [leaves, pieces_of_brackets? h, ← List.singleton_append, List.append_assoc,
    Piece.leaves_append, Piece.leaves_append, hn, hn, Piece.leaves_commaJoined, List.flatMap_map,
    List.append_nil, List.nil_append]
  rfl

/-- Leaves are not containers. -/
theorem isLeaf_of_mem_leaves {v u : Value} (hu : u ∈ v.leaves) : u.isLeaf = true := by
  induction v using layout_induction with
  | leaf v h =>
    rw [leaves_of_isLeaf h] at hu
    obtain rfl := List.mem_singleton.1 hu
    rw [isLeaf, h]
    rfl
  | node v opening closing h ih =>
    rw [leaves_of_brackets? h] at hu
    obtain ⟨w, hw, hu⟩ := List.mem_flatMap.1 hu
    exact ih w hw hu

end Value

end SqlTemplate
