import SqlTemplate.Proofs.Literal.Atoms
import SqlTemplate.Proofs.Literal.Layout
import SqlTemplate.Proofs.Literal.Sets
import SqlTemplate.Proofs.Sorting.Agreement
import SqlTemplate.Proofs.Value.Interchange
import SqlTemplate.Value.Instance

/-!
# A literal form does not show the class of a container

Two values are `Alike` when one can be made from the other by putting containers, at any depth, in
place of others of the same content: lists and other ordered containers in place of one another,
tuples and records, sets of all kinds, mappings of all kinds. Their literal forms are the same, and
where writing stops it stops at the same place with the same fault (`Alike.write_eq`).

What makes this more than a look at the brackets are the items of sets, which are put in order
first. They are values that can be hashed (`Value.isHashable`), so that nothing in them has been
replaced but what no comparison tells apart (`Alike.interchangeable`). The items of a mapping, seen
as a set of pairs, need not be; but there sorting never gets beyond the keys.
-/

namespace SqlTemplate

namespace Class

/-- The values of the class are written as lists are if they are ordered containers: the class is
written so, or it is unknown and counts neither as a mapping nor as a set. -/
def isListLike (c : Class) : Bool :=
  c.isWrittenBy .list || c.isUnknown && !c.derivesFrom mapping && !c.derivesFrom setInterface

def isMappingLike (c : Class) : Bool := c.isWrittenBy .mapping || c.isUnknown

end Class

namespace Value

/-! ## Containers and their content -/

/-- The value is an ordered container of the given items and no tuple. -/
inductive IsListOf (items : List Value) : Value → Prop
  | sequence {kind : SequenceKind} {v : Value} : kind.isTuple = false →
      (sequence kind items).IsCoreOf Class.isListLike v → IsListOf items v
  | range {p : Progression} : p.terms.map int = items → IsListOf items (range p)

/-- The value is a tuple or a record of the given items. -/
inductive IsTupleOf (items : List Value) : Value → Prop
  | sequence {kind : SequenceKind} {v : Value} : kind.isTuple = true →
      (sequence kind items).IsCoreOf (·.isWrittenBy .tuple) v → IsTupleOf items v

/-- The value is a mapping with the given entries. -/
inductive IsMappingOf (entries : List (Value × Value)) : Value → Prop
  | mapping {kind : MappingKind} {v : Value} :
      (mapping kind entries).IsCoreOf Class.isMappingLike v → IsMappingOf entries v
  /-- An ordered container that counts as a mapping besides. -/
  | besides {kind : SequenceKind} {v : Value} : entries = [] → kind.isTuple = false →
      (sequence kind []).IsCoreOf Class.isUnknownMapping v → IsMappingOf entries v

namespace IsCoreOf

variable {fits : Class → Bool} {core v : Value}

theorem fits_cls (h : core.IsCoreOf fits v) : fits v.cls = true := by
  cases h <;> assumption

theorem base_eq (hb : core.base = core) (h : core.IsCoreOf fits v) : v.base = core := by
  cases h with
  | itself => exact hb
  | _ => rfl

/-- Wrapping does not change what a value is built on. -/
theorem core_eq (h : core.IsCoreOf fits v) : v.core = core.core := by
  cases h <;> rfl

end IsCoreOf

theorem IsSetOf.core_eq {items : List Value} {v : Value} (h : v.IsSetOf items) :
    ∃ kind, v.core = set kind items := by
  cases h with
  | predefined kind => exact ⟨kind, rfl⟩
  | derived kind => exact ⟨kind, rfl⟩
  | member kind => exact ⟨kind, rfl⟩

section

variable {setting : Setting} {v : Value} {items : List Value}

/-- A value is written from the parts of what it is built on, between the brackets of its class. -/
theorem IsCoreOf.write_eq (hs : setting.find = Writer.dispatcher.find) {fits : Class → Bool}
    {core : Value} (hb : core.base = core) (h : core.IsCoreOf fits v) {opening closing : Text}
    (ho : v.cls.brackets? core = some (opening, closing)) :
    write setting v = .bracketed opening closing (core.partsInOrder.map (write setting)) := by
  have hbase : v.base = core := h.base_eq hb
  rw [write_of_brackets? hs (by rw [brackets?, hbase, ho]), hbase]

theorem isUnknownMapping_of_isWrittenBy {c : Class} {s : Standard} (h : c.isWrittenBy s = true) :
    c.isUnknownMapping = false := by
  rw [Class.isUnknownMapping, Class.isUnknown, Class.isWrittenBy_iff.1 h]
  rfl

theorem brackets?_of_isListLike {c : Class} (h : c.isListLike = true) (kind : SequenceKind)
    (items : List Value) : c.brackets? (sequence kind items) = some (['['], [']']) := by
  rcases Bool.or_eq_true_iff.1 h with h | h
  · rw [Class.brackets?, isUnknownMapping_of_isWrittenBy h, Bool.and_false,
      Class.isWrittenBy_iff.1 h]
    rfl
  · obtain ⟨hu, hm⟩ := Bool.and_eq_true_iff.1 (Bool.and_eq_true_iff.1 h).1
    have hn : c.isUnknownMapping = false := by
      rw [Class.isUnknownMapping, Bool.eq_false_of_not_eq_true' hm, Bool.and_false]
    rw [Class.brackets?, hn, Bool.and_false, Option.isNone_iff_eq_none.1 hu]
    rfl

theorem mapBrackets?_of_isMappingLike {c : Class} (h : c.isMappingLike = true) :
    Writer.mapBrackets? (Writer.dispatcher.find c) = some ("map(".toList, [')']) := by
  rcases Bool.or_eq_true_iff.1 h with h | h
  · rw [Class.isWrittenBy_iff.1 h]
    rfl
  · rw [Option.isNone_iff_eq_none.1 h]
    rfl

/-- Whatever is a list of items is written as one. -/
theorem write_isListOf (hs : setting.find = Writer.dispatcher.find) (h : v.IsListOf items) :
    write setting v = arrayLiteral (items.map (write setting)) := by
  cases h with
  | sequence _ h => exact h.write_eq hs rfl (brackets?_of_isListLike h.fits_cls _ _)
  | @range p h =>
    have ho : (Value.range p).brackets? = some (['['], [']']) := rfl
    rw [write_of_brackets? hs ho, ← h]
    rfl

/-- Whatever is a tuple of items is written as one. -/
theorem write_isTupleOf (hs : setting.find = Writer.dispatcher.find) (h : v.IsTupleOf items) :
    write setting v = tupleLiteral (items.map (write setting)) := by
  cases h with
  | sequence _ h =>
    refine h.write_eq hs rfl ?_
    rw [Class.brackets?, isUnknownMapping_of_isWrittenBy h.fits_cls, Bool.and_false,
      Class.isWrittenBy_iff.1 h.fits_cls]
    rfl

/-- Whatever is a mapping of entries is written as one. -/
theorem write_isMappingOf {entries : List (Value × Value)}
    (hs : setting.find = Writer.dispatcher.find) (h : v.IsMappingOf entries) :
    write setting v = .bracketed "map(".toList [')']
      (entries.flatMap fun e => [write setting e.1, write setting e.2]) := by
  cases h with
  | mapping h =>
    rw [h.write_eq hs rfl (mapBrackets?_of_isMappingLike h.fits_cls), partsInOrder,
      List.map_flatMap]
    rfl
  | besides he _ h =>
    subst he
    refine h.write_eq hs rfl ?_
    rw [Class.brackets?, h.fits_cls]
    rfl

end

/-! ## Values that can be hashed -/

mutual

/-- Whether the value can be an item of a set or a key of a mapping: of containers, tuples of such
values and frozen sets can, and what is built on another value can if that can. -/
def isHashable : Value → Bool
  | bytes kind _ => kind ≠ .byteArray
  | sequence kind items => kind.isTuple && areHashable items
  | set kind _ => kind = .frozenSet
  | mapping .. => false
  | mixed _ core _ => isHashable core
  | object _ core _ => isHashable core
  | selfWriting _ _ core _ => isHashable core
  | _ => true

def areHashable : List Value → Bool
  | [] => true
  | v :: rest => isHashable v && areHashable rest

end

/-- Items are hashable one by one. -/
theorem areHashable_iff {items : List Value} :
    areHashable items = true ↔ ∀ v ∈ items, v.isHashable = true := by
  induction items with
  | nil => simp [areHashable]
  | cons v rest ih => simp [areHashable, ih]

theorem isHashable_core (v : Value) : v.core.isHashable = v.isHashable := by
  cases v with
  | mixed cls core value => rw [Value.core, isHashable_core core, isHashable]
  | object cls core payload => rw [Value.core, isHashable_core core, isHashable]
  | selfWriting cls program core payload => rw [Value.core, isHashable_core core, isHashable]
  | _ => rfl

/-! ## Replacing containers -/

/-- A key and a value as a tuple. -/
def pair (e : Value × Value) : Value := tuple [e.1, e.2]

/-- Neither of the values equals the other. -/
def Apart (v w : Value) : Prop := v.equal w = false ∧ w.equal v = false

/-- One value comes from the other by putting containers in place of others of the same content. The
lists are of pairs, of what stands in the one value and what stands at the same place in the
other. -/
inductive Alike : Value → Value → Prop
  | refl (v : Value) : Alike v v
  | lists {pairs : List (Value × Value)} {v w : Value} : v.IsListOf (pairs.map Prod.fst) →
      w.IsListOf (pairs.map Prod.snd) → (∀ p ∈ pairs, Alike p.1 p.2) → Alike v w
  | tuples {pairs : List (Value × Value)} {v w : Value} : v.IsTupleOf (pairs.map Prod.fst) →
      w.IsTupleOf (pairs.map Prod.snd) → (∀ p ∈ pairs, Alike p.1 p.2) → Alike v w
  | sets {pairs : List (Value × Value)} {v w : Value} : v.IsSetOf (pairs.map Prod.fst) →
      w.IsSetOf (pairs.map Prod.snd) →
      (∀ p ∈ pairs, p.1.isHashable = true ∧ p.2.isHashable = true) →
      (∀ p ∈ pairs, Alike p.1 p.2) → Alike v w
  | mappings {pairs : List ((Value × Value) × (Value × Value))} {v w : Value} :
      v.IsMappingOf (pairs.map Prod.fst) → w.IsMappingOf (pairs.map Prod.snd) →
      (∀ p ∈ pairs, Alike p.1.1 p.2.1) → (∀ p ∈ pairs, Alike p.1.2 p.2.2) → Alike v w
  /-- The items of a mapping, as a set of pairs of a key and a value. -/
  | items {pairs : List ((Value × Value) × (Value × Value))} :
      pairs.Pairwise (fun p q => Apart p.1.1 q.1.1) →
      (∀ p ∈ pairs, p.1.1.isHashable = true ∧ p.2.1.isHashable = true) →
      (∀ p ∈ pairs, Alike p.1.1 p.2.1) → (∀ p ∈ pairs, Alike p.1.2 p.2.2) →
      Alike (set .items (pairs.map fun p => pair p.1)) (set .items (pairs.map fun p => pair p.2))
  | member {cls : Class} {v w : Value} : Alike v w → Alike (member cls v) (member cls w)
  | mixed {cls : Class} {core core' v w : Value} : cls.isWrittenBy .enumeration = true →
      Alike core core' → Alike v w → Alike (mixed cls core v) (mixed cls core' w)
  | object {cls : Class} {core v w : Value} : Alike v w →
      Alike (object cls core v) (object cls core w)
  | selfWriting {cls : Class} {program : List Action} {core core' v w : Value} :
      Alike core core' → Alike v w →
      Alike (selfWriting cls program core v) (selfWriting cls program core' w)
  /-- A literal in the program of a value that writes itself. -/
  | literal {cls : Class} {before after : List Action} {core payload v w : Value} : Alike v w →
      Alike (selfWriting cls (before ++ .literal v :: after) core payload)
        (selfWriting cls (before ++ .literal w :: after) core payload)

namespace Alike

variable {v w : Value}

theorem eq_of_int {n : Int} (h : Alike (int n) w) : w = int n := by
  cases h with
  | refl => rfl
  | lists h => nomatch h
  | tuples h => nomatch h
  | sets h => nomatch h
  | mappings h => nomatch h

/-- The hashable ordered containers other than tuples are progressions. -/
theorem exists_range {items : List Value} (h : v.IsListOf items) (hv : v.isHashable = true) :
    ∃ p, v = range p ∧ p.terms.map int = items := by
  cases h with
  | @sequence kind _ hk h =>
    rw [← isHashable_core, h.core_eq] at hv
    simp [Value.core, isHashable, hk] at hv
  | @range p h => exact ⟨p, rfl, h⟩

/-- Replacing containers in pairs of values that stand for whole numbers changes nothing. -/
theorem map_eq_of_ints {pairs : List (Value × Value)} {ns : List Int}
    (hn : ns.map int = pairs.map Prod.fst) (h : ∀ p ∈ pairs, Alike p.1 p.2) :
    pairs.map Prod.snd = pairs.map Prod.fst := by
  refine List.map_congr_left ?_
  intro p hp
  have hm : p.1 ∈ ns.map int := hn ▸ List.mem_map_of_mem hp
  obtain ⟨n, -, hi⟩ := List.mem_map.1 hm
  have ha := h p hp
  rw [← hi] at ha ⊢
  exact ha.eq_of_int

theorem forall₂_interchangeable {pairs : List (Value × Value)}
    (h : ∀ p ∈ pairs, Interchangeable p.1 p.2) :
    List.Forall₂ Interchangeable (pairs.map Prod.fst) (pairs.map Prod.snd) := by
  rw [List.forall₂_map_left_iff, List.forall₂_map_right_iff, List.forall₂_same]
  exact h

/-- **What can be hashed compares as before**: lists and mappings are not hashed, so that only
tuples and sets can have been replaced in it. -/
theorem interchangeable (h : Alike v w) (hv : v.isHashable = true) (hw : w.isHashable = true) :
    Interchangeable v w := by
  induction h with
  | refl v => exact .refl v
  | lists hl hl' ha ih =>
    obtain ⟨p, rfl, hp⟩ := exists_range hl hv
    obtain ⟨q, rfl, hq⟩ := exists_range hl' hw
    have hints : p.terms.map int = q.terms.map int := by
      rw [hp, hq, map_eq_of_ints hp ha]
    have hinj : Function.Injective int := fun _ _ h => Value.int.inj h
    exact .of_range (List.map_injective_iff.2 hinj hints)
  | tuples ht ht' ha ih =>
    obtain ⟨hk, hc⟩ := ht
    obtain ⟨hk', hc'⟩ := ht'
    rw [← isHashable_core, hc.core_eq] at hv
    rw [← isHashable_core, hc'.core_eq] at hw
    simp only [Value.core, isHashable, hk, hk', Bool.true_and, areHashable_iff] at hv hw
    refine .of_tuples hk hk' hc.core_eq hc'.core_eq (forall₂_interchangeable ?_)
    intro p hp
    exact ih p hp (hv _ (List.mem_map_of_mem hp)) (hw _ (List.mem_map_of_mem hp))
  | sets hs hs' hh ha ih =>
    obtain ⟨k, hc⟩ := hs.core_eq
    obtain ⟨k', hc'⟩ := hs'.core_eq
    refine .of_sets hc hc' (forall₂_interchangeable ?_)
    intro p hp
    exact ih p hp (hh p hp).1 (hh p hp).2
  | mappings hm hm' hk hi ihk ihi =>
    cases hm with
    | mapping hc =>
      rw [← isHashable_core, hc.core_eq] at hv
      simp [Value.core, isHashable] at hv
    | besides _ hk hc =>
      rw [← isHashable_core, hc.core_eq] at hv
      simp [Value.core, isHashable, hk] at hv
  | items _ _ _ _ _ _ => simp [isHashable] at hv
  | member _ _ => exact .of_member _ _ _
  | mixed _ _ _ ih _ => exact (ih hv hw).of_core_eq rfl rfl
  | object _ _ => exact (Interchangeable.refl _).of_core_eq rfl rfl
  | selfWriting _ _ ih _ => exact (ih hv hw).of_core_eq rfl rfl
  | literal _ _ => exact (Interchangeable.refl _).of_core_eq rfl rfl

end Alike

/-! ## Literal forms -/

section

variable {setting : Setting}

theorem map_write_eq {pairs : List (Value × Value)}
    (h : ∀ p ∈ pairs, write setting p.1 = write setting p.2) :
    (pairs.map Prod.fst).map (write setting) = (pairs.map Prod.snd).map (write setting) := by
  rw [List.map_map, List.map_map]
  exact List.map_congr_left h

/-- Containers of distinct items have the same literal form where their items do and compare
alike, each with the others. -/
theorem setLiteral_alike {pairs : List (Value × Value)}
    (hw : ∀ p ∈ pairs, write setting p.1 = write setting p.2)
    (ha : pairs.Pairwise (ComparedAlike Prod.snd (fun p q => p.1.less q.1) Value.less)) :
    setLiteral ((pairs.map Prod.fst).zip (writeItems setting (pairs.map Prod.fst))) =
      setLiteral ((pairs.map Prod.snd).zip (writeItems setting (pairs.map Prod.snd))) := by
  rw [setLiteral_write, setLiteral_write, sorted_map, sorted_images ha]
  cases hs : sorted (fun p q : Value × Value => p.1.less q.1) pairs with
  | ok ordered =>
    have hp := sorted_perm _ pairs hs
    exact congrArg arrayLiteral (map_write_eq fun p hm => hw p (hp.mem_iff.1 hm))
  | error e =>
    cases e with
    | incomparable => exact congrArg arrayLiteral (map_write_eq hw)
    | noOrder => rfl

/-- Pairs are written alike when their parts are. -/
theorem write_pair (hs : setting.find = Writer.dispatcher.find) {e e' : Value × Value}
    (hk : write setting e.1 = write setting e'.1) (hx : write setting e.2 = write setting e'.2) :
    write setting (pair e) = write setting (pair e') := by
  have hpair : ∀ e, (pair e).IsTupleOf [e.1, e.2] := fun _ => .sequence rfl (.itself rfl)
  rw [write_isTupleOf hs (hpair e), write_isTupleOf hs (hpair e')]
  simp only [List.map_cons, List.map_nil, hk, hx]

/-- Pairs with different keys are in the order of these. -/
theorem less_pair {e f : Value × Value} (h : e.1.equal f.1 = false) :
    (pair e).less (pair f) = e.1.less f.1 := by
  have hpair : ∀ e, (pair e).parts? = some [e.1, e.2] := fun _ => rfl
  rw [less_tuple (hpair e) (hpair f), lessItems_cons, h]
  rfl

/-- Where the keys compare alike and none equals another, so do the pairs, whatever their values. -/
theorem agree_pair {p q : (Value × Value) × (Value × Value)} (hp : Interchangeable p.1.1 p.2.1)
    (hq : Interchangeable q.1.1 q.2.1) (h : p.1.1.equal q.1.1 = false) :
    (pair p.1).less (pair q.1) = (pair p.2).less (pair q.2) := by
  have h' : p.2.1.equal q.2.1 = false := (hp.equal hq).symm.trans h
  rw [less_pair h, less_pair h', hp.less hq]

theorem writeProgram_literal {payload : Written} {v w : Value}
    (h : write setting v = write setting w) (before after : List Action) :
    writeProgram setting payload (before ++ .literal v :: after) =
      writeProgram setting payload (before ++ .literal w :: after) := by
  induction before with
  | nil =>
    rw [List.nil_append, List.nil_append, writeProgram, writeProgram, writeAction, writeAction, h]
  | cons a before ih => rw [List.cons_append, List.cons_append, writeProgram, writeProgram, ih]

namespace Alike

/-- **The literal form of a value does not show the classes of its containers**, nor does what is
written of it before a fault, nor the fault. -/
theorem write_eq (hs : setting.find = Writer.dispatcher.find) {v w : Value} (h : Alike v w) :
    write setting v = write setting w := by
  induction h with
  | refl v => rfl
  | lists hl hl' _ ih => rw [write_isListOf hs hl, write_isListOf hs hl', map_write_eq ih]
  | tuples ht ht' _ ih => rw [write_isTupleOf hs ht, write_isTupleOf hs ht', map_write_eq ih]
  | @sets pairs v w hv hw hh ha ih =>
    have hi : ∀ p ∈ pairs, Interchangeable p.1 p.2 := by
      intro p hp
      exact (ha p hp).interchangeable (hh p hp).1 (hh p hp).2
    rw [write_isSetOf hs hv, write_isSetOf hs hw]
    refine setLiteral_alike ih (List.pairwise_of_forall_mem_list ?_)
    intro p hp q hq
    exact ⟨((hi p hp).less (hi q hq)).symm, ((hi q hq).less (hi p hp)).symm⟩
  | mappings hm hm' _ _ ihk ihx =>
    rw [write_isMappingOf hs hm, write_isMappingOf hs hm', List.flatMap_map, List.flatMap_map]
    refine congrArg _ (List.flatMap_congr ?_)
    intro p hp
    rw [ihk p hp, ihx p hp]
  | @items pairs hapart hh ha _ ihk ihx =>
    have hi : ∀ p ∈ pairs, Interchangeable p.1.1 p.2.1 := by
      intro p hp
      exact (ha p hp).interchangeable (hh p hp).1 (hh p hp).2
    have hw : ∀ p ∈ pairs.map (Prod.map pair pair), write setting p.1 = write setting p.2 := by
      intro _ hm
      obtain ⟨p, hp, rfl⟩ := List.mem_map.1 hm
      exact write_pair hs (ihk p hp) (ihx p hp)
    have hless : (pairs.map (Prod.map pair pair)).Pairwise
        (ComparedAlike Prod.snd (fun p q => p.1.less q.1) Value.less) := by
      refine List.pairwise_map.2 (hapart.imp_of_mem ?_)
      intro p q hp hq hpq
      exact ⟨(agree_pair (hi p hp) (hi q hq) hpq.1).symm,
        (agree_pair (hi q hq) (hi p hp) hpq.2).symm⟩
    have h := setLiteral_alike hw hless
    rw [List.map_map, List.map_map] at h
    rw [write_isSetOf hs (.predefined .items), write_isSetOf hs (.predefined .items)]
    exact h
  | member _ ih =>
    rw [write, write, Setting.deliver, Setting.deliver, hs, ih]
    split
    · rename_i hf
      obtain ⟨s, hs⟩ := Writer.find_standard hf
      cases hs
    · rename_i s _
      cases s <;> rfl
    · rfl
  | mixed hc _ _ _ ih => rw [write, write, hs, Class.isWrittenBy_iff.1 hc, ih]
  | object _ ih => rw [write, write, ih]
  | selfWriting _ _ _ ih => rw [write, write, ih]
  | literal _ ih => rw [write, write, writeProgram_literal ih]

end Alike

end

end Value

end SqlTemplate
