import SqlTemplate.Literal.Write
import SqlTemplate.Proofs.Literal.Reader
import SqlTemplate.Proofs.Sorting.Agreement

/-!
# The literal of a value

`Value.tree` is the literal that the standard registrations give to a value, told from the value and
apart from how it is written: numbers and words are tokens, ordered containers arrays or tuples,
containers of distinct items arrays in the order in which sorting puts them, mappings maps, and a
member of an enumeration is what its value is. The trees are those of values of which no part writes
itself (`Value.Plain`).
-/

namespace SqlTemplate

/-! ## Standard writers -/

/-- Whether the standard registrations give the class the given writer. -/
def Class.isWrittenBy (c : Class) (s : Standard) : Bool :=
  match Writer.dispatcher.find c with
  | some (.standard t) => t = s
  | _ => false

/-- Neither for the class nor for an ancestor of it is there a standard writer. -/
def Class.isUnknown (c : Class) : Bool := (Writer.dispatcher.find c).isNone

/-- The class is unknown to the standard writers and counts as a mapping. -/
def Class.isUnknownMapping (c : Class) : Bool := c.isUnknown && c.derivesFrom Class.mapping

namespace Writer

theorem dispatcher_registered : dispatcher.registered =
    Standard.registrations.reverse.map fun entry => (entry.1, .standard entry.2) := rfl

/-- Standard writers are found along the ancestry. -/
theorem dispatcher_find (c : Class) : dispatcher.find c = c.ancestry.findSome? dispatcher.own? :=
  rfl

/-- The standard registrations know standard writers only. -/
theorem find_standard {c : Class} {w : Writer} (h : dispatcher.find c = some w) :
    ∃ s, w = .standard s := by
  rw [dispatcher_find] at h
  obtain ⟨a, -, ha⟩ := List.exists_of_findSome?_eq_some h
  obtain ⟨entry, hf, rfl⟩ := Option.map_eq_some_iff.1 ha
  have hm := List.mem_of_find?_eq_some hf
  rw [dispatcher_registered] at hm
  obtain ⟨r, -, rfl⟩ := List.mem_map.1 hm
  exact ⟨r.2, rfl⟩

end Writer

theorem Class.isWrittenBy_iff {c : Class} {s : Standard} :
    c.isWrittenBy s = true ↔ Writer.dispatcher.find c = some (.standard s) := by
  unfold Class.isWrittenBy
  cases h : Writer.dispatcher.find c with
  | none => simp
  | some w =>
    obtain ⟨t, rfl⟩ := Writer.find_standard h
    simp

/-! ## Arrangements -/

namespace Value

/-- What goes with the items of a container of distinct items, in the order in which these are
written: in ascending order or, where some of them cannot be compared, as they are iterated. -/
def arranged {α : Type} (items : List (Value × α)) : List α :=
  match sorted (fun a b : Value × α => a.1.less b.1) items with
  | .ok ordered => ordered.map Prod.snd
  | .error _ => items.map Prod.snd

/-- Arranging goes by the values, whatever they come with. -/
theorem arranged_map {α β : Type} (f : α → β) (items : List (Value × α)) :
    arranged (items.map (Prod.map id f)) = (arranged items).map f := by
  unfold arranged
  rw [sorted_map]
  cases h : sorted (fun a b : Value × α => a.1.less b.1) items with
  | ok ordered => simp [Except.map, h]
  | error e => simp [Except.map, h]

/-- Arranging neither adds nor loses anything. -/
theorem arranged_perm {α : Type} (items : List (Value × α)) :
    (arranged items).Perm (items.map Prod.snd) := by
  unfold arranged
  cases h : sorted (fun a b : Value × α => a.1.less b.1) items with
  | ok ordered => exact (sorted_perm _ items h).map _
  | error e => exact .refl _

end Value

/-! ## Trees -/

namespace Literal

/-- A tuple or an array of the items. -/
def listing (isTuple : Bool) (items : List Literal) : Literal :=
  if isTuple then tuple items else array items

/-- An array or a tuple with the brackets that are asked for, and any other literal as it is. -/
def relisted (isTuple : Bool) : Literal → Literal
  | array items => listing isTuple items
  | tuple items => listing isTuple items
  | l => l

theorem relisted_listing (b c : Bool) (items : List Literal) :
    (listing b items).relisted c = listing c items := by
  cases b <;> rfl

end Literal

/-- The literal of a value of the class that is built on `core`, which has the literal `l`. A class
may count as a mapping although it is on top of an ordered container, which then has no items. -/
def Class.formed (c : Class) (core : Value) (l : Literal) : Literal :=
  match core with
  | .sequence _ [] =>
    if c.isUnknownMapping then .map [] else .listing (c.isWrittenBy .tuple) []
  | _ => l.relisted (c.isWrittenBy .tuple)

namespace Value

open Literal (token string array)

mutual

/-- The literal of a value. Values that are never written have one without meaning. -/
def tree : Value → Literal
  | null => token "NULL".toList
  | bool b => token (if b then "true".toList else "false".toList)
  | int n => token (Text.integer n)
  | float x => token x.toText
  | decimal (.finite negative coefficient exponent) =>
    token (Decimal.plainText negative coefficient exponent)
  | decimal d => token d.toText
  | text s => string s
  | bytes _ data => string (data.map fun b => Char.ofNat b.toNat)
  | uuid u => string (uuidText u)
  | date d => string d.toText
  | time t => string t.clock.toText
  | dateTime t => string (t.universal?.elim [] fun civil => civil.toText ' ')
  | identifier name => .identifier name
  | range p => array (p.terms.map fun n => token (Text.integer n))
  | sequence kind items => kind.cls.formed (sequence kind items) (array (trees items))
  | set _ items => array (arranged (items.zip (trees items)))
  | mapping _ entries => .map (treePairs entries)
  | member _ value => tree value
  | mixed cls core value =>
    if cls.isWrittenBy .enumeration then tree value else cls.formed core (tree core)
  | object cls core _ => cls.formed core (tree core)
  | selfWriting .. | classRef _ | foreign .. => token []

/-- The literals of several values. -/
def trees : List Value → List Literal
  | [] => []
  | v :: rest => tree v :: trees rest

/-- The literals of keys and items. -/
def treePairs : List (Value × Value) → List (Literal × Literal)
  | [] => []
  | (k, v) :: rest => (tree k, tree v) :: treePairs rest

end

theorem trees_eq_map (items : List Value) : trees items = items.map tree := by
  induction items with
  | nil => rfl
  | cons v rest ih => rw [trees, ih, List.map_cons]

theorem treePairs_eq_map (entries : List (Value × Value)) :
    treePairs entries = entries.map (Prod.map tree tree) := by
  induction entries with
  | nil => rfl
  | cons e rest ih => rw [treePairs, ih, List.map_cons]; rfl

/-- The literal of an ordered container is an array or a tuple of its items, unless it is empty and
the class makes it a mapping. -/
theorem formed_sequence (cls : Class) (kind : SequenceKind) (items : List Value) :
    cls.formed (sequence kind items) (sequence kind items).tree =
      if items.isEmpty && cls.isUnknownMapping then .map []
      else .listing (cls.isWrittenBy .tuple) (trees items) := by
  cases items with
  | nil => rfl
  | cons v rest =>
    have ht : (sequence kind (v :: rest)).tree =
        .listing (kind.cls.isWrittenBy .tuple) (trees (v :: rest)) := rfl
    rw [ht, List.isEmpty_cons, Bool.false_and, if_neg Bool.false_ne_true]
    exact Literal.relisted_listing _ _ _

theorem formed_set (cls : Class) (kind : SetKind) (items : List Value) (l : Literal) :
    cls.formed (set kind items) l = l.relisted (cls.isWrittenBy .tuple) := rfl

theorem formed_range (cls : Class) (p : Progression) (l : Literal) :
    cls.formed (range p) l = l.relisted (cls.isWrittenBy .tuple) := rfl

/-- No part of the value writes itself, and what instances of declared classes and members of
enumerations are built on is built on nothing else. -/
inductive Plain : Value → Prop
  | null : Plain null
  | bool (b : Bool) : Plain (bool b)
  | int (n : Int) : Plain (int n)
  | float (x : Binary64) : Plain (float x)
  | decimal (d : Decimal) : Plain (decimal d)
  | text (s : Text) : Plain (text s)
  | bytes (kind : BytesKind) (data : List UInt8) : Plain (bytes kind data)
  | uuid (u : BitVec 128) : Plain (uuid u)
  | date (d : Date) : Plain (date d)
  | time (t : TimeOfDay) : Plain (time t)
  | dateTime (t : DateTime) : Plain (dateTime t)
  | identifier (name : Text) : Plain (identifier name)
  | range (p : Progression) : Plain (range p)
  | classRef (c : Class) : Plain (classRef c)
  | foreign (c : Class) (token : Nat) (shown : Text) : Plain (foreign c token shown)
  | sequence {kind : SequenceKind} {items : List Value} :
      (∀ v ∈ items, Plain v) → Plain (sequence kind items)
  | set {kind : SetKind} {items : List Value} : (∀ v ∈ items, Plain v) → Plain (set kind items)
  | mapping {kind : MappingKind} {entries : List (Value × Value)} :
      (∀ e ∈ entries, Plain e.1) → (∀ e ∈ entries, Plain e.2) → Plain (mapping kind entries)
  | member {cls : Class} {value : Value} : Plain value → Plain (member cls value)
  | mixed {cls : Class} {core value : Value} :
      core.core = core → Plain core → Plain value → Plain (mixed cls core value)
  | object {cls : Class} {core payload : Value} :
      core.core = core → Plain core → Plain (object cls core payload)

end Value

end SqlTemplate
