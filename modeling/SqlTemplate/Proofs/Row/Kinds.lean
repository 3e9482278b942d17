import SqlTemplate.Proofs.Row.Agreement
import SqlTemplate.Proofs.Row.Chain

/-!
# The kind that a class counts as

A class is of the kind that it is declared as and of those that it inherits (`RowClass.inherits`,
`isSome_columnsOfKind?`), and it counts as the first of these in a fixed order
(`RowClass.countedKind?`, `detect_eq`). So it may count as another kind than its own, but only as
one that is tried before (`countedKind?_cases`).
-/

namespace SqlTemplate

namespace RowKind

/-- The kinds that are tried before. -/
def earlier (kind : RowKind) : List RowKind := Rows.kindOrder.takeWhile (· ≠ kind)

example : RowKind.attributed.earlier = [.explicit, .record, .struct, .model] := by decide

/-- Of two kinds one comes first. -/
theorem earlier_or {kind kind' : RowKind} :
    kind ≠ kind' → kind ∈ kind'.earlier ∨ kind' ∈ kind.earlier := by
  cases kind <;> cases kind' <;> decide

/-- Every kind is in the order. -/
theorem mem_kindOrder (kind : RowKind) : kind ∈ Rows.kindOrder := by
  cases kind <;> decide

/-- No kind that is tried before the first hit is one. -/
theorem eq_false_of_mem_earlier {p : RowKind → Bool} {kind k : RowKind}
    (h : Rows.kindOrder.find? p = some kind) (hk : k ∈ kind.earlier) : p k = false := by
  obtain ⟨hp, before, after, ho, hn⟩ := List.find?_eq_some_iff_append.1 h
  have hne : ∀ k ∈ before, decide (k ≠ kind) = true := by
    intro k hm
    rw [decide_eq_true_iff]
    rintro rfl
    exact absurd hp (by simpa using hn k hm)
  rw [earlier, ho, List.takeWhile_append_of_pos hne, List.takeWhile_cons_of_neg (by simp),
    List.append_nil] at hk
  simpa using hn k hk

end RowKind

namespace RowClass

/-- The kind that a class is declared as. -/
def ownKind? (c : RowClass) : Option RowKind :=
  c.layers.head?.bind fun layer => layer.declaration.kind?

/-- The class that a class is declared on top of. -/
def parent (c : RowClass) : RowClass := ⟨c.layers.tail, c.root⟩

/-- Whether a class is of a kind on account of its ancestors. A dictionary with fixed keys passes on
nothing of being a record, and the names of places count on a tuple only. -/
def inherits (c : RowClass) : RowKind → Bool
  | .explicit => false
  | .record => Row.declares .record c.parent.layers && !Row.declares .keyed c.parent.layers
  | .named => (c.root.derivesFrom Class.tuple || Row.declares .named c.parent.layers) &&
      c.parent.layers.any fun layer => layer.declaration.givesPlaces
  | kind => Row.declares kind c.parent.layers

/-- The kind that a class counts as: the first one that it is declared as or inherits. -/
def countedKind? (c : RowClass) : Option RowKind :=
  Rows.kindOrder.find? fun kind => c.ownKind? == some kind || c.inherits kind

theorem eq_cons_of_ownKind? {c : RowClass} {own : RowKind} (hk : c.ownKind? = some own) :
    ∃ layer rest root, c = ⟨layer :: rest, root⟩ ∧ layer.declaration.kind? = some own := by
  obtain ⟨layers, root⟩ := c
  cases layers with
  | nil => cases hk
  | cons layer rest => exact ⟨layer, rest, root, rfl, hk⟩

/-- Explicit columns are no way to declare a class. -/
theorem ownKind?_ne_explicit (c : RowClass) : c.ownKind? ≠ some .explicit := by
  intro hk
  obtain ⟨layer, rest, root, -, hl⟩ := eq_cons_of_ownKind? hk
  cases hd : layer.declaration <;> rw [hd] at hl <;> cases hl

/-- **A declared class counts** as its own kind, or as one that is tried before. -/
theorem countedKind?_cases {c : RowClass} {own : RowKind} (hk : c.ownKind? = some own) :
    ∃ kind, c.countedKind? = some kind ∧ kind ≠ .explicit ∧ (kind = own ∨ kind ∈ own.earlier) := by
  have ho : (c.ownKind? == some own || c.inherits own) = true := by
    rw [hk, beq_self_eq_true, Bool.true_or]
  have hs : c.countedKind?.isSome = true := List.find?_isSome.2 ⟨own, own.mem_kindOrder, ho⟩
  obtain ⟨kind, hc⟩ := Option.isSome_iff_exists.1 hs
  refine ⟨kind, hc, ?_, ?_⟩
  · rintro rfl
    have he := List.find?_some hc
    dsimp only [inherits] at he
    rw [Bool.or_false] at he
    exact c.ownKind?_ne_explicit (eq_of_beq he)
  · by_cases hne : kind = own
    · exact .inl hne
    · rcases RowKind.earlier_or hne with h | h
      · exact .inr h
      · cases ho.symm.trans (RowKind.eq_false_of_mem_earlier hc h)

/-- No class of the chain is declared as a kind that is tried before the one that the class counts
as. -/
theorem declares_eq_false {c : RowClass} {own kind : RowKind} (hk : c.ownKind? = some own)
    (hc : c.countedKind? = some kind) :
    (.struct ∈ kind.earlier → Row.declares .struct c.layers = false) ∧
      (.model ∈ kind.earlier → Row.declares .model c.layers = false) := by
  obtain ⟨layer, rest, root, rfl, -⟩ := eq_cons_of_ownKind? hk
  exact ⟨RowKind.eq_false_of_mem_earlier hc, RowKind.eq_false_of_mem_earlier hc⟩

end RowClass

namespace Rows

open Row

/-- **The kinds of a class** are the one that it is declared as and those that it inherits. -/
theorem isSome_columnsOfKind? (rows : Rows) {c : RowClass} {own kind : RowKind}
    (hk : c.ownKind? = some own) (he : kind ≠ .explicit) :
    (rows.columnsOfKind? c kind).isSome = (c.ownKind? == some kind || c.inherits kind) := by
  obtain ⟨layer, rest, root, hc, hl⟩ := RowClass.eq_cons_of_ownKind? hk
  have ho : c.ownKind? = layer.declaration.kind? := by rw [hk, hl]
  have hp : c.parent.layers = rest := by rw [hc, RowClass.parent, List.tail_cons]
  cases kind with
  | explicit => exact absurd rfl he
  | record =>
    have hs : (rows.columnsOfKind? c .record).isSome = (recordFields? (layer :: rest)).isSome := by
      rw [hc]
      exact Option.isSome_map
    have hi : c.inherits .record = (declares .record rest && !declares .keyed rest) := by
      rw [RowClass.inherits, hp]
    rw [hs, hi, ho, recordFields?]
    cases hd : declares .keyed rest with
    | true =>
      obtain ⟨keys, hkeys⟩ := Option.isSome_iff_exists.1 ((isSome_keyedFields? rest).trans hd)
      rw [hkeys]
      cases layer.declaration <;> simp [RowDeclaration.kind?]
    | false =>
      rw [keyedFields?_eq_none hd, ← isSome_recordFields? hd]
      cases layer.declaration <;> simp [RowDeclaration.kind?]
  | struct =>
    subst hc
    dsimp only [Rows.columnsOfKind?]
    rw [structColumns?, Option.isSome_map, (structFields?_eq _).1]
    rfl
  | model =>
    subst hc
    dsimp only [Rows.columnsOfKind?]
    rw [modelColumns?, Option.isSome_map, (modelFields?_eq _).1]
    rfl
  | attributed =>
    subst hc
    exact isSome_attributedColumns? _
  | named =>
    have hi : c.inherits .named = ((c.root.derivesFrom Class.tuple || declares .named rest) &&
        rest.any fun layer => layer.declaration.givesPlaces) := by
      rw [RowClass.inherits, hp]
    have ht : isTuple c = (c.root.derivesFrom Class.tuple ||
        (layer.declaration.kind? == some .named || declares .named rest)) := by
      rw [isTuple_eq, hc, declares_cons]
    have hn : (rows.columnsOfKind? c .named).isSome =
        (isTuple c && (placeNames? c.layers).isSome) := by
      dsimp only [Rows.columnsOfKind?]
      rw [namedColumns?]
      cases isTuple c <;> rfl
    rw [hn, hi, ho, ht, isSome_placeNames?, hc, List.any_cons]
    cases hd : layer.declaration with
    | plain annotations places? =>
      rw [hd] at hl
      cases hl
    | named renames names => simp [RowDeclaration.kind?, RowDeclaration.givesPlaces]
    | _ => rfl
  | keyed =>
    subst hc
    dsimp only [Rows.columnsOfKind?]
    rw [keyedColumns?, Option.isSome_map, isSome_keyedFields?]
    rfl

/-- What is detected is what the declarations tell, where there are no explicit columns. -/
theorem detect_eq {rows : Rows} {c : RowClass} {own : RowKind} (hk : c.ownKind? = some own)
    (he : rows.explicit? c = none) : rows.detect c = c.countedKind? := by
  refine congrArg (kindOrder.find? ·) ?_
  funext kind
  by_cases hx : kind = .explicit
  · subst hx
    have hs : (rows.columnsOfKind? c .explicit).isSome = false := congrArg Option.isSome he
    have ho : (c.ownKind? == some .explicit) = false := beq_false_of_ne c.ownKind?_ne_explicit
    rw [hs, ho]
    rfl
  · exact rows.isSome_columnsOfKind? hk hx

end Rows

end SqlTemplate
