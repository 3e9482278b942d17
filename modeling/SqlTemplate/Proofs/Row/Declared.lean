import SqlTemplate.Proofs.Row.Kinds

/-!
# What becomes of the fields that a class declares itself

Where a class counts as its own kind, each field that it declares gives a column. Structs and models
take in what is declared on top of them, so there a field gives a column too, under the encoded name
or alias that is in force. But records, classes with attributes and tuples with names take in only
what is declared as such (`RowKind.isClosed`): a class that counts as one of these through an
ancestor alone, while it is declared otherwise itself, is eclipsed (`RowClass.EclipsedBy`), and its
columns are those of its parent. This is the only way in which a declared field is lost
(`declared_mem_columns_iff`). Since records are tried first, nothing eclipses a record, and nothing
but a record eclipses a struct or a class with attributes.
-/

namespace SqlTemplate

namespace RowKind

/-- Whether fields are taken in only from classes that are declared as this kind themselves. -/
def isClosed : RowKind → Bool
  | record | attributed | named => true
  | explicit | struct | model | keyed => false

end RowKind

namespace RowDeclaration

/-- The names of the fields that hold data of each instance. -/
def names : RowDeclaration → List Text
  | record fields => ((latest (·.name) fields).filter (·.role = .own)).map (·.name)
  | named true names => Row.usableNames [] 0 names
  | d => d.annotations

theorem names_attributed (names : List Text) : (attributed names).names = names := by
  simp [RowDeclaration.names, annotations, annotated, Function.comp_def]

theorem names_named (names : List Text) : (named false names).names = names := by
  simp [RowDeclaration.names, annotations, annotated, Function.comp_def]

end RowDeclaration

namespace RowClass

/-- The class counts as a kind that it is not declared as, and that takes in nothing of what it
declares. -/
def EclipsedBy (c : RowClass) (kind : RowKind) : Prop :=
  c.countedKind? = some kind ∧ c.ownKind? ≠ some kind ∧ kind.isClosed

/-- The columns for the fields that a class declares itself. A record goes by their names. Any other
class that is a struct, by itself or through an ancestor, goes by encoded names, one that is a model
by aliases, and the rest by names again. -/
def declaredColumns (c : RowClass) : List Text :=
  match c.layers with
  | [] => []
  | layer :: _ =>
    let d := layer.declaration
    if d.kind? = some .record then d.names
    else if Row.declares .struct c.layers then
      (latest (·.name) (d.structFields.filter (!·.shared))).map
        (Row.encodedName (Row.renaming? c.layers))
    else if Row.declares .model c.layers then
      (latest (·.name) d.modelFields).map (Row.modelColumn (Row.upperAliases c.layers))
    else d.names

end RowClass

namespace Row

variable {layer : RowLayer} {rest : List RowLayer} {columns : List Text}

/-! ## What the class's own kind makes of its fields -/

/-- **As its own kind** a class has a column for each field that it declares, under its name unless
the class is a struct or a model. -/
theorem names_subset {root : Class} {own : RowKind} (rows : Rows)
    (hk : layer.declaration.kind? = some own) (hs : own ≠ .struct) (hm : own ≠ .model) :
    ∃ columns, rows.columnsOfKind? ⟨layer :: rest, root⟩ own = some columns ∧
      layer.declaration.names ⊆ columns := by
  obtain ⟨id, name, declaration⟩ := layer
  cases declaration with
  | record fields =>
    obtain rfl := Option.some.inj hk
    have hr : ∃ base, recordFields? (⟨id, name, .record fields⟩ :: rest) =
        some (overlay (·.name) base fields) := by
      rw [recordFields?]
      cases keyedFields? rest with
      | none => exact ⟨_, rfl⟩
      | some keys => exact ⟨keys, rfl⟩
    obtain ⟨base, hr⟩ := hr
    refine ⟨_, congrArg (Option.map _) hr, ?_⟩
    intro column hc
    obtain ⟨field, hf, rfl⟩ := List.mem_map.1 hc
    obtain ⟨hf, ho⟩ := List.mem_filter.1 hf
    exact List.mem_map_of_mem (List.mem_filter.2 ⟨mem_overlay.2 (.inl hf), ho⟩)
  | struct renaming? fields => exact absurd (Option.some.inj hk).symm hs
  | model upperAliases fields => exact absurd (Option.some.inj hk).symm hm
  | attributed names =>
    obtain rfl := Option.some.inj hk
    refine ⟨_, rfl, ?_⟩
    rw [RowDeclaration.names_attributed]
    exact List.subset_append_right _ names
  | named renames names =>
    obtain rfl := Option.some.inj hk
    have ht : isTuple ⟨⟨id, name, .named renames names⟩ :: rest, root⟩ = true := by simp [isTuple]
    refine ⟨(RowDeclaration.named renames names).names, ?_, List.Subset.refl _⟩
    dsimp only [Rows.columnsOfKind?]
    rw [namedColumns?, if_pos ht, placeNames?]
    cases renames with
    | true => rfl
    | false => rw [RowDeclaration.names_named]
  | keyed names =>
    obtain rfl := Option.some.inj hk
    refine ⟨_, rfl, ?_⟩
    intro column hc
    obtain ⟨field, hf, rfl⟩ := List.mem_map.1 hc
    exact mem_names_overlay hf
  | plain annotations places? => cases hk

end Row

namespace Rows

variable {rows : Rows} {c : RowClass} {own kind : RowKind} {columns : List Text}

/-! ## What the kind that a class counts as makes of them -/

/-- A class that counts as its own kind goes by the names of its fields, unless it is a struct or a
model. -/
theorem declaredColumns_own (rows : Rows) (hk : c.ownKind? = some own)
    (hd : c.countedKind? = some own) (hs : own ≠ .struct) (hm : own ≠ .model) :
    ∃ columns, rows.columnsOfKind? c own = some columns ∧ c.declaredColumns ⊆ columns := by
  obtain ⟨hns, hnm⟩ := RowClass.declares_eq_false hk hd
  have he : own ≠ .explicit := fun e => c.ownKind?_ne_explicit (e ▸ hk)
  obtain ⟨layer, rest, root, rfl, hl⟩ := RowClass.eq_cons_of_ownKind? hk
  have hn : RowClass.declaredColumns ⟨layer :: rest, root⟩ = layer.declaration.names := by
    by_cases hr : own = .record
    · exact if_pos (hr ▸ hl)
    · have hr' : layer.declaration.kind? ≠ some .record := by
        rw [hl]
        exact fun e => hr (Option.some.inj e)
      have later : .struct ∈ own.earlier ∧ .model ∈ own.earlier := by
        revert he hr hs hm
        cases own <;> decide
      dsimp only [RowClass.declaredColumns]
      rw [if_neg hr', hns later.1, hnm later.2]
      rfl
  rw [hn]
  exact Row.names_subset rows hl hs hm

/-- A class that counts as a struct or as a model goes by the names that are in force there, however
it is declared itself. -/
theorem declaredColumns_open (hk : c.ownKind? = some own) (hd : c.countedKind? = some kind)
    (hc : rows.columnsOfKind? c kind = some columns) (ho : kind = own ∨ kind ∈ own.earlier)
    (hopen : kind = .struct ∨ kind = .model) : c.declaredColumns ⊆ columns := by
  obtain ⟨hns, -⟩ := RowClass.declares_eq_false hk hd
  obtain ⟨layer, rest, root, rfl, hl⟩ := RowClass.eq_cons_of_ownKind? hk
  have hr : layer.declaration.kind? ≠ some .record := by
    intro hr
    obtain rfl : own = .record := Option.some.inj (hl.symm.trans hr)
    revert ho
    rcases hopen with rfl | rfl <;> decide
  dsimp only [RowClass.declaredColumns]
  rw [if_neg hr]
  rcases hopen with rfl | rfl
  · have hs : Row.declares .struct (layer :: rest) = true := by
      rw [← (Row.structFields?_eq _).1, ← Option.isSome_map, Option.isSome_iff_exists]
      exact ⟨columns, hc⟩
    rw [if_pos hs]
    intro column hm
    obtain ⟨field, hf, rfl⟩ := List.mem_map.1 hm
    exact Row.mem_structColumns hc field hf
  · have hm : Row.declares .model (layer :: rest) = true := by
      rw [← (Row.modelFields?_eq _).1, ← Option.isSome_map, Option.isSome_iff_exists]
      exact ⟨columns, hc⟩
    have hs : Row.declares .struct (layer :: rest) = false := hns (by decide)
    rw [hs, if_neg Bool.false_ne_true, if_pos hm]
    intro column hm
    obtain ⟨field, hf, rfl⟩ := List.mem_map.1 hm
    exact Row.mem_modelColumns hc field hf

/-- **A class that is not eclipsed** has a column for each field that it declares. -/
theorem declaredColumns_subset (hk : c.ownKind? = some own) (hd : c.countedKind? = some kind)
    (hc : rows.columnsOfKind? c kind = some columns) (he : kind ≠ .explicit)
    (ho : kind = own ∨ kind ∈ own.earlier) (hn : ¬ c.EclipsedBy kind) :
    c.declaredColumns ⊆ columns := by
  by_cases hopen : kind = .struct ∨ kind = .model
  · exact declaredColumns_open hk hd hc ho hopen
  · obtain ⟨hs, hm⟩ := not_or.1 hopen
    have hown : kind = own := by
      by_cases hcl : kind.isClosed = true
      · refine Decidable.byContradiction fun hne => hn ⟨hd, ?_, hcl⟩
        rw [hk]
        exact fun e => hne (Option.some.inj e).symm
      · -- only dictionaries are left, which come last: nothing that counts as one is declared else
        refine ho.resolve_right ?_
        revert he hs hm hcl
        cases kind <;> cases own <;> decide
    subst hown
    obtain ⟨found, hf, hsub⟩ := declaredColumns_own rows hk hd hs hm
    obtain rfl := Option.some.inj (hc.symm.trans hf)
    exact hsub

/-- **An eclipsed class** has the columns of its parent. -/
theorem columnsOfKind?_parent (hk : c.ownKind? = some own) (he : c.EclipsedBy kind)
    (hc : rows.columnsOfKind? c kind = some columns) :
    rows.columnsOfKind? c.parent kind = some columns := by
  obtain ⟨-, hn, hcl⟩ := he
  obtain ⟨layer, rest, root, rfl, hl⟩ := RowClass.eq_cons_of_ownKind? hk
  have hn : layer.declaration.kind? ≠ some kind := hn
  obtain ⟨id, name, declaration⟩ := layer
  cases kind with
  | record =>
    dsimp only [columnsOfKind?, RowClass.parent, List.tail_cons] at hc ⊢
    obtain ⟨fields, hf, rfl⟩ := Option.map_eq_some_iff.1 hc
    rw [Row.recordFields?] at hf
    -- on top of a dictionary there is no record but one that is declared as such
    split at hf
    · rename_i hd _
      subst hd
      exact absurd rfl hn
    · rename_i hd _
      subst hd
      exact absurd rfl hn
    · cases hf
    · exact congrArg (Option.map _) hf
  | attributed =>
    rw [← hc]
    dsimp only [columnsOfKind?, RowClass.parent, List.tail_cons]
    rw [Row.attributedColumns?]
    cases declaration with
    | attributed names => exact absurd rfl hn
    | _ => rfl
  | named =>
    rw [← hc]
    dsimp only [columnsOfKind?, RowClass.parent, List.tail_cons]
    rw [Row.namedColumns?, Row.namedColumns?, Row.isTuple, Row.isTuple, Row.placeNames?,
      List.any_cons]
    cases declaration with
    | named renames names => exact absurd rfl hn
    | plain annotations places? => cases hl
    | _ => rfl
  | _ => cases hcl

/-- **When a declared field is lost**: after any look-ups of row types, a class that is declared in
some way, and has no explicit columns, has columns, and the joined columns are these joined. Each
field that it declares itself has its column among them, unless the class counts as a record, as a
class with attributes or as a tuple with names that it is on account of an ancestor alone. This kind
is then tried before its own, and the columns are those of its parent, whatever it declares. -/
theorem declared_mem_columns_iff {classes : RowClass.Key → RowClass}
    (explicit : List (RowClass.Key × List Text)) (lookUps : List (LookUp classes))
    (hc : classes c.key = c) (hk : c.ownKind? = some own)
    (he : explicit? ⟨explicit, .empty, .empty⟩ c = none) :
    let rows := lookUpAll ⟨explicit, .empty, .empty⟩ lookUps
    ∃ columns, (rows.columnNames (.cls c)).1 = .ok (some columns) ∧
      (rows.joinedColumns (.cls c)).result = .ok (some (join columns)) ∧
      (∀ kind, c.EclipsedBy kind → kind ∈ own.earlier ∧
        rows.columnsOfKind? c.parent kind = some columns) ∧
      ∀ column ∈ c.declaredColumns, (column ∈ columns ↔ ∀ kind, c.EclipsedBy kind →
        ∃ inherited, rows.columnsOfKind? c.parent kind = some inherited ∧ column ∈ inherited) := by
  intro rows
  obtain ⟨hx, hf⟩ := (Faithful.fresh explicit).lookUpAll lookUps
  have hd : rows.detect c = c.countedKind? := detect_eq hk ((explicit?_congr hx c).trans he)
  obtain ⟨kind, hcount, hne, ho⟩ := RowClass.countedKind?_cases hk
  obtain ⟨columns, hcols⟩ :=
    Option.isSome_iff_exists.1 (isSome_of_detect (hd.trans hcount))
  have hcolumns : rows.columns? (.cls c) = some columns := by
    rw [columns?, hd, hcount]
    exact hcols
  have hparent : ∀ kind, c.EclipsedBy kind → kind ∈ own.earlier ∧
      rows.columnsOfKind? c.parent kind = some columns := by
    intro kind' hecl
    obtain rfl := Option.some.inj (hcount.symm.trans hecl.1)
    exact ⟨ho.resolve_left fun e => hecl.2.1 (e ▸ hk), columnsOfKind?_parent hk hecl hcols⟩
  refine ⟨columns, ?_, ?_, hparent, ?_⟩
  · have hn := (hf.classColumns hc).1
    rw [hcolumns] at hn
    exact hn
  · have hj := (hf.classJoined hc).1
    rw [hcolumns] at hj
    exact hj
  · intro column hm
    constructor
    · intro hcol kind' hecl
      exact ⟨columns, (hparent kind' hecl).2, hcol⟩
    · intro h
      by_cases hecl : c.EclipsedBy kind
      · obtain ⟨inherited, hi, hcol⟩ := h kind hecl
        obtain rfl := Option.some.inj ((hparent kind hecl).2.symm.trans hi)
        exact hcol
      · exact declaredColumns_subset hk hcount hcols hne ho hecl hm

/-! ## Attributes on a record -/

def attributesLayer (names : List Text) : RowLayer := ⟨1, "Upper".toList, .attributed names⟩

def recordLayer (names : List Text) : RowLayer :=
  ⟨2, "Lower".toList, .record (names.map fun name => ⟨name, .own⟩)⟩

/-- A class with attributes, one of which its parent, a record, has too. -/
def attributesOnRecord : RowClass :=
  ⟨[attributesLayer ["a".toList, "c".toList], recordLayer ["a".toList, "b".toList]], Class.object⟩

/-- A class with an attribute, on top of a record without fields. -/
def attributesOnEmptyRecord : RowClass :=
  ⟨[attributesLayer ["c".toList], recordLayer []], Class.object⟩

def attributesOnRecordClasses : RowClass.Key → RowClass
  | .inl 1 => attributesOnRecord
  | .inl _ => attributesOnRecord.parent
  | .inr _ => ⟨[], Class.object⟩

def attributesLookUps : List (LookUp attributesOnRecordClasses) :=
  [.joined ⟨.cls attributesOnRecord, by rintro c ⟨⟩; rfl⟩,
    .columns ⟨.cls attributesOnRecord.parent, by rintro c ⟨⟩; rfl⟩]

/-- Of the two declared attributes the one that the record has too is a column. -/
theorem declared_mem_columns_iff_attributes :
    let c := attributesOnRecord
    let rows := Rows.empty.lookUpAll attributesLookUps
    attributesOnRecordClasses c.key = c ∧ c.ownKind? = some .attributed ∧
    Rows.empty.explicit? c = none ∧ c.declaredColumns = ["a".toList, "c".toList] ∧
    ∃ columns, (rows.columnNames (.cls c)).1 = .ok (some columns) ∧
      "a".toList ∈ columns ∧ "c".toList ∉ columns := by
  intro c rows
  have hd : c.declaredColumns = ["a".toList, "c".toList] := rfl
  have hecl : c.EclipsedBy .record := ⟨rfl, by decide, rfl⟩
  have hparent : rows.columnsOfKind? c.parent .record = some ["a".toList, "b".toList] := rfl
  have hk : c.ownKind? = some .attributed := rfl
  have hc : attributesOnRecordClasses c.key = c := rfl
  have he : Rows.empty.explicit? c = none := rfl
  obtain ⟨columns, hcols, -, -, hm⟩ := declared_mem_columns_iff [] attributesLookUps hc hk he
  refine ⟨hc, hk, he, hd, columns, hcols, ?_, ?_⟩
  · refine (hm _ (by simp [hd])).2 ?_
    rintro kind ⟨hk, -⟩
    obtain rfl : kind = .record := Option.some.inj (hk.symm.trans hecl.1)
    exact ⟨_, hparent, by simp⟩
  · intro hcol
    obtain ⟨inherited, hi, hin⟩ := (hm _ (by simp [hd])).1 hcol .record hecl
    obtain rfl := Option.some.inj (hparent.symm.trans hi)
    revert hin
    decide

/-- The attribute on top of a record without fields is lost, and no column is left. -/
theorem declared_lost :
    let c := attributesOnEmptyRecord
    c.ownKind? = some .attributed ∧ Rows.empty.explicit? c = none ∧
    c.declaredColumns = ["c".toList] ∧
    (Rows.empty.columnNames (.cls c)).1 = .ok (some []) ∧
    ¬ ∃ columns, (Rows.empty.columnNames (.cls c)).1 = .ok (some columns) ∧
      c.declaredColumns ⊆ columns := by
  intro c
  have hn : (Rows.empty.columnNames (.cls c)).1 = .ok (some []) := rfl
  have hd : c.declaredColumns = ["c".toList] := rfl
  refine ⟨rfl, rfl, hd, hn, ?_⟩
  rintro ⟨columns, hcols, hsub⟩
  obtain rfl := Option.some.inj (Except.ok.inj (hn.symm.trans hcols))
  rw [hd] at hsub
  cases hsub List.mem_cons_self

end Rows

end SqlTemplate
