import SqlTemplate.Proofs.Overlay
import SqlTemplate.Row.Lookup

/-!
# Chains of declarations

A row class is a chain of declarations, its own first. What a chain has as one kind is found by
going through it; here is what comes of that, told by the declarations alone. A chain is a struct, a
model, a dictionary or a class with attributes if one of its classes is declared as one
(`Row.declares`); it is a record on the same condition, if no dictionary is in it. Structs and
models take in the fields of every class on top of them, under the names that are in force there
(`structFields?_cons`, `modelFields?_cons`), so none of the class on top is lost
(`mem_structColumns`, `mem_modelColumns`).
-/

namespace SqlTemplate

namespace RowDeclaration

/-- The kind that a class is of by its own declaration; a plain class is of none. -/
def kind? : RowDeclaration → Option RowKind
  | record _ => some .record
  | struct .. => some .struct
  | model .. => some .model
  | attributed _ => some .attributed
  | named .. => some .named
  | keyed _ => some .keyed
  | plain .. => none

/-- The fields as those of a struct. -/
def structFields : RowDeclaration → List StructField
  | struct _ fields => fields
  | d => d.annotations.map fun name => ⟨name, none, false⟩

/-- The fields as those of a model. -/
def modelFields : RowDeclaration → List ModelField
  | model _ fields => fields.filter (!·.shared)
  | d => d.annotations.map fun name => ⟨name, none, none, false⟩

def renaming? : RowDeclaration → Option Renaming
  | struct renaming? _ => renaming?
  | _ => none

def upperAliases : RowDeclaration → Bool
  | model upperAliases _ => upperAliases
  | _ => false

/-- Whether the class has names for the places of a tuple. -/
def givesPlaces : RowDeclaration → Bool
  | named .. | plain _ (some _) => true
  | _ => false

theorem renaming?_eq_none {d : RowDeclaration} (h : d.kind? ≠ some .struct) :
    d.renaming? = none := by
  cases d with
  | struct renaming? fields => exact absurd rfl h
  | _ => rfl

theorem upperAliases_eq_false {d : RowDeclaration} (h : d.kind? ≠ some .model) :
    d.upperAliases = false := by
  cases d with
  | model upperAliases fields => exact absurd rfl h
  | _ => rfl

end RowDeclaration

namespace Row

/-- Whether a class of the chain is declared as one of the kind. -/
def declares (kind : RowKind) (layers : List RowLayer) : Bool :=
  layers.any fun layer => layer.declaration.kind? == some kind

theorem declares_cons (kind : RowKind) (layer : RowLayer) (rest : List RowLayer) :
    declares kind (layer :: rest) =
      (layer.declaration.kind? == some kind || declares kind rest) := rfl

/-- The renaming in force: that of the first class that has one. -/
def renaming? (layers : List RowLayer) : Option Renaming :=
  layers.findSome? fun layer => layer.declaration.renaming?

/-- Whether upper-case names are aliases: as soon as one class says so. -/
def upperAliases (layers : List RowLayer) : Bool :=
  layers.any fun layer => layer.declaration.upperAliases

/-- **What a chain passes on** along with its fields: it has some as soon as one of its classes is
declared as the kind, and what goes with them is what each class adds to that of its ancestors. -/
theorem passedOn {α β : Type} {kind : RowKind} {found? : List RowLayer → Option (α × β)}
    {start : α × β} {fields : RowLayer → List RowLayer → β} {inForce : List RowLayer → α}
    (add : RowLayer → α → α) (hnil : found? [] = none) (hstart : inForce [] = start.1)
    (hcons : ∀ layer rest, found? (layer :: rest) =
      if layer.declaration.kind? = some kind ∨ (found? rest).isSome then
        some (add layer ((found? rest).getD start).1, fields layer rest)
      else none)
    (hadd : ∀ layer rest, inForce (layer :: rest) = add layer (inForce rest))
    (hother : ∀ layer a, layer.declaration.kind? ≠ some kind → add layer a = a)
    (layers : List RowLayer) :
    (found? layers).isSome = declares kind layers ∧
      ((found? layers).getD start).1 = inForce layers := by
  induction layers with
  | nil =>
    rw [hnil, hstart]
    exact ⟨rfl, rfl⟩
  | cons layer rest ih =>
    obtain ⟨hs, hf⟩ := ih
    rw [hcons, declares_cons, hadd, ← hs, ← hf]
    split
    · rename_i h
      refine ⟨?_, rfl⟩
      symm
      simpa using h
    · rename_i h
      obtain ⟨hk, hb⟩ := not_or.1 h
      rw [Option.not_isSome_iff_eq_none] at hb
      rw [hb, hother layer _ hk]
      refine ⟨?_, rfl⟩
      symm
      simpa using hk

variable {layer : RowLayer} {rest layers : List RowLayer} {columns : List Text}

/-! ## Structs -/

/-- **One class of a chain** makes a struct if it is declared as one or stands on one, whatever it
is declared as itself. -/
theorem structFields?_cons (layer : RowLayer) (rest : List RowLayer) :
    structFields? (layer :: rest) =
      let base := (structFields? rest).getD (none, [])
      let renaming? := layer.declaration.renaming?.or base.1
      if layer.declaration.kind? = some .struct ∨ (structFields? rest).isSome then
        some (renaming?,
          overlay (·.1) base.2 (encodedFields renaming? layer.declaration.structFields))
      else none := by
  rw [structFields?]
  cases layer.declaration <;> cases structFields? rest <;>
    simp [RowDeclaration.kind?, RowDeclaration.renaming?, RowDeclaration.structFields]

/-- The nearest layer that renames decides. -/
theorem renaming?_cons (layer : RowLayer) (rest : List RowLayer) :
    renaming? (layer :: rest) = layer.declaration.renaming?.or (renaming? rest) := by
  rw [renaming?, List.findSome?_cons]
  cases layer.declaration.renaming? <;> rfl

/-- A chain is a struct if one of its classes is declared as one, and its renaming is the one in
force. -/
theorem structFields?_eq (layers : List RowLayer) :
    (structFields? layers).isSome = declares .struct layers ∧
      ((structFields? layers).getD (none, [])).1 = renaming? layers := by
  refine passedOn (fun layer => layer.declaration.renaming?.or) rfl rfl structFields?_cons
    renaming?_cons ?_ layers
  intro layer a hk
  rw [RowDeclaration.renaming?_eq_none hk, Option.none_or]

/-- Each field that a struct declares is among its columns, under its encoded name. -/
theorem mem_structColumns (hs : structColumns? (layer :: rest) = some columns) :
    ∀ field ∈ latest (·.name) (layer.declaration.structFields.filter (!·.shared)),
      encodedName (renaming? (layer :: rest)) field ∈ columns := by
  intro field hf
  rw [← (structFields?_eq (layer :: rest)).2]
  rw [structColumns?, structFields?_cons] at hs
  rw [structFields?_cons]
  split at hs
  · rename_i h
    rw [if_pos h]
    obtain rfl := Option.some.inj hs
    refine List.mem_map.2 ⟨(field.name, _), mem_overlay.2 (.inl ?_), rfl⟩
    rw [encodedFields, latest_map]
    exact List.mem_map.2 ⟨field, hf, rfl⟩
  · cases hs

/-! ## Models -/

theorem modelFields?_cons (layer : RowLayer) (rest : List RowLayer) :
    modelFields? (layer :: rest) =
      let base := (modelFields? rest).getD (false, [])
      if layer.declaration.kind? = some .model ∨ (modelFields? rest).isSome then
        some (layer.declaration.upperAliases || base.1,
          overlay (·.name) base.2 layer.declaration.modelFields)
      else none := by
  rw [modelFields?]
  cases layer.declaration <;> cases modelFields? rest <;>
    simp [RowDeclaration.kind?, RowDeclaration.upperAliases, RowDeclaration.modelFields]

/-- A chain has the fields of a model exactly if some layer is one. -/
theorem modelFields?_eq (layers : List RowLayer) :
    (modelFields? layers).isSome = declares .model layers ∧
      ((modelFields? layers).getD (false, [])).1 = upperAliases layers := by
  refine passedOn (fun layer => (layer.declaration.upperAliases || ·)) rfl rfl modelFields?_cons
    (fun _ _ => rfl) ?_ layers
  intro layer a hk
  rw [RowDeclaration.upperAliases_eq_false hk, Bool.false_or]

/-- Each field that a model declares is among its columns. -/
theorem mem_modelColumns (hs : modelColumns? (layer :: rest) = some columns) :
    ∀ field ∈ latest (·.name) layer.declaration.modelFields,
      modelColumn (upperAliases (layer :: rest)) field ∈ columns := by
  intro field hf
  rw [← (modelFields?_eq (layer :: rest)).2]
  rw [modelColumns?, modelFields?_cons] at hs
  rw [modelFields?_cons]
  split at hs
  · rename_i h
    rw [if_pos h]
    obtain rfl := Option.some.inj hs
    exact List.mem_map_of_mem (mem_overlay.2 (.inl hf))
  · cases hs

/-! ## The kinds that a class is of -/

/-- A chain has keyed fields exactly if some layer is keyed. -/
theorem isSome_keyedFields? (layers : List RowLayer) :
    (keyedFields? layers).isSome = declares .keyed layers := by
  induction layers with
  | nil => rfl
  | cons layer rest ih =>
    rw [declares_cons, ← ih, keyedFields?]
    cases layer.declaration <;> cases keyedFields? rest <;> rfl

theorem keyedFields?_eq_none (h : declares .keyed layers = false) : keyedFields? layers = none := by
  rw [← Option.not_isSome_iff_eq_none, isSome_keyedFields?, h]
  exact Bool.false_ne_true

/-- Where no layer is keyed, it has fields of records exactly if some layer is a record. -/
theorem isSome_recordFields? (h : declares .keyed layers = false) :
    (recordFields? layers).isSome = declares .record layers := by
  induction layers with
  | nil => rfl
  | cons layer rest ih =>
    obtain ⟨-, hr⟩ := Bool.or_eq_false_iff.1 h
    rw [declares_cons, ← ih hr, recordFields?, keyedFields?_eq_none hr]
    cases layer.declaration <;> rfl

/-- It has columns of attributes exactly if some layer has attributes. -/
theorem isSome_attributedColumns? (layers : List RowLayer) :
    (attributedColumns? layers).isSome = declares .attributed layers := by
  induction layers with
  | nil => rfl
  | cons layer rest ih =>
    rw [declares_cons, ← ih, attributedColumns?]
    cases layer.declaration <;> rfl

theorem isSome_placeNames? (layers : List RowLayer) :
    (placeNames? layers).isSome = layers.any fun layer => layer.declaration.givesPlaces := by
  induction layers with
  | nil => rfl
  | cons layer rest ih =>
    rw [List.any_cons, ← ih, placeNames?]
    cases layer.declaration with
    | named renames names => cases renames <;> rfl
    | plain annotations places? => cases places? <;> rfl
    | _ => rfl

/-- A class is a kind of tuple by its root or by a layer with named places. -/
theorem isTuple_eq (c : RowClass) :
    isTuple c = (c.root.derivesFrom Class.tuple || declares .named c.layers) := by
  refine congrArg (fun p => c.root.derivesFrom Class.tuple || c.layers.any p) ?_
  funext layer
  cases layer.declaration <;> rfl

end Row

end SqlTemplate
