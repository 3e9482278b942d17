import SqlTemplate.Proofs.Literal.RoundTrip
import SqlTemplate.Proofs.Value.Order

/-!
# What stops the writing of a value

`Value.obstacles` lists the faults that stand in the way of a value under the standard
registrations, told from the value and apart from how it is written: its own, and those of its parts
in the order in which the parts are written. Writing stops at the first of them and comes to its end
where there is none (`stops`). All of them are failures to serialize but two, a civil time that
leaves the calendar on its way to universal time and a set of numbers that cannot be put in order;
each of these two points to where it comes from (`hasOrigins`).
-/

namespace SqlTemplate

namespace DateTime

/-- The civil time has an offset, and in universal time it lies before the first year of the
calendar or after its last. -/
def LeavesCalendar (t : DateTime) : Prop :=
  ∃ offset, t.zone.offset? = some offset ∧
    (instant t.civil offset < 0 ∨
      (Date.lastOrdinal * Civil.dayMicros : Nat) ≤ instant t.civil offset)

end DateTime

/-! ## Obstacles -/

/-- The values that a standard writer is made for. -/
def Standard.takes (s : Standard) (core : Value) : Bool :=
  match s, core with
  | boolean, .bool _ => true
  | integer, .int _ => true
  | float, .float _ => true
  | decimal, .decimal _ => true
  | text, .text _ => true
  | bytes, .bytes .. => true
  | dateTime, .dateTime _ => true
  | date, .date _ => true
  | time, .time _ => true
  | uuid, .uuid _ => true
  | list, .sequence .. => true
  | tuple, .sequence .. => true
  | set, .set .. => true
  | mapping, .mapping .. => true
  | _, _ => false

def Decimal.isFinite : Decimal → Bool
  | finite .. => true
  | _ => false

namespace Value

def isContainer : Value → Bool
  | sequence .. | set .. | mapping .. | range _ => true
  | _ => false

/-- The fault of a value that has no parts but a literal form in general. -/
def ownFault? (cls : Class) : Value → Option Fault
  | decimal d => if d.isFinite then none else some (.nonFinite cls.name d.toText)
  | dateTime t => if t.universal?.isNone then some .outOfCalendar else none
  | _ => none

/-- Whether sorting the items fails because two of them have no order. -/
def lackOrder (items : List Value) : Bool :=
  match sorted less items with
  | .error .noOrder => true
  | _ => false

end Value

/-- Whether values of the class that are built on `core` have a literal form. -/
def Class.writes (cls : Class) (core : Value) : Bool :=
  match Writer.dispatcher.find cls with
  | some (.standard s) => s.takes core
  | some (.program _) => false
  | none => core.isContainer

namespace Value

/-- The obstacles to writing a value of class `cls` that is built on `core`, given those to writing
its parts. -/
def obstaclesTo (cls : Class) (core : Value) (parts : List Fault) : List Fault :=
  if cls.writes core then (core.ownFault? cls).toList ++ parts else [.unsupported cls.name]

/-- The obstacles to writing items in order, given those to writing each. -/
def setObstacles (items : List Value) (obstacles : List (List Fault)) : List Fault :=
  if lackOrder items then [.noOrder] else (arranged (items.zip obstacles)).flatten

mutual

/-- What stands in the way of writing a value, in the order in which writing comes upon it. -/
def obstacles : Value → List Fault
  | null | identifier _ | selfWriting .. => []
  | sequence kind items =>
    obstaclesTo kind.cls (sequence kind items) (itemObstacles items).flatten
  | set kind items =>
    obstaclesTo kind.cls (set kind items) (setObstacles items (itemObstacles items))
  | mapping kind entries =>
    obstaclesTo kind.cls (mapping kind entries) (entryObstacles entries).flatten
  | member cls value =>
    if cls.isWrittenBy .enumeration then obstacles value else [.unsupported cls.name]
  | mixed cls core value =>
    if cls.isWrittenBy .enumeration then obstacles value
    else obstaclesTo cls core (partObstacles core)
  | object cls core _ => obstaclesTo cls core (partObstacles core)
  | v => obstaclesTo v.cls v []

/-- What stands in the way of writing the parts of a value. -/
def partObstacles : Value → List Fault
  | sequence _ items => (itemObstacles items).flatten
  | set _ items => setObstacles items (itemObstacles items)
  | mapping _ entries => (entryObstacles entries).flatten
  | _ => []

def itemObstacles : List Value → List (List Fault)
  | [] => []
  | v :: rest => obstacles v :: itemObstacles rest

/-- What stands in the way of the key and of the item of each entry. -/
def entryObstacles : List (Value × Value) → List (List Fault)
  | [] => []
  | (k, v) :: rest => obstacles k :: obstacles v :: entryObstacles rest

end

theorem itemObstacles_eq_map (items : List Value) : itemObstacles items = items.map obstacles := by
  induction items with
  | nil => rfl
  | cons v rest ih => rw [itemObstacles, ih, List.map_cons]

theorem entryObstacles_eq_flatMap (entries : List (Value × Value)) :
    entryObstacles entries = entries.flatMap fun e => [obstacles e.1, obstacles e.2] := by
  induction entries with
  | nil => rfl
  | cons e rest ih => rw [entryObstacles, ih, List.flatMap_cons]; rfl

/-! ## Parts -/

variable {setting : Setting}

/-- The property holds of each part of the value. -/
def EachPart (P : Value → Prop) : Value → Prop
  | sequence _ items | set _ items => ∀ v ∈ items, P v
  | mapping _ entries => ∀ e ∈ entries, P e.1 ∧ P e.2
  | _ => True

/-- Values that are neither built on another one nor stand for one. -/
def isBare : Value → Bool
  | member .. | mixed .. | object .. | selfWriting .. => false
  | _ => true

/-- What holds of a value when it holds of its parts, or of those of the value that it is built on,
holds of every plain value. -/
theorem forall_plain {P : Value → Prop}
    (bare : ∀ v, v.isBare = true → v.EachPart P → P v)
    (member : ∀ cls value, P value → P (member cls value))
    (mixed : ∀ cls core value, core.core = core → core.EachPart P → P value →
      P (mixed cls core value))
    (object : ∀ cls core payload, core.core = core → core.EachPart P → P (object cls core payload))
    {v : Value} (h : Plain v) : P v ∧ v.EachPart P := by
  -- the parts of a core count without its own text, so the induction is on both
  induction h with
  | @sequence kind items _ ih =>
    have hp : (sequence kind items).EachPart P := fun v hv => (ih v hv).1
    exact ⟨bare _ rfl hp, hp⟩
  | @set kind items _ ih =>
    have hp : (set kind items).EachPart P := fun v hv => (ih v hv).1
    exact ⟨bare _ rfl hp, hp⟩
  | @mapping kind entries _ _ ihk ihv =>
    have hp : (mapping kind entries).EachPart P := fun e he => ⟨(ihk e he).1, (ihv e he).1⟩
    exact ⟨bare _ rfl hp, hp⟩
  | member _ ih => exact ⟨member _ _ ih.1, trivial⟩
  | mixed hc _ _ ihc ihv => exact ⟨mixed _ _ _ hc ihc.2 ihv.1, trivial⟩
  | object hc _ ih => exact ⟨object _ _ _ hc ih.2, trivial⟩
  | _ => exact ⟨bare _ rfl trivial, trivial⟩

/-- Writing stops at the first obstacle. -/
def Stops (setting : Setting) (v : Value) : Prop :=
  (write setting v).fault? = v.obstacles.head?

/-- Writings one after another stop where the first of them does. -/
theorem findSome?_fault? {ws : List Written} {obstacles : List (List Fault)}
    (h : ws.map Written.fault? = obstacles.map List.head?) :
    ws.findSome? Written.fault? = obstacles.flatten.head? := by
  have hw : ws.findSome? Written.fault? = (ws.map Written.fault?).findSome? id := by
    rw [List.findSome?_map]
    rfl
  have ho : obstacles.findSome? List.head? = (obstacles.map List.head?).findSome? id := by
    rw [List.findSome?_map]
    rfl
  rw [List.head?_flatten, hw, h, ho]

theorem map_fault?_items {items : List Value}
    (h : ∀ v ∈ items, v.Stops setting) :
    (writeItems setting items).map Written.fault? = (itemObstacles items).map List.head? := by
  rw [writeItems_eq_map, itemObstacles_eq_map, List.map_map, List.map_map]
  exact List.map_congr_left h

theorem setLiteral_eq (items : List (Value × Written)) :
    setLiteral items =
      if lackOrder (items.map Prod.fst) then .fault .noOrder
      else arrayLiteral (arranged items) := by
  unfold setLiteral lackOrder arranged
  rw [sorted_map]
  cases sorted (fun a b : Value × Written => a.1.less b.1) items with
  | ok ordered => rfl
  | error e => cases e <;> rfl

/-- A set stops at the first obstacle of its items, or at their order. -/
theorem fault?_set {items : List Value}
    (h : ∀ v ∈ items, v.Stops setting) :
    (setLiteral (items.zip (writeItems setting items))).fault? =
      (setObstacles items (itemObstacles items)).head? := by
  have hl : items.length ≤ (writeItems setting items).length := by
    rw [writeItems_eq_map, List.length_map]
  rw [setLiteral_eq, List.map_fst_zip hl, setObstacles]
  cases lackOrder items with
  | true => rfl
  | false =>
    rw [if_neg Bool.false_ne_true, if_neg Bool.false_ne_true, arrayLiteral,
      Written.fault?_bracketed]
    refine findSome?_fault? ?_
    rw [← arranged_map, ← arranged_map, ← List.zip_map_right, ← List.zip_map_right,
      map_fault?_items h]

/-- A mapping stops at the first obstacle of its keys and items. -/
theorem fault?_mapping {entries : List (Value × Value)}
    (h : ∀ e ∈ entries, e.1.Stops setting ∧ e.2.Stops setting) :
    (mapLiteral (writeEntries setting entries)).fault? =
      (entryObstacles entries).flatten.head? := by
  rw [mapLiteral, Written.fault?_bracketed]
  refine findSome?_fault? ?_
  rw [writeEntries_eq_map, entryObstacles_eq_flatMap, List.flatMap_map, List.map_flatMap,
    List.map_flatMap]
  refine List.flatMap_congr ?_
  intro e he
  obtain ⟨hk, hv⟩ := h e he
  exact congrArg₂ (fun a b => [a, b]) hk hv

/-! ## Standard writers -/

/-- What a standard writer is not made for it does not write. -/
theorem write_of_not_takes {s : Standard} {core : Value} (h : s.takes core = false) (cls : Class) :
    s.write cls core (writeParts setting core) = .fault (.unsupported cls.name) := by
  unfold Standard.write
  -- one case for each writer that fits: ten values without parts, then those with parts
  split
  · cases h
  · cases h
  · cases h
  · cases h
  · cases h
  · cases h
  · cases h
  · cases h
  · cases h
  · cases h
  · rename_i hp
    exact absurd hp (writeParts_ne_member _ _)
  · rename_i hp
    obtain ⟨kind, items, rfl, -⟩ := writeParts_sequence hp
    cases h
  · rename_i hp
    obtain ⟨kind, items, rfl, -⟩ := writeParts_sequence hp
    cases h
  · rename_i hp
    obtain ⟨kind, items, rfl, -⟩ := writeParts_set hp
    cases h
  · rename_i hp
    obtain ⟨kind, entries, rfl, -⟩ := writeParts_mapping hp
    cases h
  · rfl

/-- A list stops at the first obstacle of its items. -/
theorem fault?_array {items : List Value}
    (h : ∀ v ∈ items, v.Stops setting) (opening closing : Text) :
    (Written.bracketed opening closing (writeItems setting items)).fault? =
      (itemObstacles items).flatten.head? := by
  rw [Written.fault?_bracketed]
  exact findSome?_fault? (map_fault?_items h)

/-- A decimal stops unless it is finite. -/
theorem fault?_decimal (className : Text) (d : Decimal) :
    (decimalLiteral className d).fault? =
      if d.isFinite then none else some (.nonFinite className d.toText) := by
  cases d <;> rfl

/-- A civil time stops unless it is in the calendar. -/
theorem fault?_dateTime (t : DateTime) :
    (dateTimeLiteral t).fault? = if t.universal?.isNone then some .outOfCalendar else none := by
  unfold dateTimeLiteral
  cases t.universal? <;> rfl

/-- A standard writer stops at an obstacle of its own, or else at the first one of the parts. -/
theorem fault?_standard {core : Value} (hp : core.EachPart (Stops setting)) {s : Standard}
    (cls : Class) (h : s.takes core = true) :
    (s.write cls core (writeParts setting core)).fault? =
      ((core.ownFault? cls).toList ++ core.partObstacles).head? := by
  have hown : ∀ fault? : Option Fault, fault? = (fault?.toList ++ []).head? := by
    intro fault?
    cases fault? <;> rfl
  unfold Standard.takes at h
  -- only a decimal and a civil time can be at fault themselves; the last four have parts
  split at h
  · rfl
  · rfl
  · rfl
  · exact (fault?_decimal cls.name _).trans (hown _)
  · rfl
  · rfl
  · exact (fault?_dateTime _).trans (hown _)
  · rfl
  · rfl
  · rfl
  · exact fault?_array hp _ _
  · exact fault?_array hp _ _
  · exact fault?_set hp
  · exact fault?_mapping hp
  · cases h

/-! ## Deliveries -/

theorem assemble_of_not_isContainer {core : Value} (h : core.isContainer = false) (cls : Class) :
    setting.assemble cls (writeParts setting core) = .fault (.unsupported cls.name) := by
  cases core with
  | sequence kind items => cases h
  | set kind items => cases h
  | mapping kind entries => cases h
  | range p => cases h
  | _ => rfl

/-- A range never stops. -/
theorem fault?_range (hs : setting.find = Writer.dispatcher.find) (p : Progression) (cls : Class) :
    (setting.assemble cls (.terms p)).fault? = none := by
  have hi : ∀ n : Int, (setting.atom (.int n)).fault? = none := by
    intro n
    have hf : setting.find (int n).cls = some (.standard .integer) := by rw [hs]; rfl
    rw [Setting.atom, hf]
    rfl
  rw [Setting.assemble, arrayLiteral, Written.fault?_bracketed, List.findSome?_map]
  exact List.findSome?_eq_none_iff.2 fun n _ => hi n

/-- A container without items is no obstacle, be it written as an array or as a map. -/
theorem fault?_assemble_sequence {items : List Value}
    (hp : ∀ v ∈ items, Stops setting v) (cls : Class) :
    (setting.assemble cls (.sequence (writeItems setting items))).fault? =
      (itemObstacles items).flatten.head? := by
  rw [Setting.assemble, isEmpty_writeItems]
  split
  · rename_i h
    obtain rfl : items = [] := List.isEmpty_iff.1 (Bool.and_eq_true_iff.1 h).1
    rfl
  · exact fault?_array hp _ _

theorem fault?_assemble (hs : setting.find = Writer.dispatcher.find) {core : Value}
    (hp : core.EachPart (Stops setting)) (cls : Class) (h : core.isContainer = true) :
    (setting.assemble cls (writeParts setting core)).fault? =
      ((core.ownFault? cls).toList ++ core.partObstacles).head? := by
  cases core with
  | sequence kind items => exact fault?_assemble_sequence hp cls
  | set kind items => exact fault?_set hp
  | mapping kind entries => exact fault?_mapping hp
  | range p => exact fault?_range hs p cls
  | _ => cases h

/-- **One value** stops the writing where its class does, or at its own fault, or with its parts. -/
theorem fault?_deliver (hs : setting.find = Writer.dispatcher.find) {core : Value}
    (hp : core.EachPart (Stops setting)) (cls : Class) (payload : Written) :
    (setting.deliver cls core (writeParts setting core) payload).fault? =
      (obstaclesTo cls core core.partObstacles).head? := by
  rw [Setting.deliver, obstaclesTo, Class.writes, hs]
  cases hc : Writer.dispatcher.find cls with
  | none =>
    dsimp only
    by_cases hk : core.isContainer = true
    · rw [if_pos hk]
      exact fault?_assemble hs hp cls hk
    · rw [if_neg hk, assemble_of_not_isContainer (Bool.eq_false_iff.2 hk)]
      rfl
  | some w =>
    obtain ⟨s, rfl⟩ := Writer.find_standard hc
    dsimp only
    by_cases ht : s.takes core = true
    · rw [if_pos ht]
      exact fault?_standard hp cls ht
    · rw [if_neg ht, write_of_not_takes (Bool.eq_false_iff.2 ht)]
      rfl

/-- A value without parts. -/
theorem fault?_atom (hs : setting.find = Writer.dispatcher.find) {v : Value}
    (hp : v.EachPart (Stops setting)) (hw : writeParts setting v = .none)
    (ho : v.partObstacles = []) :
    (setting.atom v).fault? = (obstaclesTo v.cls v []).head? := by
  have h := fault?_deliver hs hp v.cls nullLiteral
  rw [ho, hw] at h
  have e : setting.atom v = setting.deliver v.cls v .none nullLiteral := by
    unfold Setting.atom Setting.deliver
    split <;> rfl
  rwa [e]

theorem fault?_member (hs : setting.find = Writer.dispatcher.find) {cls : Class} {value : Value}
    (h : value.Stops setting) : (member cls value).Stops setting := by
  rw [Stops, write, obstacles, Setting.deliver, Class.isWrittenBy, hs]
  cases hc : Writer.dispatcher.find cls with
  | none => rfl
  | some w =>
    obtain ⟨s, rfl⟩ := Writer.find_standard hc
    cases s with
    | enumeration => exact h
    | _ => rfl

theorem fault?_mixed (hs : setting.find = Writer.dispatcher.find) {cls : Class}
    {core value : Value} (hc : core.core = core) (hp : core.EachPart (Stops setting))
    (h : value.Stops setting) : (mixed cls core value).Stops setting := by
  have hd := fault?_deliver hs hp cls nullLiteral
  rw [Stops, write, obstacles, hc, hs]
  cases hf : cls.isWrittenBy .enumeration with
  | true =>
    rw [Class.isWrittenBy_iff] at hf
    rw [hf]
    exact h
  | false =>
    rw [if_neg Bool.false_ne_true]
    split
    · rename_i he
      rw [Class.isWrittenBy_iff.2 he] at hf
      exact absurd hf Bool.noConfusion
    · exact hd

/-- **Every writing stops at the first obstacle** of its value. -/
theorem stops (hs : setting.find = Writer.dispatcher.find) {v : Value} (h : Plain v) :
    v.Stops setting := by
  refine (forall_plain ?_ ?_ ?_ ?_ h).1
  · intro v hv hp
    cases v with
    | null => rfl
    | identifier name => rfl
    | member cls value => cases hv
    | mixed cls core value => cases hv
    | object cls core payload => cases hv
    | selfWriting cls program core payload => cases hv
    | sequence kind items => exact fault?_deliver hs hp kind.cls nullLiteral
    | set kind items => exact fault?_deliver hs hp kind.cls nullLiteral
    | mapping kind entries => exact fault?_deliver hs hp kind.cls nullLiteral
    | range p => exact fault?_deliver hs hp Class.range nullLiteral
    | _ => exact fault?_atom hs trivial rfl rfl
  · intro cls value hv
    exact fault?_member hs hv
  · intro cls core value hc hp hv
    exact fault?_mixed hs hc hp hv
  · intro cls core payload hc hp
    rw [Stops, write, obstacles, hc]
    exact fault?_deliver hs hp cls (write setting payload)

/-! ## Where obstacles come from -/

/-- What an obstacle to writing a value comes from: a failure to serialize, a civil time inside of
the value that has no universal time, or a set inside of it with numbers that have no order. -/
inductive Origin (v : Value) : Fault → Prop
  | serialization {fault : Fault} : fault.isSerialization = true → Origin v fault
  | calendar {t : DateTime} :
      Part (dateTime t) v → t.LeavesCalendar → Origin v .outOfCalendar
  | order {kind : SetKind} {items : List Value} {x y : Value} :
      Part (set kind items) v → x ∈ items → y ∈ items → Clash x y → Origin v .noOrder

/-- An origin in a part is one in the whole. -/
theorem Origin.mono {v w : Value} {fault : Fault} (h : v.Origin fault)
    (hw : ∀ a, Part a v → Part a w) : w.Origin fault := by
  cases h with
  | serialization hf => exact .serialization hf
  | calendar ht hu => exact .calendar (hw _ ht) hu
  | order hs hx hy hc => exact .order (hw _ hs) hx hy hc

end Value

end SqlTemplate
