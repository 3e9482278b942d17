import SqlTemplate.Proofs.Literal.Obstacle

/-!
# What writing comes upon

`Dispatcher.Reaches` tells which values the writing of a value comes upon under a dispatcher: the
value itself, its parts in the order in which they are written, the payload where a program asks for
it, and what programs write further, each with how deep programs may still call one another. Writing
ends at the first fault, and so does what it comes upon (`Written.through`).

What is written depends on the writers of these values alone (`write_congr`). One value depends on
its own writer and on what is written for the values that it leads to directly (`write_step`); and
each of these comes deeper down or is smaller (`lower_of_mem_directParts`).
-/

namespace SqlTemplate

/-! ## Up to the first fault -/

namespace Written

variable {α : Type}

/-- Of things that are written one after another, those up to the first at which writing stops. -/
def through (f : α → Written) : List α → List α
  | [] => []
  | a :: rest =>
    match (f a).fault? with
    | some _ => [a]
    | none => a :: through f rest

variable {f g : α → Written} {a : α} {rest : List α}

theorem through_of_fault (h : (f a).fault? ≠ none) : through f (a :: rest) = [a] := by
  unfold through
  split
  · rfl
  · rename_i hn
    exact absurd hn h

theorem through_of_none (h : (f a).fault? = none) :
    through f (a :: rest) = a :: through f rest := by
  rw [through, h]

/-- What is gone through is part of the list. -/
theorem mem_of_mem_through {l : List α} (h : a ∈ through f l) : a ∈ l := by
  induction l with
  | nil => exact h
  | cons b rest ih =>
    by_cases hb : (f b).fault? = none
    · rw [through_of_none hb] at h
      exact List.mem_cons.2 ((List.mem_cons.1 h).imp_right ih)
    · rw [through_of_fault hb] at h
      exact List.mem_cons.2 (.inl (List.mem_singleton.1 h))

theorem followedBy_of_fault {u : Written} (h : u.fault? ≠ none) (v : Written) :
    u.followedBy v = u := by
  unfold followedBy
  split
  · rfl
  · rename_i hn
    exact absurd hn h

/-- Writings with commas between them depend on those up to the first fault. -/
theorem commaJoined_congr : ∀ {l : List α}, (∀ a ∈ through f l, g a = f a) →
    commaJoined (l.map g) = commaJoined (l.map f)
  | [], _ => rfl
  | [a], h => by
    have ha : a ∈ through f [a] := by
      unfold through
      split <;> exact List.mem_cons_self
    exact h a ha
  | a :: b :: rest, h => by
    simp only [List.map_cons, commaJoined]
    by_cases hf : (f a).fault? = none
    · rw [through_of_none hf] at h
      have ht := commaJoined_congr (l := b :: rest) fun c hc => h c (List.mem_cons_of_mem a hc)
      rw [h a List.mem_cons_self, ← List.map_cons, ht, List.map_cons]
    · rw [through_of_fault hf] at h
      rw [h a List.mem_cons_self, followedBy_of_fault hf, followedBy_of_fault hf]

/-- Only the items up to the first fault matter. -/
theorem bracketed_congr {l : List α} (h : ∀ a ∈ through f l, g a = f a) (opening closing : Text) :
    bracketed opening closing (l.map g) = bracketed opening closing (l.map f) := by
  rw [bracketed, bracketed, commaJoined_congr h]

end Written

/-- What a program writes depends on its actions up to the first fault. -/
theorem Setting.run_congr {setting setting' : Setting} {payload payload' : Written} :
    ∀ {actions : List Action}, (∀ a ∈ Written.through (setting.runAction payload) actions,
      setting'.runAction payload' a = setting.runAction payload a) →
    setting'.run payload' actions = setting.run payload actions
  | [], _ => rfl
  | a :: rest, h => by
    rw [run, run]
    by_cases hf : (setting.runAction payload a).fault? = none
    · rw [Written.through_of_none hf] at h
      rw [h a List.mem_cons_self, run_congr fun b hb => h b (List.mem_cons_of_mem a hb)]
    · rw [Written.through_of_fault hf] at h
      rw [h a List.mem_cons_self, Written.followedBy_of_fault hf, Written.followedBy_of_fault hf]

/-! ## Parts in order -/

namespace Value

/-- Whether a writer is looked up for the value. -/
def isDispatched : Value → Bool
  | null => false
  | v => !v.isBindable

/-- The parts of a container in the order in which they are written. -/
def partsInOrder : Value → List Value
  | sequence _ items => items
  | set _ items => if lackOrder items then [] else arranged (items.zip items)
  | mapping _ entries => entries.flatMap fun e => [e.1, e.2]
  | range p => p.terms.map int
  | _ => []

section

variable {setting setting' : Setting}

theorem mapLiteral_writeEntries (entries : List (Value × Value)) :
    mapLiteral (writeEntries setting entries) = .bracketed "map(".toList [')']
      ((entries.flatMap fun e => [e.1, e.2]).map (write setting)) := by
  rw [mapLiteral, writeEntries_eq_map, List.flatMap_map, List.map_flatMap]
  rfl

theorem setLiteral_writeItems (items : List Value) :
    setLiteral (items.zip (writeItems setting items)) =
      if lackOrder items then .fault .noOrder
      else arrayLiteral ((arranged (items.zip items)).map (write setting)) := by
  have hl : items.length ≤ (items.map (write setting)).length := by rw [List.length_map]
  rw [writeItems_eq_map, setLiteral_eq, List.map_fst_zip hl, ← arranged_map, ← List.zip_map_right]

variable {core : Value}
  (h : ∀ u ∈ Written.through (write setting) core.partsInOrder, write setting' u = write setting u)

include h

theorem setLiteral_congr {kind : SetKind} {items : List Value} (hc : core = set kind items) :
    setLiteral (items.zip (writeItems setting' items)) =
      setLiteral (items.zip (writeItems setting items)) := by
  subst hc
  rw [setLiteral_writeItems, setLiteral_writeItems]
  rw [partsInOrder] at h
  split
  · rfl
  · rename_i hl
    rw [if_neg hl] at h
    exact Written.bracketed_congr h _ _

/-- What is put together from the parts of a value depends on those up to the first fault. -/
theorem assemble_congr (cls : Class) :
    setting'.assemble cls (writeParts setting' core) =
      setting.assemble cls (writeParts setting core) := by
  cases core with
  | sequence kind items =>
    have hb := Written.bracketed_congr h ['['] [']']
    rw [partsInOrder, ← writeItems_eq_map, ← writeItems_eq_map] at hb
    dsimp only [writeParts]
    rw [Setting.assemble, Setting.assemble, isEmpty_writeItems, isEmpty_writeItems, arrayLiteral,
      arrayLiteral, hb]
  | set kind items => exact setLiteral_congr h rfl
  | mapping kind entries =>
    simp only [writeParts, Setting.assemble, mapLiteral_writeEntries]
    exact Written.bracketed_congr h _ _
  | range p =>
    have hp := Written.bracketed_congr h ['['] [']']
    simp only [partsInOrder, List.map_map] at hp
    exact hp
  | _ => simp only [writeParts, Setting.assemble]

theorem standard_congr_of_takes (s : Standard) (cls : Class) (ht : s.takes core = true) :
    s.write cls core (writeParts setting' core) = s.write cls core (writeParts setting core) := by
  unfold Standard.takes at ht
  -- the last four writers have parts
  split at ht
  · rfl
  · rfl
  · rfl
  · rfl
  · rfl
  · rfl
  · rfl
  · rfl
  · rfl
  · rfl
  · simp only [writeParts, Standard.write, arrayLiteral, writeItems_eq_map]
    exact Written.bracketed_congr h _ _
  · simp only [writeParts, Standard.write, tupleLiteral, writeItems_eq_map]
    exact Written.bracketed_congr h _ _
  · exact setLiteral_congr h rfl
  · simp only [writeParts, Standard.write, mapLiteral_writeEntries]
    exact Written.bracketed_congr h _ _
  · cases ht

end

/-- A value is built on nothing else, or has no parts of its own. -/
theorem core_eq_or_writeParts (core : Value) :
    core.core = core ∨ ∀ setting, writeParts setting core = .none := by
  cases core with
  | mixed cls core value => exact .inr fun _ => rfl
  | object cls core payload => exact .inr fun _ => rfl
  | selfWriting cls program core payload => exact .inr fun _ => rfl
  | _ => exact .inl rfl

/-- What a standard writer writes depends on the parts of the values that it is made for. -/
theorem standard_congr {setting setting' : Setting} {core : Value} (s : Standard) (cls : Class)
    (h : s.takes core.core = true → ∀ u ∈ Written.through (write setting) core.partsInOrder,
      write setting' u = write setting u) :
    s.write cls core.core (writeParts setting' core) =
      s.write cls core.core (writeParts setting core) := by
  rcases core_eq_or_writeParts core with hc | hp
  · rw [hc] at h ⊢
    by_cases ht : s.takes core = true
    · exact standard_congr_of_takes (h ht) s cls ht
    · rw [write_of_not_takes (Bool.eq_false_iff.2 ht), write_of_not_takes (Bool.eq_false_iff.2 ht)]
  · rw [hp, hp]

end Value

/-! ## What a value leads to -/

/-- The setting in which a value that writes itself runs its program. -/
def Setting.direct (setting : Setting) : Setting := ⟨setting.find, write setting⟩

/-- Running a program is running it with the direct writers. -/
theorem writeProgram_eq_run (setting : Setting) (payload : Written) (actions : List Action) :
    writeProgram setting payload actions = setting.direct.run payload actions := by
  have ha : ∀ a, writeAction setting payload a = setting.direct.runAction payload a := by
    intro a
    cases a <;> rfl
  induction actions with
  | nil => rfl
  | cons a rest ih => rw [writeProgram, Setting.run, ha, ih]

/-- The value that an action writes, and the depth down to which programs may call one another for
it: a payload is written where its value is, a further value elsewhere. -/
def Action.part? (further? : Option Nat) (depth : Nat) (payload : Value) :
    Action → Option (Nat × Value)
  | .literal v => further?.map fun m => (m, v)
  | .payload => some (depth, payload)
  | _ => none

namespace Dispatcher

/-- Where programs registered for a class write further values. -/
def deeper? : Nat → Option Nat
  | 0 => none
  | depth + 1 => some depth

section

variable (d : Dispatcher Writer)

/-- The values that a program writes, up to the first fault. -/
def programParts (setting : Setting) (further? : Option Nat) (depth : Nat) (payload : Value)
    (actions : List Action) : List (Nat × Value) :=
  (Written.through (setting.runAction (write (.nested d depth) payload)) actions).filterMap
    (Action.part? further? depth payload)

/-- The values that the writing of a value of class `cls` that is built on `core` leads to. -/
def deliveredParts (depth : Nat) (cls : Class) (core payload : Value) : List (Nat × Value) :=
  let parts := (Written.through (write (.nested d depth)) core.partsInOrder).map fun u => (depth, u)
  match d.find cls with
  | some (.program actions) =>
    d.programParts (.nested d depth) (deeper? depth) depth payload actions
  | some (.standard s) => if s.takes core.core then parts else []
  | none => parts

/-- The values that the writing of a value leads to directly, in order and up to the first fault. -/
def directParts (depth : Nat) : Value → List (Nat × Value)
  | .null | .identifier _ => []
  | .selfWriting _ program _ payload =>
    d.programParts (Setting.nested d depth).direct (some depth) depth payload program
  | .member cls value =>
    match d.find cls with
    | some (.standard .enumeration) => [(depth, value)]
    | _ => d.deliveredParts depth cls (.member cls value) .null
  | .mixed cls core value =>
    match d.find cls with
    | some (.standard .enumeration) => [(depth, value)]
    | _ => d.deliveredParts depth cls core .null
  | .object cls core payload => d.deliveredParts depth cls core payload
  | v => d.deliveredParts depth v.cls v .null

/-- Writing the first value comes upon the second, where programs may call one another down to the
given depth. -/
inductive Reaches : Nat → Value → Value → Prop
  | self (depth : Nat) (v : Value) : Reaches depth v v
  | part {depth m : Nat} {v u w : Value} :
      (m, u) ∈ d.directParts depth v → Reaches m u w → Reaches depth v w

variable {d}

/-- A value reaches itself, and what its direct parts reach. -/
theorem reaches_iff {depth : Nat} {v w : Value} :
    d.Reaches depth v w ↔ w = v ∨ ∃ p ∈ d.directParts depth v, d.Reaches p.1 p.2 w := by
  constructor
  · intro h
    cases h with
    | self => exact .inl rfl
    | part hp hw => exact .inr ⟨_, hp, hw⟩
  · rintro (rfl | ⟨p, hp, hw⟩)
    · exact .self depth w
    · exact .part hp hw

/-- A value that leads to nothing else comes upon itself alone. -/
theorem Reaches.eq_of_nil {depth : Nat} {v w : Value} (h : d.Reaches depth v w)
    (hd : d.directParts depth v = []) : w = v := by
  rcases reaches_iff.1 h with hw | ⟨p, hp, -⟩
  · exact hw
  · rw [hd] at hp
    cases hp

end

/-! ## One value -/

section

variable {d d' : Dispatcher Writer} {depth : Nat}

/-- What is written is the same under both dispatchers for each of the values. -/
def SameParts (d d' : Dispatcher Writer) (parts : List (Nat × Value)) : Prop :=
  ∀ p ∈ parts, write (.nested d' p.1) p.2 = write (.nested d p.1) p.2

theorem run_congr_of_sameParts {setting setting' : Setting} {further? : Option Nat}
    {payload : Value} {actions : List Action}
    (hfurther : ∀ v, (∀ m, further? = some m →
      write (.nested d' m) v = write (.nested d m) v) → setting'.further v = setting.further v)
    (h : SameParts d d' (d.programParts setting further? depth payload actions)) :
    setting'.run (write (.nested d' depth) payload) actions =
      setting.run (write (.nested d depth) payload) actions := by
  refine Setting.run_congr ?_
  intro a ha
  have hp : ∀ p, a.part? further? depth payload = some p →
      write (.nested d' p.1) p.2 = write (.nested d p.1) p.2 := by
    intro p hp
    exact h p (List.mem_filterMap.2 ⟨a, ha, hp⟩)
  cases a with
  | payload => exact hp (depth, payload) rfl
  | literal v =>
    refine hfurther v ?_
    intro m hm
    exact hp (m, v) (by rw [Action.part?, hm]; rfl)
  | _ => simp only [Setting.runAction]

theorem further_congr (v : Value) (h : ∀ m, deeper? depth = some m →
    write (.nested d' m) v = write (.nested d m) v) :
    (Setting.nested d' depth).further v = (Setting.nested d depth).further v := by
  cases depth with
  | zero => rfl
  | succ depth => exact h depth rfl

/-- Writers are found alike at every depth. -/
theorem find_nested (d : Dispatcher Writer) (depth : Nat) :
    (Setting.nested d depth).find = d.find := by
  cases depth <;> rfl

/-- Dispatchers that agree on the class and on the parts deliver the same. -/
theorem deliver_congr {cls : Class} {core payload : Value} (hf : d'.find cls = d.find cls)
    (h : SameParts d d' (d.deliveredParts depth cls core payload)) :
    (Setting.nested d' depth).deliver cls core.core (writeParts (.nested d' depth) core)
        (write (.nested d' depth) payload) =
      (Setting.nested d depth).deliver cls core.core (writeParts (.nested d depth) core)
        (write (.nested d depth) payload) := by
  unfold Setting.deliver
  rw [find_nested, find_nested, hf]
  have hparts : SameParts d d'
      ((Written.through (write (.nested d depth)) core.partsInOrder).map fun u => (depth, u)) →
      ∀ u ∈ Written.through (write (.nested d depth)) core.partsInOrder,
        write (.nested d' depth) u = write (.nested d depth) u := by
    intro hs u hu
    exact hs (depth, u) (List.mem_map.2 ⟨u, hu, rfl⟩)
  unfold deliveredParts at h
  cases hc : d.find cls with
  | none =>
    rw [hc] at h
    exact Value.assemble_congr (hparts h) cls
  | some w =>
    cases w with
    | program actions =>
      rw [hc] at h
      exact run_congr_of_sameParts further_congr h
    | standard s =>
      rw [hc] at h
      dsimp only at h ⊢
      refine Value.standard_congr s cls ?_
      intro ht
      rw [if_pos ht] at h
      exact hparts h

theorem atom_congr {v : Value} (hf : d'.find v.cls = d.find v.cls) (hc : v.core = v)
    (hp : ∀ setting, writeParts setting v = .none)
    (h : SameParts d d' (d.deliveredParts depth v.cls v .null)) :
    (Setting.nested d' depth).atom v = (Setting.nested d depth).atom v := by
  have ha : ∀ setting : Setting,
      setting.atom v = setting.deliver v.cls v.core (writeParts setting v) nullLiteral := by
    intro setting
    rw [hp, hc]
    unfold Setting.atom Setting.deliver
    split <;> rfl
  rw [ha, ha]
  exact deliver_congr hf h

/-- Only the writer of enumerations comes upon the value of a member. -/
theorem write_member {s : Standard} (h : s ≠ .enumeration) (cls : Class) (value : Value)
    (w : Written) :
    s.write cls (.member cls value) (.member w) = .fault (.unsupported cls.name) := by
  cases s with
  | enumeration => exact absurd rfl h
  | _ => rfl

theorem member_congr {cls : Class} {value : Value} (hf : d'.find cls = d.find cls)
    (h : SameParts d d' (d.directParts depth (.member cls value))) :
    write (.nested d' depth) (.member cls value) = write (.nested d depth) (.member cls value) := by
  rw [write, write, Setting.deliver, Setting.deliver, find_nested, find_nested, hf]
  rw [directParts] at h
  cases hc : d.find cls with
  | none => simp only [Setting.assemble]
  | some w =>
    cases w with
    | program actions =>
      have hd := deliver_congr hf (by rw [hc] at h; exact h)
      rw [Setting.deliver, Setting.deliver, find_nested, find_nested, hf, hc, write, write] at hd
      dsimp only at hd ⊢
      exact hd
    | standard s =>
      dsimp only
      by_cases hs : s = .enumeration
      · subst hs
        rw [hc] at h
        simp only [Standard.write]
        exact h (depth, value) List.mem_cons_self
      · rw [write_member hs, write_member hs]

theorem mixed_congr {cls : Class} {core value : Value} (hf : d'.find cls = d.find cls)
    (h : SameParts d d' (d.directParts depth (.mixed cls core value))) :
    write (.nested d' depth) (.mixed cls core value) =
      write (.nested d depth) (.mixed cls core value) := by
  rw [write, write, find_nested, find_nested, hf]
  rw [directParts] at h
  cases hc : d.find cls with
  | none =>
    rw [hc] at h
    exact deliver_congr hf h
  | some w =>
    rw [hc] at h
    cases w with
    | program actions => exact deliver_congr hf h
    | standard s =>
      cases s with
      | enumeration => exact h (depth, value) List.mem_cons_self
      | _ => exact deliver_congr hf h

/-- **One value** is written the same where its own writer is the same and what it leads to directly
is written the same. -/
theorem write_step {v : Value} (hf : v.isDispatched = true → d'.find v.cls = d.find v.cls)
    (h : SameParts d d' (d.directParts depth v)) :
    write (.nested d' depth) v = write (.nested d depth) v := by
  cases v with
  | null => rfl
  | identifier name => rfl
  | selfWriting cls program core payload =>
    rw [write, write, writeProgram_eq_run, writeProgram_eq_run]
    exact run_congr_of_sameParts (fun v hv => hv depth rfl) h
  | sequence kind items =>
    rw [write, write]
    exact deliver_congr (hf rfl) h
  | set kind items =>
    rw [write, write]
    exact deliver_congr (hf rfl) h
  | mapping kind entries =>
    rw [write, write]
    exact deliver_congr (hf rfl) h
  | range p =>
    rw [write, write]
    exact deliver_congr (hf rfl) h
  | member cls value => exact member_congr (hf rfl) h
  | mixed cls core value => exact mixed_congr (hf rfl) h
  | object cls core payload =>
    rw [write, write]
    exact deliver_congr (hf rfl) h
  | _ => exact atom_congr (hf rfl) rfl (fun _ => rfl) h

/-! ## Deeper down or smaller -/

end

/-- The size of a value, but that numbers, the terms of progressions, are smaller than all else. -/
noncomputable def rank : Value → Nat
  | .null => 0
  | .int _ => 1
  | v => sizeOf v + 1

/-- Ranks are bounded by size. -/
theorem rank_le (v : Value) : rank v ≤ sizeOf v + 1 := by
  unfold rank
  split <;> omega

theorem rank_lt {u v : Value} (hv : rank v = sizeOf v + 1) (h : sizeOf u < sizeOf v) :
    rank u < rank v := by
  have hu := rank_le u
  omega

/-- A value may lead to another one that comes deeper down or is smaller. -/
def Lower (p q : Nat × Value) : Prop := p.1 < q.1 ∨ p.1 = q.1 ∧ rank p.2 < rank q.2

/-- Parts rank no higher than the size of the core. -/
theorem rank_partsInOrder {core u : Value} (h : u ∈ core.partsInOrder) :
    rank u ≤ sizeOf core := by
  have hu := rank_le u
  cases core with
  | sequence kind items =>
    have hs : sizeOf u < sizeOf items := List.sizeOf_lt_of_mem h
    simp only [Value.sequence.sizeOf_spec]
    omega
  | set kind items =>
    rw [Value.partsInOrder] at h
    split at h
    · cases h
    · obtain ⟨p, hp, rfl⟩ := List.mem_map.1 ((Value.arranged_perm _).mem_iff.1 h)
      have hs : sizeOf p.2 < sizeOf items := List.sizeOf_lt_of_mem (List.of_mem_zip hp).2
      simp only [Value.set.sizeOf_spec]
      omega
  | mapping kind entries =>
    obtain ⟨e, he, hm⟩ := List.mem_flatMap.1 h
    have hs : sizeOf e < sizeOf entries := List.sizeOf_lt_of_mem he
    have hes : sizeOf e = 1 + sizeOf e.1 + sizeOf e.2 := rfl
    simp only [Value.mapping.sizeOf_spec]
    rcases List.mem_pair.1 hm with rfl | rfl <;> omega
  | range p =>
    obtain ⟨n, -, rfl⟩ := List.mem_map.1 h
    simp only [rank, Value.range.sizeOf_spec]
    omega
  | _ => cases h

theorem rank_lt_of_mem {core u v : Value} (hv : rank v = sizeOf v + 1)
    (hs : sizeOf core ≤ sizeOf v) (h : u ∈ core.partsInOrder) : rank u < rank v := by
  have hu := rank_partsInOrder h
  omega

section

variable {d d' : Dispatcher Writer} {depth m : Nat} {u : Value}

theorem mem_programParts {setting : Setting} {further? : Option Nat} {payload : Value}
    {actions : List Action}
    (h : (m, u) ∈ d.programParts setting further? depth payload actions) :
    (m = depth ∧ u = payload) ∨ (further? = some m ∧ .literal u ∈ actions) := by
  obtain ⟨a, ha, hp⟩ := List.mem_filterMap.1 h
  have hm := Written.mem_of_mem_through ha
  cases a with
  | text s => cases hp
  | quoted s => cases hp
  | raise fault => cases hp
  | payload =>
    cases hp
    exact .inl ⟨rfl, rfl⟩
  | literal v =>
    obtain ⟨n, hn, he⟩ := Option.map_eq_some_iff.1 hp
    cases he
    exact .inr ⟨hn, hm⟩

/-- Further writing goes on with less depth left. -/
theorem lt_of_deeper? (h : deeper? depth = some m) : m < depth := by
  cases depth with
  | zero => cases h
  | succ depth =>
    cases h
    exact Nat.lt_succ_self _

theorem mem_deliveredParts {cls : Class} {core payload : Value}
    (h : (m, u) ∈ d.deliveredParts depth cls core payload) :
    m < depth ∨ m = depth ∧ (u = payload ∨ u ∈ core.partsInOrder) := by
  have hparts : (m, u) ∈
      ((Written.through (write (.nested d depth)) core.partsInOrder).map fun u => (depth, u)) →
      m < depth ∨ m = depth ∧ (u = payload ∨ u ∈ core.partsInOrder) := by
    intro hm
    obtain ⟨w, hw, he⟩ := List.mem_map.1 hm
    cases he
    exact .inr ⟨rfl, .inr (Written.mem_of_mem_through hw)⟩
  unfold deliveredParts at h
  dsimp only at h
  split at h
  · rcases mem_programParts h with ⟨rfl, rfl⟩ | ⟨hd, -⟩
    · exact .inr ⟨rfl, .inl rfl⟩
    · exact .inl (lt_of_deeper? hd)
  · split at h
    · exact hparts h
    · cases h
  · exact hparts h

theorem lower_of_mem_deliveredParts {cls : Class} {core payload v : Value}
    (h : (m, u) ∈ d.deliveredParts depth cls core payload) (hp : rank payload < rank v)
    (hc : ∀ w ∈ core.partsInOrder, rank w < rank v) : Lower (m, u) (depth, v) := by
  rcases mem_deliveredParts h with hm | ⟨hm, rfl | hu⟩
  · exact .inl hm
  · exact .inr ⟨hm, hp⟩
  · exact .inr ⟨hm, hc u hu⟩

/-- **Whatever a value leads to** comes deeper down or is smaller. -/
theorem lower_of_mem_directParts {v : Value} (h : (m, u) ∈ d.directParts depth v) :
    Lower (m, u) (depth, v) := by
  cases v with
  | null => cases h
  | identifier name => cases h
  | int n => exact lower_of_mem_deliveredParts h Nat.zero_lt_one fun w hw => by cases hw
  | selfWriting cls program core payload =>
    refine .inr ?_
    rcases mem_programParts h with ⟨rfl, rfl⟩ | ⟨hm, hl⟩
    · refine ⟨rfl, rank_lt rfl ?_⟩
      simp only [Value.selfWriting.sizeOf_spec]
      omega
    · have hs : sizeOf (Action.literal u) < sizeOf program := List.sizeOf_lt_of_mem hl
      refine ⟨(Option.some.inj hm).symm, rank_lt rfl ?_⟩
      simp only [Action.literal.sizeOf_spec] at hs
      simp only [Value.selfWriting.sizeOf_spec]
      omega
  | member cls value =>
    rw [directParts] at h
    split at h
    · cases List.mem_singleton.1 h
      refine .inr ⟨rfl, rank_lt rfl ?_⟩
      simp only [Value.member.sizeOf_spec]
      omega
    · exact lower_of_mem_deliveredParts h (Nat.succ_pos _) fun w hw => by cases hw
  | mixed cls core value =>
    rw [directParts] at h
    split at h
    · cases List.mem_singleton.1 h
      refine .inr ⟨rfl, rank_lt rfl ?_⟩
      simp only [Value.mixed.sizeOf_spec]
      omega
    · refine lower_of_mem_deliveredParts h (Nat.succ_pos _) fun w => rank_lt_of_mem rfl ?_
      simp only [Value.mixed.sizeOf_spec]
      omega
  | object cls core payload =>
    refine lower_of_mem_deliveredParts h (rank_lt rfl ?_) fun w => rank_lt_of_mem rfl ?_ <;>
      · simp only [Value.object.sizeOf_spec]
        omega
  | _ =>
    exact lower_of_mem_deliveredParts h (Nat.succ_pos _) fun w =>
      rank_lt_of_mem rfl (Nat.le_refl _)

end

/-- **All that is written** for a value depends on the writers of the values that its writing comes
upon. -/
theorem write_congr {d d' : Dispatcher Writer} (depth : Nat) (v : Value)
    (h : ∀ u, d.Reaches depth v u → u.isDispatched = true → d'.find u.cls = d.find u.cls) :
    write (.nested d' depth) v = write (.nested d depth) v := by
  refine write_step (h v (.self depth v)) ?_
  rintro ⟨m, u⟩ hp
  have hlower : Lower (m, u) (depth, v) := lower_of_mem_directParts hp
  exact write_congr m u fun w hw => h w (.part hp hw)
termination_by (depth, rank v)
decreasing_by
  rcases hlower with hm | ⟨rfl, hr⟩
  · exact .left _ _ hm
  · exact .right _ hr

end Dispatcher

end SqlTemplate
