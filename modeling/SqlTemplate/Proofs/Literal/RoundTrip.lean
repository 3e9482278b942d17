import SqlTemplate.Proofs.Literal.Spelling
import SqlTemplate.Proofs.Literal.Tree
import SqlTemplate.Proofs.Literal.Written
import SqlTemplate.Proofs.Number.Token

/-!
# Reading back what was written

Under the standard registrations the text of a value spells its tree (`spelled_write`), whatever the
value holds and however deep it is nested. So reading the text gives the tree back, and leaves what
follows the text (`read?_writeLiteral`). A writing that stops at a fault has no text to be read:
`Spelled` speaks of writings that come to their end.
-/

namespace SqlTemplate

namespace Literal

/-- If the writing comes to its end, its text spells the literal. -/
def Spelled (l : Literal) (w : Written) : Prop := ∀ t, w = .ok t → Spells l t

theorem Spelled.ok {l : Literal} {t : Text} (h : Spells l t) : Spelled l (.ok t) := by
  intro u hu
  rwa [← Written.ok_inj.1 hu]

theorem Spelled.fault (l : Literal) (f : Fault) : Spelled l (.fault f) := fun t ht =>
  absurd ht (Written.fault_ne_ok f t)

/-! ## Several writings -/

theorem Spelled.pairs : ∀ {items : List (Literal × Written)} {ts : List Text},
    (∀ i ∈ items, Spelled i.1 i.2) → items.map (·.2) = ts.map Written.ok →
      ∃ pairs : List (Literal × Text), pairs.map (·.1) = items.map (·.1) ∧
        pairs.map (·.2) = ts ∧ ∀ p ∈ pairs, Spells p.1 p.2
  | [], [], _, _ => ⟨[], rfl, rfl, by simp⟩
  | i :: items, t :: ts, h, e => by
    rw [List.map_cons, List.map_cons, List.cons.injEq] at e
    obtain ⟨hi, h⟩ := List.forall_mem_cons.1 h
    obtain ⟨pairs, rfl', rfl, hp⟩ := Spelled.pairs h e.2
    refine ⟨(i.1, t) :: pairs, by rw [List.map_cons, List.map_cons, rfl'], rfl, ?_⟩
    exact List.forall_mem_cons.2 ⟨hi t e.1, hp⟩

/-- Arrays are spelled by what spells their items. -/
theorem Spelled.array {items : List (Literal × Written)} (h : ∀ i ∈ items, Spelled i.1 i.2) :
    Spelled (.array (items.map (·.1))) (arrayLiteral (items.map (·.2))) := by
  intro t ht
  obtain ⟨ts, hw, rfl⟩ := Written.bracketed_eq_ok ht
  obtain ⟨pairs, hl, rfl, hp⟩ := Spelled.pairs h hw
  rw [← hl]
  exact .array hp

/-- So are tuples. -/
theorem Spelled.tuple {items : List (Literal × Written)} (h : ∀ i ∈ items, Spelled i.1 i.2) :
    Spelled (.tuple (items.map (·.1))) (tupleLiteral (items.map (·.2))) := by
  intro t ht
  obtain ⟨ts, hw, rfl⟩ := Written.bracketed_eq_ok ht
  obtain ⟨pairs, hl, rfl, hp⟩ := Spelled.pairs h hw
  rw [← hl]
  exact .tuple hp

/-- A set is written as an array, or stops for want of an order. -/
theorem setLiteral_cases (items : List (Value × Written)) :
    setLiteral items = arrayLiteral (Value.arranged items) ∨
      setLiteral items = .fault .noOrder := by
  unfold setLiteral Value.arranged
  cases sorted (fun a b : Value × Written => a.1.less b.1) items with
  | ok ordered => exact .inl rfl
  | error e =>
    cases e with
    | incomparable => exact .inl rfl
    | noOrder => exact .inr rfl

/-- Items that are put in order by what they come from keep their writings. -/
theorem Spelled.set {items : List (Value × Literal × Written)}
    (h : ∀ i ∈ items, Spelled i.2.1 i.2.2) :
    Spelled (.array (Value.arranged (items.map (Prod.map id (·.1)))))
      (setLiteral (items.map (Prod.map id (·.2)))) := by
  have hs : ∀ i ∈ Value.arranged items, Spelled i.1 i.2 := by
    intro i hi
    obtain ⟨j, hj, rfl⟩ := List.mem_map.1 ((Value.arranged_perm items).mem_iff.1 hi)
    exact h j hj
  rcases setLiteral_cases (items.map (Prod.map id (·.2))) with hw | hw
  · rw [hw, Value.arranged_map, Value.arranged_map]
    exact Spelled.array hs
  · rw [hw]
    exact .fault _ _

theorem paired?_flatMap (entries : List (Literal × Literal)) :
    paired? (entries.flatMap fun e => [e.1, e.2]) = some entries := by
  induction entries with
  | nil => rfl
  | cons e rest ih => rw [List.flatMap_cons]; simp [paired?, ih]

/-- So are maps. -/
theorem Spelled.map {entries : List ((Literal × Written) × Literal × Written)}
    (h : ∀ e ∈ entries, Spelled e.1.1 e.1.2 ∧ Spelled e.2.1 e.2.2) :
    Spelled (.map (entries.map (Prod.map (·.1) (·.1))))
      (mapLiteral (entries.map (Prod.map (·.2) (·.2)))) := by
  intro t ht
  obtain ⟨ts, hw, rfl⟩ := Written.bracketed_eq_ok ht
  have hi : ∀ i ∈ entries.flatMap fun e => [e.1, e.2], Spelled i.1 i.2 := by
    intro i hi
    obtain ⟨e, he, hi⟩ := List.mem_flatMap.1 hi
    rcases List.mem_pair.1 hi with rfl | rfl
    · exact (h e he).1
    · exact (h e he).2
  obtain ⟨pairs, hl, rfl, hp⟩ :=
    Spelled.pairs hi (by simpa [List.map_flatMap, List.flatMap_map] using hw)
  refine .map hp ?_
  rw [hl]
  simpa [List.map_flatMap, List.flatMap_map] using
    paired?_flatMap (entries.map (Prod.map (·.1) (·.1)))

theorem Spelled.nilMap : Spelled (.map []) (mapLiteral []) := by
  have hn : ∀ e ∈ ([] : List ((Literal × Written) × Literal × Written)),
      Spelled e.1.1 e.1.2 ∧ Spelled e.2.1 e.2.2 := by simp
  exact Spelled.map hn

/-! ## Quoted texts -/

theorem Quotes.append {q : Char} {s t a b : Text} (hs : Quotes q s a) (ht : Quotes q t b) :
    Quotes q (s ++ t) (a ++ b) := by
  induction hs with
  | nil => exact ht
  | plain hq hb _ ih => exact .plain hq hb ih
  | escaped hx _ ih => exact .escaped hx ih
  | hex ha hd _ ih => exact .hex ha hd ih

/-- A quoted text spells the string. -/
theorem spells_quotedString (s : Text) : Spells (string s) (Text.quotedString s) := by
  have h := quotes_escape (q := '\'') (by decide) s
  rw [← Text.escape_single (by decide)] at h
  exact .string h

/-- A text in backticks spells the identifier. -/
theorem spells_quotedIdentifier (s : Text) :
    Spells (identifier s) (Text.quotedIdentifier s) := by
  have h := quotes_escape (q := '`') (by decide) s
  rw [← Text.escape_single (by decide)] at h
  exact .identifier h

theorem hexValue?_padded : ∀ n < 256, ((Text.padded 16 2 n).map Char.toUpper).map hexValue? =
    [some (n / 16), some (n % 16)] := by decide +kernel

/-- A byte is read back from its two hexadecimal digits. -/
theorem quotes_hexByte {q : Char} {n : Nat} (hn : n < 256) :
    Quotes q [Char.ofNat n] ("\\x".toList ++ (Text.padded 16 2 n).map Char.toUpper) := by
  obtain ⟨a, rest, hp, ha, hr⟩ := List.map_eq_cons_iff.1 (hexValue?_padded n hn)
  obtain ⟨d, rest, rfl, hd, hr⟩ := List.map_eq_cons_iff.1 hr
  obtain rfl := List.map_eq_nil_iff.1 hr
  have := Quotes.hex (q := q) ha hd .nil
  rw [Nat.div_add_mod] at this
  rw [hp]
  exact this

theorem toNat_ofNat_ascii : ∀ n < 128, (Char.ofNat n).toNat = n := by decide

/-- A byte stands for the character with its number. -/
theorem quotes_byteLiteral (b : UInt8) : Quotes '\'' [Char.ofNat b.toNat] (byteLiteral b) := by
  unfold byteLiteral
  split
  · rename_i h
    subst h
    exact .escaped (by decide) .nil
  · split
    · rename_i h
      subst h
      exact .escaped (by decide) .nil
    · rename_i hb hq
      have hb : b.toNat ≠ 92 := fun e => hb (UInt8.toNat_inj.1 e)
      have hq : b.toNat ≠ 39 := fun e => hq (UInt8.toNat_inj.1 e)
      split
      · rename_i h
        have hv := toNat_ofNat_ascii b.toNat (by omega)
        refine .plain (fun e => hq ?_) (fun e => hb ?_) .nil
        · rw [← hv, e]; rfl
        · rw [← hv, e]; rfl
      · exact quotes_hexByte b.toNat_lt

/-- Bytes spell the string of these characters. -/
theorem spells_bytesLiteral (data : List UInt8) :
    Spells (string (data.map fun b => Char.ofNat b.toNat)) (bytesLiteral data) := by
  have h : Quotes '\'' (data.map fun b => Char.ofNat b.toNat) (data.flatMap byteLiteral) := by
    induction data with
    | nil => exact .nil
    | cons b data ih => exact (quotes_byteLiteral b).append ih
  exact .string h

end Literal

/-! ## Values -/

namespace Value

open Literal

variable {setting : Setting}

theorem writeItems_eq_map (items : List Value) :
    writeItems setting items = items.map (write setting) := by
  induction items with
  | nil => rfl
  | cons v rest ih => rw [writeItems, ih, List.map_cons]

theorem isEmpty_writeItems (items : List Value) :
    (writeItems setting items).isEmpty = items.isEmpty := by
  cases items <;> rfl

theorem writeEntries_eq_map (entries : List (Value × Value)) :
    writeEntries setting entries = entries.map (Prod.map (write setting) (write setting)) := by
  induction entries with
  | nil => rfl
  | cons e rest ih => rw [writeEntries, ih, List.map_cons]; rfl

/-- Whatever is written for the parts of a value spells their trees. -/
def PartsSpelled (setting : Setting) : Value → Prop
  | sequence _ items | set _ items => ∀ v ∈ items, Spelled v.tree (write setting v)
  | mapping _ entries => ∀ e ∈ entries,
      Spelled e.1.tree (write setting e.1) ∧ Spelled e.2.tree (write setting e.2)
  | _ => True

theorem spelled_items {items : List Value} (h : ∀ v ∈ items, Spelled v.tree (write setting v)) :
    ∀ i ∈ items.map fun v => (v.tree, write setting v), Spelled i.1 i.2 := by
  intro i hi
  obtain ⟨v, hv, rfl⟩ := List.mem_map.1 hi
  exact h v hv

theorem spelled_array {items : List Value} (h : ∀ v ∈ items, Spelled v.tree (write setting v)) :
    Spelled (.array (trees items)) (arrayLiteral (writeItems setting items)) := by
  have := Spelled.array (spelled_items h)
  rw [List.map_map, List.map_map] at this
  rw [trees_eq_map, writeItems_eq_map]
  exact this

theorem spelled_tuple {items : List Value} (h : ∀ v ∈ items, Spelled v.tree (write setting v)) :
    Spelled (.tuple (trees items)) (tupleLiteral (writeItems setting items)) := by
  have := Spelled.tuple (spelled_items h)
  rw [List.map_map, List.map_map] at this
  rw [trees_eq_map, writeItems_eq_map]
  exact this

theorem spelled_set {items : List Value} (h : ∀ v ∈ items, Spelled v.tree (write setting v)) :
    Spelled (.array (arranged (items.zip (trees items))))
      (setLiteral (items.zip (writeItems setting items))) := by
  have hi : ∀ i ∈ items.map fun v => (v, v.tree, write setting v), Spelled i.2.1 i.2.2 := by
    intro i hi
    obtain ⟨v, hv, rfl⟩ := List.mem_map.1 hi
    exact h v hv
  have := Spelled.set hi
  rw [List.map_map, List.map_map] at this
  rw [trees_eq_map, writeItems_eq_map, ← List.map_prod_left_eq_zip, ← List.map_prod_left_eq_zip]
  exact this

theorem spelled_mapping {entries : List (Value × Value)} (h : ∀ e ∈ entries,
    Spelled e.1.tree (write setting e.1) ∧ Spelled e.2.tree (write setting e.2)) :
    Spelled (.map (treePairs entries)) (mapLiteral (writeEntries setting entries)) := by
  have hi : ∀ i ∈ entries.map fun e =>
      ((e.1.tree, write setting e.1), e.2.tree, write setting e.2),
      Spelled i.1.1 i.1.2 ∧ Spelled i.2.1 i.2.2 := by
    intro i hi
    obtain ⟨e, he, rfl⟩ := List.mem_map.1 hi
    exact h e he
  have := Spelled.map hi
  rw [List.map_map, List.map_map] at this
  rw [treePairs_eq_map, writeEntries_eq_map]
  exact this

/-! ## Deliveries -/

theorem writeParts_sequence {core : Value} {ws : List Written}
    (h : writeParts setting core = .sequence ws) :
    ∃ kind items, core = sequence kind items ∧ ws = writeItems setting items := by
  cases core with
  | sequence kind items => exact ⟨kind, items, rfl, (Parts.sequence.inj h).symm⟩
  | _ => cases h

theorem writeParts_set {core : Value} {ws : List (Value × Written)}
    (h : writeParts setting core = .set ws) :
    ∃ kind items, core = set kind items ∧ ws = items.zip (writeItems setting items) := by
  cases core with
  | set kind items => exact ⟨kind, items, rfl, (Parts.set.inj h).symm⟩
  | _ => cases h

theorem writeParts_mapping {core : Value} {ws : List (Written × Written)}
    (h : writeParts setting core = .mapping ws) :
    ∃ kind entries, core = mapping kind entries ∧ ws = writeEntries setting entries := by
  cases core with
  | mapping kind entries => exact ⟨kind, entries, rfl, (Parts.mapping.inj h).symm⟩
  | _ => cases h

theorem writeParts_terms {core : Value} {p : Progression} (h : writeParts setting core = .terms p) :
    core = range p := by
  cases core with
  | range q => exact congrArg range (Parts.terms.inj h)
  | _ => cases h

theorem writeParts_ne_member (core : Value) (w : Written) :
    writeParts setting core ≠ .member w := by
  cases core <;> exact Parts.noConfusion

/-- What a standard writer writes spells the tree of the value that it works on. -/
theorem spelled_standard {core : Value} (hp : core.PartsSpelled setting) {cls : Class}
    {s : Standard} (hc : Writer.dispatcher.find cls = some (.standard s)) :
    Spelled (cls.formed core core.tree) (s.write cls core (writeParts setting core)) := by
  have hu : cls.isUnknownMapping = false := by
    rw [Class.isUnknownMapping, Class.isUnknown, hc]
    rfl
  have ht : cls.isWrittenBy .tuple = decide (s = .tuple) := by
    rw [Class.isWrittenBy, hc]
  unfold Standard.write
  split
  · rename_i b
    cases b with
    | true => exact .ok (.token (isToken_word (by decide) rfl (by decide) (by decide)))
    | false => exact .ok (.token (isToken_word (by decide) rfl (by decide) (by decide)))
  · exact .ok (.token (isToken_integer _))
  · exact .ok (.token (isToken_toText _))
  · unfold decimalLiteral
    split
    · exact .ok (.token (isToken_plainText _ _ _))
    · exact .fault _ _
  · exact .ok (spells_quotedString _)
  · exact .ok (spells_bytesLiteral _)
  · rename_i t
    unfold dateTimeLiteral tree
    cases t.universal? with
    | some civil => exact .ok (spells_quotedString _)
    | none => exact .fault _ _
  · exact .ok (spells_quotedString _)
  · exact .ok (spells_quotedString _)
  · exact .ok (spells_quotedString _)
  · rename_i h
    exact absurd h (writeParts_ne_member _ _)
  · rename_i h
    obtain ⟨kind, items, rfl, rfl⟩ := writeParts_sequence h
    rw [formed_sequence, hu, Bool.and_false, if_neg Bool.false_ne_true, ht]
    exact spelled_array hp
  · rename_i h
    obtain ⟨kind, items, rfl, rfl⟩ := writeParts_sequence h
    rw [formed_sequence, hu, Bool.and_false, if_neg Bool.false_ne_true, ht]
    exact spelled_tuple hp
  · rename_i h
    obtain ⟨kind, items, rfl, rfl⟩ := writeParts_set h
    rw [tree, formed_set, ht]
    exact spelled_set hp
  · rename_i h
    obtain ⟨kind, entries, rfl, rfl⟩ := writeParts_mapping h
    exact spelled_mapping hp
  · exact .fault _ _

/-- What is written for the parts of a value whose class has no writer spells its tree. -/
theorem spelled_assemble (hs : setting.find = Writer.dispatcher.find) {core : Value}
    (hp : core.PartsSpelled setting) {cls : Class} (hc : Writer.dispatcher.find cls = none) :
    Spelled (cls.formed core core.tree) (setting.assemble cls (writeParts setting core)) := by
  have hu : cls.isUnknownMapping = cls.derivesFrom Class.mapping := by
    rw [Class.isUnknownMapping, Class.isUnknown, hc]
    rfl
  have ht : cls.isWrittenBy .tuple = false := by
    rw [Class.isWrittenBy, hc]
  unfold Setting.assemble
  split
  · rename_i h
    obtain ⟨kind, entries, rfl, rfl⟩ := writeParts_mapping h
    exact spelled_mapping hp
  · rename_i h
    obtain ⟨kind, items, rfl, rfl⟩ := writeParts_set h
    rw [tree, formed_set, ht]
    exact spelled_set hp
  · rename_i h
    obtain ⟨kind, items, rfl, rfl⟩ := writeParts_sequence h
    rw [formed_sequence, hu, isEmpty_writeItems, ht]
    split
    · exact .nilMap
    · exact spelled_array hp
  · rename_i p h
    obtain rfl := writeParts_terms h
    have hi : ∀ i ∈ p.terms.map fun n => (token (Text.integer n), setting.atom (.int n)),
        Spelled i.1 i.2 := by
      intro i hi
      obtain ⟨n, -, rfl⟩ := List.mem_map.1 hi
      have hf : setting.find (int n).cls = some (.standard .integer) := by rw [hs]; rfl
      unfold Setting.atom
      rw [hf]
      exact .ok (.token (isToken_integer n))
    have := Spelled.array hi
    rw [List.map_map, List.map_map] at this
    rw [tree, formed_range, ht]
    exact this
  · exact .fault _ _

/-- Whatever is delivered for a class spells the tree that the class forms. -/
theorem spelled_deliver (hs : setting.find = Writer.dispatcher.find) {core : Value}
    (hp : core.PartsSpelled setting) (cls : Class) (payload : Written) :
    Spelled (cls.formed core core.tree)
      (setting.deliver cls core (writeParts setting core) payload) := by
  unfold Setting.deliver
  rw [hs]
  cases hc : Writer.dispatcher.find cls with
  | none => exact spelled_assemble hs hp hc
  | some w =>
    obtain ⟨s, rfl⟩ := Writer.find_standard hc
    exact spelled_standard hp hc

/-- The literal of a container is that of its predefined kind. -/
theorem formed_kind (kind : SequenceKind) (items : List Value) :
    kind.cls.formed (sequence kind items) (sequence kind items).tree =
      (sequence kind items).tree := by
  rw [formed_sequence]
  cases items with
  | nil => rfl
  | cons v rest => rfl

/-- A value without parts. -/
theorem spelled_atom (hs : setting.find = Writer.dispatcher.find) {v : Value}
    (hp : v.PartsSpelled setting) (hw : writeParts setting v = .none)
    (ht : ∀ cls : Class, cls.formed v v.tree = v.tree) : Spelled v.tree (setting.atom v) := by
  have h := spelled_deliver hs hp v.cls nullLiteral
  rw [ht, hw] at h
  have e : setting.atom v = setting.deliver v.cls v .none nullLiteral := by
    unfold Setting.atom Setting.deliver
    split <;> rfl
  rwa [e]

/-- A member of an enumeration whose class is not a kind of value by itself. -/
theorem spelled_member (hs : setting.find = Writer.dispatcher.find) {cls : Class} {value : Value}
    (h : Spelled value.tree (write setting value)) :
    Spelled value.tree (write setting (member cls value)) := by
  rw [write, Setting.deliver, hs]
  cases hc : Writer.dispatcher.find cls with
  | none => exact .fault _ _
  | some w =>
    obtain ⟨s, rfl⟩ := Writer.find_standard hc
    cases s with
    | enumeration => exact h
    | _ => exact .fault _ _

/-- A member that is itself a value of another kind is written as a member, or as that value. -/
theorem spelled_mixed (hs : setting.find = Writer.dispatcher.find) {cls : Class}
    {core value : Value} (hc : core.core = core) (hp : core.PartsSpelled setting)
    (h : Spelled value.tree (write setting value)) :
    Spelled (mixed cls core value).tree (write setting (mixed cls core value)) := by
  have hd := spelled_deliver hs hp cls nullLiteral
  rw [write, tree, hc, hs]
  cases hf : cls.isWrittenBy .enumeration with
  | true =>
    rw [Class.isWrittenBy_iff] at hf
    rw [hf]
    exact h
  | false =>
    rw [if_neg Bool.false_ne_true]
    split
    · rename_i he
      rw [Class.isWrittenBy_iff.2 he] at hf
      exact absurd hf Bool.noConfusion
    · exact hd

/-- **Every writing spells the tree of its value**, if it comes to its end, and so do the writings
of the parts of the value. -/
theorem spelled_write (hs : setting.find = Writer.dispatcher.find) {v : Value} (h : Plain v) :
    Spelled v.tree (write setting v) ∧ v.PartsSpelled setting := by
  -- an instance of a declared class is written from the parts of its core, not from the text of its
  -- core, so the induction is on both
  induction h with
  | null =>
    exact ⟨.ok (.token (isToken_word (by decide) rfl (by decide) (by decide))), trivial⟩
  | bool b => exact ⟨spelled_atom hs trivial rfl fun _ => rfl, trivial⟩
  | int n => exact ⟨spelled_atom hs trivial rfl fun _ => rfl, trivial⟩
  | float x => exact ⟨spelled_atom hs trivial rfl fun _ => rfl, trivial⟩
  | decimal d => exact ⟨spelled_atom hs trivial rfl fun _ => by cases d <;> rfl, trivial⟩
  | text s => exact ⟨spelled_atom hs trivial rfl fun _ => rfl, trivial⟩
  | bytes kind data => exact ⟨spelled_atom hs trivial rfl fun _ => rfl, trivial⟩
  | uuid u => exact ⟨spelled_atom hs trivial rfl fun _ => rfl, trivial⟩
  | date d => exact ⟨spelled_atom hs trivial rfl fun _ => rfl, trivial⟩
  | time t => exact ⟨spelled_atom hs trivial rfl fun _ => rfl, trivial⟩
  | dateTime t => exact ⟨spelled_atom hs trivial rfl fun _ => rfl, trivial⟩
  | identifier name => exact ⟨.ok (spells_quotedIdentifier name), trivial⟩
  | classRef c => exact ⟨spelled_atom hs trivial rfl fun _ => rfl, trivial⟩
  | foreign c token shown => exact ⟨spelled_atom hs trivial rfl fun _ => rfl, trivial⟩
  | range p =>
    have hp : (range p).PartsSpelled setting := trivial
    exact ⟨spelled_deliver hs hp Class.range nullLiteral, hp⟩
  | @sequence kind items _ ih =>
    have hp : (sequence kind items).PartsSpelled setting := fun v hv => (ih v hv).1
    refine ⟨?_, hp⟩
    have hd := spelled_deliver hs hp kind.cls nullLiteral
    rwa [formed_kind] at hd
  | @set kind items _ ih =>
    have hp : (set kind items).PartsSpelled setting := fun v hv => (ih v hv).1
    have ht : kind.cls.isWrittenBy .tuple = false := by cases kind <;> rfl
    have hd := spelled_deliver hs hp kind.cls nullLiteral
    rw [formed_set, ht] at hd
    exact ⟨hd, hp⟩
  | @mapping kind entries _ _ ihk ihv =>
    have hp : (mapping kind entries).PartsSpelled setting := fun e he =>
      ⟨(ihk e he).1, (ihv e he).1⟩
    exact ⟨spelled_deliver hs hp kind.cls nullLiteral, hp⟩
  | member _ ih => exact ⟨spelled_member hs ih.1, trivial⟩
  | mixed hc _ _ ihc ihv => exact ⟨spelled_mixed hs hc ihc.2 ihv.1, trivial⟩
  | @object cls core payload hc _ ih =>
    have hd := spelled_deliver hs ih.2 cls (write setting payload)
    rw [write, tree, hc]
    exact ⟨hd, trivial⟩

/-- **Reading undoes writing**: where a value has a literal form under the standard registrations,
the reader gives its tree and leaves what follows the literal form. -/
theorem read?_writeLiteral {v : Value} (hv : v.Plain) {t : Text}
    (h : (writeLiteral Writer.dispatcher v).toExcept = .ok t) {rest : Text}
    (hr : Literal.EndsToken rest) : Literal.read? (t ++ rest) = some (v.tree, rest) := by
  have hs : (Setting.nested Writer.dispatcher depthLimit).find = Writer.dispatcher.find := rfl
  have hw : Literal.Spells v.tree t := (spelled_write hs hv).1 t (Written.toExcept_eq_ok.1 h)
  exact hw.read rest hr

/-- A tuple of a text that looks like a literal, a set that is put in order and a map under an
identifier, in front of a bracket. -/
theorem read?_writeLiteral_nested :
    Literal.read? ("('a\\'),\\\\x41',[1,2],map(`k`,-0.50,'\\x00',NULL))".toList ++ "]".toList) =
      some (.tuple [string "a'),\\x41".toList, .array [token "1".toList, token "2".toList],
        .map [(.identifier "k".toList, token "-0.50".toList),
          (string ['\x00'], token "NULL".toList)]], "]".toList) := by
  have hv : (tuple [text "a'),\\x41".toList, set .set [int 2, int 1],
      mapping .dict [(identifier "k".toList, decimal (.finite true 50 (-2))),
        (bytes .bytes [0], null)]]).Plain := by
    refine .sequence fun v hv => ?_
    simp only [List.mem_cons, List.not_mem_nil, or_false] at hv
    rcases hv with rfl | rfl | rfl
    · exact .text _
    · refine .set fun v hv => ?_
      rcases List.mem_pair.1 hv with rfl | rfl
      · exact .int _
      · exact .int _
    · refine .mapping (fun e he => ?_) fun e he => ?_
      · rcases List.mem_pair.1 he with rfl | rfl
        · exact .identifier _
        · exact .bytes _ _
      · rcases List.mem_pair.1 he with rfl | rfl
        · exact .decimal _
        · exact .null
  exact read?_writeLiteral hv rfl (by rintro c ⟨⟩; rfl)

end Value

end SqlTemplate
