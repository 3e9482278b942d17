import SqlTemplate.Proofs.Row.Memory

/-!
# When the columns of a row type and its joined columns agree

The joined columns of a row type are its columns joined, or there are neither (`Rows.Agree`). That
is so as long as the explicit columns stay as they are; but they can be set and deleted between
look-ups (`Rows.run`), and then what is remembered shows. A class that counts as one with explicit
columns has lost them (`Rows.Orphaned`), and looking up its columns fails; or its text is not that
of its columns any more (`Rows.Stale`). These are the only ways in which the two can disagree, since
of all kinds the explicit one alone can cease to give columns (`Founded.run`). Whatever text is
given, it is that of the columns at some earlier moment (`joined_run`); and a class that had its
present explicit columns whenever it was looked up is not affected (`UpToDate.run`).

What a call can do to the two memories is told once (`call_cases`, `kinds_call`, `joined_call`); all
invariants are derived from that.
-/

namespace SqlTemplate.Rows

variable {classes : RowClass.Key → RowClass}

/-- A look-up, or a change of the explicit columns of a class itself. -/
inductive Call (classes : RowClass.Key → RowClass) where
  | lookUp (l : LookUp classes)
  | set (c : RowClass) (columns : List Text)
  | delete (c : RowClass)

/-- A change that is refused changes nothing. -/
def call (rows : Rows) : Call classes → Rows
  | .lookUp l => rows.lookUp l
  | .set c columns => (rows.setColumns c columns).toOption.getD rows
  | .delete c => (rows.deleteColumns c).toOption.getD rows

def run (rows : Rows) (calls : List (Call classes)) : Rows := calls.foldl call rows

def LookUp.row : LookUp classes → Known classes
  | columns row => row
  | joined row => row

/-- The joined columns are the columns joined, or there are neither. -/
def Agree (rows : Rows) (row : RowType) : Prop :=
  ∃ columns?, (rows.columnNames row).1 = .ok columns? ∧
    (rows.joinedColumns row).result = .ok (columns?.map join)

def explicitOf? (rows : Rows) : RowType → Option (List Text)
  | .cls c => rows.explicit? c
  | .value _ => none

/-- The columns of a class by the kind that it counts as, remembered or not. -/
def countedColumns? (rows : Rows) (c : RowClass) : Option (List Text) :=
  (rows.kind c).1.bind (rows.columnsOfKind? c)

/-- The class counts as one with explicit columns, but has none. -/
def Orphaned (rows : Rows) : RowType → Prop
  | .cls c => rows.kinds.find? c.key = some (some .explicit) ∧ rows.explicit? c = none
  | .value _ => False

/-- The text that is remembered is not that of the columns. -/
def Stale (rows : Rows) : RowType → Prop
  | .cls c => ∃ text?, rows.joined.find? c.key = some text? ∧
      text? ≠ (rows.countedColumns? c).map join
  | .value _ => False

/-! ## What a call adds to what is remembered -/

/-- Detecting a kind changes no declared columns. -/
theorem explicit_kind (rows : Rows) (c : RowClass) : (rows.kind c).2.explicit = rows.explicit := by
  unfold kind
  split <;> rfl

theorem classColumns_snd (rows : Rows) (c : RowClass) :
    (rows.classColumns c).2 = (rows.kind c).2 := by
  unfold classColumns
  split <;> simp [*]

/-- Looking up the kind does not change what the class has as one of that kind. -/
theorem classColumns_fst (rows : Rows) (c : RowClass) :
    (rows.classColumns c).1 =
      match (rows.kind c).1 with
      | some kind => (rows.columnsAs c kind).map some
      | none => .ok none := by
  have ha : ∀ kind, (rows.kind c).2.columnsAs c kind = rows.columnsAs c kind := by
    intro kind
    have he := explicit?_congr (rows.explicit_kind c) c
    rw [columnsAs, columnsAs, columnsOfKind?_of_explicit? he]
  unfold classColumns
  split
  · rename_i kind rows' h
    rw [h] at ha ⊢
    exact congrArg (Except.map some) (ha kind)
  · rename_i rows' h
    rw [h]

/-- A kind that is remembered afterwards was so before, or has been detected. -/
theorem kinds_kind {rows : Rows} {c : RowClass} {entry : RowClass.Key × Option RowKind}
    (h : entry ∈ (rows.kind c).2.kinds.entries) :
    entry ∈ rows.kinds.entries ∨ entry = (c.key, rows.detect c) := by
  unfold kind at h
  split at h
  · exact .inl (Recent.mem_of_mem_touch h)
  · exact (Recent.mem_of_mem_insert h).symm

theorem kinds_classJoined (rows : Rows) (c : RowClass) :
    (rows.classJoined c).rows.kinds = rows.kinds ∨
      (rows.classJoined c).rows.kinds = (rows.kind c).2.kinds := by
  rw [← classColumns_snd]
  unfold classJoined
  split
  · exact .inl rfl
  · right
    split
    · rename_i h
      rw [h]
    · rename_i h
      rw [h]

/-- A joined text that is remembered afterwards was so before, or comes of a look-up of columns. -/
theorem joined_classJoined {rows : Rows} {c : RowClass} {entry : RowClass.Key × Option Text}
    (h : entry ∈ (rows.classJoined c).rows.joined.entries) :
    entry ∈ rows.joined.entries ∨
      ∃ columns?, (rows.classColumns c).1 = .ok columns? ∧ entry = (c.key, columns?.map join) := by
  have hj := rows.joined_classColumns c
  unfold classJoined at h
  split at h
  · exact .inl (Recent.mem_of_mem_touch h)
  · split at h
    · rename_i hc
      rw [hc] at hj
      rw [← hj]
      exact .inl h
    · rename_i columns? rows' hc
      rw [hc] at hj ⊢
      rw [← hj]
      rcases Recent.mem_of_mem_insert h with h | h
      · exact .inr ⟨columns?, rfl, h⟩
      · exact .inl h

/-- Changes of explicit columns leave alone what is remembered. -/
theorem memory_setColumns (rows : Rows) (c : RowClass) (columns : List Text) :
    ((rows.setColumns c columns).toOption.getD rows).kinds = rows.kinds ∧
      ((rows.setColumns c columns).toOption.getD rows).joined = rows.joined := by
  unfold setColumns
  split <;> exact ⟨rfl, rfl⟩

theorem memory_deleteColumns (rows : Rows) (c : RowClass) :
    ((rows.deleteColumns c).toOption.getD rows).kinds = rows.kinds ∧
      ((rows.deleteColumns c).toOption.getD rows).joined = rows.joined := by
  unfold deleteColumns
  split
  · exact ⟨rfl, rfl⟩
  · split <;> exact ⟨rfl, rfl⟩

/-- A call leaves alone what is remembered, or looks up a class, its kind alone or its text too. -/
theorem call_cases (rows : Rows) (call : Call classes) :
    ((rows.call call).kinds = rows.kinds ∧ (rows.call call).joined = rows.joined) ∨
    ∃ l c, call = .lookUp l ∧ l.row.val = .cls c ∧
      (rows.call call = (rows.kind c).2 ∨ rows.call call = (rows.classJoined c).rows) := by
  cases call with
  | set c columns => exact .inl (rows.memory_setColumns c columns)
  | delete c => exact .inl (rows.memory_deleteColumns c)
  | lookUp l =>
    cases l with
    | columns row =>
      obtain ⟨row, hrow⟩ := row
      cases row with
      | value v => exact .inl ⟨rfl, rfl⟩
      | cls c => exact .inr ⟨_, c, rfl, rfl, .inl (rows.classColumns_snd c)⟩
    | joined row =>
      obtain ⟨row, hrow⟩ := row
      cases row with
      | value v => exact .inl ⟨rfl, rfl⟩
      | cls c => exact .inr ⟨_, c, rfl, rfl, .inr rfl⟩

/-- **One call** remembers no other kind than the one that is detected for the class that is looked
up. -/
theorem kinds_call {rows : Rows} {call : Call classes} {entry : RowClass.Key × Option RowKind}
    (h : entry ∈ (rows.call call).kinds.entries) :
    entry ∈ rows.kinds.entries ∨ ∃ l c, call = .lookUp l ∧ l.row.val = .cls c ∧
      entry = (c.key, rows.detect c) := by
  rcases rows.call_cases call with ⟨hk, -⟩ | ⟨l, c, hcall, hl, hr⟩
  · rw [hk] at h
    exact .inl h
  · have hk : (rows.call call).kinds = rows.kinds ∨
        (rows.call call).kinds = (rows.kind c).2.kinds := by
      rcases hr with hr | hr
      · exact .inr (congrArg Rows.kinds hr)
      · rw [hr]
        exact rows.kinds_classJoined c
    rcases hk with hk | hk
    · rw [hk] at h
      exact .inl h
    · rw [hk] at h
      exact (kinds_kind h).imp_right fun he => ⟨l, c, hcall, hl, he⟩

/-- **One call** remembers no other text than that of the columns of the class that is looked up. -/
theorem joined_call {rows : Rows} {call : Call classes} {entry : RowClass.Key × Option Text}
    (h : entry ∈ (rows.call call).joined.entries) :
    entry ∈ rows.joined.entries ∨ ∃ l c columns?, call = .lookUp l ∧ l.row.val = .cls c ∧
      (rows.classColumns c).1 = .ok columns? ∧ entry = (c.key, columns?.map join) := by
  rcases rows.call_cases call with ⟨-, hj⟩ | ⟨l, c, hcall, hl, hr | hr⟩
  · rw [hj] at h
    exact .inl h
  · rw [hr, ← classColumns_snd, joined_classColumns] at h
    exact .inl h
  · rw [hr] at h
    rcases joined_classJoined h with h | ⟨columns?, hcols, he⟩
    · exact .inl h
    · exact .inr ⟨l, c, columns?, hcall, hl, hcols, he⟩

/-- A class that is looked up is the one that its key stands for. -/
theorem LookUp.known {l : LookUp classes} {c : RowClass} (h : l.row.val = .cls c) :
    classes c.key = c := l.row.property c h

/-! ## Kinds that give columns -/

/-- Each remembered kind but the explicit one gives columns to its class. -/
def Founded (classes : RowClass.Key → RowClass) (rows : Rows) : Prop :=
  ∀ entry ∈ rows.kinds.entries, ∀ kind, entry.2 = some kind → kind ≠ .explicit →
    ∀ rows' : Rows, (rows'.columnsOfKind? (classes entry.1) kind).isSome = true

/-- The columns of all kinds but one do not depend on what has been set. -/
theorem columnsOfKind?_of_ne {kind : RowKind} (h : kind ≠ .explicit) (rows rows' : Rows)
    (c : RowClass) : rows.columnsOfKind? c kind = rows'.columnsOfKind? c kind := by
  cases kind with
  | explicit => exact absurd rfl h
  | _ => rfl

/-- A kind that is detected now has columns now. -/
theorem isSome_of_detect {rows : Rows} {c : RowClass} {kind : RowKind}
    (h : rows.detect c = some kind) : (rows.columnsOfKind? c kind).isSome = true := by
  simpa using List.find?_some h

namespace Founded

variable {rows : Rows}

/-- Each call keeps what is remembered well founded. -/
theorem call (h : rows.Founded classes) (call : Call classes) :
    (rows.call call).Founded classes := by
  intro entry he kind hk hne rows'
  rcases kinds_call he with he | ⟨l, c, -, hl, rfl⟩
  · exact h entry he kind hk hne rows'
  · rw [LookUp.known hl, columnsOfKind?_of_ne hne rows' rows]
    exact isSome_of_detect hk

/-- **Any number of calls** leave only kinds that give columns, but for the explicit one. -/
theorem run (h : rows.Founded classes) (calls : List (Call classes)) :
    (rows.run calls).Founded classes := by
  induction calls generalizing rows with
  | nil => exact h
  | cons call rest ih => exact ih (h.call call)

/-- A class that is not orphaned has columns as what it counts as. -/
theorem classColumns (h : rows.Founded classes) {c : RowClass} (hc : classes c.key = c)
    (ho : ¬ rows.Orphaned (.cls c)) : (rows.classColumns c).1 = .ok (rows.countedColumns? c) := by
  have hs : ∀ kind, (rows.kind c).1 = some kind →
      (rows.columnsOfKind? c kind).isSome = true := by
    intro kind hk
    unfold Rows.kind at hk
    split at hk
    · rename_i kind? hf
      obtain rfl : kind? = some kind := hk
      by_cases he : kind = .explicit
      · subst he
        refine Option.isSome_iff_ne_none.2 ?_
        intro hn
        exact ho ⟨hf, hn⟩
      · have hm := h _ (Recent.mem_entries_of_find? hf) kind rfl he rows
        rwa [hc] at hm
    · exact isSome_of_detect hk
  rw [classColumns_fst, countedColumns?]
  split
  · rename_i kind hk
    obtain ⟨columns, hcols⟩ := Option.isSome_iff_exists.1 (hs kind hk)
    rw [columnsAs, hk, Option.bind_some, hcols]
    rfl
  · rename_i hk
    rw [hk]
    rfl

end Founded

/-- The columns of an orphaned class cannot be given. -/
theorem classColumns_of_orphaned {rows : Rows} {c : RowClass} (h : rows.Orphaned (.cls c)) :
    ∃ fault, (rows.classColumns c).1 = .error fault := by
  obtain ⟨hf, hn⟩ := h
  have hk : (rows.kind c).1 = some .explicit := by rw [kind, hf]
  have hc : rows.columnsOfKind? c .explicit = none := hn
  rw [classColumns_fst, hk]
  dsimp only
  rw [columnsAs, hc]
  exact ⟨_, rfl⟩

/-- Joined columns are those remembered, or else those looked up. -/
theorem result_classJoined (rows : Rows) (c : RowClass) :
    (rows.classJoined c).result =
      match rows.joined.find? c.key with
      | some text? => .ok text?
      | none => (rows.classColumns c).1.map (Option.map join) := by
  unfold classJoined
  cases rows.joined.find? c.key with
  | some text? => rfl
  | none =>
    cases rows.classColumns c with
    | mk found rows' => cases found <;> rfl

/-- **In one state** the two agree unless the class is orphaned or its text is stale. -/
theorem Founded.agree_iff {rows : Rows} (h : rows.Founded classes) (row : Known classes) :
    rows.Agree row.val ↔ ¬ rows.Orphaned row.val ∧ ¬ rows.Stale row.val := by
  obtain ⟨row, hrow⟩ := row
  cases row with
  | value v => exact ⟨fun _ => ⟨id, id⟩, fun _ => ⟨none, rfl, rfl⟩⟩
  | cls c =>
    have hj := rows.result_classJoined c
    constructor
    · rintro ⟨columns?, hn, hr⟩
      have ho : ¬ rows.Orphaned (.cls c) := by
        intro ho
        obtain ⟨fault, he⟩ := classColumns_of_orphaned ho
        cases he.symm.trans hn
      obtain rfl : columns? = rows.countedColumns? c :=
        Except.ok.inj (hn.symm.trans (h.classColumns (hrow c rfl) ho))
      refine ⟨ho, ?_⟩
      rintro ⟨text?, hf, hne⟩
      rw [hf] at hj
      exact hne (Except.ok.inj (hj.symm.trans hr))
    · rintro ⟨ho, hs⟩
      have hn := h.classColumns (hrow c rfl) ho
      refine ⟨rows.countedColumns? c, hn, hj.trans ?_⟩
      split
      · rename_i text? hf
        by_cases ht : text? = (rows.countedColumns? c).map join
        · rw [ht]
        · exact absurd ⟨text?, hf, ht⟩ hs
      · rw [hn]
        rfl

/-- A look-up fails exactly for a class whose set columns are gone while their kind is remembered.
-/
theorem Founded.fails_iff {rows : Rows} (h : rows.Founded classes) (row : Known classes) :
    (∃ fault, (rows.columnNames row.val).1 = .error fault) ↔ rows.Orphaned row.val := by
  obtain ⟨row, hrow⟩ := row
  cases row with
  | value v =>
    refine ⟨?_, False.elim⟩
    rintro ⟨fault, he⟩
    cases he
  | cls c =>
    refine ⟨?_, classColumns_of_orphaned⟩
    rintro ⟨fault, he⟩
    by_cases ho : rows.Orphaned (.cls c)
    · exact ho
    · cases he.symm.trans (h.classColumns (hrow c rfl) ho)

/-! ## Where texts come from -/

/-- **Any number of calls** remember no other texts than those of columns that classes have had on
the way. -/
theorem joined_run {rows : Rows} (calls : List (Call classes))
    {entry : RowClass.Key × Option Text} (h : entry ∈ (rows.run calls).joined.entries) :
    entry ∈ rows.joined.entries ∨ ∃ i, .ok entry.2 =
      ((rows.run (calls.take i)).classColumns (classes entry.1)).1.map (Option.map join) := by
  induction calls generalizing rows with
  | nil => exact .inl h
  | cons call rest ih =>
    rcases ih h with he | ⟨i, hi⟩
    · rcases joined_call he with he | ⟨l, c, columns?, -, hl, hc, rfl⟩
      · exact .inl he
      · refine .inr ⟨0, ?_⟩
        rw [LookUp.known hl]
        exact (congrArg (Except.map (Option.map join)) hc).symm
    · exact .inr ⟨i + 1, hi⟩

/-! ## Classes that have not changed since -/

/-- What is remembered of the class is what it has in another state. -/
structure UpToDate (now rows : Rows) (c : RowClass) : Prop where
  kind : ∀ kind?, (c.key, kind?) ∈ rows.kinds.entries → kind? = now.detect c
  joined : ∀ text?, (c.key, text?) ∈ rows.joined.entries →
    text? = (now.columns? (.cls c)).map join

namespace UpToDate

variable {now rows : Rows} {c : RowClass}

/-- Where nothing is remembered, nothing is out of date. -/
theorem fresh (now : Rows) (explicit : List (RowClass.Key × List Text)) (c : RowClass) :
    UpToDate now ⟨explicit, .empty, .empty⟩ c := by
  refine ⟨?_, ?_⟩
  · intro kind? hm
    cases hm
  · intro text? hm
    cases hm

theorem classColumns (h : UpToDate now rows c) (he : rows.explicit? c = now.explicit? c) :
    (rows.classColumns c).1 = .ok (now.columns? (.cls c)) := by
  have hk : (rows.kind c).1 = rows.detect c := by
    unfold Rows.kind
    split
    · rename_i kind? hf
      exact (h.kind kind? (Recent.mem_entries_of_find? hf)).trans (detect_of_explicit? he).symm
    · rfl
  rw [classColumns_fst, hk, ← columns?_of_explicit? he]
  split
  · rename_i kind hd
    exact columnsAs_of_detect hd
  · rename_i hd
    rw [columns?, hd]
    rfl

theorem call (h : UpToDate now rows c) (hc : classes c.key = c) {call : Call classes}
    (hl : ∀ l, call = .lookUp l → l.row.val = .cls c → rows.explicit? c = now.explicit? c) :
    UpToDate now (rows.call call) c := by
  -- what goes by the key of the class is the class itself
  have same : ∀ {l : LookUp classes} {c' : RowClass}, l.row.val = .cls c' → c.key = c'.key →
      c' = c := by
    intro l c' hr hk
    rw [← hc, hk, LookUp.known hr]
  refine ⟨?_, ?_⟩
  · intro kind? hm
    rcases kinds_call hm with hm | ⟨l, c', hcall, hr, he⟩
    · exact h.kind kind? hm
    · obtain ⟨hk, rfl⟩ := Prod.mk.inj he
      obtain rfl := same hr hk
      exact detect_of_explicit? (hl l hcall hr)
  · intro text? hm
    rcases joined_call hm with hm | ⟨l, c', columns?, hcall, hr, hcols, he⟩
    · exact h.joined text? hm
    · obtain ⟨hk, rfl⟩ := Prod.mk.inj he
      obtain rfl := same hr hk
      obtain rfl := Except.ok.inj (hcols.symm.trans (h.classColumns (hl l hcall hr)))
      rfl

/-- **Any number of calls** keep what is remembered of a class that has the same explicit columns
whenever it is looked up. -/
theorem run (h : UpToDate now rows c) (hc : classes c.key = c) {calls : List (Call classes)}
    (hl : ∀ i l, calls[i]? = some (.lookUp l) → l.row.val = .cls c →
      (rows.run (calls.take i)).explicit? c = now.explicit? c) :
    UpToDate now (rows.run calls) c := by
  induction calls generalizing rows with
  | nil => exact h
  | cons call rest ih =>
    refine ih (h.call hc ?_) ?_
    · rintro l rfl hr
      exact hl 0 l rfl hr
    · intro i l hi hr
      exact hl (i + 1) l hi hr

/-- A class whose memory is up to date is answered alike with memory and without. -/
theorem agree (h : UpToDate rows rows c) : rows.Agree (.cls c) := by
  refine ⟨rows.columns? (.cls c), h.classColumns rfl, (rows.result_classJoined c).trans ?_⟩
  split
  · rename_i text? hf
    rw [h.joined text? (Recent.mem_entries_of_find? hf)]
  · rw [h.classColumns rfl]
    rfl

end UpToDate

/-- **When the two look-ups agree**: after any look-ups, settings and deletions of explicit columns,
of any row types and in any order, the joined columns of a row type are its columns joined unless
the class counts as explicit and has lost its explicit columns, or the remembered text is not that
of its columns; in the first case, and in no other, its columns cannot be given. What is given as
the joined columns are in any case the joined columns of some moment up to now. And a row type that
at each of its look-ups had the explicit columns that it has now is not affected. -/
theorem lookUps_agree_iff (explicit : List (RowClass.Key × List Text))
    (calls : List (Call classes)) (row : Known classes) :
    let fresh : Rows := ⟨explicit, .empty, .empty⟩
    let rows := fresh.run calls
    (rows.Agree row.val ↔ ¬ rows.Orphaned row.val ∧ ¬ rows.Stale row.val) ∧
    ((∃ fault, (rows.columnNames row.val).1 = .error fault) ↔ rows.Orphaned row.val) ∧
    (∃ i, (rows.joinedColumns row.val).result =
      ((fresh.run (calls.take i)).columnNames row.val).1.map (Option.map join)) ∧
    ((∀ i l, calls[i]? = some (.lookUp l) → l.row.val = row.val →
      (fresh.run (calls.take i)).explicitOf? row.val = rows.explicitOf? row.val) →
        rows.Agree row.val) := by
  intro fresh rows
  have founded : rows.Founded classes := by
    have h : fresh.Founded classes := by
      intro entry he
      cases he
    exact h.run calls
  refine ⟨founded.agree_iff row, founded.fails_iff row, ?_, ?_⟩
  · obtain ⟨row, hrow⟩ := row
    cases row with
    | value v => exact ⟨0, rfl⟩
    | cls c =>
      cases hf : rows.joined.find? c.key with
      | some text? =>
        have hr : (rows.classJoined c).result = .ok text? := by rw [result_classJoined, hf]
        rcases joined_run calls (Recent.mem_entries_of_find? hf) with he | ⟨i, hi⟩
        · cases he
        · rw [hrow c rfl] at hi
          exact ⟨i, hr.trans hi⟩
      | none =>
        refine ⟨calls.length, ?_⟩
        rw [List.take_length]
        have hr := rows.result_classJoined c
        rw [hf] at hr
        exact hr
  · intro hl
    obtain ⟨row, hrow⟩ := row
    cases row with
    | value v => exact ⟨none, rfl, rfl⟩
    | cls c =>
      exact ((UpToDate.fresh rows explicit c).run (hrow c rfl) hl).agree

/-! ## Changes between look-ups -/

def upperLayer : RowLayer := ⟨1, "Upper".toList, .plain [] none⟩

def lowerLayer : RowLayer := ⟨2, "Lower".toList, .plain [] none⟩

def lowerClass : RowClass := ⟨[lowerLayer], Class.object⟩

/-- A class on top of another one, whose explicit columns it inherits. -/
def upperClass : RowClass := ⟨[upperLayer, lowerLayer], Class.object⟩

def layeredClasses : RowClass.Key → RowClass
  | .inl 1 => upperClass
  | .inl _ => lowerClass
  | .inr _ => ⟨[], Class.object⟩

def lower : Known layeredClasses := ⟨.cls lowerClass, by rintro c ⟨⟩; rfl⟩

def upper : Known layeredClasses := ⟨.cls upperClass, by rintro c ⟨⟩; rfl⟩

/-- The lower class changes before and after a look-up of it, but the upper one, once it has been
looked up, has columns of its own. -/
def calmCalls : List (Call layeredClasses) :=
  [.set lowerClass ["a".toList], .lookUp (.joined lower), .set upperClass ["b".toList],
    .lookUp (.joined upper), .delete lowerClass, .lookUp (.columns lower)]

/-- Of two classes whose columns were set and looked up, only the one whose columns are deleted is
answered wrongly. -/
theorem lookUps_agree_iff_calm :
    let rows := Rows.empty.run calmCalls
    rows.Agree upper.val ∧ rows.Orphaned lower.val ∧ ¬ rows.Agree lower.val := by
  obtain ⟨-, -, -, unaffected⟩ := lookUps_agree_iff [] calmCalls upper
  obtain ⟨agree, -, -, -⟩ := lookUps_agree_iff [] calmCalls lower
  have orphaned : (Rows.empty.run calmCalls).Orphaned lower.val := ⟨rfl, rfl⟩
  refine ⟨unaffected ?_, orphaned, fun h => (agree.1 h).1 orphaned⟩
  intro i l hi hr
  match i with
  | 0 | 2 | 4 => cases hi
  | 1 =>
    cases hi
    cases hr
  | 3 => rfl
  | 5 =>
    cases hi
    cases hr
  | i + 6 => cases hi

/-- Of columns that are set anew the text stays behind, and of columns that are deleted an error. -/
theorem lookUps_disagree :
    let fresh : Rows := ⟨[(lowerClass.key, ["a".toList])], .empty, .empty⟩
    let changed := fresh.run [.lookUp (.joined lower), .set lowerClass ["b".toList]]
    let deleted := fresh.run [.lookUp (.columns lower), .delete lowerClass]
    (changed.columnNames lower.val).1 = .ok (some ["b".toList]) ∧
    (changed.joinedColumns lower.val).result = .ok (some "`a`".toList) ∧
    ¬ changed.Agree lower.val ∧
    (deleted.columnNames lower.val).1 = .error (.noColumns "Lower".toList) ∧
    (deleted.joinedColumns lower.val).result = .error (.noColumns "Lower".toList) ∧
    ¬ deleted.Agree lower.val := by
  intro fresh changed deleted
  have hb : (changed.columnNames lower.val).1 = .ok (some ["b".toList]) := rfl
  have ha : (changed.joinedColumns lower.val).result = .ok (some "`a`".toList) := rfl
  have hd : (deleted.columnNames lower.val).1 = .error (.noColumns "Lower".toList) := rfl
  refine ⟨hb, ha, ?_, hd, rfl, ?_⟩
  · rintro ⟨columns?, hn, hr⟩
    obtain rfl := Except.ok.inj (hn.symm.trans hb)
    cases ha.symm.trans hr
  · rintro ⟨columns?, hn, -⟩
    cases hd.symm.trans hn

end SqlTemplate.Rows
