import SqlTemplate.Proofs.Row.Joined

/-!
# What is remembered of row types does not show

While no explicit columns are set or deleted, row types may be looked up any number of times and in
any order (`Rows.lookUpAll`): every answer is the one that is given with no memory at all
(`answer_lookUpAll`), be it remembered, found anew after it has been pushed out, or made with the
help of the other memory. The invariant is `Rows.Faithful`: each remembered kind is the one that is
detected at present, and each remembered text joins the columns that the class has at present. A
look-up keeps it, since what it adds has just been found (`Faithful.lookUp`), and pushing out what
no longer fits takes nothing away that matters (`Recent.Holds.insert`).

A key stands for one class. So that remembered results can be found by key, the classes that are
looked up are known ones (`Rows.Known`), one to each key.
-/

namespace SqlTemplate

instance RowClass.lawfulBEqKey : LawfulBEq RowClass.Key where
  rfl := by
    intro key
    cases key with
    | inl n => exact beq_self_eq_true n
    | inr c => exact beq_self_eq_true c
  eq_of_beq := by
    intro key key' h
    cases key with
    | inl n =>
      cases key' with
      | inl m => exact congrArg Sum.inl (eq_of_beq h)
      | inr c => cases h
    | inr c =>
      cases key' with
      | inl m => cases h
      | inr d => exact congrArg Sum.inr (eq_of_beq h)

/-! ## Memories of the results of a function -/

namespace Recent

variable {κ ρ : Type} [BEq κ] {f : κ → ρ}

/-- What is found under a key is remembered under it. -/
theorem mem_entries_of_find? [LawfulBEq κ] {r : Recent κ ρ} {key : κ} {result : ρ}
    (h : r.find? key = some result) : (key, result) ∈ r.entries := by
  obtain ⟨before, after, he, -⟩ := List.lookup_eq_some_iff.1 h
  rw [he]
  exact List.mem_append_right before List.mem_cons_self

/-- Each remembered result is what the function gives for its key, and there are no more results
than fit. -/
structure Holds (f : κ → ρ) (r : Recent κ ρ) : Prop where
  results : ∀ entry ∈ r.entries, entry.2 = f entry.1
  fits : r.entries.length ≤ capacity

namespace Holds

variable {r : Recent κ ρ}

omit [BEq κ] in
theorem empty : (Recent.empty : Recent κ ρ).Holds f := by
  refine ⟨?_, Nat.zero_le _⟩
  intro entry h
  cases h

/-- What is found is what the function gives. -/
theorem find? [LawfulBEq κ] (h : r.Holds f) {key : κ} {result : ρ}
    (hr : r.find? key = some result) : result = f key :=
  h.results _ (mem_entries_of_find? hr)

/-- Moving an entry to the front changes no result. -/
theorem touch (h : r.Holds f) (key : κ) : (r.touch key).Holds f := by
  refine ⟨fun entry he => h.results entry (mem_of_mem_touch he), ?_⟩
  unfold Recent.touch
  split
  · rename_i entry hf
    -- the entry that comes to the front leaves its old place
    have hm : entry ∈ r.entries := List.mem_of_find?_eq_some hf
    have hk : (entry.1 == key) = true := by
      simpa using List.find?_some hf
    have hl : (r.entries.filter fun old => !(old.1 == key)).length < r.entries.length := by
      apply List.length_filter_lt_length_iff_exists.2
      exact ⟨entry, hm, by simp [hk]⟩
    have := h.fits
    simp only [List.length_cons]
    omega
  · exact h.fits

omit [BEq κ] in
/-- Whatever is pushed out, all that is left holds still. -/
theorem insert (h : r.Holds f) {key : κ} {result : ρ} (hr : result = f key) :
    (r.insert key result).Holds f := by
  refine ⟨?_, ?_⟩
  · intro entry he
    rcases mem_of_mem_insert he with rfl | he
    · exact hr
    · exact h.results entry he
  · exact List.length_take_le capacity _

end Holds

end Recent

namespace Rows

variable {classes : RowClass.Key → RowClass}

/-- What is no class, or a class that goes by its key among the given classes. -/
abbrev Known (classes : RowClass.Key → RowClass) :=
  { row : RowType // ∀ c, row = .cls c → classes c.key = c }

inductive LookUp (classes : RowClass.Key → RowClass) where
  | columns (row : Known classes)
  | joined (row : Known classes)

inductive Answer where
  | columns (found : Except RowFault (Option (List Text)))
  | joined (found : Except RowFault (Option Text))

/-- The answer to a look-up. -/
def answer (rows : Rows) : LookUp classes → Answer
  | .columns row => .columns (rows.columnNames row.val).1
  | .joined row => .joined (rows.joinedColumns row.val).result

/-- What is remembered after a look-up. -/
def lookUp (rows : Rows) : LookUp classes → Rows
  | .columns row => (rows.columnNames row.val).2
  | .joined row => (rows.joinedColumns row.val).rows

def lookUpAll (rows : Rows) (lookUps : List (LookUp classes)) : Rows := lookUps.foldl lookUp rows

/-! ## Without memory -/

/-- The columns of a row type, found without memory. -/
def columns? (rows : Rows) : RowType → Option (List Text)
  | .cls c => (rows.detect c).bind (rows.columnsOfKind? c)
  | .value _ => none

/-- The answer to a look-up that is made without memory. -/
def plainAnswer (rows : Rows) : LookUp classes → Answer
  | .columns row => .columns (.ok (rows.columns? row.val))
  | .joined row => .joined (.ok ((rows.columns? row.val).map join))

section

variable {rows rows' : Rows} {c : RowClass} (h : rows.explicit? c = rows'.explicit? c)

include h

/-- What a class has at present is decided by its explicit columns alone. -/
theorem columnsOfKind?_of_explicit? :
    rows.columnsOfKind? c = rows'.columnsOfKind? c := by
  funext kind
  cases kind with
  | explicit => exact h
  | _ => rfl

/-- The kind of a class depends on its declared columns and on nothing that is remembered. -/
theorem detect_of_explicit? : rows.detect c = rows'.detect c := by
  rw [detect, detect, columnsOfKind?_of_explicit? h]

/-- So do its columns. -/
theorem columns?_of_explicit? : rows.columns? (.cls c) = rows'.columns? (.cls c) := by
  rw [columns?, columns?, detect_of_explicit? h, columnsOfKind?_of_explicit? h]

end

section

variable {rows rows' : Rows} (h : rows.explicit = rows'.explicit)

include h

theorem explicit?_congr (c : RowClass) : rows.explicit? c = rows'.explicit? c := by
  have hr : ∀ root, rows.rootColumns? root = rows'.rootColumns? root := by
    intro root
    rw [rootColumns?, rootColumns?, h]
  have hc : ∀ root layers, rows.chainColumns? root layers = rows'.chainColumns? root layers := by
    intro root layers
    induction layers with
    | nil => exact hr root
    | cons layer rest ih => rw [chainColumns?, chainColumns?, h, ih]
  exact hc c.root c.layers

theorem detect_congr (c : RowClass) : rows.detect c = rows'.detect c :=
  detect_of_explicit? (explicit?_congr h c)

theorem columns?_congr (row : RowType) : rows.columns? row = rows'.columns? row := by
  cases row with
  | value v => rfl
  | cls c => exact columns?_of_explicit? (explicit?_congr h c)

/-- And so do all answers without memory. -/
theorem plainAnswer_congr (l : LookUp classes) : rows.plainAnswer l = rows'.plainAnswer l := by
  cases l with
  | columns row => rw [plainAnswer, plainAnswer, columns?_congr h]
  | joined row => rw [plainAnswer, plainAnswer, columns?_congr h]

end

/-- A class that counts as what is detected has columns. -/
theorem columnsAs_of_detect {rows : Rows} {c : RowClass} {kind : RowKind}
    (h : rows.detect c = some kind) :
    (rows.columnsAs c kind).map some = .ok (rows.columns? (.cls c)) := by
  have hs : (rows.columnsOfKind? c kind).isSome = true := by
    simpa using List.find?_some h
  obtain ⟨columns, hc⟩ := Option.isSome_iff_exists.1 hs
  rw [columnsAs, columns?, h, Option.bind_some, hc]
  rfl

/-! ## One look-up -/

/-- What is remembered of known classes is what they have at present. -/
structure Faithful (classes : RowClass.Key → RowClass) (rows : Rows) : Prop where
  kinds : rows.kinds.Holds fun key => rows.detect (classes key)
  joined : rows.joined.Holds fun key => (rows.columns? (.cls (classes key))).map join

namespace Faithful

variable {rows : Rows}

/-- An empty memory is faithful. -/
theorem fresh (explicit : List (RowClass.Key × List Text)) :
    Faithful classes ⟨explicit, .empty, .empty⟩ := ⟨.empty, .empty⟩

/-- What is remembered may change, the explicit columns may not. -/
theorem of_explicit (rows : Rows) {rows' : Rows} (he : rows'.explicit = rows.explicit)
    (hk : rows'.kinds.Holds fun key => rows.detect (classes key))
    (hj : rows'.joined.Holds fun key => (rows.columns? (.cls (classes key))).map join) :
    rows'.Faithful classes := by
  refine ⟨⟨?_, hk.fits⟩, ⟨?_, hj.fits⟩⟩
  · intro entry hm
    exact (hk.results entry hm).trans (detect_congr he _).symm
  · intro entry hm
    have hc := columns?_congr he (.cls (classes entry.1))
    exact (hj.results entry hm).trans (congrArg (Option.map join) hc.symm)

/-- The kind of a known class is the one that is detected, remembered or not. -/
theorem kind (h : rows.Faithful classes) {c : RowClass} (hc : classes c.key = c) :
    (rows.kind c).1 = rows.detect c ∧ (rows.kind c).2.explicit = rows.explicit ∧
      (rows.kind c).2.Faithful classes := by
  unfold Rows.kind
  split
  · rename_i kind hf
    have hk : kind = rows.detect (classes c.key) := h.kinds.find? hf
    rw [hc] at hk
    exact ⟨hk, rfl, of_explicit rows rfl (h.kinds.touch c.key) h.joined⟩
  · refine ⟨rfl, rfl, of_explicit rows rfl (h.kinds.insert ?_) h.joined⟩
    rw [hc]

/-- With a faithful memory a look-up answers as without, and keeps it faithful. -/
theorem classColumns (h : rows.Faithful classes) {c : RowClass} (hc : classes c.key = c) :
    (rows.classColumns c).1 = .ok (rows.columns? (.cls c)) ∧
      (rows.classColumns c).2.explicit = rows.explicit ∧
      (rows.classColumns c).2.Faithful classes := by
  obtain ⟨hk, he, hf⟩ := h.kind hc
  unfold Rows.classColumns
  split
  · rename_i kind rows' hr
    rw [hr] at hk he hf
    -- the class is read after the look-up of its kind, which has not changed what it has
    have hd : rows'.detect c = some kind := by rw [detect_congr he, ← hk]
    refine ⟨?_, he, hf⟩
    dsimp only
    rw [columnsAs_of_detect hd, columns?_congr he]
  · rename_i rows' hr
    rw [hr] at hk he hf
    refine ⟨?_, he, hf⟩
    rw [columns?, ← hk]
    rfl

/-- So does a look-up for any row type. -/
theorem columnNames (h : rows.Faithful classes) (row : Known classes) :
    (rows.columnNames row.val).1 = .ok (rows.columns? row.val) ∧
      (rows.columnNames row.val).2.explicit = rows.explicit ∧
      (rows.columnNames row.val).2.Faithful classes := by
  obtain ⟨row, hrow⟩ := row
  cases row with
  | value v => exact ⟨rfl, rfl, h⟩
  | cls c => exact h.classColumns (hrow c rfl)

/-- So does one of joined columns. -/
theorem classJoined (h : rows.Faithful classes) {c : RowClass} (hc : classes c.key = c) :
    (rows.classJoined c).result = .ok ((rows.columns? (.cls c)).map join) ∧
      (rows.classJoined c).rows.explicit = rows.explicit ∧
      (rows.classJoined c).rows.Faithful classes := by
  unfold Rows.classJoined
  split
  · rename_i text? hf
    have ht : text? = (rows.columns? (.cls (classes c.key))).map join := h.joined.find? hf
    rw [hc] at ht
    refine ⟨congrArg Except.ok ht, rfl, ?_⟩
    exact of_explicit rows rfl h.kinds (h.joined.touch c.key)
  · obtain ⟨hr, he, hf⟩ := h.classColumns hc
    split
    · rename_i fault rows' hs
      rw [hs] at hr
      cases hr
    · rename_i columns? rows' hs
      rw [hs] at hr he hf
      obtain rfl : columns? = rows.columns? (.cls c) := Except.ok.inj hr
      refine ⟨rfl, he, ?_⟩
      refine of_explicit rows' rfl hf.kinds (hf.joined.insert ?_)
      rw [hc, columns?_congr he]

theorem joinedColumns (h : rows.Faithful classes) (row : Known classes) :
    (rows.joinedColumns row.val).result = .ok ((rows.columns? row.val).map join) ∧
      (rows.joinedColumns row.val).rows.explicit = rows.explicit ∧
      (rows.joinedColumns row.val).rows.Faithful classes := by
  obtain ⟨row, hrow⟩ := row
  cases row with
  | value v => exact ⟨rfl, rfl, h⟩
  | cls c => exact h.classJoined (hrow c rfl)

/-- **One look-up** answers what is so without memory, and keeps what is remembered faithful. -/
theorem lookUp (h : rows.Faithful classes) (l : LookUp classes) :
    rows.answer l = rows.plainAnswer l ∧ (rows.lookUp l).explicit = rows.explicit ∧
      (rows.lookUp l).Faithful classes := by
  cases l with
  | columns row =>
    obtain ⟨ha, he, hf⟩ := h.columnNames row
    exact ⟨congrArg Answer.columns ha, he, hf⟩
  | joined row =>
    obtain ⟨ha, he, hf⟩ := h.joinedColumns row
    exact ⟨congrArg Answer.joined ha, he, hf⟩

/-! ## Many look-ups -/

/-- **Any number of look-ups** keep what is remembered faithful. -/
theorem lookUpAll (h : rows.Faithful classes) (lookUps : List (LookUp classes)) :
    (rows.lookUpAll lookUps).explicit = rows.explicit ∧
      (rows.lookUpAll lookUps).Faithful classes := by
  induction lookUps generalizing rows with
  | nil => exact ⟨rfl, h⟩
  | cons l rest ih =>
    obtain ⟨-, he, hf⟩ := h.lookUp l
    obtain ⟨he', hf'⟩ := ih hf
    exact ⟨he'.trans he, hf'⟩

end Faithful

/-- **What is remembered does not show**: after any look-ups of columns and of joined columns, of
any number of row types and in any order, each look-up is answered as it is without memory; the
joined columns of a row type are its columns joined, or there are neither; and of all that has been
looked up no more is remembered than fits. -/
theorem answer_lookUpAll (explicit : List (RowClass.Key × List Text))
    (lookUps : List (LookUp classes)) :
    let fresh : Rows := ⟨explicit, .empty, .empty⟩
    let rows := fresh.lookUpAll lookUps
    (∀ l : LookUp classes, rows.answer l = fresh.plainAnswer l) ∧
    (∀ row : Known classes, (rows.joinedColumns row.val).result =
      (rows.columnNames row.val).1.map fun columns? => columns?.map join) ∧
    (rows.kinds.entries.length ≤ Recent.capacity ∧
      rows.joined.entries.length ≤ Recent.capacity) := by
  intro fresh rows
  have hs : fresh.Faithful classes := .fresh explicit
  obtain ⟨he, h⟩ : rows.explicit = fresh.explicit ∧ rows.Faithful classes := hs.lookUpAll lookUps
  refine ⟨?_, ?_, ?_⟩
  · intro l
    rw [(h.lookUp l).1, plainAnswer_congr he]
  · intro row
    rw [(h.columnNames row).1, (h.joinedColumns row).1]
    rfl
  · exact ⟨h.kinds.fits, h.joined.fits⟩

/-! ## More classes than fit -/

/-- The class of the given number, a record of a single field. -/
def numberedClass (n : Nat) : RowClass :=
  ⟨[⟨n, "Row".toList, .record [⟨Nat.toDigits 10 n, .own⟩]⟩], Class.object⟩

def numberedClasses : RowClass.Key → RowClass
  | .inl n => numberedClass n
  | .inr _ => ⟨[], Class.object⟩

def numbered (n : Nat) : Known numberedClasses :=
  ⟨.cls (numberedClass n), by rintro c ⟨⟩; rfl⟩

/-- One class after another, more of them than are remembered. -/
def manyLookUps : List (LookUp numberedClasses) :=
  (List.range 300).map fun n => .joined (numbered n)

/-- More classes than are remembered, so that the first ones have been forgotten. -/
theorem answer_lookUpAll_many :
    let rows := (Rows.mk [] .empty .empty).lookUpAll manyLookUps
    rows.joined.entries.length < manyLookUps.length ∧
    rows.answer (.columns (numbered 7)) = .columns (.ok (some ["7".toList])) ∧
    rows.answer (.joined (numbered 7)) = .joined (.ok (some "`7`".toList)) := by
  obtain ⟨answers, -, -, fits⟩ := answer_lookUpAll [] manyLookUps
  refine ⟨?_, ?_, ?_⟩
  · have hl : manyLookUps.length = 300 := by simp [manyLookUps]
    have hc : Recent.capacity = 256 := rfl
    omega
  · exact (answers (.columns (numbered 7))).trans rfl
  · exact (answers (.joined (numbered 7))).trans rfl

end Rows

end SqlTemplate
