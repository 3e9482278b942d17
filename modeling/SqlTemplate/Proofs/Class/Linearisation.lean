import SqlTemplate.Class.Order

/-!
# A class stands before all its ancestors

`Class.Descends` is inheritance itself: a class descends from itself and from what its bases descend
from. Where a class has a linear order (`Class.linearised?`), the order lists exactly the classes it
descends from, and none of them stands before one of its own descendants (`Class.Linear`,
`linear_of_linearised?`).

A merge is described apart from the bound on its steps (`Merges`), which never cuts it short
(`merged?_eq_some_iff`). What carries the induction over the inheritance graph is that a merge keeps
each of the lists in order (`Merges.sublist`) and repeats nothing (`Merges.nodup`): two classes that
stand in the order of a base the right way round cannot be turned round by a later merge.

Lists are merged by identity, so the classes are taken to be those of a table with one class to each
identity (`Class.IdentifiedBy`).
-/

namespace SqlTemplate.Class

variable {classes : ClassId → Class}

/-! ## Inheritance -/

/-- Whether the first class is the second or inherits from it. -/
inductive Descends : Class → Class → Prop where
  | self {c : Class} : Descends c c
  | base {c b a : Class} (hb : b ∈ c.bases) (h : Descends b a) : Descends c a

/-- Descent is to the class itself or by way of a base. -/
theorem descends_iff {c a : Class} : c.Descends a ↔ a = c ∨ ∃ b ∈ c.bases, b.Descends a := by
  constructor
  · intro h
    cases h with
    | self => exact .inl rfl
    | base hb h => exact .inr ⟨_, hb, h⟩
  · rintro (rfl | ⟨b, hb, h⟩)
    · exact .self
    · exact .base hb h

/-- What an ancestor descends from is an ancestor too. -/
theorem Descends.trans {c b a : Class} (hb : c.Descends b) (ha : b.Descends a) : c.Descends a := by
  induction hb with
  | self => exact ha
  | base hm _ ih => exact .base hm (ih ha)

/-- Bases are smaller, so that recursion over them ends. -/
theorem sizeOf_lt_of_mem_bases {c b : Class} (h : b ∈ c.bases) : sizeOf b < sizeOf c := by
  cases c with
  | mk id name bases =>
    have hb : sizeOf b < sizeOf bases := List.sizeOf_lt_of_mem h
    simp only [mk.sizeOf_spec]
    omega

theorem Descends.sizeOf_le {c a : Class} (h : c.Descends a) : sizeOf a ≤ sizeOf c := by
  induction h with
  | self => exact Nat.le_refl _
  | base hb _ ih => exact Nat.le_trans ih (Nat.le_of_lt (sizeOf_lt_of_mem_bases hb))

/-- Inheritance has no cycles. -/
theorem not_descends_of_mem_bases {c b a : Class} (hb : b ∈ c.bases) (ha : b.Descends a) :
    ¬ a.Descends c := by
  intro hc
  have hlt := sizeOf_lt_of_mem_bases hb
  have hle := (ha.trans hc).sizeOf_le
  omega

/-- What a class has if its bases do is had by every class. -/
theorem bases_induction {motive : Class → Prop}
    (step : ∀ c : Class, (∀ b ∈ c.bases, motive b) → motive c) (c : Class) : motive c :=
  step c fun b _ => bases_induction step b
termination_by sizeOf c
decreasing_by exact sizeOf_lt_of_mem_bases ‹_›

/-- The class and what it inherits from go by their identities among the given classes. -/
def IdentifiedBy (classes : ClassId → Class) (c : Class) : Prop :=
  ∀ a, c.Descends a → classes a.id = a

/-- A table identifies a class exactly if it does so with its bases. -/
theorem identifiedBy_iff {c : Class} :
    c.IdentifiedBy classes ↔ classes c.id = c ∧ ∀ b ∈ c.bases, b.IdentifiedBy classes := by
  constructor
  · intro h
    exact ⟨h c .self, fun b hb a ha => h a (.base hb ha)⟩
  · rintro ⟨hc, hb⟩ a ha
    rcases descends_iff.1 ha with rfl | ⟨b, hm, ha⟩
    · exact hc
    · exact hb b hm a ha

/-- Among classes that go by their identities, the same class is an equal one. -/
theorem same_iff_eq {c d : Class} (hc : classes c.id = c) (hd : classes d.id = d) :
    c.same d = true ↔ c = d := by
  constructor
  · intro h
    have hid : c.id = d.id := eq_of_beq h
    rw [← hc, hid, hd]
  · rintro rfl
    exact beq_self_eq_true _

/-! ## Merging -/

/-- The classes `out` are the lists merged: the next free class is taken as long as any is left. -/
inductive Merges : List (List Class) → List Class → Prop where
  | done {lists : List (List Class)} (h : lists.all List.isEmpty = true) : Merges lists []
  | step {lists : List (List Class)} {c : Class} {out : List Class} (h : nextFree? lists = some c)
      (rest : Merges (lists.map (dropHead c)) out) : Merges lists (c :: out)

theorem dropHead_cons (c d : Class) (rest : List Class) :
    dropHead c (d :: rest) = if c.same d then rest else d :: rest := rfl

theorem dropHead_sublist (c : Class) (l : List Class) : (dropHead c l).Sublist l := by
  cases l with
  | nil => exact .slnil
  | cons d rest =>
    rw [dropHead_cons]
    split
    · exact List.sublist_cons_self d rest
    · exact List.Sublist.refl _

/-- Taking a class off the front of lists makes them no longer. -/
theorem length_flatten_dropHead_le (c : Class) (lists : List (List Class)) :
    (lists.map (dropHead c)).flatten.length ≤ lists.flatten.length := by
  induction lists with
  | nil => exact Nat.le_refl _
  | cons l rest ih =>
    have hl := (dropHead_sublist c l).length_le
    simp only [List.map_cons, List.flatten_cons, List.length_append]
    omega

/-- The next free class heads one of the lists, and is in none of their tails. -/
theorem nextFree?_eq_some {lists : List (List Class)} {c : Class} (h : nextFree? lists = some c) :
    (∃ rest, c :: rest ∈ lists) ∧ ∀ l ∈ lists, ∀ a ∈ l.tail, c.same a = false := by
  constructor
  · obtain ⟨l, hl, hc⟩ := List.mem_filterMap.1 (List.mem_of_find?_eq_some h)
    obtain ⟨rest, rfl⟩ := List.head?_eq_some_iff.1 hc
    exact ⟨rest, hl⟩
  · simpa [isFree] using List.find?_some h

theorem not_all_isEmpty {lists : List (List Class)} {c : Class} (h : nextFree? lists = some c) :
    lists.all List.isEmpty = false := by
  obtain ⟨⟨rest, hl⟩, -⟩ := nextFree?_eq_some h
  rw [List.all_eq_false]
  exact ⟨c :: rest, hl, by simp⟩

/-- Each step of a merge takes away a class at least. -/
theorem length_flatten_dropHead_lt {lists : List (List Class)} {c : Class}
    (h : nextFree? lists = some c) :
    (lists.map (dropHead c)).flatten.length < lists.flatten.length := by
  obtain ⟨⟨rest, hl⟩, -⟩ := nextFree?_eq_some h
  obtain ⟨before, after, rfl⟩ := List.append_of_mem hl
  have hc : dropHead c (c :: rest) = rest := by simp [dropHead, same]
  have hb := length_flatten_dropHead_le c before
  have ha := length_flatten_dropHead_le c after
  simp only [List.map_append, List.map_cons, hc, List.flatten_append, List.flatten_cons,
    List.length_append, List.length_cons]
  omega

/-- What the merge gives is a merge of the lists. -/
theorem Merges.of_merge? {fuel : Nat} {lists : List (List Class)} {out : List Class}
    (h : merge? fuel lists = some out) : Merges lists out := by
  induction fuel generalizing lists out with
  | zero =>
    obtain ⟨he, ho⟩ := Option.ite_none_right_eq_some.1 h
    obtain rfl : [] = out := Option.some.inj ho
    exact .done he
  | succ fuel ih =>
    unfold merge? at h
    split at h
    · next he =>
      obtain rfl : [] = out := Option.some.inj h
      exact .done he
    · split at h
      · cases h
      · next c hc =>
        obtain ⟨rest, hrest, rfl⟩ := Option.map_eq_some_iff.1 h
        exact .step hc (ih hrest)

/-- Conversely every merge is given, if there is fuel for all classes. -/
theorem Merges.merge? {lists : List (List Class)} {out : List Class} (h : Merges lists out)
    {fuel : Nat} (hf : lists.flatten.length ≤ fuel) : Class.merge? fuel lists = some out := by
  induction h generalizing fuel with
  | done he => cases fuel <;> simp [Class.merge?, he]
  | step hc _ ih =>
    have hlt := length_flatten_dropHead_lt hc
    cases fuel with
    | zero => omega
    | succ fuel =>
      have hrest := ih (by omega : _ ≤ fuel)
      simp [Class.merge?, not_all_isEmpty hc, hc, hrest]

/-- **The bound never cuts a merge short.** -/
theorem merged?_eq_some_iff {lists : List (List Class)} {out : List Class} :
    merged? lists = some out ↔ Merges lists out :=
  ⟨Merges.of_merge?, fun h => h.merge? (Nat.le_refl _)⟩

namespace Merges

variable {lists : List (List Class)} {out : List Class}

/-- A merge adds no class. -/
theorem mem (h : Merges lists out) {a : Class} (ha : a ∈ out) : ∃ l ∈ lists, a ∈ l := by
  induction h with
  | done => cases ha
  | @step lists c out hc _ ih =>
    rcases List.mem_cons.1 ha with rfl | ha
    · obtain ⟨⟨rest, hl⟩, -⟩ := nextFree?_eq_some hc
      exact ⟨_, hl, List.mem_cons_self⟩
    · obtain ⟨_, hm, ha⟩ := ih ha
      obtain ⟨l, hl, rfl⟩ := List.mem_map.1 hm
      exact ⟨l, hl, (dropHead_sublist c l).subset ha⟩

theorem known_dropHead (known : ∀ l ∈ lists, ∀ a ∈ l, classes a.id = a) (c : Class) :
    ∀ l ∈ lists.map (dropHead c), ∀ a ∈ l, classes a.id = a := by
  intro _ hm a ha
  obtain ⟨l, hl, rfl⟩ := List.mem_map.1 hm
  exact known l hl a ((dropHead_sublist c l).subset ha)

/-- **A merge keeps the order** of each of the lists. -/
theorem sublist (h : Merges lists out) (known : ∀ l ∈ lists, ∀ a ∈ l, classes a.id = a)
    {l : List Class} (hl : l ∈ lists) : l.Sublist out := by
  induction h generalizing l with
  | done he =>
    obtain rfl : l = [] := List.isEmpty_iff.1 (List.all_eq_true.1 he l hl)
    exact .slnil
  | @step lists c out hc _ ih =>
    have hkept := ih (known_dropHead known c) (List.mem_map_of_mem hl)
    cases l with
    | nil => exact List.nil_sublist _
    | cons d rest =>
      obtain ⟨⟨_, hm⟩, -⟩ := nextFree?_eq_some hc
      have hsame : c.same d = true ↔ c = d :=
        same_iff_eq (known _ hm c List.mem_cons_self) (known _ hl d List.mem_cons_self)
      rw [dropHead_cons] at hkept
      split at hkept
      · next hd =>
        rw [← hsame.1 hd]
        exact hkept.cons_cons c
      · exact hkept.cons c

/-- **A merge repeats nothing**: what is taken is in no tail, so that nothing is left of it. -/
theorem nodup (h : Merges lists out) : out.Nodup := by
  induction h with
  | done => exact List.nodup_nil
  | @step lists c out hc hrest ih =>
    obtain ⟨-, hfree⟩ := nextFree?_eq_some hc
    have hsame : c.same c = true := beq_self_eq_true _
    refine List.nodup_cons.2 ⟨?_, ih⟩
    intro hout
    obtain ⟨_, hm, hc'⟩ := hrest.mem hout
    obtain ⟨l, hl, rfl⟩ := List.mem_map.1 hm
    have htail : c ∉ l.tail := by
      intro ht
      rw [hfree l hl c ht] at hsame
      cases hsame
    cases l with
    | nil => cases hc'
    | cons d rest =>
      rw [dropHead_cons] at hc'
      split at hc'
      · exact htail hc'
      · next hd =>
        rcases List.mem_cons.1 hc' with rfl | hrest
        · exact hd hsame
        · exact htail hrest

end Merges

/-! ## The order of a class and its ancestors -/

/-- All bases are linearised exactly if each one is. -/
theorem linearisedAll?_eq_some {bases : List Class} {orders : List (List Class)}
    (h : linearisedAll? bases = some orders) :
    bases.map linearised? = orders.map some := by
  induction bases generalizing orders with
  | nil =>
    obtain rfl : [] = orders := Option.some.inj h
    rfl
  | cons c rest ih =>
    unfold linearisedAll? at h
    split at h
    · next order orders' hc hrest =>
      obtain rfl : order :: orders' = orders := Option.some.inj h
      rw [List.map_cons, List.map_cons, hc, ih hrest]
    · cases h

/-- The order of a class is the class before the merged orders of its bases and the bases. -/
theorem linearised?_eq_some {c : Class} {order : List Class} (h : c.linearised? = some order) :
    ∃ orders out, c.bases.map linearised? = orders.map some ∧ Merges (orders ++ [c.bases]) out ∧
      order = c :: out := by
  cases c with
  | mk id name bases =>
    unfold linearised? at h
    split at h
    · cases h
    · next orders ho =>
      obtain ⟨out, hout, rfl⟩ := Option.map_eq_some_iff.1 h
      exact ⟨orders, out, linearisedAll?_eq_some ho, merged?_eq_some_iff.1 hout, rfl⟩

/-- The list has the class and its ancestors, and no class after one that it descends from. -/
structure Linear (c : Class) (order : List Class) : Prop where
  mem_iff : ∀ a, a ∈ order ↔ c.Descends a
  ahead : order.Pairwise fun a d => ¬ d.Descends a

/-- In a linear order a class stands before the others that it descends from. -/
theorem Linear.before {c a d : Class} {order : List Class} (h : c.Linear order)
    (hd : c.Descends d) (ha : d.Descends a) (hne : d ≠ a) : [d, a].Sublist order := by
  obtain ⟨before, after, rfl⟩ := List.append_of_mem ((h.mem_iff d).2 hd)
  have hm : a ∈ before ++ d :: after := (h.mem_iff a).2 (hd.trans ha)
  rcases List.mem_append.1 hm with hm | hm
  · have hnot := (List.pairwise_append.1 h.ahead).2.2 a hm d List.mem_cons_self
    exact absurd ha hnot
  · have hm' : a ∈ after := (List.mem_cons.1 hm).resolve_left hne.symm
    have hs : [d, a].Sublist (d :: after) := (List.singleton_sublist.2 hm').cons_cons d
    exact hs.trans (List.sublist_append_right before _)

/-- Two classes cannot stand both ways round in a list without repetitions. -/
theorem not_sublist_swap {l : List Class} (hl : l.Nodup) {a d : Class} (had : [a, d].Sublist l) :
    ¬ [d, a].Sublist l := by
  intro hda
  induction l with
  | nil => cases had
  | cons c rest ih =>
    obtain ⟨hc, hrest⟩ := List.nodup_cons.1 hl
    cases had with
    | cons _ had =>
      cases hda with
      | cons _ hda => exact ih hrest had hda
      | cons_cons => exact hc (had.subset (by simp))
    | cons_cons _ had =>
      cases hda with
      | cons _ hda => exact hc (hda.subset (by simp))
      | cons_cons => exact hc (had.subset (by simp))

/-- A merge of linear orders has no class after one that it descends from: in the order of a base
that has the two they stand the right way round, and the merge keeps them so. -/
theorem Merges.ahead {lists : List (List Class)} {out : List Class} (h : Merges lists out)
    (known : ∀ l ∈ lists, ∀ a ∈ l, classes a.id = a)
    (linear : ∀ d ∈ out, ∃ l ∈ lists, ∃ b : Class, b.Descends d ∧ b.Linear l) :
    out.Pairwise fun a d => ¬ d.Descends a := by
  rw [List.pairwise_iff_forall_sublist]
  intro a d had hda
  obtain ⟨l, hl, b, hbd, hlin⟩ := linear d (had.subset (by simp))
  have hne : a ≠ d := List.pairwise_iff_forall_sublist.1 h.nodup had
  have hrev : [d, a].Sublist out := (hlin.before hbd hda hne.symm).trans (h.sublist known hl)
  exact not_sublist_swap h.nodup had hrev

/-- **One class from its bases**: the class before the merge of linear orders of its bases, and of
the bases themselves, is a linear order. -/
theorem linear_of_merges {c : Class} (hc : c.IdentifiedBy classes) {orders : List (List Class)}
    {out : List Class} (hm : Merges (orders ++ [c.bases]) out)
    (ofBase : ∀ b ∈ c.bases, ∃ l ∈ orders, b.Linear l)
    (ofOrder : ∀ l ∈ orders, ∃ b ∈ c.bases, b.Linear l) : c.Linear (c :: out) := by
  have inherited : ∀ l ∈ orders ++ [c.bases], ∀ a ∈ l, ∃ b ∈ c.bases, b.Descends a := by
    intro l hl a ha
    rcases List.mem_append.1 hl with hl | hl
    · obtain ⟨b, hb, hlin⟩ := ofOrder l hl
      exact ⟨b, hb, (hlin.mem_iff a).1 ha⟩
    · rw [List.mem_singleton.1 hl] at ha
      exact ⟨a, ha, .self⟩
  have known : ∀ l ∈ orders ++ [c.bases], ∀ a ∈ l, classes a.id = a := by
    intro l hl a ha
    obtain ⟨b, hb, hba⟩ := inherited l hl a ha
    exact hc a (.base hb hba)
  have mem_out : ∀ a, a ∈ out ↔ ∃ b ∈ c.bases, b.Descends a := by
    intro a
    constructor
    · intro ha
      obtain ⟨l, hl, ha⟩ := hm.mem ha
      exact inherited l hl a ha
    · rintro ⟨b, hb, hba⟩
      obtain ⟨l, hl, hlin⟩ := ofBase b hb
      have hsub := hm.sublist known (List.mem_append_left [c.bases] hl)
      exact hsub.subset ((hlin.mem_iff a).2 hba)
  refine ⟨?_, ?_⟩
  · intro a
    rw [List.mem_cons, descends_iff, mem_out]
  · refine List.pairwise_cons.2 ⟨?_, hm.ahead known ?_⟩
    · intro d hd
      obtain ⟨b, hb, hbd⟩ := (mem_out d).1 hd
      exact not_descends_of_mem_bases hb hbd
    · intro d hd
      obtain ⟨b, hb, hbd⟩ := (mem_out d).1 hd
      obtain ⟨l, hl, hlin⟩ := ofBase b hb
      exact ⟨l, List.mem_append_left _ hl, b, hbd, hlin⟩

/-- **A class that has a linear order stands in it before all its ancestors**, and so does each of
them. -/
theorem linear_of_linearised? {c : Class} (hc : c.IdentifiedBy classes) {order : List Class}
    (h : c.linearised? = some order) : c.Linear order := by
  induction c using bases_induction generalizing order with
  | step c ih =>
    obtain ⟨orders, out, ho, hm, rfl⟩ := linearised?_eq_some h
    obtain ⟨-, hbases⟩ := identifiedBy_iff.1 hc
    refine linear_of_merges hc hm ?_ ?_
    · intro b hb
      have hl : b.linearised? ∈ orders.map some := ho ▸ List.mem_map_of_mem hb
      obtain ⟨l, hl, hbl⟩ := List.mem_map.1 hl
      exact ⟨l, hl, ih b hb (hbases b hb) hbl.symm⟩
    · intro l hl
      have hb : some l ∈ c.bases.map linearised? := ho ▸ List.mem_map_of_mem hl
      obtain ⟨b, hb, hbl⟩ := List.mem_map.1 hb
      exact ⟨b, hb, ih b hb (hbases b hb) hbl⟩

end SqlTemplate.Class
