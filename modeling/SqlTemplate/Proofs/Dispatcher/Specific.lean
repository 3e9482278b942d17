import SqlTemplate.Proofs.Class.Linearisation
import SqlTemplate.Proofs.Dispatcher.Memory

/-!
# The writer that is found is a most specific one

Several classes that a value's class descends from may have writers of their own. A look-up gives
the writer of one that none of the others descends from (`IsMostSpecific`), whatever the inheritance
graph, as long as it has a linear order (`get_mostSpecific`). It is the first registered class of
that order, and a class stands in the order before all that it descends from (`Class.Linear`).
-/

namespace SqlTemplate.Dispatcher

variable {W : Type} {classes : ClassId → Class}

/-- `t` has writers of its own, and so has no other class that descends from it among `c` and what
`c` inherits from. -/
structure IsMostSpecific (registrations : List (Class × W)) (c t : Class) : Prop where
  descends : c.Descends t
  registered : writersFor t registrations ≠ []
  specific : ∀ s, c.Descends s → writersFor s registrations ≠ [] → s.Descends t → s = t

/-- Where a class is registered the writers of its proper ancestors are passed over. -/
theorem IsMostSpecific.ne_of_descends {registrations : List (Class × W)} {c t s a : Class}
    (h : IsMostSpecific registrations c t) (hs : c.Descends s)
    (hr : writersFor s registrations ≠ []) (ha : s.Descends a) (hne : s ≠ a) : t ≠ a := by
  rintro rfl
  exact hne (h.specific s hs hr ha)

/-- The first registered class of a linear order is most specific. -/
theorem latest?_mostSpecific {registrations : List (Class × W)} {c : Class}
    (h : c.Linear c.ancestry) {w : W} (hw : latest? registrations c = some w) :
    ∃ t, IsMostSpecific registrations c t ∧ (writersFor t registrations).getLast? = some w := by
  obtain ⟨before, t, after, ho, hlast, hnone⟩ := List.findSome?_eq_some_iff.1 hw
  have hlin := h.ahead
  rw [ho] at hlin
  have hmem : ∀ a, a ∈ before ++ t :: after ↔ c.Descends a := ho ▸ h.mem_iff
  refine ⟨t, ⟨(hmem t).1 (by simp), ?_, ?_⟩, hlast⟩
  · intro hempty
    rw [hempty] at hlast
    cases hlast
  · intro s hs hr hst
    rcases List.mem_append.1 ((hmem s).2 hs) with hb | ha
    · exact absurd (List.getLast?_eq_none_iff.1 (hnone s hb)) hr
    · rcases List.mem_cons.1 ha with rfl | ha
      · rfl
      · have hnot := List.rel_of_pairwise_cons (List.pairwise_append.1 hlin).2.1 ha
        exact absurd hst hnot

/-- No writer is found exactly if no ancestor has one. -/
theorem latest?_eq_none_iff {registrations : List (Class × W)} {c : Class}
    (h : c.Linear c.ancestry) :
    latest? registrations c = none ↔ ∀ t, c.Descends t → writersFor t registrations = [] := by
  rw [latest?, List.findSome?_eq_none_iff]
  constructor
  · intro hn t ht
    exact List.getLast?_eq_none_iff.1 (hn t ((h.mem_iff t).2 ht))
  · intro hn t ht
    exact List.getLast?_eq_none_iff.2 (hn t ((h.mem_iff t).1 ht))

/-- The ancestry of a class that can be linearised is a linearisation. -/
theorem linear_ancestry {c : Class} (hc : c.IdentifiedBy classes) (h : c.linearised?.isSome) :
    c.Linear c.ancestry := by
  obtain ⟨order, ho⟩ := Option.isSome_iff_exists.1 h
  have ha : c.ancestry = order := by rw [Class.ancestry, ho, Option.getD_some]
  rw [ha]
  exact Class.linear_of_linearised? hc ho

/-- **Dispatch picks a most specific writer.** After any calls, for a value whose class has a linear
order: the writer that is found is the last one of a most specific registered class; nothing is
found exactly where no class that the value's class descends from is registered. So a boolean does
not get the writer of whole numbers, nor a civil time that of dates, where both have their own. -/
theorem get_mostSpecific (first : List (Class × W)) (calls : List (Call classes W)) (v : Value)
    (hv : v.cls.IdentifiedBy classes) (ho : v.cls.linearised?.isSome) :
    let made := first ++ registrations calls
    let found := (((ofRegistrations first).run calls).get v.cls).1
    (∀ w, found = some w → ∃ t, IsMostSpecific made v.cls t ∧
      (writersFor t made).getLast? = some w ∧
      (v.cls.Descends Class.boolean → writersFor Class.boolean made ≠ [] → t ≠ Class.integer) ∧
      (v.cls.Descends Class.dateTime → writersFor Class.dateTime made ≠ [] → t ≠ Class.date)) ∧
    (found = none ↔ ∀ t, v.cls.Descends t → writersFor t made = []) := by
  intro made found
  have hlin := linear_ancestry hv ho
  have hsound : ((ofRegistrations first).run calls).Sound classes :=
    (Sound.ofRegistrations first).run calls
  have hfound : found = latest? made v.cls := by
    rw [← resolve_run first calls]
    exact hsound.get_fst (hv v.cls .self)
  refine ⟨?_, ?_⟩
  · intro w hw
    obtain ⟨t, ht, hlast⟩ := latest?_mostSpecific hlin (hfound ▸ hw)
    refine ⟨t, ht, hlast, ?_, ?_⟩
    · intro hs hr
      have hne : Class.boolean ≠ Class.integer := by
        simp [Class.boolean, Class.integer, Class.known]
      exact ht.ne_of_descends hs hr (.base (.head _) .self) hne
    · intro hs hr
      have hne : Class.dateTime ≠ Class.date := by simp [Class.dateTime, Class.date, Class.known]
      exact ht.ne_of_descends hs hr (.base (.head _) .self) hne
  · rw [hfound]
    exact latest?_eq_none_iff hlin

/-! ## Two ways to the same ancestor -/

def leftClass : Class := .mk (.declared 1) "Left".toList [baseClass]

def rightClass : Class := .mk (.declared 2) "Right".toList [baseClass]

def bottomClass : Class := .mk (.declared 3) "Bottom".toList [leftClass, rightClass]

def diamond : ClassId → Class
  | .declared 0 => baseClass
  | .declared 1 => leftClass
  | .declared 2 => rightClass
  | .declared 3 => bottomClass
  | _ => Class.object

/-- The ancestor is registered after the class on the right, and both after a look-up in vain. -/
def diamondCalls : List (Call diamond Writer) :=
  [.get ⟨.object bottomClass .null .null, rfl⟩, .register rightClass middleWriter,
    .register baseClass baseWriter]

/-- In a diamond the writer of the middle comes before that of the top. -/
theorem get_mostSpecific_diamond :
    bottomClass.IdentifiedBy diamond ∧ bottomClass.linearised?.isSome ∧
    (((ofRegistrations []).run diamondCalls).get bottomClass).1 = some middleWriter ∧
    ∃ t, IsMostSpecific (registrations diamondCalls) bottomClass t ∧
      (writersFor t (registrations diamondCalls)).getLast? = some middleWriter := by
  have identified : bottomClass.IdentifiedBy diamond := by
    have object : Class.object.IdentifiedBy diamond :=
      Class.identifiedBy_iff.2 ⟨rfl, List.forall_mem_nil _⟩
    have base : baseClass.IdentifiedBy diamond :=
      Class.identifiedBy_iff.2 ⟨rfl, List.forall_mem_singleton.2 object⟩
    have left : leftClass.IdentifiedBy diamond :=
      Class.identifiedBy_iff.2 ⟨rfl, List.forall_mem_singleton.2 base⟩
    have right : rightClass.IdentifiedBy diamond :=
      Class.identifiedBy_iff.2 ⟨rfl, List.forall_mem_singleton.2 base⟩
    exact Class.identifiedBy_iff.2
      ⟨rfl, List.forall_mem_cons.2 ⟨left, List.forall_mem_singleton.2 right⟩⟩
  have linear : bottomClass.linearised?.isSome := rfl
  have found : (((ofRegistrations []).run diamondCalls).get bottomClass).1 = some middleWriter :=
    rfl
  obtain ⟨specific, -⟩ := get_mostSpecific [] diamondCalls (.object bottomClass .null .null)
    identified linear
  obtain ⟨t, ht, hlast, -⟩ := specific middleWriter found
  exact ⟨identified, linear, found, t, ht, hlast⟩

end SqlTemplate.Dispatcher
