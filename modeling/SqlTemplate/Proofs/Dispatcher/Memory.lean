import SqlTemplate.Literal.Writer

/-!
# What a dispatcher remembers does not show

A dispatcher is told of writers, asked for them and made to forget, in any order (`Dispatcher.run`).
What it answers depends on the registrations alone: a look-up gives the writer registered last for
the first class of the ancestry for which there is one (`get_run`). The invariant is `Sound`: each
result that is remembered, also that there is no writer, is what the ancestry gives at present. A
registration keeps it by forgetting everything, a look-up by adding only what it has just resolved.

An identity stands for one class. So that remembered results can be found by identity, the values
that are looked up are those of known classes (`Known`), one to each identity.
-/

namespace SqlTemplate.Dispatcher

/-- A value of a class that goes by its identity among the given classes. -/
abbrev Known (classes : ClassId → Class) := { v : Value // classes v.cls.id = v.cls }

variable {W : Type} {classes : ClassId → Class}

inductive Call (classes : ClassId → Class) (W : Type) where
  | register (c : Class) (w : W)
  | get (v : Known classes)
  | clear

def call (d : Dispatcher W) : Call classes W → Dispatcher W
  | .register c w => d.register c w
  | .get v => (d.get v.val.cls).2
  | .clear => d.clear

def run (d : Dispatcher W) (calls : List (Call classes W)) : Dispatcher W := calls.foldl call d

/-- The dispatcher with writers registered one after another. -/
def ofRegistrations (registrations : List (Class × W)) : Dispatcher W :=
  registrations.foldl (fun d entry => d.register entry.1 entry.2) empty

/-- The standard dispatcher comes of registering the standard writers one by one. -/
theorem standard_eq_ofRegistrations : Writer.dispatcher =
    ofRegistrations (Standard.registrations.map fun entry => (entry.1, .standard entry.2)) := by
  rw [ofRegistrations, List.foldl_map]
  rfl

/-! ## Registrations -/

def Call.registration? : Call classes W → Option (Class × W)
  | register c w => some (c, w)
  | _ => none

/-- The registrations among the calls, in order. -/
def registrations (calls : List (Call classes W)) : List (Class × W) :=
  calls.filterMap Call.registration?

/-- The writers registered for a class itself, in order. -/
def writersFor (c : Class) (registrations : List (Class × W)) : List W :=
  (registrations.filter fun entry => c.same entry.1).map (·.2)

/-- The writer registered last for the first class of the ancestry for which there is one. -/
def latest? (registrations : List (Class × W)) (c : Class) : Option W :=
  c.ancestry.findSome? fun a => (writersFor a registrations).getLast?

/-- Registrations for different classes can be made in either order. -/
theorem writersFor_swap {c c' : Class} (h : c.same c' = false) (w w' : W)
    (before after : List (Class × W)) (a : Class) :
    writersFor a (before ++ (c, w) :: (c', w') :: after) =
      writersFor a (before ++ (c', w') :: (c, w) :: after) := by
  have hne : a.same c = true → a.same c' = false := by
    intro hc
    have hid : a.id = c.id := eq_of_beq hc
    rw [← h, Class.same, Class.same, hid]
  unfold writersFor
  rw [List.filter_append, List.filter_append]
  by_cases hc : a.same c = true
  · simp [hc, hne hc]
  · simp [hc, List.filter_cons]

/-- Only the latest writer of each class counts. -/
theorem latest?_congr {l l' : List (Class × W)} (h : ∀ c, writersFor c l = writersFor c l')
    (c : Class) : latest? l c = latest? l' c := by
  have hf : (fun a => (writersFor a l).getLast?) = fun a => (writersFor a l').getLast? := by
    funext a
    rw [h a]
  rw [latest?, latest?, hf]

/-- Getting a writer registers none. -/
theorem registered_get (d : Dispatcher W) (c : Class) :
    (d.get c).2.registered = d.registered := by
  unfold get
  split <;> rfl

theorem registered_call (d : Dispatcher W) (call : Call classes W) :
    (d.call call).registered = call.registration?.toList ++ d.registered := by
  cases call with
  | register c w => rfl
  | get v => exact d.registered_get v.val.cls
  | clear => rfl

/-- A run registers what its calls register, the latest first. -/
theorem registered_run (d : Dispatcher W) (calls : List (Call classes W)) :
    (d.run calls).registered = (registrations calls).reverse ++ d.registered := by
  induction calls generalizing d with
  | nil => rfl
  | cons call rest ih =>
    have hr : registrations (call :: rest) = call.registration?.toList ++ registrations rest := by
      cases call <;> rfl
    have hs : (call.registration?.toList).reverse = call.registration?.toList := by
      cases call <;> rfl
    rw [run, List.foldl_cons, ← run, ih, registered_call, hr, List.reverse_append, hs,
      List.append_assoc]

/-- The entry found first is the one registered last. -/
theorem own?_of_registered {d : Dispatcher W} {registrations : List (Class × W)}
    (h : d.registered = registrations.reverse) (c : Class) :
    d.own? c = (writersFor c registrations).getLast? := by
  rw [own?, h, ← List.head?_filter, List.filter_reverse, List.head?_reverse, writersFor,
    List.getLast?_map]

/-- Without memory the latest writer of the first registered ancestor is found. -/
theorem resolve_of_registered {d : Dispatcher W} {registrations : List (Class × W)}
    (h : d.registered = registrations.reverse) (c : Class) :
    d.resolve c = latest? registrations c := by
  have hf : d.own? = fun a => (writersFor a registrations).getLast? := by
    funext a
    exact own?_of_registered h a
  rw [resolve, hf, latest?]

/-- To start with registrations is to make them. -/
theorem ofRegistrations_eq_run (classes : ClassId → Class) (first : List (Class × W)) :
    ofRegistrations first =
      empty.run (first.map fun entry => (Call.register entry.1 entry.2 : Call classes W)) := by
  rw [run, List.foldl_map]
  rfl

theorem registrations_register (first : List (Class × W)) :
    registrations (first.map fun entry => (Call.register entry.1 entry.2 : Call classes W)) =
      first := by
  rw [registrations, List.filterMap_map]
  exact List.filterMap_some

/-- So it is after any run. -/
theorem resolve_run (first : List (Class × W)) (calls : List (Call classes W)) (c : Class) :
    ((ofRegistrations first).run calls).resolve c = latest? (first ++ registrations calls) c := by
  apply resolve_of_registered
  have h : (empty : Dispatcher W).registered = [] := rfl
  rw [registered_run, ofRegistrations_eq_run classes, registered_run, registrations_register, h,
    List.append_nil, List.reverse_append]

/-! ## Remembered results -/

/-- Each remembered result is that of a known class, and what its ancestry gives at present. -/
structure Sound (classes : ClassId → Class) (d : Dispatcher W) : Prop where
  known : ∀ entry ∈ d.remembered, classes entry.1.id = entry.1
  resolved : ∀ entry ∈ d.remembered, entry.2 = d.resolve entry.1

namespace Sound

variable {d : Dispatcher W}

/-- An empty memory is sound. -/
theorem of_remembered_nil (h : d.remembered = []) : d.Sound classes := by
  refine ⟨?_, ?_⟩ <;>
    · intro entry he
      rw [h] at he
      cases he

/-- What is found under the identity of a known class is what its ancestry gives. -/
theorem memory? (h : d.Sound classes) {c : Class} (hc : classes c.id = c) {w : Option W}
    (hm : d.memory? c = some w) : w = d.resolve c := by
  obtain ⟨entry, hf, rfl⟩ := Option.map_eq_some_iff.1 hm
  have he : entry ∈ d.remembered := List.mem_of_find?_eq_some hf
  have hs : c.same entry.1 = true := by simpa using List.find?_some hf
  have hid : c.id = entry.1.id := eq_of_beq hs
  have hce : c = entry.1 := by rw [← hc, hid, h.known entry he]
  rw [hce]
  exact h.resolved entry he

/-- With a sound memory the answer is what would be found without one. -/
theorem get_fst (h : d.Sound classes) {c : Class} (hc : classes c.id = c) :
    (d.get c).1 = d.resolve c := by
  unfold Dispatcher.get
  split
  · rename_i w hm
    exact h.memory? hc hm
  · rfl

/-- And the memory stays sound. -/
theorem get_snd (h : d.Sound classes) {c : Class} (hc : classes c.id = c) :
    (d.get c).2.Sound classes := by
  unfold Dispatcher.get
  split
  · exact h
  · refine ⟨?_, ?_⟩
    · intro entry he
      rcases List.mem_append.1 he with he | he
      · exact h.known entry he
      · rw [List.mem_singleton.1 he]
        exact hc
    · intro entry he
      rcases List.mem_append.1 he with he | he
      · exact h.resolved entry he
      · rw [List.mem_singleton.1 he]
        rfl

/-- **One call** keeps what is remembered sound. -/
theorem call (h : d.Sound classes) (call : Call classes W) : (d.call call).Sound classes := by
  cases call with
  | register c w => exact of_remembered_nil rfl
  | get v => exact h.get_snd v.property
  | clear => exact of_remembered_nil rfl

/-- **Any number of calls** keep what is remembered sound. -/
theorem run (h : d.Sound classes) (calls : List (Call classes W)) :
    (d.run calls).Sound classes := by
  induction calls generalizing d with
  | nil => exact h
  | cons call rest ih => exact ih (h.call call)

/-- A dispatcher begins sound. -/
theorem ofRegistrations (first : List (Class × W)) :
    (Dispatcher.ofRegistrations first).Sound classes := by
  have h : (empty : Dispatcher W).Sound classes := of_remembered_nil rfl
  rw [ofRegistrations_eq_run classes]
  exact h.run _

end Sound

/-! ## Look-ups -/

/-- **What is remembered does not show**: after any calls on a dispatcher that starts with some
registrations (none, or the standard ones), a look-up gives the writer registered last for the first
class of the ancestry for which there is one. Other look-ups make no difference, nor does the order
of registrations for different classes; and each remembered result is the one that the ancestry
gives at present. -/
theorem get_run (first : List (Class × W)) (calls : List (Call classes W)) (v : Known classes) :
    let d := (ofRegistrations first).run calls
    let made := first ++ registrations calls
    (d.get v.val.cls).1 = latest? made v.val.cls ∧
    (∀ (first' : List (Class × W)) (calls' : List (Call classes W)),
      (∀ c, writersFor c (first' ++ registrations calls') = writersFor c made) →
        (((ofRegistrations first').run calls').get v.val.cls).1 = (d.get v.val.cls).1) ∧
    (∀ entry ∈ d.remembered,
      entry.2 = d.resolve entry.1 ∧ d.resolve entry.1 = latest? made entry.1) := by
  intro d made
  have sound : ∀ (first : List (Class × W)) (calls : List (Call classes W)),
      ((ofRegistrations first).run calls).Sound classes := by
    intro first calls
    exact (Sound.ofRegistrations first).run calls
  have get_eq : ∀ (first : List (Class × W)) (calls : List (Call classes W)),
      (((ofRegistrations first).run calls).get v.val.cls).1 =
        latest? (first ++ registrations calls) v.val.cls := by
    intro first calls
    rw [(sound first calls).get_fst v.property, resolve_run]
  refine ⟨get_eq first calls, ?_, ?_⟩
  · intro first' calls' h
    rw [get_eq first' calls', get_eq first calls]
    exact latest?_congr h v.val.cls
  · intro entry he
    exact ⟨(sound first calls).resolved entry he, resolve_run first calls entry.1⟩

/-! ## A class between two others -/

def baseClass : Class := .mk (.declared 0) "Base".toList [Class.object]

def middleClass : Class := .mk (.declared 1) "Middle".toList [baseClass]

def leafClass : Class := .mk (.declared 2) "Leaf".toList [middleClass]

def leafValue : Known fun _ => leafClass := ⟨.object leafClass .null .null, rfl⟩

def baseWriter : Writer := .program [.text "base".toList]

def middleWriter : Writer := .program [.text "middle".toList]

/-- A look-up that found nothing, and one that found the writer of a distant ancestor. -/
def lateCalls : List (Call (fun _ => leafClass) Writer) :=
  [.get leafValue, .register baseClass baseWriter, .get leafValue,
    .register middleClass middleWriter]

def earlyCalls : List (Call (fun _ => leafClass) Writer) :=
  [.register middleClass middleWriter, .get leafValue, .clear, .register baseClass baseWriter]

/-- A writer that is registered late takes effect, and registrations in another order that leave
each class its latest writer find the same. -/
theorem get_run_middle :
    ((Writer.dispatcher.run lateCalls).get leafClass).1 = some middleWriter ∧
    (∀ c, writersFor c (registrations earlyCalls) = writersFor c (registrations lateCalls)) ∧
    ((Writer.dispatcher.run earlyCalls).get leafClass).1 = some middleWriter := by
  rw [standard_eq_ofRegistrations]
  have swap : ∀ before c, writersFor c (before ++ registrations earlyCalls) =
      writersFor c (before ++ registrations lateCalls) := by
    intro before c
    exact writersFor_swap rfl middleWriter baseWriter before [] c
  obtain ⟨late, same, -⟩ := get_run (Standard.registrations.map fun entry =>
    (entry.1, Writer.standard entry.2)) lateCalls leafValue
  have early := same _ earlyCalls (swap _)
  refine ⟨late.trans rfl, swap [], ?_⟩
  exact early.trans (late.trans rfl)

end SqlTemplate.Dispatcher
