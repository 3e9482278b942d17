import SqlTemplate.Proofs.Dispatcher.Memory
import SqlTemplate.Proofs.Literal.Reach

/-!
# What a registration changes

A writer that is registered for a class is for the values of those classes of whose ancestors it is
the first with a writer, the new one included (`Dispatcher.first?`). For any other class the writer
stays the same (`resolve_register`), whatever has been looked up before; so a value is written as
before, down to the text in front of a fault, unless its writing comes upon a value that the writer
is for (`writeLiteral_register`). An identity stands for one class, so the classes of these values
are among known ones.
-/

namespace SqlTemplate.Dispatcher

section

variable {W : Type} {d : Dispatcher W} {T c : Class} {w : W}

/-- The first class of the ancestry for which a writer is registered. -/
def first? (d : Dispatcher W) (c : Class) : Option Class :=
  c.ancestry.find? fun a => (d.own? a).isSome

/-- A registration is the writer of its own class, and of no other. -/
theorem own?_register (a : Class) :
    (d.register T w).own? a = if a.same T then some w else d.own? a := by
  unfold own? register
  rw [List.find?_cons]
  cases a.same T <;> rfl

/-- The writer of a class stays the same unless the new one comes first among its ancestors. -/
theorem resolve_register
    (h : ∀ a, (d.register T w).first? c = some a → a.same T = false) :
    (d.register T w).resolve c = d.resolve c := by
  unfold first? at h
  unfold resolve
  generalize c.ancestry = ancestors at h
  induction ancestors with
  | nil => rfl
  | cons a rest ih =>
    rw [List.findSome?_cons, List.findSome?_cons]
    rw [List.find?_cons] at h
    cases ho : (d.register T w).own? a with
    | some w' =>
      have ha : a.same T = false := h a (by rw [ho]; rfl)
      rw [own?_register, ha, if_neg Bool.false_ne_true] at ho
      rw [ho]
    | none =>
      have hn : d.own? a = none := by
        rw [own?_register] at ho
        split at ho
        · cases ho
        · exact ho
      rw [hn]
      refine ih ?_
      rw [ho] at h
      exact h

/-- A sound memory finds what would be found without it. -/
theorem Sound.find_eq_resolve {classes : ClassId → Class} (h : d.Sound classes)
    (hc : classes c.id = c) : d.find c = d.resolve c := by
  unfold find
  cases hm : d.memory? c with
  | none => rfl
  | some w => exact h.memory? hc hm

end

variable {classes : ClassId → Class}

/-- **A registration changes nothing for the values that it is not for**: after any registrations
and look-ups, a value is written under one more registration as it is without, with the same text,
also in front of a fault, and the same fault, unless its writing comes upon a value, neither null
nor one that writes itself, for whose class the newly registered one is the first of the ancestors
that has a writer. -/
theorem writeLiteral_register (first : List (Class × Writer)) (calls : List (Call classes Writer))
    (T : Class) (w : Writer) (v : Value) :
    let d := (ofRegistrations first).run calls
    (∀ u, d.Reaches depthLimit v u → u.isDispatched = true → classes u.cls.id = u.cls ∧
      ∀ a, (d.register T w).first? u.cls = some a → a.same T = false) →
    writeLiteral (d.register T w) v = writeLiteral d v := by
  intro d h
  have sound : d.Sound classes := (Sound.ofRegistrations first).run calls
  refine write_congr depthLimit v ?_
  intro u hu hd
  obtain ⟨known, other⟩ := h u hu hd
  calc (d.register T w).find u.cls
      = (d.register T w).resolve u.cls := rfl
    _ = d.resolve u.cls := resolve_register other
    _ = d.find u.cls := (sound.find_eq_resolve known).symm

/-! ## A class between two others -/

def shelfClasses : ClassId → Class
  | .predefined .list => Class.list
  | .predefined .queue => Class.queue
  | .predefined .integer => Class.integer
  | .predefined .text => Class.text
  | .declared 0 => baseClass
  | .declared 1 => middleClass
  | _ => leafClass

def baseValue : Value := .object baseClass .null (.text "x".toList)

def leafInstance : Value := .object leafClass .null .null

/-- A queue, which no writer is registered for. -/
def shelfQueue : Value := .sequence .queue [.null, .identifier "a".toList, baseValue]

/-- The queue, and behind it a value that writing does not come upon any more. -/
def shelf : Value := .list [shelfQueue, leafInstance]

/-- The program writes a number and the payload of its value, and then fails. -/
def shelfCalls : List (Call shelfClasses Writer) :=
  [.get ⟨.sequence .queue [], rfl⟩, .get ⟨leafInstance, rfl⟩,
    .register baseClass (.program [.text "base ".toList, .literal (.int 7), .payload,
      .raise (.foreign "ValueError".toList "full".toList), .literal leafInstance]),
    .get ⟨leafInstance, rfl⟩]

def shelfDispatcher : Dispatcher Writer :=
  (ofRegistrations (Standard.registrations.map fun entry =>
    (entry.1, Writer.standard entry.2))).run shelfCalls

/-- All that writing the shelf comes by. -/
theorem reaches_shelf {u : Value} (h : shelfDispatcher.Reaches depthLimit shelf u) :
    u = shelf ∨ u = shelfQueue ∨ u = .null ∨ u = .identifier "a".toList ∨ u = baseValue ∨
      u = .int 7 ∨ u = .text "x".toList := by
  have hshelf : shelfDispatcher.directParts depthLimit shelf = [(depthLimit, shelfQueue)] := rfl
  have hqueue : shelfDispatcher.directParts depthLimit shelfQueue =
    [(depthLimit, .null), (depthLimit, .identifier "a".toList), (depthLimit, baseValue)] := rfl
  have hbase : shelfDispatcher.directParts depthLimit baseValue =
    [(999, .int 7), (depthLimit, .text "x".toList)] := rfl
  rcases reaches_iff.1 h with rfl | ⟨p, hp, h⟩
  · simp
  rw [hshelf] at hp
  obtain rfl := List.mem_singleton.1 hp
  rcases reaches_iff.1 h with rfl | ⟨p, hp, h⟩
  · simp
  rw [hqueue] at hp
  simp only [List.mem_cons, List.not_mem_nil, or_false] at hp
  rcases hp with rfl | rfl | rfl
  · simp [h.eq_of_nil rfl]
  · simp [h.eq_of_nil rfl]
  rcases reaches_iff.1 h with rfl | ⟨p, hp, h⟩
  · simp
  rw [hbase] at hp
  rcases List.mem_pair.1 hp with rfl | rfl
  · simp [h.eq_of_nil rfl]
  · simp [h.eq_of_nil rfl]

/-- A writer for a class in the middle changes instances of the classes above it, but nothing whose
writing does not come upon one of these. -/
theorem writeLiteral_register_shelf :
    writeLiteral shelfDispatcher shelf =
      ⟨"[[NULL,`a`,base 7'x'".toList, some (.foreign "ValueError".toList "full".toList)⟩ ∧
    writeLiteral (shelfDispatcher.register middleClass middleWriter) shelf =
      writeLiteral shelfDispatcher shelf ∧
    writeLiteral (shelfDispatcher.register middleClass middleWriter) leafInstance =
      .ok "middle".toList := by
  refine ⟨rfl, ?_, rfl⟩
  refine writeLiteral_register _ shelfCalls middleClass middleWriter shelf ?_
  intro u hu hd
  rcases reaches_shelf hu with rfl | rfl | rfl | rfl | rfl | rfl | rfl
  · exact ⟨rfl, by rintro a ⟨⟩; rfl⟩
  · exact ⟨rfl, by rintro a ⟨⟩⟩
  · cases hd
  · cases hd
  · exact ⟨rfl, by rintro a ⟨⟩; rfl⟩
  · exact ⟨rfl, by rintro a ⟨⟩; rfl⟩
  · exact ⟨rfl, by rintro a ⟨⟩; rfl⟩

end SqlTemplate.Dispatcher
