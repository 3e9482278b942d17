import SqlTemplate.Class.Order

/-!
# Dispatching on classes

A dispatcher knows writers registered for classes and finds, for a class, the writer of the first of
its ancestors that has one (`Dispatcher.find`). It remembers what it found, also that it found
nothing (`Dispatcher.get`), until the next registration.
-/

namespace SqlTemplate

/-- Writers registered for classes, the latest first, and the remembered results of look-ups, the
earliest first. -/
structure Dispatcher (W : Type) where
  registered : List (Class × W)
  remembered : List (Class × Option W)

namespace Dispatcher

variable {W : Type}

def empty : Dispatcher W := ⟨[], []⟩

/-- Registers a writer for a class, in place of any earlier one, and forgets all look-ups. -/
def register (d : Dispatcher W) (c : Class) (w : W) : Dispatcher W :=
  ⟨(c, w) :: d.registered, []⟩

def clear (d : Dispatcher W) : Dispatcher W := { d with remembered := [] }

/-- The writer registered last for the class itself. -/
def own? (d : Dispatcher W) (c : Class) : Option W :=
  (d.registered.find? fun entry => c.same entry.1).map (·.2)

/-- The writer of the first class of the ancestry that has one. -/
def resolve (d : Dispatcher W) (c : Class) : Option W := c.ancestry.findSome? d.own?

def memory? (d : Dispatcher W) (c : Class) : Option (Option W) :=
  (d.remembered.find? fun entry => c.same entry.1).map (·.2)

/-- The writer for a class: the remembered one, or else the resolved one. -/
def find (d : Dispatcher W) (c : Class) : Option W := (d.memory? c).getD (d.resolve c)

/-- The writer for a class, and the dispatcher that remembers it. -/
def get (d : Dispatcher W) (c : Class) : Option W × Dispatcher W :=
  match d.memory? c with
  | some w => (w, d)
  | none => (d.resolve c, { d with remembered := d.remembered ++ [(c, d.resolve c)] })

end Dispatcher

end SqlTemplate
