/-!
# Remembering recent results

A `Recent` memory keeps results under keys, the most recently used first. Looking a key up makes it
the most recent one; a new result pushes out the one that has not been used for longest when the
memory is full.
-/

namespace SqlTemplate

/-- Results under keys, the most recently used first. -/
structure Recent (κ ρ : Type) where
  entries : List (κ × ρ)

namespace Recent

variable {κ ρ : Type} [BEq κ]

def capacity : Nat := 256

def empty : Recent κ ρ := ⟨[]⟩

def find? (r : Recent κ ρ) (key : κ) : Option ρ := r.entries.lookup key

/-- The memory with the entry of a key moved to the front. -/
def touch (r : Recent κ ρ) (key : κ) : Recent κ ρ :=
  match r.entries.find? (·.1 == key) with
  | some entry => ⟨entry :: r.entries.filter fun old => !(old.1 == key)⟩
  | none => r

/-- The memory with a new result, and without what no longer fits. -/
def insert (r : Recent κ ρ) (key : κ) (result : ρ) : Recent κ ρ :=
  ⟨((key, result) :: r.entries).take capacity⟩

end Recent

end SqlTemplate
