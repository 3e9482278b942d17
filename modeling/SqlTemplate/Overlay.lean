import SqlTemplate.Text.Replace

/-!
# Named entries in order

A list of entries that go by names, each name once: `overlay` puts entries over it. An entry takes
the place of the one with its name, and comes at the end where there is none.
-/

namespace SqlTemplate

def overlayOne {α : Type} (name : α → Text) (kept : List α) (entry : α) : List α :=
  if kept.any (name · == name entry) then
    kept.map fun old => if name old == name entry then entry else old
  else kept ++ [entry]

/-- The entries with new ones put in, one after another. -/
def overlay {α : Type} (name : α → Text) (base new : List α) : List α :=
  new.foldl (overlayOne name) base

end SqlTemplate
