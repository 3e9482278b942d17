import SqlTemplate.Config
import SqlTemplate.Template

/-!
# Comparing entities

Segments of templates, identifiers and configurations are equal when they are of one sort and hold
equal content. Nothing of one sort equals anything of another.
-/

namespace SqlTemplate

inductive Entity where
  | segment (s : Segment)
  | config (c : QueryConfig)
  | value (v : Value)

namespace Entity

def equal : Entity → Entity → Bool
  | segment a, segment b => a == b
  | config a, config b => a.equal b
  | value a, value b => a.equal b
  | _, _ => false

def displayed : Entity → Text
  | segment s => s.displayed
  | config c => c.displayed
  | value v => v.displayed

end Entity

end SqlTemplate
