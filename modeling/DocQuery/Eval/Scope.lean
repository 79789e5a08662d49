import DocQuery.Pattern.Engine
import DocQuery.Value.Order

/-!
What an evaluation knows beside its expression: the documents that links lead to, the settings, the
present moment, and an engine of patterns.
-/

namespace DocQuery

/-- Access to the documents that links lead to. -/
structure Links where
  /-- The fields of a document. -/
  page? : String → Option Object
  /-- The path by which a document is known, for any way to write it. -/
  normalize : String → String
  /-- Whether there is a document. -/
  has : String → Bool

namespace Links

/-- Links that lead nowhere. -/
def none : Links := { page? := fun _ => .none, normalize := id, has := fun _ => false }

end Links

/-- The surroundings of an evaluation. -/
structure Scope where
  links : Links
  settings : Settings
  /-- The moment that names such as `today` are relative to. It is assumed to stand still: all that is read and
  evaluated in one run has the same present, where a clock asked for each name on its own would move on. -/
  now : Date
  patterns : PatternEngine := .standard

namespace Scope

def render (s : Scope) (v : Value) : String := v.render s.settings

/-- The order of values, with links to one document as equal however they are written. -/
protected def compare (s : Scope) : Value → Value → Ordering := Value.compareBy s.links.normalize

end Scope

end DocQuery
