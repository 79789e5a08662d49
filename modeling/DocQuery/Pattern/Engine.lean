import DocQuery.Pattern.Search

/-!
Engines of patterns. Functions on texts know of patterns only what an engine tells them: whether a text is a
pattern, and what is done with it then. `standard` is the engine that commands run with. It reads the part of
the documented syntax that this library knows; nothing else depends on which engine it is.
-/

namespace DocQuery

structure CompiledPattern where
  /-- Whether the pattern matches a part of a text. -/
  occursIn : String → Bool
  /-- Replaces every match in a text. -/
  replaceAll : String → String → String
  /-- The parts of a text between the matches. -/
  split : String → List String

structure PatternEngine where
  /-- Compiles a pattern, or tells why a text is none. -/
  compile : String → Except String CompiledPattern
  /-- The pattern of which a text is the only match. -/
  escape : String → String

namespace Pattern

def compiled (p : Pattern) : CompiledPattern :=
  { occursIn := p.occursIn, replaceAll := p.replaceAll, split := p.split }

/-- The pattern that matches a text and nothing else. -/
def escape (text : String) : String :=
  String.ofList (text.toList.flatMap fun c => if isMeta c then ['\\', c] else [c])

end Pattern

/-- The engine to run with. -/
def PatternEngine.standard : PatternEngine where
  compile text :=
    match Pattern.ofText text with
    | .ok p => .ok p.compiled
    | .error e => .error (e.reason text)
  escape := Pattern.escape

end DocQuery
