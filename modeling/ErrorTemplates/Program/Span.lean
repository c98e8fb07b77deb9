/-!
# Spans

A span is the part of a text that a node was read from, given by two byte positions. A
tree may mix nodes of the program with nodes of the fragment that replaced one of its
declarations, so a span also names the text that its positions belong to.
-/

namespace ErrorTemplates
namespace Program

/-- The text that a node was read from. -/
inductive Origin
  | program
  | replacement
  deriving DecidableEq

/-- A part of a text, from its first byte to the one after its last. -/
structure Span where
  /-- The text that the positions belong to. -/
  origin : Origin
  /-- The first byte. -/
  start : Nat
  /-- The byte after the last one. -/
  stop : Nat
  deriving DecidableEq

namespace Span

/-- The span between two positions of the program, whichever of them comes first. -/
def between (one other : Nat) : Span :=
  { origin := .program, start := min one other, stop := max one other }

end Span

end Program
end ErrorTemplates
