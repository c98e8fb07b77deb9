/-!
# Ranges of code points

A Unicode property is a set of code points, and it is written here as a list of
closed ranges. Membership is one pass over the list; the tables built from it are
data of the standard and nothing else.
-/

namespace ErrorTemplates
namespace Text

/-- A closed range of code points: its first and its last member. -/
abbrev CodeRange := Nat × Nat

namespace CodeRange

/-- A code point lies between both ends. -/
def contains (range : CodeRange) (code : Nat) : Bool :=
  range.1 ≤ code && code ≤ range.2

/-- A character lies in one of the ranges. -/
def covers (ranges : List CodeRange) (character : Char) : Bool :=
  ranges.any fun range => range.contains character.toNat

end CodeRange

end Text
end ErrorTemplates
