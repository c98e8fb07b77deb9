import ErrorTemplates.Program.Node

/-!
# Constant strings

An expression is constant when it is built from string literals, plus signs and
parentheses. Its value is then the concatenation of the literals from left to right. A
literal with a lone surrogate has no value, and neither has anything built from it.
-/

namespace ErrorTemplates
namespace Extraction

open Program

/-- The value of a constant string expression. -/
def constant? : Node -> Option String
  | .string _ _ value => value
  | .sum _ left right => do
      let first ← constant? left
      let second ← constant? right
      return first ++ second
  | .parens _ inner => constant? inner
  | _ => none

@[simp] theorem constant?_string (span : Span) (raw : String) (value : Option String) :
    constant? (.string span raw value) = value := rfl

@[simp] theorem constant?_parens (span : Span) (inner : Node) :
    constant? (.parens span inner) = constant? inner := rfl

@[simp] theorem constant?_spread (span : Span) (inner : Node) :
    constant? (.spread span inner) = none := rfl

@[simp] theorem constant?_call (span : Span) (callee : Node) (arguments : List Node) :
    constant? (.call span callee arguments) = none := rfl

end Extraction
end ErrorTemplates
