import ErrorTemplates.Program.Node
import ErrorTemplates.Program.SyntaxError

/-!
# Expressions that become patterns

The left side of an assignment, the head of a loop over elements and the parameters of an
arrow function are read as expressions first. Once it is known what they are, arrays and
objects among them become patterns and assignments become defaults.
-/

namespace ErrorTemplates
namespace Program
namespace Node

/-- The node is an arrow function that no parentheses enclose. -/
def isArrow : Node -> Bool
  | .other _ (.arrow _) _ => true
  | _ => false

/-- The node is an array or an object, or a pattern made of one. -/
def isCompound : Node -> Bool
  | .other _ .array _ | .other _ .object _ => true
  | .other _ .arrayPattern _ | .other _ .objectPattern _ => true
  | _ => false

/-- The node is a name or an element of a value, which can be assigned to. -/
def isPlace : Node -> Bool
  | .identifier .. => true
  | .other _ (.member _) _ | .other _ .index _ => true
  | .parens _ inner => inner.isPlace
  | _ => false

mutual

/-- The pattern that an expression becomes. -/
def toPattern : Node -> Except SyntaxError Node
  | .identifier span name => .ok (.identifier span name)
  | .spread span inner => .spread span <$> inner.toPattern
  | .parens span inner =>
      if inner.isPlace then .ok (.parens span inner)
      else .error { cause := .patternExpected, position := span.start }
  | .other span (.member name) children => .ok (.other span (.member name) children)
  | .other span .index children => .ok (.other span .index children)
  | .other span .hole children => .ok (.other span .hole children)
  | .other span .arrayPattern children => .ok (.other span .arrayPattern children)
  | .other span .objectPattern children => .ok (.other span .objectPattern children)
  | .other span .defaulted children => .ok (.other span .defaulted children)
  | .other span (.assign "=") children => .ok (.other span .defaulted children)
  | .other span .array children =>
      .other span .arrayPattern <$> toPatterns children
  | .other span .object children =>
      .other span .objectPattern <$> toPatterns children
  | .other span .property [key, value] =>
      (fun value => .other span .property [key, value]) <$> value.toPattern
  | node => .error { cause := .patternExpected, position := node.span.start }

/-- The patterns that expressions become. -/
def toPatterns : List Node -> Except SyntaxError (List Node)
  | [] => .ok []
  | node :: rest => do
      let pattern ← node.toPattern
      let patterns ← toPatterns rest
      return pattern :: patterns

end

/-- The target that the left side of an assignment becomes. Only a plain assignment takes
a value apart. -/
def toTarget (operator : String) (node : Node) : Except SyntaxError Node :=
  if node.isPlace then .ok node
  else if operator == "=" && node.isCompound then node.toPattern
  else .error { cause := .invalidTarget, position := node.span.start }

end Node
end Program
end ErrorTemplates
