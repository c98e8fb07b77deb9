import ErrorTemplates.Proofs.Tree.Change

/-!
# Trees without positions

What a tree says apart from where its nodes stand in a text. Two programs that were read from
different texts are compared after their spans were taken out.
-/

namespace ErrorTemplates
namespace Program

/-- The span that stands for all others. -/
def Span.nowhere : Span := .between 0 0

mutual

/-- A tree in which no node stands anywhere. -/
def Node.withoutSpans : Node -> Node
  | .identifier _ name => .identifier .nowhere name
  | .string _ raw value => .string .nowhere raw value
  | .sum _ left right => .sum .nowhere left.withoutSpans right.withoutSpans
  | .parens _ inner => .parens .nowhere inner.withoutSpans
  | .spread _ inner => .spread .nowhere inner.withoutSpans
  | .call _ callee arguments => .call .nowhere callee.withoutSpans (allWithoutSpans arguments)
  | .construct _ callee arguments =>
      .construct .nowhere callee.withoutSpans (allWithoutSpans arguments)
  | .throwing _ operand => .throwing .nowhere operand.withoutSpans
  | .function _ signature parameters body =>
      .function .nowhere { signature with nameSpan := .nowhere } (allWithoutSpans parameters)
        body.withoutSpans
  | .other _ shape children => .other .nowhere shape (allWithoutSpans children)

/-- Trees in which no node stands anywhere. -/
def allWithoutSpans : List Node -> List Node
  | [] => []
  | node :: rest => node.withoutSpans :: allWithoutSpans rest

end

theorem allWithoutSpans_eq_map (nodes : List Node) :
    allWithoutSpans nodes = nodes.map Node.withoutSpans := by
  induction nodes with
  | nil => rfl
  | cons node rest inductionHypothesis =>
      rw [allWithoutSpans, inductionHypothesis, List.map_cons]

/-- A program in which no node stands anywhere. -/
def withoutSpans (program : Program) : Program :=
  { program with items := allWithoutSpans program.items, finish := 0 }

end Program
end ErrorTemplates
