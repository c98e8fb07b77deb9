import ErrorTemplates.Extraction.Call

/-!
# Calls and throw statements of a program

The calls and the throw statements in the order in which a visit meets them.
-/

namespace ErrorTemplates
namespace Extraction

open Program

/-- All calls of a program. -/
def calls (program : Program) : List Call :=
  (Node.nodesOfList program.items).filterMap fun node =>
    match node with
    | .call span callee arguments => some { span, callee, arguments }
    | _ => none

/-- The operands of all throw statements of a program. -/
def thrownOperands (program : Program) : List Node :=
  (Node.nodesOfList program.items).filterMap fun node =>
    match node with
    | .throwing _ operand => some operand
    | _ => none

/-- The expressions that are statements at the top of a program. -/
def topExpressions (program : Program) : List Node :=
  program.items.filterMap fun item =>
    match item with
    | .other _ .expressionStatement [inner] => some inner
    | _ => none

end Extraction
end ErrorTemplates
