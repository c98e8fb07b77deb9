import ErrorTemplates.Extraction.Progress

/-!
# Visiting a program

Every call is examined before its callee and its arguments are visited, and loses its
message at once when its template is recorded. A call that is wrapped and thrown is examined
too and keeps all its arguments, which are visited like any others. A visit goes on after
the extraction has ended with an error, but then no call, throw statement or function
declaration is looked into.
-/

namespace ErrorTemplates
namespace Extraction

open Program

/-- The place of a node in a throw statement that hides an error. -/
inductive Place
  /-- Outside of such a statement, or in a part of it that is visited like any other. -/
  | plain
  /-- The operand of the statement, possibly in parentheses. -/
  | operand
  /-- The argument of the outer error, possibly in parentheses. -/
  | wrapped
  deriving DecidableEq

/-- A visit may add to the progress. -/
abbrev Visit := StateM Progress

/-- Visit a node unless the extraction has ended. -/
def unlessStopped (node : Node) (visit : Visit Node) : Visit Node := do
  if (← get).isStopped then return node else visit

/-- A throw statement with this operand hides an error. -/
def hidesError (naming : Naming) (operand : Node) : Bool :=
  (wrappedCall? operand).any fun call =>
    (naming.match? call.callee call.arguments).isSome

mutual

/-- Visit a node at a place. -/
def visit (naming : Naming) (sources : Sources) (place : Place) : Node -> Visit Node
  | .identifier span name => return .identifier span name
  | .string span raw value => return .string span raw value
  | .sum span left right => do
      let left ← visit naming sources .plain left
      let right ← visit naming sources .plain right
      return .sum span left right
  | .parens span inner => do
      let inner ← visit naming sources place inner
      return .parens span inner
  | .spread span inner => do
      let inner ← visit naming sources .plain inner
      return .spread span inner
  | .call span callee arguments => unlessStopped (.call span callee arguments) do
      if place = .operand then
        let arguments ← visitAll naming sources .wrapped arguments
        return .call span callee arguments
      else
        let losesMessage ←
          modifyGet (examine naming sources (place == .wrapped) { span, callee, arguments })
        let callee ← visit naming sources .plain callee
        let arguments ←
          if losesMessage then visitKept naming sources arguments
          else visitAll naming sources .plain arguments
        return .call span callee arguments
  | .construct span callee arguments => do
      if place = .operand then
        let arguments ← visitAll naming sources .wrapped arguments
        return .construct span callee arguments
      else
        let callee ← visit naming sources .plain callee
        let arguments ← visitAll naming sources .plain arguments
        return .construct span callee arguments
  | .throwing span operand => unlessStopped (.throwing span operand) do
      let place := if hidesError naming operand then .operand else .plain
      let operand ← visit naming sources place operand
      return .throwing span operand
  | .function span signature parameters body =>
      unlessStopped (.function span signature parameters body) do
        if signature.name = naming.factory then
          modify fun progress => progress.recordSite signature.nameSpan
        let parameters ← visitAll naming sources .plain parameters
        let body ← visit naming sources .plain body
        return .function span signature parameters body
  | .other span shape children => do
      let children ← visitAll naming sources .plain children
      return .other span shape children

/-- Visit nodes at a place, one after the other. -/
def visitAll (naming : Naming) (sources : Sources) (place : Place) :
    List Node -> Visit (List Node)
  | [] => return []
  | node :: rest => do
      let node ← visit naming sources place node
      let rest ← visitAll naming sources place rest
      return node :: rest

/-- Visit the arguments of a call that loses its message, which is the second one. -/
def visitKept (naming : Naming) (sources : Sources) : List Node -> Visit (List Node)
  | [] => return []
  | [argument] => do
      let argument ← visit naming sources .plain argument
      return [argument]
  | code :: _ :: trailing => do
      let code ← visit naming sources .plain code
      let trailing ← visitAll naming sources .plain trailing
      return code :: trailing

end

end Extraction
end ErrorTemplates
