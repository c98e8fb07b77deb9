import ErrorTemplates.Program.Span
import ErrorTemplates.Program.Shape

/-!
# Syntax trees

A program is a tree of nodes. The kinds of syntax on which extraction depends are
constructors of their own: names, texts, sums, parentheses, spread arguments, calls,
constructions, throw statements and function declarations. All other syntax is a shape
with children.
-/

namespace ErrorTemplates
namespace Program

/-- The name and the header of a function declaration. -/
structure Signature where
  /-- The declared name. -/
  name : String
  /-- Where the name stands. -/
  nameSpan : Span
  /-- What stands before the parameters. -/
  header : FunctionHeader
  deriving DecidableEq

/-- A piece of syntax. -/
inductive Node
  /-- A name in an expression or a pattern. -/
  | identifier (span : Span) (name : String)
  /-- A string literal as it is written, and its value unless that has a lone surrogate. -/
  | string (span : Span) (raw : String) (value : Option String)
  /-- Two operands of a plus sign. -/
  | sum (span : Span) (left right : Node)
  /-- An expression in parentheses. -/
  | parens (span : Span) (inner : Node)
  /-- An element after three dots. -/
  | spread (span : Span) (inner : Node)
  /-- A call that is not part of an optional chain. -/
  | call (span : Span) (callee : Node) (arguments : List Node)
  /-- A construction with a list of arguments. -/
  | construct (span : Span) (callee : Node) (arguments : List Node)
  /-- A throw statement. -/
  | throwing (span : Span) (operand : Node)
  /-- A function declaration. -/
  | function (span : Span) (signature : Signature) (parameters : List Node) (body : Node)
  /-- Any other syntax. -/
  | other (span : Span) (shape : Shape) (children : List Node)

namespace Node

/-- The part of the text that the node was read from. -/
def span : Node -> Span
  | .identifier span _ => span
  | .string span _ _ => span
  | .sum span _ _ => span
  | .parens span _ => span
  | .spread span _ => span
  | .call span _ _ => span
  | .construct span _ _ => span
  | .throwing span _ => span
  | .function span _ _ _ => span
  | .other span _ _ => span

/-- The nodes directly below a node, in the order in which they are visited. -/
def children : Node -> List Node
  | .identifier .. => []
  | .string .. => []
  | .sum _ left right => [left, right]
  | .parens _ inner => [inner]
  | .spread _ inner => [inner]
  | .call _ callee arguments => callee :: arguments
  | .construct _ callee arguments => callee :: arguments
  | .throwing _ operand => [operand]
  | .function _ _ parameters body => parameters ++ [body]
  | .other _ _ children => children

/-- The node without the parentheses around it. -/
def bare : Node -> Node
  | .parens _ inner => inner.bare
  | node => node

@[simp] theorem bare_parens (span : Span) (inner : Node) :
    (parens span inner).bare = inner.bare := rfl

/-- The node is an argument that is spread. -/
def isSpread : Node -> Bool
  | .spread .. => true
  | _ => false

@[simp] theorem isSpread_spread (span : Span) (inner : Node) :
    (spread span inner).isSpread = true := rfl

end Node

mutual

/-- All nodes of a tree, each before the nodes below it. -/
def Node.nodes : Node -> List Node
  | node@(.identifier ..) => [node]
  | node@(.string ..) => [node]
  | node@(.sum _ left right) => node :: (left.nodes ++ right.nodes)
  | node@(.parens _ inner) => node :: inner.nodes
  | node@(.spread _ inner) => node :: inner.nodes
  | node@(.call _ callee arguments) =>
      node :: (callee.nodes ++ Node.nodesOfList arguments)
  | node@(.construct _ callee arguments) =>
      node :: (callee.nodes ++ Node.nodesOfList arguments)
  | node@(.throwing _ operand) => node :: operand.nodes
  | node@(.function _ _ parameters body) =>
      node :: (Node.nodesOfList parameters ++ body.nodes)
  | node@(.other _ _ children) => node :: Node.nodesOfList children

/-- All nodes of a list of trees. -/
def Node.nodesOfList : List Node -> List Node
  | [] => []
  | node :: rest => node.nodes ++ Node.nodesOfList rest

end

/-- A function declaration that stands by itself. -/
structure Declaration where
  /-- The part of the text that the declaration was read from. -/
  span : Span
  /-- The name and the header. -/
  signature : Signature
  /-- The parameters. -/
  parameters : List Node
  /-- The body. -/
  body : Node

/-- A declaration as a part of a tree. -/
def Declaration.toNode (declaration : Declaration) : Node :=
  .function declaration.span declaration.signature declaration.parameters declaration.body

end Program

/-- A program that has been read. -/
structure Program where
  /-- The program is a module and not a script. -/
  isModule : Bool
  /-- The line that names an interpreter, without its mark. -/
  interpreter : Option String
  /-- The statements and module items in the order of the text. -/
  items : List Program.Node
  /-- Where the last word or mark of the program ends. -/
  finish : Nat

end ErrorTemplates
