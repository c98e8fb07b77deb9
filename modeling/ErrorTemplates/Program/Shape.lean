/-!
# Shapes of syntax

The kinds of syntax to which extraction attaches no meaning. A shape holds what is
written once for the whole node, such as an operator or a name; the parts of the node
that are nodes themselves are its children, in the order in which they are visited. That
is the order of the text with two exceptions: the test of a `do` loop comes before its
body, and the members of a class come before its heritage.
-/

namespace ErrorTemplates
namespace Program

/-- What stands before the parameters of a function. -/
structure FunctionHeader where
  /-- The function is asynchronous. -/
  isAsync : Bool
  /-- The function is a generator. -/
  isGenerator : Bool
  deriving DecidableEq

/-- The kinds of method. -/
inductive MethodKind
  | plain
  | getter
  | setter
  deriving DecidableEq

/-- The place of a method. -/
inductive MethodPlace
  /-- A property of an object. -/
  | inObject
  /-- A member of a class, static or not. -/
  | inClass (isStatic : Bool)
  /-- The constructor of a class. -/
  | constructor
  deriving DecidableEq

/-- The kind of a node and what it holds besides its children. -/
inductive Shape
  -- Expressions without a meaning for extraction
  | word (text : String)
  | number (raw : String)
  | literal (raw : String)
  | template (chunks : List String)
  | tagged
  | array
  | hole
  | object
  | property
  | computedName
  | method (place : MethodPlace) (kind : MethodKind) (header : FunctionHeader)
  | functionExpression (header : FunctionHeader) (name : Option String)
  | arrow (isAsync : Bool)
  | unary (operator : String)
  | updateBefore (operator : String)
  | updateAfter (operator : String)
  | binary (operator : String)
  | assign (operator : String)
  | conditional
  | sequence
  | member (name : String)
  | index
  | optionalMember (name : String)
  | optionalIndex
  | optionalCall
  | chainCall
  | bareNew
  | yield (delegates : Bool)
  | await
  -- Patterns
  | arrayPattern
  | objectPattern
  | defaulted
  -- Classes
  | classExpression (name : Option String) (hasHeritage : Bool)
  | classDeclaration (name : Option String) (hasHeritage : Bool)
  | field (isStatic : Bool)
  | staticBlock
  -- Statements
  | block
  | empty
  | expressionStatement
  | declarators (kind : String)
  | variableStatement
  | declarator
  | conditionalStatement
  | forLoop (hasStart hasTest hasUpdate : Bool)
  | forIn
  | forOf (isAwait : Bool)
  | whileLoop
  | doLoop
  | switch
  | clause (hasTest : Bool)
  | guarded (hasHandler hasFinalizer : Bool)
  | handler (hasParameter : Bool)
  | labelled (label : String)
  | jump (text : String)
  | return
  | scope
  -- Items of a module
  | imports (standard space : Option String) (names : List String) (source : String)
  | exportNames (names : List String) (source : Option String)
  | exportAll (name : Option String) (source : String)
  | exportDeclaration
  | exportDefaultValue
  | exportDefaultDeclaration
  deriving DecidableEq

namespace Shape

/-- The shape belongs to an item that only a module has. -/
def isModuleItem : Shape -> Bool
  | .imports .. | .exportNames .. | .exportAll .. => true
  | .exportDeclaration | .exportDefaultValue | .exportDefaultDeclaration => true
  | _ => false

end Shape

end Program
end ErrorTemplates
