import ErrorTemplates.Program.Parse.State

/-!
# Goals, names and bindings

The kinds of syntax that are read recursively are the goals. The reader of one kind is
given the readers of all goals and knows nothing of how they are tied together.
-/

namespace ErrorTemplates
namespace Program
namespace Parse

/-- The kinds of syntax that contain one another. -/
inductive Goal
  /-- A statement, or an item of a module. -/
  | item
  | statement
  /-- Statements in braces. -/
  | block
  /-- Expressions between commas. -/
  | expression
  /-- An expression without a comma. -/
  | assignment
  /-- An operand of a binary operator. -/
  | unary
  /-- An expression with its calls and members. -/
  | operand
  /-- What is constructed after the word `new`. -/
  | constructed
  /-- A name or a pattern that is bound. -/
  | binding
  deriving DecidableEq

/-- The readers of all goals. -/
abbrev Readers := Goal -> Reader Node

/-- Make a node that begins at a position and ends before the current token. -/
def nodeFrom (start : Nat) (shape : Shape) (children : List Node) : Reader Node := do
  return .other (← spanFrom start) shape children

/-- Read an expression in which the word `in` is an operator. -/
def wholeExpression (read : Readers) : Reader Node := withIn true (read .expression)

/-- Read an element of a list, in which the word `in` is an operator. -/
def element (read : Readers) : Reader Node := do
  let start ← here
  if ← passMark "..." then
    let inner ← withIn true (read .assignment)
    return .spread (← spanFrom start) inner
  else withIn true (read .assignment)

/-- Read the arguments of a call, from the opening parenthesis on. -/
def arguments (read : Readers) : Reader (List Node) := do
  needMark "("
  separated ")" (element read)

/-- Read the name of a property or of a member of a class. -/
def propertyKey (read : Readers) : Reader Node := do
  let start ← here
  match ← token with
  | .word name _ => bump; nodeFrom start (.word name) []
  | .privateName name => bump; nodeFrom start (.word ("#" ++ name)) []
  | .string raw value =>
      bump
      return .string (← spanFrom start) raw value
  | .number raw => bump; nodeFrom start (.number raw) []
  | .bigInteger raw => bump; nodeFrom start (.literal raw) []
  | .mark "[" =>
      bump
      let inner ← withIn true (read .assignment)
      needMark "]"
      nodeFrom start .computedName [inner]
  | _ => failWith .memberExpected

/-! ## Bindings -/

/-- Read a binding and the value that it has by default. -/
def defaultedBinding (read : Readers) : Reader Node := do
  let start ← here
  let target ← read .binding
  if ← passMark "=" then
    let value ← withIn true (read .assignment)
    nodeFrom start .defaulted [target, value]
  else return target

/-- Read a parameter or an element of an array pattern. -/
def bindingElement (read : Readers) : Reader Node := do
  let start ← here
  if ← passMark "..." then
    let inner ← read .binding
    return .spread (← spanFrom start) inner
  else defaultedBinding read

/-- Read a property of an object pattern. -/
def bindingProperty (read : Readers) : Reader Node := do
  let start ← here
  if ← passMark "..." then
    let inner ← read .binding
    return .spread (← spanFrom start) inner
  let current ← token
  let key ← propertyKey read
  if ← passMark ":" then
    let value ← defaultedBinding read
    return ← nodeFrom start .property [key, value]
  match current.word? with
  | none => failWith .unexpected
  | some name =>
      let target := Node.identifier (← spanFrom start) name
      if ← passMark "=" then
        let value ← withIn true (read .assignment)
        nodeFrom start .defaulted [target, value]
      else return target

/-- Read the elements of an array up to its closing bracket, each by the given reader. -/
def arrayElements (read : Reader Node) : Reader (List Node) :=
  many do
    if ← passMark "]" then return none
    let start ← here
    if ← passMark "," then
      return some (← nodeFrom start .hole [])
    let found ← read
    if !(← atMark "]") then needMark ","
    return some found

/-- Read the properties of an object up to its closing brace, each by the given reader. -/
def objectProperties (read : Reader Node) : Reader (List Node) :=
  many do
    if ← passMark closeBrace then return none
    let found ← read
    if !(← atMark closeBrace) then needMark ","
    return some found

/-- Read a name or a pattern that is bound. -/
def binding (read : Readers) : Reader Node := do
  let start ← here
  let current ← token
  match current.name? with
  | some name =>
      bump
      return .identifier (← spanFrom start) name
  | none =>
      if ← passMark "[" then
        let children ← arrayElements (bindingElement read)
        nodeFrom start .arrayPattern children
      else if ← passMark openBrace then
        let children ← objectProperties (bindingProperty read)
        nodeFrom start .objectPattern children
      else failWith .bindingExpected

end Parse
end Program
end ErrorTemplates
