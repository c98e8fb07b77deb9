import ErrorTemplates.Program.Parse.Primary

/-!
# Expressions

Members and calls, operators by their binding strength, conditionals, assignments and
sequences. An arrow function that no parentheses enclose takes no part in what follows it.
-/

namespace ErrorTemplates
namespace Program
namespace Parse

/-- Repeat a step until it has nothing to do. -/
def repeated {α : Type} (step : α -> Reader (Option α)) : (limit : Nat) -> α -> Reader α
  | 0, _ => fail .nesting
  | limit + 1, current => do
      match ← step current with
      | none => return current
      | some next => repeated step limit next

/-! ## Members and calls -/

/-- The name of a member, with its sign if it is private. -/
def memberName : Reader String := do
  match ← token with
  | .word name _ => bump; return name
  | .privateName name => bump; return "#" ++ name
  | _ => fail .nameExpected

/-- An expression that may go on with a member or a call. -/
structure Chain where
  /-- The expression so far. -/
  node : Node
  /-- An optional link is among its links. -/
  isOptional : Bool

/-- Read the optional link of a chain, after its mark. -/
def optionalLink (read : Readers) (start : Nat) (node : Node) : Reader Node := do
  match ← token with
  | .mark "(" =>
      let given ← arguments read
      nodeFrom start .optionalCall (node :: given)
  | .mark "[" =>
      bump
      let inner ← wholeExpression read
      needMark "]"
      nodeFrom start .optionalIndex [node, inner]
  | _ =>
      let name ← memberName
      nodeFrom start (.optionalMember name) [node]

/-- Read one member or call. -/
def link
    (read : Readers)
    (start : Nat)
    (allowsCalls : Bool)
    (chain : Chain) : Reader (Option Chain) := do
  let node := chain.node
  match ← token with
  | .mark "." =>
      bump
      let name ← memberName
      return some { chain with node := ← nodeFrom start (.member name) [node] }
  | .mark "[" =>
      bump
      let inner ← wholeExpression read
      needMark "]"
      return some { chain with node := ← nodeFrom start .index [node, inner] }
  | .mark "`" =>
      let text ← template read true
      return some { chain with node := ← nodeFrom start .tagged [node, text] }
  | .mark "(" =>
      if !allowsCalls then return none
      let given ← arguments read
      if chain.isOptional then
        return some { chain with node := ← nodeFrom start .chainCall (node :: given) }
      else return some { chain with node := .call (← spanFrom start) node given }
  | .mark "?." =>
      if !allowsCalls then return none
      bump
      return some { node := ← optionalLink read start node, isOptional := true }
  | _ => return none

/-- Read the members and calls that follow an expression. -/
def links (read : Readers) (start : Nat) (allowsCalls : Bool) (node : Node) :
    Reader Node := do
  let chain ←
    repeated (link read start allowsCalls) ((← get).limit) { node, isOptional := false }
  return chain.node

/-- Read what may be constructed: an expression with members and without calls. -/
def constructed (read : Readers) : Reader Node := do
  let start ← here
  if ← passWord "new" then
    if ← passMark "." then
      needWord "target"
      let node ← nodeFrom start (.word "new.target") []
      return ← links read start false node
    let callee ← read .constructed
    if ← atMark "?." then failAt callee.span.start .optionalConstructed
    if ← atMark "(" then
      let given ← arguments read
      links read start false (.construct (← spanFrom start) callee given)
    else nodeFrom start .bareNew [callee]
  else
    let node ← primary read
    if node.isArrow then return node
    links read start false node

/-- Read an expression with members and calls. -/
def operand (read : Readers) : Reader Node := do
  let start ← here
  let node ← read .constructed
  if node.isArrow then return node
  links read start true node

/-! ## Operators -/

/-- The operators before their operand that are marks. -/
def unaryMarks : List String := ["!", "~", "+", "-"]

/-- The operators before their operand that are words. -/
def unaryWords : List String := ["delete", "void", "typeof"]

/-- The reserved words with which an expression may begin. -/
def openingWords : List String :=
  expressionWords ++ unaryWords ++ ["function", "class", "import", "new"]

/-- The marks with which an expression may begin. -/
def openingMarks : List String :=
  unaryMarks ++ ["++", "--", "(", "[", openBrace, "`", "/", "/="]

/-- An expression may begin with the token. -/
def opensExpression : Token -> Bool
  | .mark text => openingMarks.contains text
  | .word name escaped =>
      escaped || !Token.reservedWords.contains name || openingWords.contains name
  | .string _ _ | .number _ | .bigInteger _ | .privateName _ => true
  | .fault _ | .ending => false

/-- Read the operand of a unary operator. An operand that cannot be read is replaced by a
mark of its absence, and reading goes on where it failed. -/
def unaryOperand (read : Readers) : Reader Node := do
  let state ← get
  let span : Span := { origin := state.origin, start := state.start, stop := state.start }
  orElse (read .unary) (.other span (.word "<invalid>") [])

/-- The word `await` is an operator here. It is one in an asynchronous function, and
outside of all functions when an operand follows. -/
def awaits : Reader Bool := do
  let context := (← get).context
  let operandFollows := (← followingOnLine).any opensExpression
  return context.inAsync || (!context.inFunction && operandFollows)

/-- Read the word `await` as an operator. Only a module has it outside of all functions. -/
def awaitOperator : Reader Unit := do
  unless (← get).context.inAsync do
    modify fun state => { state with isModule := true }
  bump

/-- Read an operand and the operator after it. -/
def updated (read : Readers) : Reader Node := do
  let start ← here
  let node ← read .operand
  if node.isArrow || (← afterLineBreak) then return node
  match ← token with
  | .mark text =>
      if text == "++" || text == "--" then
        bump
        nodeFrom start (.updateAfter text) [node]
      else return node
  | _ => return node

/-- Read an operand of a binary operator. -/
def unary (read : Readers) : Reader Node := do
  let start ← here
  match ← token with
  | .mark text =>
      if unaryMarks.contains text then
        bump
        let inner ← unaryOperand read
        nodeFrom start (.unary text) [inner]
      else if text == "++" || text == "--" then
        bump
        let inner ← read .unary
        nodeFrom start (.updateBefore text) [inner]
      else updated read
  | .word name false =>
      if unaryWords.contains name then
        bump
        let inner ← unaryOperand read
        nodeFrom start (.unary name) [inner]
      else if name == "await" && (← awaits) then
        awaitOperator
        let inner ← read .unary
        nodeFrom start .await [inner]
      else updated read
  | _ => updated read

/-- How strongly a binary operator binds. -/
def strength? (allowsIn : Bool) : Token -> Option Nat
  | .mark text =>
      match text with
      | "??" | "||" => some 1
      | "&&" => some 2
      | "|" => some 3
      | "^" => some 4
      | "&" => some 5
      | "==" | "!=" | "===" | "!==" => some 6
      | "<" | ">" | "<=" | ">=" => some 7
      | "<<" | ">>" | ">>>" => some 8
      | "+" | "-" => some 9
      | "*" | "/" | "%" => some 10
      | "**" => some 11
      | _ => none
  | .word name false =>
      if name == "instanceof" || (name == "in" && allowsIn) then some 7 else none
  | _ => none

/-- The two operands of an operator as one expression. -/
def joined (operator : Token) (left right : Node) : Node :=
  let span : Span := { left.span with stop := right.span.stop }
  match operator with
  | .mark "+" => .sum span left right
  | operator => .other span (.binary operator.describe) [left, right]

/-- The expression is a unary operator with its operand. -/
def isUnary : Node -> Bool
  | .other _ (.unary _) _ => true
  | .other _ .await _ => true
  | _ => false

/-- Read the operators after an operand that bind at least so strongly. A power of a unary
expression needs parentheses. -/
def binaryRest (read : Readers) : (limit least : Nat) -> Node -> Reader Node
  | 0, _, _ => fail .nesting
  | limit + 1, least, left => do
      let operator ← token
      match strength? (← get).context.allowsIn operator with
      | none => return left
      | some strength =>
          if strength < least then return left
          bump
          if operator.isMark "**" && isUnary left then fail .unaryBase
          let operand ← read .unary
          let follows := if operator.isMark "**" then strength else strength + 1
          let right ← binaryRest read limit follows operand
          binaryRest read limit least (joined operator left right)

/-- Read operands and the operators between them. -/
def binary (read : Readers) : Reader Node := do
  let first ← read .unary
  if first.isArrow then return first
  binaryRest read ((← get).limit) 0 first

/-- Read an expression and the two cases that may depend on it. -/
def conditional (read : Readers) : Reader Node := do
  let start ← here
  let test ← binary read
  if test.isArrow then return test
  if !(← passMark "?") then return test
  let onTrue ← withIn true (read .assignment)
  needMark ":"
  let onFalse ← read .assignment
  nodeFrom start .conditional [test, onTrue, onFalse]

/-- The operators that assign. -/
def assignMarks : List String := [
  "=", "+=", "-=", "*=", "/=", "%=", "**=", "<<=", ">>=", ">>>=", "&=", "|=", "^=",
  "&&=", "||=", "??="]

/-- Read what follows the word `yield` in a generator. -/
def yielded (read : Readers) (start : Nat) : Reader Node := do
  if ← afterLineBreak then return ← nodeFrom start (.yield false) []
  if ← passMark "*" then
    let inner ← read .assignment
    nodeFrom start (.yield true) [inner]
  else if opensExpression (← token) then
    let inner ← read .assignment
    nodeFrom start (.yield false) [inner]
  else nodeFrom start (.yield false) []

/-- Read an expression without a comma. -/
def assignment (read : Readers) : Reader Node := do
  let start ← here
  if (← get).context.inGenerator && (← atWord "yield") then
    bump
    return ← yielded read start
  markArrow
  let left ← conditional read
  if left.isArrow then return left
  match ← token with
  | .mark text =>
      if assignMarks.contains text then
        let target ← converted (left.toTarget text)
        bump
        let right ← read .assignment
        nodeFrom start (.assign text) [target, right]
      else return left
  | _ => return left

/-- Read expressions between commas. -/
def expression (read : Readers) : Reader Node := do
  let start ← here
  let first ← read .assignment
  if !(← atMark ",") then return first
  let others ← many do
    if ← passMark "," then return some (← read .assignment)
    else return none
  nodeFrom start .sequence (first :: others)

end Parse
end Program
end ErrorTemplates
