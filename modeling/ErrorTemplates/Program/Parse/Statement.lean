import ErrorTemplates.Program.Parse.Expression

/-!
# Statements

A statement is known by its first word, apart from labels and from words that are names
in most places. A block that the end of the text leaves open is closed there.
-/

namespace ErrorTemplates
namespace Program
namespace Parse

/-- Read an expression in parentheses that belong to a statement. -/
def head (read : Readers) : Reader Node := do
  needMark "("
  let inner ← wholeExpression read
  needMark ")"
  return inner

/-- Read statements in braces, without their opening brace. -/
def statements (read : Readers) : Reader (List Node) :=
  many do
    if (← atMark closeBrace) || (← token) == .ending then return none
    return some (← read .statement)

/-- Read statements in braces. -/
def block (read : Readers) : Reader Node := do
  let start ← here
  needMark openBrace
  let children ← withIn true (statements read)
  let _ ← passMark closeBrace
  nodeFrom start .block children

/-! ## Variables -/

/-- A word between the two parts of a loop over elements or keys is the current token. -/
def atLoopWord : Reader Bool := do
  return (← atWord "of") || (← atWord "in")

/-- Read one variable with its value. A pattern needs a value, except in a statement with
the word `const` and on the left of a loop over elements or keys. -/
def declarator (read : Readers) (kind : String) (inHead : Bool) : Reader Node := do
  let start ← here
  let target ← read .binding
  if ← passMark "=" then
    let value ← read .assignment
    nodeFrom start .declarator [target, value]
  else
    let isLeft := inHead && (← atLoopWord)
    if target.isCompound && !isLeft && (inHead || kind != "const") then
      failAt start .valueExpected
    else nodeFrom start .declarator [target]

/-- Read variables from the word that declares them on. -/
def declarators (read : Readers) (kind : String) (inHead : Bool) : Reader Node := do
  let start ← here
  bump
  let first ← declarator read kind inHead
  let others ← many do
    if ← passMark "," then return some (← declarator read kind inHead)
    else return none
  nodeFrom start (.declarators kind) (first :: others)

/-- Pass everything up to the end of a statement. -/
def passRest : (limit : Nat) -> Reader Unit
  | 0 => return ()
  | limit + 1 => do
      if ← passEnd then return ()
      bump
      passRest limit

/-- Read a statement that declares variables. What cannot belong to it is passed over. -/
def variableStatement (read : Readers) (kind : String) : Reader Node := do
  let start ← here
  let declared ← declarators read kind false
  if !(← passEnd) then
    let _ ← orElse (some <$> read .expression) none
    passRest ((← get).limit)
  nodeFrom start .variableStatement [declared]

/-- The word `let` begins a declaration. -/
def declares : Reader Bool := do
  match ← following with
  | .word name escaped => return escaped || !Token.reservedWords.contains name
  | .mark text => return text == "[" || text == openBrace
  | _ => return false

/-! ## Loops -/

/-- Read a loop over the elements or the keys of a value, from the word between both. -/
def loopOver
    (read : Readers)
    (start : Nat)
    (isAwait : Bool)
    (left : Node) : Reader Node := do
  if ← passWord "of" then
    let right ← withIn true (read .assignment)
    needMark ")"
    let body ← read .statement
    nodeFrom start (.forOf isAwait) [left, right, body]
  else
    needWord "in"
    let right ← wholeExpression read
    needMark ")"
    let body ← read .statement
    nodeFrom start .forIn [left, right, body]

/-- Read an expression unless a mark comes first. -/
def optionalExpression (read : Readers) (mark : String) : Reader (Option Node) := do
  if ← atMark mark then return none
  return some (← wholeExpression read)

/-- Read the rest of a loop with a counter, from its first semicolon on. -/
def loopRest (read : Readers) (start : Nat) (first : Option Node) : Reader Node := do
  needMark ";"
  let test ← optionalExpression read ";"
  needMark ";"
  let update ← optionalExpression read ")"
  needMark ")"
  let body ← read .statement
  nodeFrom start (.forLoop first.isSome test.isSome update.isSome)
    (first.toList ++ test.toList ++ update.toList ++ [body])

/-- The word `await` is the name of what a loop assigns to: the word `of` and a value follow, and
the loop is in no asynchronous function. -/
def awaitIsTarget : Reader Bool := do
  let next := (← get).advance
  return (← atWord "await") && !(← get).context.inAsync && next.token.isWord "of" &&
    opensExpression next.advance.token

/-- Read what a loop assigns to, or the beginning of a loop with a counter. -/
def loopBeginning (read : Readers) : Reader Node := do
  if ← awaitIsTarget then
    let start ← here
    bump
    return .identifier (← spanFrom start) "await"
  else withIn false (read .expression)

/-- Read a loop with the word `for`. -/
def forStatement (read : Readers) : Reader Node := do
  let start ← here
  bump
  let isAwait ← passWord "await"
  needMark "("
  if ← atMark ";" then
    return ← loopRest read start none
  let kind := (← token).word?
  let isDeclaration ←
    if (← atWord "var") || (← atWord "const") then pure true
    else if ← atWord "let" then declares
    else pure false
  if isDeclaration then
    let left ← withIn false (declarators read (kind.getD "var") true)
    if ← atLoopWord then loopOver read start isAwait left
    else loopRest read start (some left)
  else
    let left ← loopBeginning read
    if ← atLoopWord then
      let target ← converted (left.toTarget "=")
      loopOver read start isAwait target
    else loopRest read start (some left)

/-- Read a loop whose test comes last. -/
def doStatement (read : Readers) : Reader Node := do
  let start ← here
  bump
  let body ← read .statement
  needWord "while"
  let test ← head read
  let _ ← passMark ";"
  nodeFrom start .doLoop [test, body]

/-! ## Choices -/

/-- Read a statement that depends on a test. -/
def ifStatement (read : Readers) : Reader Node := do
  let start ← here
  bump
  let test ← head read
  let onTrue ← read .statement
  if ← passWord "else" then
    let onFalse ← read .statement
    nodeFrom start .conditionalStatement [test, onTrue, onFalse]
  else nodeFrom start .conditionalStatement [test, onTrue]

/-- Read one clause of a choice between cases. -/
def clause (read : Readers) : Reader Node := do
  let start ← here
  let test ←
    if ← passWord "case" then some <$> wholeExpression read
    else
      needWord "default"
      pure none
  needMark ":"
  let body ← many do
    if (← atWord "case") || (← atWord "default") || (← atMark closeBrace) ||
        (← token) == .ending then
      return none
    return some (← read .statement)
  nodeFrom start (.clause test.isSome) (test.toList ++ body)

/-- Read a choice between cases. -/
def switchStatement (read : Readers) : Reader Node := do
  let start ← here
  bump
  let subject ← head read
  needMark openBrace
  let clauses ← many do
    if (← atWord "case") || (← atWord "default") then return some (← clause read)
    else return none
  needMark closeBrace
  nodeFrom start .switch (subject :: clauses)

/-- Read a guarded block with its handler and its finalizer. -/
def tryStatement (read : Readers) : Reader Node := do
  let start ← here
  bump
  let body ← read .block
  let handlerStart ← here
  let handler ←
    if ← passWord "catch" then
      let parameter ←
        if ← passMark "(" then
          let target ← read .binding
          needMark ")"
          pure (some target)
        else pure none
      let handling ← read .block
      let node ←
        nodeFrom handlerStart (.handler parameter.isSome) (parameter.toList ++ [handling])
      pure (some node)
    else pure none
  let finalizer ←
    if ← passWord "finally" then some <$> read .block else pure none
  nodeFrom start (.guarded handler.isSome finalizer.isSome)
    (body :: handler.toList ++ finalizer.toList)

/-! ## Simple statements -/

/-- Read a statement that leaves a loop or a labelled statement. -/
def jumpStatement (word : String) : Reader Node := do
  let start ← here
  bump
  let label ← if ← afterLineBreak then pure none else pure (← token).name?
  if label.isSome then bump
  needEnd
  nodeFrom start (.jump (word ++ (label.map (" " ++ ·)).getD "")) []

/-- Read a return statement. -/
def returnStatement (read : Readers) : Reader Node := do
  let start ← here
  bump
  let value ← if ← atEnd then pure none else some <$> wholeExpression read
  needEnd
  nodeFrom start .return value.toList

/-- Read a throw statement, whose value begins on the same line. -/
def throwStatement (read : Readers) : Reader Node := do
  let start ← here
  bump
  if ← afterLineBreak then fail .lineBreakAfterThrow
  let operand ← wholeExpression read
  needEnd
  return .throwing (← spanFrom start) operand

/-- Read a loop that tests first, or a block with a scope object. -/
def headed (read : Readers) (shape : Shape) : Reader Node := do
  let start ← here
  bump
  let test ← head read
  let body ← read .statement
  nodeFrom start shape [test, body]

/-- Read an expression statement or a labelled statement. -/
def expressionStatement (read : Readers) : Reader Node := do
  let start ← here
  let inner ← wholeExpression read
  match inner with
  | .identifier _ label =>
      if ← passMark ":" then
        let body ← read .statement
        return ← nodeFrom start (.labelled label) [body]
  | _ => pure ()
  if ← passEnd then nodeFrom start .expressionStatement [inner]
  else fail .endExpected

/-- Read a statement. -/
def statement (read : Readers) : Reader Node := do
  let start ← here
  match ← token with
  | .mark text =>
      if text == openBrace then read .block
      else if text == ";" then
        bump
        nodeFrom start .empty []
      else expressionStatement read
  | .word name false =>
      match name with
      | "var" | "const" => variableStatement read name
      | "let" =>
          if ← declares then variableStatement read name else expressionStatement read
      | "function" => functionDeclaration read
      | "async" =>
          if (← followingOnLine).any (Token.isWord "function") then
            functionDeclaration read
          else expressionStatement read
      | "class" => classRest read true .classDeclaration
      | "if" => ifStatement read
      | "for" => forStatement read
      | "while" => headed read .whileLoop
      | "do" => doStatement read
      | "switch" => switchStatement read
      | "try" => tryStatement read
      | "return" => returnStatement read
      | "throw" => throwStatement read
      | "break" | "continue" => jumpStatement name
      | "debugger" =>
          bump
          needEnd
          nodeFrom start (.jump name) []
      | "with" => headed read .scope
      | _ => expressionStatement read
  | _ => expressionStatement read

end Parse
end Program
end ErrorTemplates
