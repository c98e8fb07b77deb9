import ErrorTemplates.Program.Node
import ErrorTemplates.Program.Token.Scan

/-!
# The state of reading a program

A program is read one token at a time. The state holds the current token with the text
after it, the comments met so far, and what the surrounding syntax allows. A state can be
advanced without being stored, which is how a reader looks ahead.
-/

namespace ErrorTemplates
namespace Program
namespace Parse

/-- What the surrounding syntax allows. -/
structure Context where
  /-- Inside a function. -/
  inFunction : Bool
  /-- Inside an asynchronous function. -/
  inAsync : Bool
  /-- Inside a generator. -/
  inGenerator : Bool
  /-- The word `in` is an operator. -/
  allowsIn : Bool

/-- How far a program has been read. -/
structure State where
  /-- The text that is read. -/
  origin : Origin
  /-- The current token. -/
  token : Token
  /-- The text from the current token on. -/
  text : List Char
  /-- The text after the current token. -/
  rest : List Char
  /-- Where the current token begins. -/
  start : Nat
  /-- Where the current token ends. -/
  stop : Nat
  /-- A line break stands before the current token. -/
  lineBreak : Bool
  /-- Where the token before the current one ends. -/
  previousStop : Nat
  /-- The comments so far. -/
  comments : Comments
  /-- Something that only a module has was found. -/
  isModule : Bool
  /-- What the surrounding syntax allows. -/
  context : Context
  /-- A bound on the elements of a list. -/
  limit : Nat
  /-- Where the last expression without a comma began. -/
  arrowStart : Option Nat

namespace State

/-- Go to the token after a gap. Comments before the end of the program belong to the last
token, or to the beginning if there is no token. -/
def enter (state : State) (gap : Gap) : State :=
  let scanned := Scanned.next gap.position gap.rest
  let comments := state.comments.addTrailing state.previousStop gap.behind
  let comments :=
    match scanned.token with
    | .ending =>
        if state.previousStop = 0 then comments.addLeading 0 gap.ahead
        else comments.addTrailing state.previousStop gap.ahead
    | _ => comments.addLeading gap.position gap.ahead
  { state with
    token := scanned.token
    text := gap.rest
    rest := gap.rest.drop scanned.text.length
    start := gap.position
    stop := gap.position + bytes scanned.text
    lineBreak := gap.lineBreak
    comments }

/-- Go to the next token. -/
def advance (state : State) : State :=
  let gap : Gap :=
    { rest := [], position := state.stop, lineBreak := false, behind := [], ahead := [] }
  { state with previousStop := state.stop }.enter
    (Gap.read (some state.token) .outside gap state.rest)

/-- Make a text the current token that goes on from where the current token begins. -/
def extend (state : State) (text : List Char) : State :=
  { state with
    rest := state.text.drop text.length
    stop := state.start + bytes text }

/-- The name of an interpreter in the first line of a text. -/
def interpreter? : List Char -> Option (List Char)
  | '#' :: '!' :: rest => some (rest.takeWhile fun c => !isLineBreak c)
  | _ => none

/-- The state before a text, at its first token. -/
def initial (origin : Origin) (text : List Char) : State :=
  let passed :=
    match interpreter? text with
    | some name => '#' :: '!' :: name
    | none => []
  let rest := text.drop passed.length
  let position := bytes passed
  let before : State :=
    { origin
      token := .ending
      text := rest
      rest
      start := position
      stop := position
      lineBreak := true
      previousStop := position
      comments := .none
      isModule := false
      context :=
        { inFunction := false, inAsync := false, inGenerator := false, allowsIn := true }
      limit := text.length + 1
      arrowStart := none }
  before.enter
    (Gap.read none .outside
      { rest := [], position, lineBreak := true, behind := [], ahead := [] } rest)

end State

/-! ## Readers -/

/-- A reader changes the state and may find an error. -/
abbrev Reader := EStateM SyntaxError State

/-- The current token. -/
def token : Reader Token := do
  return (← get).token

/-- The token after the current one, if no line break stands between the two. -/
def followingOnLine : Reader (Option Token) := do
  let next := (← get).advance
  return if next.lineBreak then none else some next.token

/-- The token after the current one. -/
def following : Reader Token := do
  return (← get).advance.token

/-- A line break stands before the current token. -/
def afterLineBreak : Reader Bool := do
  return (← get).lineBreak

/-- Where the current token begins. -/
def here : Reader Nat := do
  return (← get).start

/-- The span from a position to the end of the token before the current one. -/
def spanFrom (start : Nat) : Reader Span := do
  let state ← get
  return { origin := state.origin, start, stop := state.previousStop }

/-- Go to the next token. -/
def bump : Reader Unit :=
  modify State.advance

/-- An expression without a comma begins here. -/
def markArrow : Reader Unit :=
  modify fun state => { state with arrowStart := some state.start }

/-- An arrow function can begin here: an expression without a comma does. -/
def allowsArrow : Reader Bool := do
  let state ← get
  return state.arrowStart == some state.start

/-- Fail at a position. -/
def failAt {α : Type} (position : Nat) (cause : SyntaxCause) : Reader α :=
  throw { cause, position }

/-- Fail at the current token. A token that cannot be read fails for its own reason. -/
def fail {α : Type} (cause : SyntaxCause) : Reader α := do
  match ← token with
  | .fault error => throw error
  | _ => failAt (← here) cause

/-- Fail at the current token with a reason that names it. -/
def failWith {α : Type} (cause : String -> SyntaxCause) : Reader α := do
  fail (cause (← token).describe)

/-- The current token is a mark. -/
def atMark (text : String) : Reader Bool := do
  return (← token).isMark text

/-- The current token is a word. -/
def atWord (name : String) : Reader Bool := do
  return (← token).isWord name

/-- Pass a mark if it is the current token. -/
def passMark (text : String) : Reader Bool := do
  if ← atMark text then
    bump
    return true
  else return false

/-- Pass a word if it is the current token. -/
def passWord (name : String) : Reader Bool := do
  if ← atWord name then
    bump
    return true
  else return false

/-- Pass a mark, or fail. -/
def needMark (text : String) : Reader Unit := do
  if ← passMark text then return ()
  else failWith (.expected text)

/-- Pass a word, or fail. -/
def needWord (name : String) : Reader Unit := do
  if ← passWord name then return ()
  else failWith (.expected name)

/-- A statement may end before the current token. -/
def atEnd : Reader Bool := do
  let current ← token
  return current.isMark ";" || current.isMark closeBrace || current == .ending ||
    (← afterLineBreak)

/-- End a statement, passing a semicolon if there is one. -/
def passEnd : Reader Bool := do
  if ← passMark ";" then return true
  else atEnd

/-- End a statement, or fail. -/
def needEnd : Reader Unit := do
  if ← passEnd then return ()
  else failWith (.expected ";")

/-- Read in another context and return to the current one. -/
def inContext {α : Type} (change : Context -> Context) (reader : Reader α) : Reader α :=
  fun state =>
    match reader { state with context := change state.context } with
    | .ok result after => .ok result { after with context := state.context }
    | .error error after => .error error { after with context := state.context }

/-- Read with the word `in` as an operator, or without it. -/
def withIn {α : Type} (allowed : Bool) (reader : Reader α) : Reader α :=
  inContext (fun context => { context with allowsIn := allowed }) reader

/-- Read the inside of a function. -/
def inFunction {α : Type} (header : FunctionHeader) (reader : Reader α) : Reader α :=
  inContext
    (fun _ =>
      { inFunction := true
        inAsync := header.isAsync
        inGenerator := header.isGenerator
        allowsIn := true })
    reader

/-- Read, and take a value in place of an error. Reading goes on where it failed. -/
def orElse {α : Type} (reader : Reader α) (value : α) : Reader α :=
  fun state =>
    match reader state with
    | .ok result after => .ok result after
    | .error _ after => .ok value after

/-- Read elements until there are no more, at most so many. -/
def elements {α : Type} (element : Reader (Option α)) : (limit : Nat) -> Reader (List α)
  | 0 => fail .nesting
  | limit + 1 => do
      match ← element with
      | none => return []
      | some found => return found :: (← elements element limit)

/-- Read elements until there are no more. -/
def many {α : Type} (element : Reader (Option α)) : Reader (List α) := do
  elements element ((← get).limit)

/-- Read elements between commas up to a closing mark, which is passed. -/
def separated {α : Type} (close : String) (element : Reader α) : Reader (List α) := do
  if ← passMark close then return []
  let first ← element
  let others ← many do
    if ← passMark close then return none
    needMark ","
    if ← passMark close then return none
    return some (← element)
  return first :: others

end Parse
end Program
end ErrorTemplates
