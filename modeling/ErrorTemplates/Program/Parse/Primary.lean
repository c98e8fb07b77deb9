import ErrorTemplates.Program.Parse.Function
import ErrorTemplates.Program.Parse.Pattern

/-!
# Expressions without operators

Literals, names, arrays, objects, functions and expressions in parentheses. A list in
parentheses becomes the parameters of an arrow function when an arrow follows it.
-/

namespace ErrorTemplates
namespace Program
namespace Parse

/-- Take the result of a conversion, or fail with its error. -/
def converted {α : Type} : Except SyntaxError α -> Reader α
  | .ok result => pure result
  | .error error => throw error

/-! ## Templates and regular expressions -/

/-- Read a text part of a template, from the mark before it on. The result tells whether a
substitution follows. -/
def templateChunk (isChecked : Bool) : Reader (String × Bool) := do
  let state ← get
  match Literal.chunkText state.rest with
  | none => failAt state.start .unterminatedTemplate
  | some content =>
      let continues := (state.rest.drop content.length).head? == some '$'
      let closing := if continues then ['$', '\x7b'] else ['\x60']
      if isChecked then
        match Escape.value content with
        | .ok _ => pure ()
        | .error fault =>
            failAt (state.stop + bytes content - bytes fault.rest) fault.cause
      set (state.extend (state.text.take 1 ++ content ++ closing))
      bump
      return (String.ofList (Literal.withLineFeeds content), continues)

/-- Read a template. In a template without a tag all escape sequences are valid. -/
def template (read : Readers) (isTagged : Bool) : Reader Node := do
  let start ← here
  let (first, continues) ← templateChunk !isTagged
  if !continues then
    return ← nodeFrom start (.template [first]) []
  let parts ← substitutions (!isTagged) ((← get).limit)
  nodeFrom start (.template (first :: parts.map Prod.snd)) (parts.map Prod.fst)
where
  /-- Read substitutions, each with the text after it. -/
  substitutions (isChecked : Bool) : (limit : Nat) -> Reader (List (Node × String))
    | 0 => fail .nesting
    | limit + 1 => do
        let inner ← wholeExpression read
        if !(← atMark closeBrace) then failWith (.expected closeBrace)
        let (text, continues) ← templateChunk isChecked
        if continues then
          return (inner, text) :: (← substitutions isChecked limit)
        else return [(inner, text)]

/-- Read a regular expression at a slash. -/
def pattern : Reader Node := do
  let state ← get
  match Literal.patternText false (state.text.drop 1) with
  | none => failAt state.start .unterminatedPattern
  | some content =>
      let body := '/' :: (content ++ ['/'])
      let raw := body ++ Literal.wordText (state.text.drop body.length)
      set (state.extend raw)
      bump
      nodeFrom state.start (.literal (String.ofList raw)) []

/-! ## Arrow functions -/

/-- Read an arrow function from its arrow on. -/
def arrowRest
    (read : Readers)
    (start : Nat)
    (isAsync : Bool)
    (parameters : List Node) : Reader Node := do
  needMark "=>"
  let allowsIn := (← get).context.allowsIn
  let body ←
    inFunction { isAsync, isGenerator := false } do
      if ← atMark openBrace then read .block
      else withIn allowsIn (read .assignment)
  nodeFrom start (.arrow isAsync) (parameters ++ [body])

/-- An arrow follows on the same line. -/
def atArrow : Reader Bool := do
  return (← atMark "=>") && !(← afterLineBreak)

/-- Read a name, which may be the only parameter of an arrow function where one can stand. -/
def nameOrArrow (read : Readers) (mayBeArrow : Bool) (start : Nat) (isAsync : Bool) :
    Reader Node := do
  let nameStart ← here
  match (← token).name? with
  | none => fail .expressionExpected
  | some name =>
      bump
      let identifier := Node.identifier (← spanFrom nameStart) name
      if mayBeArrow && (← atArrow) then arrowRest read start isAsync [identifier]
      else return identifier

/-- Where the operand of a spread element begins. -/
def spreadPosition? : Node -> Option Nat
  | .spread _ inner => some inner.span.start
  | _ => none

/-- Read an expression in parentheses, or an arrow function where one can stand. -/
def parenthesized (read : Readers) (mayBeArrow : Bool) : Reader Node := do
  let start ← here
  needMark "("
  let inner ← separated ")" (element read)
  let span ← spanFrom start
  if ← atArrow then
    if !mayBeArrow then failAt start .arrowForbidden
    let parameters ← converted (Node.toPatterns inner)
    return ← arrowRest read start false parameters
  if let some position := inner.findSome? spreadPosition? then
    failAt position .spreadInParentheses
  match inner with
  | [] => failAt start .emptyParentheses
  | [only] => return .parens span only
  | first :: _ =>
      let whole : Span :=
        { first.span with stop := (inner.getLast?.map fun last => last.span.stop).getD 0 }
      return .parens span (.other whole .sequence inner)

/-- Read what begins with the word `async` in an expression. It is a name where no arrow function
can stand, unless a function follows. -/
def asyncExpression (read : Readers) (mayBeArrow : Bool) : Reader Node := do
  let start ← here
  let next ← followingOnLine
  if next.any (Token.isWord "function") then functionExpression read
  else if !mayBeArrow then nameOrArrow read false start false
  else if next.any (fun next => next.name?.isSome) &&
      (← get).advance.advance.token.isMark "=>" then
    bump
    nameOrArrow read true start true
  else
    bump
    let name := Node.identifier (← spanFrom start) "async"
    if ← atArrow then arrowRest read start false [name]
    else if next.any (Token.isMark "(") then
      let given ← arguments read
      if ← atArrow then
        let parameters ← converted (Node.toPatterns given)
        arrowRest read start true parameters
      else return .call (← spanFrom start) name given
    else return name

/-! ## Objects -/

/-- Read a property of an object. -/
def objectProperty (read : Readers) : Reader Node := do
  let start ← here
  if ← atMark "..." then
    return ← element read
  let isAsync ← passAsync
  let isGenerator ← passMark "*"
  let kind ← if isAsync || isGenerator then pure .plain else methodKind
  let current ← token
  let key ← propertyKey read
  if isAsync || isGenerator || kind != .plain || (← atMark "(") then
    return ← methodRest read start .inObject kind { isAsync, isGenerator } key
  if ← passMark ":" then
    let value ← withIn true (read .assignment)
    return ← nodeFrom start .property [key, value]
  match current.word? with
  | none => failWith .unexpected
  | some name =>
      let span ← spanFrom start
      let target := Node.identifier span name
      if ← passMark "=" then
        let value ← withIn true (read .assignment)
        nodeFrom start .defaulted [target, value]
      else if (← atMark ",") || (← atMark closeBrace) then return target
      else failWith .propertyExpected

/-! ## All of them -/

/-- The words that are expressions. -/
def expressionWords : List String := ["this", "null", "true", "false", "super"]

/-- Read the word `import` in an expression. -/
def importExpression : Reader Node := do
  let start ← here
  bump
  if ← passMark "." then
    needWord "meta"
    modify fun state => { state with isModule := true }
    nodeFrom start (.word "import.meta") []
  else if ← atMark "(" then nodeFrom start (.word "import") []
  else failWith (.expected "(")

/-- Read an expression without operators, calls and members. -/
def primary (read : Readers) : Reader Node := do
  let start ← here
  let mayBeArrow ← allowsArrow
  match ← token with
  | .string raw value =>
      bump
      return .string (← spanFrom start) raw value
  | .number raw => bump; nodeFrom start (.number raw) []
  | .bigInteger raw => bump; nodeFrom start (.literal raw) []
  | .privateName name => bump; nodeFrom start (.word ("#" ++ name)) []
  | .mark "(" => parenthesized read mayBeArrow
  | .mark "`" => template read false
  | .mark "/" => pattern
  | .mark "/=" => pattern
  | .mark "[" =>
      bump
      let children ← arrayElements (element read)
      nodeFrom start .array children
  | .mark text =>
      if text == openBrace then
        bump
        let children ← objectProperties (objectProperty read)
        nodeFrom start .object children
      else fail .expressionExpected
  | .word name false =>
      if expressionWords.contains name then
        bump
        nodeFrom start (.word name) []
      else if name == "function" then functionExpression read
      else if name == "class" then classRest read false .classExpression
      else if name == "import" then importExpression
      else if name == "async" then asyncExpression read mayBeArrow
      else nameOrArrow read mayBeArrow start false
  | .word _ true => nameOrArrow read mayBeArrow start false
  | .fault _ | .ending => fail .expressionExpected

end Parse
end Program
end ErrorTemplates
