import ErrorTemplates.Program.Parse.Binding

/-!
# Functions and classes

A function is its header, its parameters and its body; a method also has a key. What is
allowed inside a function depends on its header alone.
-/

namespace ErrorTemplates
namespace Program
namespace Parse

/-- The header of a function that is neither asynchronous nor a generator. -/
def plainHeader : FunctionHeader := { isAsync := false, isGenerator := false }

/-- Read the parameters and the body of a function. -/
def functionRest (read : Readers) (header : FunctionHeader) : Reader (List Node × Node) :=
  inFunction header do
    needMark "("
    let parameters ← separated ")" (bindingElement read)
    let body ← read .block
    return (parameters, body)

/-- Read what stands before the name of a function. -/
def functionHeader : Reader FunctionHeader := do
  let isAsync ← passWord "async"
  needWord "function"
  let isGenerator ← passMark "*"
  return { isAsync, isGenerator }

/-- Read a function in an expression. -/
def functionExpression (read : Readers) : Reader Node := do
  let start ← here
  let header ← functionHeader
  let name := (← token).name?
  if name.isSome then bump
  let (parameters, body) ← functionRest read header
  nodeFrom start (.functionExpression header name) (parameters ++ [body])

/-- Read a function declaration. -/
def functionDeclaration (read : Readers) : Reader Node := do
  let start ← here
  let header ← functionHeader
  let nameStart ← here
  match (← token).name? with
  | none => fail .nameExpected
  | some name =>
      bump
      let nameSpan ← spanFrom nameStart
      let (parameters, body) ← functionRest read header
      return .function (← spanFrom start) { name, nameSpan, header } parameters body

/-! ## Methods -/

/-- A word stands before a key and is not the key itself. -/
def isModifier (next : Token) : Bool :=
  match next with
  | .mark text => ["[", "*", openBrace].contains text
  | .word _ _ | .string _ _ | .number _ | .bigInteger _ | .privateName _ => true
  | .fault _ | .ending => false

/-- Pass a word that stands before a key. -/
def passModifier (name : String) : Reader Bool := do
  if (← atWord name) && isModifier (← following) then
    bump
    return true
  else return false

/-- Pass the word for an asynchronous method, which no line break may follow. -/
def passAsync : Reader Bool := do
  if (← atWord "async") && (← followingOnLine).any isModifier then
    bump
    return true
  else return false

/-- Pass the word that stands before an accessor. Before a star on another line it is a key. -/
def passAccessor (name : String) : Reader Bool := do
  let next ← following
  let nextOnLine ← followingOnLine
  if (← atWord name) && isModifier next && (!next.isMark "*" || nextOnLine.isSome) then
    bump
    return true
  else return false

/-- Pass the word for a getter or a setter. -/
def methodKind : Reader MethodKind := do
  if ← passAccessor "get" then return .getter
  else if ← passAccessor "set" then return .setter
  else return .plain

/-- The parameters that a method keeps. Too many parameters end no reading, but an accessor of an
object has no place for them. -/
def keptParameters (place : MethodPlace) (kind : MethodKind) (parameters : List Node) :
    List Node :=
  match place, kind with
  | .inObject, .getter => []
  | .inObject, .setter => parameters.take 2
  | _, _ => parameters

/-- Read a method from its parameters on. -/
def methodRest
    (read : Readers)
    (start : Nat)
    (place : MethodPlace)
    (kind : MethodKind)
    (header : FunctionHeader)
    (key : Node) : Reader Node := do
  let (parameters, body) ← functionRest read header
  let kept := keptParameters place kind parameters
  nodeFrom start (.method place kind header) (key :: kept ++ [body])

/-! ## Classes -/

/-- The key is the one of a constructor. -/
def isConstructorKey : Node -> Bool
  | .other _ (.word name) _ => name == "constructor"
  | .string _ _ value => value == some "constructor"
  | _ => false

/-- Read a member of a class. -/
def classMember (read : Readers) : Reader Node := do
  let start ← here
  if ← passMark ";" then
    return ← nodeFrom start .empty []
  let isStatic ← passModifier "static"
  if isStatic && (← atMark openBrace) then
    let body ← inFunction plainHeader (read .block)
    return ← nodeFrom start .staticBlock [body]
  let isAsync ← passAsync
  let isGenerator ← passMark "*"
  let kind ← if isAsync || isGenerator then pure .plain else methodKind
  let key ← propertyKey read
  if ← atMark "(" then
    let header : FunctionHeader := { isAsync, isGenerator }
    let place :=
      if isConstructorKey key && !isStatic && kind == .plain && header == plainHeader then
        MethodPlace.constructor
      else .inClass isStatic
    methodRest read start place kind header key
  else
    let value ←
      if ← passMark "=" then
        some <$> inFunction plainHeader (read .assignment)
      else if ← atEnd then pure none
      else failWith .memberUnexpected
    let _ ← passEnd
    nodeFrom start (.field isStatic) (key :: value.toList)

/-- Read a class, from its word on. -/
def classRest
    (read : Readers)
    (needsName : Bool)
    (shape : Option String -> Bool -> Shape) : Reader Node := do
  let start ← here
  needWord "class"
  let name := (← token).name?
  if name.isSome then bump
  else if needsName then fail .nameExpected
  let heritage ←
    if ← passWord "extends" then some <$> read .operand else pure none
  needMark openBrace
  let members ← many do
    if ← passMark closeBrace then return none
    return some (← classMember read)
  nodeFrom start (shape name heritage.isSome) (members ++ heritage.toList)

end Parse
end Program
end ErrorTemplates
