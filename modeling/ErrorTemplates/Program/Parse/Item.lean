import ErrorTemplates.Program.Parse.Statement

/-!
# Module items

Imports and exports, which stand only at the top of a program and make it a module.
-/

namespace ErrorTemplates
namespace Program
namespace Parse

/-- The program is a module. -/
def markModule : Reader Unit :=
  modify fun state => { state with isModule := true }

/-- Read the text of a string. -/
def stringText : Reader String := do
  match ← token with
  | .string raw _ => bump; return raw
  | _ => failWith .unexpected

/-- Read a name of a module, which may be any word or a string. -/
def moduleName : Reader String := do
  match ← token with
  | .word name _ => bump; return name
  | .string raw _ => bump; return raw
  | _ => fail .nameExpected

/-- Read a name and the name that it has on the other side. -/
def moduleNames : Reader String := do
  let name ← moduleName
  if ← passWord "as" then return name ++ " as " ++ (← moduleName)
  else return name

/-- Read the local name of an import. -/
def localName : Reader String := do
  match (← token).name? with
  | some name => bump; return name
  | none => fail .nameExpected

/-- Read what an import or export says about its source, up to its end. -/
def attributes (read : Readers) : Reader (List Node) := do
  let given ←
    if (← atWord "with") && (← following).isMark openBrace then
      bump
      pure [← read .unary]
    else pure []
  needEnd
  return given

/-- Read the names of an import in braces, if there are any. -/
def importedNames : Reader (List String) := do
  if ← passMark openBrace then separated closeBrace moduleNames
  else return []

/-- Read an import of a module as a whole. -/
def importedSpace : Reader (Option String) := do
  if ← passMark "*" then
    needWord "as"
    some <$> localName
  else return none

/-- Read an import. -/
def importItem (read : Readers) : Reader Node := do
  let start ← here
  bump
  markModule
  match ← token with
  | .string source _ =>
      bump
      let given ← attributes read
      nodeFrom start (.imports none none [] source) given
  | _ =>
      let standard := (← token).name?
      if standard.isSome then bump
      let goesOn ← if standard.isSome then passMark "," else pure true
      let space ← if goesOn then importedSpace else pure none
      let names ← if goesOn && space.isNone then importedNames else pure []
      needWord "from"
      let source ← stringText
      let given ← attributes read
      nodeFrom start (.imports standard space names source) given

/-- Read an export of a value or of a declaration without a name. -/
def exportDefault (read : Readers) (start : Nat) : Reader Node := do
  let isAsyncFunction ←
    if ← atWord "async" then
      pure ((← followingOnLine).any (Token.isWord "function"))
    else pure false
  if isAsyncFunction || (← atWord "function") then
    let inner ← functionExpression read
    nodeFrom start .exportDefaultDeclaration [inner]
  else if ← atWord "class" then
    let inner ← classRest read false .classExpression
    nodeFrom start .exportDefaultDeclaration [inner]
  else
    let inner ← withIn true (read .assignment)
    needEnd
    nodeFrom start .exportDefaultValue [inner]

/-- A declaration begins here. -/
def atDeclaration : Reader Bool := do
  match ← token with
  | .word name false =>
      if name == "async" then return (← followingOnLine).any (Token.isWord "function")
      else return ["var", "let", "const", "function", "class"].contains name
  | _ => return false

/-- Read an export. -/
def exportItem (read : Readers) : Reader Node := do
  let start ← here
  bump
  markModule
  if ← passWord "default" then exportDefault read start
  else if ← passMark "*" then
    let name ← if ← passWord "as" then some <$> moduleName else pure none
    needWord "from"
    let source ← stringText
    let given ← attributes read
    nodeFrom start (.exportAll name source) given
  else if ← passMark openBrace then
    let names ← separated closeBrace moduleNames
    if ← passWord "from" then
      let source ← stringText
      let given ← attributes read
      nodeFrom start (.exportNames names (some source)) given
    else
      let _ ← passEnd
      nodeFrom start (.exportNames names none) []
  else if ← atDeclaration then
    let inner ← read .statement
    nodeFrom start .exportDeclaration [inner]
  else failWith (.expected openBrace)

/-- Read a statement, or an item of a module. -/
def item (read : Readers) : Reader Node := do
  if ← atWord "import" then
    let next ← following
    if next.isMark "(" || next.isMark "." then read .statement else importItem read
  else if ← atWord "export" then exportItem read
  else read .statement

end Parse
end Program
end ErrorTemplates
