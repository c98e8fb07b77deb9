import ErrorTemplates.Program.Node
import ErrorTemplates.Program.Token
import ErrorTemplates.Program.Print.Writer

/-!
# The layout of syntax

How each kind of syntax is written: which marks and words it has, where a blank stands,
and which parts have lines of their own. A part is a node whose layout is known. No
parentheses are added, and literals are written as they were read.
-/

namespace ErrorTemplates
namespace Program
namespace Print

/-- What the surroundings of a part need to know of it. -/
inductive Flavour
  | plain
  /-- A statement that is a block. -/
  | block
  /-- An expression that begins with a plus sign. -/
  | plus
  /-- An expression that begins with a minus sign. -/
  | minus
  /-- A number that a point would continue. -/
  | digits
  /-- No expression at all. -/
  | hole
  deriving DecidableEq

/-- A node whose layout is known. -/
structure Part where
  /-- Where the node was read. -/
  span : Span
  /-- What the surroundings need to know. -/
  flavour : Flavour
  /-- The layout, with the comments before and after the node. -/
  layout : Layout

/-- The comments and the line end that a kind of syntax takes with it. -/
inductive Role
  /-- Comments on both sides. -/
  | expression
  /-- Comments on both sides and the end of the line. -/
  | statement
  /-- Comments before it only. -/
  | piece
  /-- Nothing. -/
  | absent
  deriving DecidableEq

/-- A layout with the comments and the line end of its role. -/
def Role.dress (role : Role) (span : Span) (layout : Layout) : Layout := do
  match role with
  | .expression =>
      leadingComments span
      layout
      trailingComments span
  | .statement =>
      leadingComments span
      layout
      trailingComments span
      newLine
  | .piece =>
      leadingComments span
      layout
  | .absent => layout

/-- The role of a kind of syntax. -/
def role : Shape -> Role
  | .hole => .absent
  | .property | .computedName | .method .. | .field _ | .staticBlock => .piece
  | .block | .declarators _ | .declarator | .clause _ | .handler _ => .piece
  | .imports .. | .exportNames .. | .exportAll .. => .piece
  | .exportDeclaration | .exportDefaultValue | .exportDefaultDeclaration => .piece
  | .classDeclaration .. | .empty | .expressionStatement | .variableStatement => .statement
  | .conditionalStatement | .forLoop .. | .forIn | .forOf _ => .statement
  | .whileLoop | .doLoop | .switch | .guarded .. | .labelled _ => .statement
  | .jump _ | .return | .scope => .statement
  | _ => .expression

/-- The number goes on when a point is written after it. -/
def takesPoint (raw : String) : Bool :=
  let digits := raw.toList
  digits.all (fun c => '0' ≤ c && c ≤ '9') && !(1 < digits.length && digits.head? == some '0')

/-- What the surroundings need to know of a kind of syntax. -/
def flavour : Shape -> Flavour
  | .block => .block
  | .hole => .hole
  | .number raw => if takesPoint raw then .digits else .plain
  | .unary "+" => .plus
  | .unary "-" => .minus
  | .updateBefore "++" => .plus
  | .updateBefore "--" => .minus
  | _ => .plain

/-- The layouts of parts. -/
def layouts (parts : List Part) : List Layout := parts.map Part.layout

/-! ## Layouts that several kinds share -/

/-- Parts in parentheses. -/
def inParentheses (parts : List Part) : Layout := do
  text "("
  commaSeparated (layouts parts)
  text ")"

/-- The elements of an array, each on lines of its own. -/
def arrayLayout (parts : List Part) : Layout := do
  text "["
  if !parts.isEmpty then
    newLine
    indented do
      between (do text ","; newLine) (layouts parts)
      if parts.getLast?.any (fun last => last.flavour == .hole) then text ", "
    newLine
  text "]"

/-- The elements of an array pattern on one line. -/
def arrayPatternLayout (parts : List Part) : Layout := do
  text "["
  commaSeparated (layouts parts)
  if parts.getLast?.any (fun last => last.flavour == .hole) then text ", "
  text "]"

/-- The properties of an object, each on lines of its own. -/
def objectLayout (parts : List Part) : Layout := do
  text openBrace
  if !parts.isEmpty then commaLines (layouts parts)
  text closeBrace

/-- Things on one line in braces. -/
def inBraces (layouts : List Layout) : Layout := do
  if layouts.isEmpty then text (openBrace ++ closeBrace)
  else
    text (openBrace ++ " ")
    commaSeparated layouts
    text (" " ++ closeBrace)

/-- The comments before a closing brace belong to the brace. -/
def leadsClosing (span : Span) : StateM Writer Bool := do
  match span.origin with
  | .program => return (← get).comments.leads (span.stop - 1)
  | .replacement => return false

/-- Statements in braces. Comments before the closing brace keep their place. -/
def blockLayout (span : Span) (parts : List Part) : Layout := do
  text openBrace
  if !parts.isEmpty || (← leadsClosing span) then
    lines (layouts parts)
    leadingComments { span with start := span.stop - 1 }
  text closeBrace

/-- Members in braces, which never share a line with a brace. -/
def membersLayout (parts : List Part) : Layout := do
  text openBrace
  lines (layouts parts)
  text closeBrace

/-- The words and marks of a header, and the name after them. -/
def headerLayout (header : FunctionHeader) (name : Option String) : Layout := do
  if header.isAsync then text "async "
  text "function"
  if header.isGenerator then text "*"
  match name with
  | some name => text (" " ++ name)
  | none => pure ()

/-- The parameters of a function and its body, which is the last part. -/
def functionRestLayout (parts : List Part) : Layout := do
  inParentheses parts.dropLast
  text " "
  between (pure ()) (layouts parts.getLast?.toList)

/-- The words and marks before the key of a method. -/
def methodWords (kind : MethodKind) (header : FunctionHeader) : Layout := do
  if header.isAsync then text "async "
  if header.isGenerator then text "*"
  match kind with
  | .plain => pure ()
  | .getter => text "get "
  | .setter => text "set "

/-- The body of a method, which is its last part, after the given blank. -/
def methodBody (blank : String) (parts : List Part) : Layout := do
  inParentheses parts.dropLast
  text blank
  between (pure ()) (layouts parts.getLast?.toList)

/-- A method. The blanks around its parameters depend on its place. -/
def methodLayout
    (place : MethodPlace)
    (kind : MethodKind)
    (header : FunctionHeader)
    (key : Part)
    (parts : List Part) : Layout := do
  match place with
  | .inObject =>
      methodWords kind header
      key.layout
      text " "
      methodBody (if kind == .setter then "" else " ") parts
  | .inClass isStatic =>
      if isStatic then text "static "
      methodWords kind header
      key.layout
      methodBody " " parts
  | .constructor =>
      key.layout
      methodBody "" parts

/-- A class, given the names and parts of it. The heritage is the last part. -/
def classLayout (name : Option String) (hasHeritage : Bool) (parts : List Part) :
    Layout := do
  text "class"
  match name with
  | some name => text (" " ++ name)
  | none => pure ()
  if hasHeritage then
    text " extends "
    between (pure ()) (layouts parts.getLast?.toList)
  text " "
  membersLayout (if hasHeritage then parts.dropLast else parts)

/-- The texts of a template between its substitutions. -/
def templateLayout : List String -> List Part -> Layout
  | chunk :: chunks, part :: parts => do
      text chunk
      text ("$" ++ openBrace)
      part.layout
      text closeBrace
      templateLayout chunks parts
  | [chunk], [] => text chunk
  | _, _ => pure ()

/-- An operator before its operand, apart from another of its sign. -/
def unaryLayout (operator : String) (operand : Part) : Layout := do
  text operator
  if operator.toList.all Char.isAlpha then text " "
  else if operator == "+" && operand.flavour == .plus then text " "
  else if operator == "-" && operand.flavour == .minus then text " "
  operand.layout

/-- The head of a loop with a counter, each of whose parts may be missing. -/
def loopHead (hasStart hasTest hasUpdate : Bool) (parts : List Part) : Layout := do
  text "for("
  let (first, others) := if hasStart then (parts.take 1, parts.drop 1) else ([], parts)
  between (pure ()) (layouts first)
  text ";"
  let (test, others) := if hasTest then (others.take 1, others.drop 1) else ([], others)
  for part in test do
    text " "
    part.layout
  text ";"
  if hasUpdate then
    for part in others.take 1 do
      text " "
      part.layout
  text ")"

/-- The names that an import takes from its module. -/
def importLayout (standard space : Option String) (names : List String) : Layout := do
  match standard with
  | some name => text name
  | none => pure ()
  match space with
  | some name =>
      if standard.isSome then text ", "
      text ("* as " ++ name)
  | none => pure ()
  if !names.isEmpty then
    if standard.isSome || space.isSome then text ", "
    inBraces (names.map text)
  if standard.isSome || space.isSome || !names.isEmpty then text " from "

/-- The end of an import or an export: what it says about its source, and a semicolon. -/
def attributesLayout (parts : List Part) : Layout := do
  for part in parts do
    text " with "
    part.layout
  text ";"

/-! ## Every kind -/

/-- The layout of an expression or a pattern from the layouts of its children. -/
def expressionLayout : Shape -> List Part -> Layout
  | .word written, _ => text written
  | .number raw, _ => text raw
  | .literal raw, _ => text raw
  | .template chunks, parts => do
      text "`"
      templateLayout chunks parts
      text "`"
  | .tagged, parts => between (pure ()) (layouts parts)
  | .array, parts => arrayLayout parts
  | .object, parts => objectLayout parts
  | .property, parts => between (text ": ") (layouts parts)
  | .computedName, parts => do
      text "["
      between (pure ()) (layouts parts)
      text "]"
  | .method place kind header, key :: parts => methodLayout place kind header key parts
  | .functionExpression header name, parts => do
      headerLayout header name
      functionRestLayout parts
  | .arrow isAsync, parts => do
      if isAsync then text "async "
      inParentheses parts.dropLast
      text "=>"
      for body in parts.getLast?.toList do
        if body.flavour == .block then body.layout else indented body.layout
  | .unary operator, [operand] => unaryLayout operator operand
  | .updateBefore operator, [operand] => do
      text operator
      operand.layout
  | .updateAfter operator, [operand] => do
      operand.layout
      text operator
  | .binary operator, parts => between (text (" " ++ operator ++ " ")) (layouts parts)
  | .assign operator, parts => between (text (" " ++ operator ++ " ")) (layouts parts)
  | .defaulted, parts => between (text " = ") (layouts parts)
  | .conditional, [test, onTrue, onFalse] => do
      test.layout
      text " ? "
      onTrue.layout
      text " : "
      onFalse.layout
  | .sequence, parts => commaSeparated (layouts parts)
  | .member name, [value] => do
      value.layout
      if value.flavour == .digits then text "."
      text ("." ++ name)
  | .index, [value, key] => do
      value.layout
      text "["
      key.layout
      text "]"
  | .optionalMember name, [value] => do
      value.layout
      text ("?." ++ name)
  | .optionalIndex, [value, key] => do
      value.layout
      text "?.["
      key.layout
      text "]"
  | .optionalCall, callee :: parts => do
      callee.layout
      text "?."
      inParentheses parts
  | .chainCall, callee :: parts => do
      callee.layout
      inParentheses parts
  | .bareNew, [callee] => do
      text "new "
      callee.layout
  | .yield delegates, parts => do
      text (if delegates then "yield*" else "yield")
      for part in parts do
        text " "
        part.layout
  | .await, [operand] => do
      text "await "
      operand.layout
  | .arrayPattern, parts => arrayPatternLayout parts
  | .objectPattern, parts => inBraces (layouts parts)
  | .classExpression name hasHeritage, parts => classLayout name hasHeritage parts
  | .field isStatic, parts => do
      if isStatic then text "static "
      between (text " = ") (layouts parts)
      text ";"
  | .staticBlock, [body] => do
      text "static"
      body.layout
  | .declarators kind, parts => do
      text (kind ++ " ")
      commaSeparated (layouts parts)
  | .declarator, parts => between (text " = ") (layouts parts)
  | _, _ => pure ()

/-- The layout of a statement or an item of a module from the layouts of its children. -/
def statementLayout : Shape -> List Part -> Layout
  | .classDeclaration name hasHeritage, parts => classLayout name hasHeritage parts
  | .empty, _ => text ";"
  | .expressionStatement, [inner] => do
      inner.layout
      text ";"
  | .variableStatement, [inner] => do
      inner.layout
      text ";"
  | .conditionalStatement, test :: onTrue :: parts => do
      text "if ("
      test.layout
      text ") "
      onTrue.layout
      for onFalse in parts do
        if onTrue.flavour == .block then text " "
        text "else "
        onFalse.layout
  | .forLoop hasStart hasTest hasUpdate, parts => do
      loopHead hasStart hasTest hasUpdate parts.dropLast
      between (pure ()) (layouts parts.getLast?.toList)
  | .forIn, [left, right, body] => do
      text "for("
      left.layout
      text " in "
      right.layout
      text ")"
      body.layout
  | .forOf isAwait, [left, right, body] => do
      text (if isAwait then "for await (" else "for (")
      left.layout
      text " of "
      right.layout
      text ")"
      body.layout
  | .whileLoop, [test, body] => do
      text "while("
      test.layout
      text ")"
      body.layout
  | .doLoop, [test, body] => do
      text "do "
      body.layout
      text "while ("
      test.layout
      text ")"
  | .switch, subject :: clauses => do
      text "switch("
      subject.layout
      text ")"
      membersLayout clauses
  | .clause true, test :: body => do
      text "case "
      test.layout
      text ":"
      lines (layouts body)
  | .clause false, body => do
      text "default:"
      lines (layouts body)
  | .guarded hasHandler hasFinalizer, body :: parts => do
      text "try "
      body.layout
      if hasHandler then
        text " "
        between (pure ()) (layouts (parts.take 1))
      if hasFinalizer then
        text " finally"
        between (pure ()) (layouts parts.getLast?.toList)
  | .handler true, [parameter, body] => do
      text "catch ("
      parameter.layout
      text ") "
      body.layout
  | .handler false, [body] => do
      text "catch  "
      body.layout
  | .labelled label, [body] => do
      text (label ++ ": ")
      body.layout
  | .jump written, _ => text (written ++ ";")
  | .return, parts => do
      text "return"
      for part in parts do
        text " "
        part.layout
      text ";"
  | .scope, [value, body] => do
      text "with ("
      value.layout
      text ")"
      body.layout
  | .imports standard space names source, parts => do
      text "import "
      importLayout standard space names
      text source
      attributesLayout parts
  | .exportNames names source, parts => do
      text "export "
      inBraces (names.map text)
      match source with
      | some source => text (" from " ++ source)
      | none => pure ()
      attributesLayout parts
  | .exportAll name source, parts => do
      text "export *"
      match name with
      | some name => text (" as " ++ name)
      | none => pure ()
      text (" from " ++ source)
      attributesLayout parts
  | .exportDeclaration, [inner] => do
      text "export "
      inner.layout
  | .exportDefaultValue, [inner] => do
      text "export default "
      inner.layout
      text ";"
  | .exportDefaultDeclaration, [inner] => do
      text "export default "
      inner.layout
  | _, _ => pure ()

/-- The kind of syntax is a statement or an item of a module. -/
def isStatement (shape : Shape) : Bool :=
  role shape == .statement || shape.isModuleItem ||
    match shape with
    | .clause _ | .handler _ => true
    | _ => false

/-- The layout of a kind of syntax, without the comments around it. -/
def shapeLayout (shape : Shape) (span : Span) (parts : List Part) : Layout :=
  match shape with
  | .block => blockLayout span parts
  | shape =>
      if isStatement shape then statementLayout shape parts
      else expressionLayout shape parts

end Print
end Program
end ErrorTemplates
