import ErrorTemplates.Program.Print.Layout

/-!
# Printing a program

The text of a tree. The layout of the source is not kept, comments are, unless the part of
the program that they belong to is gone. Each comment is written once: printing gives back
the comments that it has not written.
-/

namespace ErrorTemplates
namespace Program
namespace Print

/-- A part of an expression. -/
def expressionPart (span : Span) (layout : Layout) : Part :=
  { span, flavour := .plain, layout := Role.expression.dress span layout }

/-- A part that is a statement. -/
def statementPart (span : Span) (layout : Layout) : Part :=
  { span, flavour := .plain, layout := Role.statement.dress span layout }

mutual

/-- A node with its layout. -/
def part : Node -> Part
  | .identifier span name => expressionPart span (text name)
  | .string span raw _ => expressionPart span (text raw)
  | .sum span left right => expressionPart span do
      (part left).layout
      text " + "
      (part right).layout
  | .parens span inner => expressionPart span do
      text "("
      (part inner).layout
      text ")"
  | .spread span inner => expressionPart span do
      text "..."
      (part inner).layout
  | .call span callee arguments => expressionPart span do
      (part callee).layout
      inParentheses (parts arguments)
  | .construct span callee arguments => expressionPart span do
      text "new "
      (part callee).layout
      inParentheses (parts arguments)
  | .throwing span operand => statementPart span do
      text "throw "
      (part operand).layout
      text ";"
  | .function span signature parameters body => statementPart span do
      headerLayout signature.header (some signature.name)
      inParentheses (parts parameters)
      text " "
      (part body).layout
  | .other span shape children =>
      { span
        flavour := flavour shape
        layout := (role shape).dress span (shapeLayout shape span (parts children)) }

/-- Nodes with their layouts. -/
def parts : List Node -> List Part
  | [] => []
  | node :: rest => part node :: parts rest

end

/-- An item at the top of a program. Imports and exports end their line. -/
def itemLayout (item : Node) : Layout := do
  (part item).layout
  match item with
  | .other _ shape _ => if shape.isModuleItem then newLine
  | _ => pure ()

/-- The comments at the end of a program, which a last item that was not read with it
takes away. -/
def closingComments (program : Program) : Layout :=
  match program.items.getLast? with
  | some last => trailingComments { last.span with stop := program.finish }
  | none => trailingComments { origin := .program, start := 0, stop := program.finish }

/-- The layout of a program. -/
def programLayout (program : Program) : Layout := do
  leadingComments { origin := .program, start := 0, stop := 0 }
  match program.interpreter with
  | some name =>
      text ("#!" ++ name)
      newLine
  | none => pure ()
  for item in program.items do
    itemLayout item
  closingComments program

end Print

/-- Print a program with its comments, and give back the comments that were not written. -/
def print (program : Program) (comments : Comments) : String × Comments :=
  let (_, writer) := (Print.programLayout program).run (Print.Writer.start comments)
  (writer.output, writer.comments)

/-- Print a program without comments. -/
def printBare (program : Program) : String := (print program .none).1

end Program
end ErrorTemplates
