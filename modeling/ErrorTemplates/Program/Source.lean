import ErrorTemplates.Program.Parse
import ErrorTemplates.Text.Location

/-!
# Sources

A text under the path by which it is known. Reading it gives a program with its comments
or tells where it is not one. A fragment is a source whose only statement is a function
declaration; items that only a module has do not count as statements.
-/

namespace ErrorTemplates
namespace Program

/-- A text with its path. A byte order mark is not part of the text. -/
structure Source where
  /-- The path. -/
  file : String
  /-- The text. -/
  text : List Char

/-- Where and why a source cannot be read. -/
structure Unreadable where
  /-- Where reading failed. -/
  location : Text.Location
  /-- Why it failed. -/
  reason : String
  deriving DecidableEq

/-- The failure in one line. -/
def Unreadable.describe (failure : Unreadable) : String :=
  failure.location.file ++ ":" ++ toString failure.location.line ++ ":" ++
    toString failure.location.column ++ ": " ++ failure.reason

/-! ## Fragments -/

/-- Why a program is not a fragment. -/
inductive FragmentFault
  /-- There is not exactly one statement. -/
  | notSingle
  /-- The only statement is not a function declaration. -/
  | notFunction
  deriving DecidableEq

/-- Why a program is not a fragment, in words. -/
def FragmentFault.message : FragmentFault -> String
  | .notSingle => "replacement must contain exactly one function declaration"
  | .notFunction => "replacement must be a function declaration"

/-- The node is a statement and not an item that only a module has. -/
def Node.isStatement : Node -> Bool
  | .other _ shape _ => !shape.isModuleItem
  | _ => true

/-- The declaration that a node is. -/
def Node.declaration? : Node -> Option Declaration
  | .function span signature parameters body =>
      some { span, signature, parameters, body }
  | _ => none

@[simp] theorem Node.declaration?_function
    (span : Span)
    (signature : Signature)
    (parameters : List Node)
    (body : Node) :
    (Node.function span signature parameters body).declaration? =
      some { span, signature, parameters, body } := rfl

@[simp] theorem declaration?_toNode (declaration : Declaration) :
    declaration.toNode.declaration? = some declaration := rfl

/-- The statements among the items of a program. -/
def statements (program : Program) : List Node := program.items.filter Node.isStatement

/-- The only statement of a program, if it is a function declaration. -/
def fragment (program : Program) : Except FragmentFault Declaration :=
  match program.statements with
  | [item] =>
      match item.declaration? with
      | some declaration => .ok declaration
      | none => .error .notFunction
  | _ => .error .notSingle

/-! ## Reading -/

namespace Source

/-- The source with a text. -/
def ofText (file text : String) : Source := { file, text := Text.withoutMark text.toList }

/-- The location of a position. -/
def locate (source : Source) (position : Nat) : Text.Location :=
  Text.locate source.file source.text position

/-- Read the program. -/
def parse (source : Source) (origin : Origin) : Except Unreadable Parsed :=
  match Program.parse origin source.text with
  | .ok parsed => .ok parsed
  | .error error =>
      .error { location := source.locate error.position, reason := error.cause.message }

/-- The beginning of a source, for a failure that concerns it as a whole. -/
def beginning (source : Source) : Text.Location :=
  { file := source.file, line := 1, column := 1, sourceLine := "" }

/-- The fragment in what was read of a source. -/
def fragmentOf (source : Source) (read : Except Unreadable Parsed) :
    Except Unreadable Declaration :=
  match read with
  | .error failure => .error failure
  | .ok parsed =>
      match parsed.program.fragment with
      | .ok declaration => .ok declaration
      | .error fault =>
          .error { location := source.beginning, reason := fault.message }

/-- Read a fragment. -/
def parseFragment (source : Source) : Except Unreadable Declaration :=
  source.fragmentOf (source.parse .replacement)

end Source

end Program
end ErrorTemplates
