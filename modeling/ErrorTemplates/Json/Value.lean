import ErrorTemplates.Json.Text

/-!
# Writing JSON values

The values that are written are objects and strings. An object keeps its members in order.
The compact form has no blanks; in the pretty form every member has a line of its own,
indented by two blanks for each level.
-/

namespace ErrorTemplates
namespace Json

/-- A value that is written. -/
inductive Value
  | string (text : String)
  | object (members : List (String × Value))

mutual

/-- The pieces of a value in the compact form, in the order in which they are written. -/
def Value.pieces : Value -> List String
  | .string text => quotePieces text
  | .object members => "\x7b" :: (Value.memberPieces members ++ ["\x7d"])

/-- The pieces of the members of an object. -/
def Value.memberPieces : List (String × Value) -> List String
  | [] => []
  | [(name, value)] => quotePieces name ++ ":" :: value.pieces
  | (name, value) :: other :: rest =>
      quotePieces name ++ ":" :: (value.pieces ++ "," :: Value.memberPieces (other :: rest))

end

/-- A value in the compact form. -/
def Value.compact (value : Value) : String := String.join value.pieces

/-- The beginning of a line of the pretty form. -/
def lineStart (level : Nat) : String :=
  "\n" ++ String.ofList (List.replicate (2 * level) ' ')

mutual

/-- A value in the pretty form at a level. -/
def Value.prettyAt (level : Nat) : Value -> String
  | .string text => quote text
  | .object [] => "\x7b\x7d"
  | .object members =>
      "\x7b" ++ Value.prettyMembers (level + 1) members ++ lineStart level ++ "\x7d"

/-- The members of an object in the pretty form at a level. -/
def Value.prettyMembers (level : Nat) : List (String × Value) -> String
  | [] => ""
  | [(name, value)] => lineStart level ++ quote name ++ ": " ++ value.prettyAt level
  | (name, value) :: other :: rest =>
      lineStart level ++ quote name ++ ": " ++ value.prettyAt level ++ "," ++
        Value.prettyMembers level (other :: rest)

end

/-- A value in the pretty form. -/
def Value.pretty (value : Value) : String := value.prettyAt 0

end Json
end ErrorTemplates
