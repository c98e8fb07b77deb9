import ErrorTemplates.Program.Node

/-!
# The definition of the factory

A program may declare the factory itself, and another declaration may be given to take its
place. It does so only when there is exactly one to replace: with two or more it is not
known which is meant, and all of them stay.
-/

namespace ErrorTemplates
namespace Extraction

open Program

/-- The declarations of the factory, by their names, in the order of the visit. -/
structure Sites where
  /-- Where the names stand. -/
  spans : List Span
  deriving DecidableEq

/-- What to do about the declarations of the factory. -/
inductive Plan
  /-- Leave the program as it is. -/
  | keep
  /-- Replace the only declaration. -/
  | substitute
  /-- There are several; the second one is named. -/
  | ambiguous (count : Nat) (second : Span)
  deriving DecidableEq

namespace Sites

/-- No declarations. -/
def none : Sites := { spans := [] }

/-- Add a declaration. -/
def record (sites : Sites) (span : Span) : Sites := { spans := sites.spans ++ [span] }

/-- The number of declarations. -/
def size (sites : Sites) : Nat := sites.spans.length

/-- There are no declarations. -/
def isEmpty (sites : Sites) : Bool := sites.spans.isEmpty

/-- What to do about the declarations, given whether there is a replacement. -/
def plan (sites : Sites) (hasReplacement : Bool) : Plan :=
  match sites.spans with
  | [] => .keep
  | [_] => if hasReplacement then .substitute else .keep
  | _ :: second :: _ => .ambiguous sites.spans.length second

@[simp] theorem size_record (sites : Sites) (span : Span) :
    (sites.record span).size = sites.size + 1 := by
  simp [record, size]

@[simp] theorem plan_none (hasReplacement : Bool) : none.plan hasReplacement = .keep := rfl

end Sites

/-! ## Replacing -/

mutual

/-- A tree with every declaration of a name replaced. Declarations of that name are not
searched for others. -/
def splice (name : String) (replacement : Declaration) : Node -> Node
  | .identifier span written => .identifier span written
  | .string span raw value => .string span raw value
  | .sum span left right =>
      .sum span (splice name replacement left) (splice name replacement right)
  | .parens span inner => .parens span (splice name replacement inner)
  | .spread span inner => .spread span (splice name replacement inner)
  | .call span callee arguments =>
      .call span (splice name replacement callee) (spliceAll name replacement arguments)
  | .construct span callee arguments =>
      .construct span (splice name replacement callee)
        (spliceAll name replacement arguments)
  | .throwing span operand => .throwing span (splice name replacement operand)
  | .function span signature parameters body =>
      if signature.name = name then replacement.toNode
      else
        .function span signature (spliceAll name replacement parameters)
          (splice name replacement body)
  | .other span shape children =>
      .other span shape (spliceAll name replacement children)

/-- Trees with every declaration of a name replaced. -/
def spliceAll (name : String) (replacement : Declaration) : List Node -> List Node
  | [] => []
  | node :: rest => splice name replacement node :: spliceAll name replacement rest

end

mutual

/-- The number of declarations that are replaced. -/
def spliceCount (name : String) : Node -> Nat
  | .identifier .. => 0
  | .string .. => 0
  | .sum _ left right => spliceCount name left + spliceCount name right
  | .parens _ inner => spliceCount name inner
  | .spread _ inner => spliceCount name inner
  | .call _ callee arguments => spliceCount name callee + spliceCountAll name arguments
  | .construct _ callee arguments =>
      spliceCount name callee + spliceCountAll name arguments
  | .throwing _ operand => spliceCount name operand
  | .function _ signature parameters body =>
      if signature.name = name then 1
      else spliceCountAll name parameters + spliceCount name body
  | .other _ _ children => spliceCountAll name children

/-- The number of declarations that are replaced in several trees. -/
def spliceCountAll (name : String) : List Node -> Nat
  | [] => 0
  | node :: rest => spliceCount name node + spliceCountAll name rest

end

/-- A program with every declaration of a name replaced. -/
def spliceProgram (name : String) (replacement : Declaration) (program : Program) :
    Program :=
  { program with items := spliceAll name replacement program.items }

end Extraction
end ErrorTemplates
