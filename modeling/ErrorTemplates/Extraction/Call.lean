import ErrorTemplates.Extraction.Constant

/-!
# Calls that make errors

Two forms of call make an error in a name space. The direct form calls a function whose
name is the name space followed by a fixed suffix, and the curried form calls what the
factory returns for the name space. In both the first argument is the code of the error,
the second its message, and the others are passed through. The two must not be spread.

An error that such a call makes should be thrown as it is. A throw statement whose operand
makes another error from the result of a single call hides it; parentheses around the
operand, around the name of the outer error and around the inner call change nothing.
-/

namespace ErrorTemplates
namespace Extraction

open Program

/-- The names by which calls are recognised. -/
structure Naming where
  /-- The name of the factory. -/
  factory : String
  /-- The end of the names of functions that make errors. -/
  suffix : String
  deriving DecidableEq

/-- The form of a call. -/
inductive Form
  | direct
  | curried
  deriving DecidableEq

/-- What a callee says about a call. -/
structure Maker where
  /-- The form of the call. -/
  form : Form
  /-- The name space of the error. -/
  space : String
  deriving DecidableEq

/-- A call that makes an error. -/
structure Match where
  /-- The form of the call and its name space. -/
  maker : Maker
  /-- The code. -/
  code : Node
  /-- The message. -/
  message : Node
  /-- The arguments that are passed through. -/
  trailing : List Node

namespace Naming

/-- What stands before the suffix in a name, unless nothing does. -/
def space? (naming : Naming) (name : String) : Option String :=
  let characters := name.toList
  let suffix := naming.suffix.toList
  let count := characters.length - suffix.length
  if suffix.isSuffixOf characters && 0 < count then
    some (String.ofList (characters.take count))
  else none

/-- The node is the name of the factory. -/
def isFactory (naming : Naming) : Node -> Bool
  | .identifier _ name => name == naming.factory
  | _ => false

/-- What a callee says about the call of it, if that makes an error. -/
def maker? (naming : Naming) : Node -> Option Maker
  | .identifier _ name =>
      (fun space => { form := .direct, space }) <$> naming.space? name
  | .call _ callee [argument] =>
      if naming.isFactory callee then
        (fun space => { form := .curried, space }) <$> constant? argument
      else none
  | _ => none

/-- The call of a callee with arguments, if that makes an error. -/
def match? (naming : Naming) (callee : Node) (arguments : List Node) : Option Match :=
  match naming.maker? callee, arguments with
  | some maker, code :: message :: trailing =>
      if code.isSpread || message.isSpread then none
      else some { maker, code, message, trailing }
  | _, _ => none

end Naming

/-! ## Removing the message -/

/-- The arguments of a call without the second one. -/
def withoutMessage : List Node -> List Node
  | code :: _ :: trailing => code :: trailing
  | arguments => arguments

@[simp] theorem withoutMessage_nil : withoutMessage [] = [] := rfl

@[simp] theorem withoutMessage_singleton (argument : Node) :
    withoutMessage [argument] = [argument] := rfl

@[simp] theorem withoutMessage_cons_cons (code message : Node) (trailing : List Node) :
    withoutMessage (code :: message :: trailing) = code :: trailing := rfl

/-- The second argument of a call, which is the one that is removed. -/
def message? (arguments : List Node) : Option Node := arguments[1]?

/-! ## Errors around errors -/

/-- A call, taken out of its tree. -/
structure Call where
  /-- The part of the text that the call was read from. -/
  span : Span
  /-- What is called. -/
  callee : Node
  /-- The arguments. -/
  arguments : List Node

/-- The node is the name of the general error. -/
def isErrorName (node : Node) : Bool :=
  match node.bare with
  | .identifier _ name => name == "Error"
  | _ => false

/-- The call that is the only argument, apart from parentheses. -/
def soleCall? : List Node -> Option Call
  | [argument] =>
      match argument.bare with
      | .call span callee arguments => some { span, callee, arguments }
      | _ => none
  | _ => none

/-- The call from whose result a general error is made, if the node makes one. -/
def wrappedCall? (operand : Node) : Option Call :=
  match operand.bare with
  | .construct _ callee arguments =>
      if isErrorName callee then soleCall? arguments else none
  | .call _ callee arguments =>
      if isErrorName callee then soleCall? arguments else none
  | _ => none

end Extraction
end ErrorTemplates
