import ErrorTemplates.Text.Location

/-!
# Issues

What can be found wrong with a program whose templates are extracted. An issue knows where
it was found and everything that its message says.
-/

namespace ErrorTemplates
namespace Diagnostic

/-- How grave an issue is. An error leaves the program without a result. -/
inductive Severity
  | error
  | warning
  deriving DecidableEq

/-- The arguments of a call that have to be constant. -/
inductive Argument
  | code
  | message
  deriving DecidableEq

/-- The argument in words. -/
def Argument.name : Argument -> String
  | .code => "code"
  | .message => "message"

/-- A finding. -/
inductive Issue
  /-- An argument of a call in a name space is not constant. -/
  | notConstant (location : Text.Location) (space : String) (argument : Argument)
  /-- A call that makes an error is wrapped into another error and thrown. -/
  | wrapped (location : Text.Location) (space code : String)
  /-- The factory is declared several times. -/
  | ambiguous (location : Text.Location) (factory : String) (count : Nat)
  /-- The text is not a program. -/
  | unreadable (location : Text.Location) (reason : String)
  deriving DecidableEq

namespace Issue

/-- Where the issue was found. -/
def location : Issue -> Text.Location
  | .notConstant location _ _ => location
  | .wrapped location _ _ => location
  | .ambiguous location _ _ => location
  | .unreadable location _ => location

/-- How grave the issue is. -/
def severity : Issue -> Severity
  | .notConstant .. => .error
  | .wrapped .. => .warning
  | .ambiguous .. => .warning
  | .unreadable .. => .error

/-- The name of the rule that was broken. -/
def rule : Issue -> String
  | .notConstant .. => "unsupported-string-expression"
  | .wrapped .. => "throw-is-not-minerr-error"
  | .ambiguous .. => "multiple-minerr-definition"
  | .unreadable .. => "parse-error"

/-- What was found. -/
def message : Issue -> String
  | .notConstant _ _ argument =>
      "minErr " ++ argument.name ++
        " argument must be a string literal or a concatenation of string literals"
  | .wrapped _ space code =>
      "minErr already returns an error object; '" ++ space ++ "' error '" ++ code ++
        "' should be thrown directly"
  | .ambiguous _ factory count =>
      "found " ++ toString count ++ " definitions of '" ++ factory ++
        "'; none were substituted"
  | .unreadable _ reason => reason

/-- What to do about it. -/
def hint : Issue -> Option String
  | .notConstant _ space argument =>
      some ("inline the " ++ argument.name ++ " of this '" ++ space ++
        "' error as a literal string")
  | .wrapped .. => some "replace `throw new Error(minErrCall)` with `throw minErrCall`"
  | .ambiguous .. => none
  | .unreadable .. => none

/-- The issue is an error. -/
def isError (issue : Issue) : Bool := issue.severity == .error

@[simp] theorem isError_notConstant
    (location : Text.Location)
    (space : String)
    (argument : Argument) :
    (notConstant location space argument).isError = true := rfl

@[simp] theorem isError_wrapped (location : Text.Location) (space code : String) :
    (wrapped location space code).isError = false := rfl

@[simp] theorem isError_ambiguous
    (location : Text.Location)
    (factory : String)
    (count : Nat) :
    (ambiguous location factory count).isError = false := rfl

@[simp] theorem isError_unreadable (location : Text.Location) (reason : String) :
    (unreadable location reason).isError = true := rfl

end Issue

end Diagnostic
end ErrorTemplates
