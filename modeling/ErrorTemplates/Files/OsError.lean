/-!
# Errors of the operating system

What can go wrong with a file, in the words of the operating system.
-/

namespace ErrorTemplates
namespace Files

/-- An error of an operation on files. -/
inductive OsError
  | notFound
  | exists
  | notDirectory
  | isDirectory
  /-- The content is not a text. -/
  | notText
  /-- Any other error, in its own words. -/
  | other (message : String)
  deriving DecidableEq

/-- The error in words. -/
def OsError.message : OsError -> String
  | .notFound => "No such file or directory (os error 2)"
  | .exists => "File exists (os error 17)"
  | .notDirectory => "Not a directory (os error 20)"
  | .isDirectory => "Is a directory (os error 21)"
  | .notText => "stream did not contain valid UTF-8"
  | .other message => message

end Files
end ErrorTemplates
