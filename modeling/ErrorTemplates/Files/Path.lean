/-!
# Paths

A path is a text of parts between slashes. It is never normalised: joining and taking the
parent work on the text. Empty parts do not count, and neither do single points except one
at the beginning of a relative path.
-/

namespace ErrorTemplates
namespace Files

/-- A path as it is written. -/
abbrev Path := List Char

namespace Path

/-- The path begins at the root. -/
def isAbsolute : Path -> Bool
  | '/' :: _ => true
  | _ => false

/-- A path taken relative to another one. -/
def join (base path : Path) : Path :=
  if path.isAbsolute then path
  else if base.isEmpty || base.getLast? = some '/' then base ++ path
  else base ++ '/' :: path

@[simp] theorem join_nil_left (path : Path) : join [] path = path := by
  simp [join]

/-- The beginning of a path that no parent is without, and the rest: a slash, or a single
point as the first part. -/
def splitFront : Path -> Path × Path
  | '/' :: rest => (['/'], rest)
  | ['.'] => (['.'], [])
  | '.' :: '/' :: rest => (['.'], '/' :: rest)
  | path => ([], path)

/-- The last part of a reversed path and what stands before its slash. -/
def lastPart (reversed : List Char) : List Char × List Char :=
  let part := reversed.takeWhile fun c => c != '/'
  (part, (reversed.drop part.length).drop 1)

/-- A part does not count. -/
def isVoid (part : List Char) : Bool := part.isEmpty || part == ['.']

/-- A reversed path without parts at its end that do not count. -/
def trimmed : (limit : Nat) -> List Char -> List Char
  | 0, reversed => reversed
  | limit + 1, reversed =>
      if reversed.isEmpty then []
      else
        let (part, before) := lastPart reversed
        if isVoid part then trimmed limit before else reversed

/-- A path without its last part. The root and the empty path have none. -/
def parent? (path : Path) : Option Path :=
  let (front, body) := splitFront path
  let reversed := trimmed body.length body.reverse
  if reversed.isEmpty then
    if front = ['.'] then some [] else none
  else
    let before := (lastPart reversed).2
    some (front ++ (trimmed before.length before).reverse)

/-- The parts between the slashes of a path, empty ones included. -/
def parts : Path -> List (List Char)
  | [] => [[]]
  | character :: rest =>
      if character = '/' then [] :: parts rest
      else
        match parts rest with
        | part :: others => (character :: part) :: others
        | [] => [[character]]

end Path

end Files
end ErrorTemplates
