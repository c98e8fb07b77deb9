/-!
# Similarity of texts

How similar two texts are, as a fraction: the mean of the share of the one text that is
found in the other one, the share of the other text that is found in the one, and the
share of what is found that stands in the same order. A character is found when it occurs
in the other text close to its own place and was not found for another character before.
-/

namespace ErrorTemplates
namespace Text

/-- A text with the characters that were found in it marked. -/
abbrev Marked := List (Char × Bool)

/-- Mark the first place of a character within a window of a text, if it has one there. -/
def mark (character : Char) : (first width : Nat) -> Marked -> Option Marked
  | _, _, [] => none
  | 0, 0, _ :: _ => none
  | first + 1, width, entry :: rest => (entry :: ·) <$> mark character first width rest
  | 0, width + 1, (found, isMarked) :: rest =>
      if found = character && !isMarked then some ((found, true) :: rest)
      else ((found, isMarked) :: ·) <$> mark character 0 width rest

/-- Look for each character of a text in another one. The result is the characters that
were found, in their order in the first text, and the second text with its marks. -/
def findAll (reach : Nat) : (place : Nat) -> List Char -> Marked -> List Char × Marked
  | _, [], other => ([], other)
  | place, character :: rest, other =>
      let first := place - reach
      match mark character first (place + reach + 1 - first) other with
      | some marked =>
          let (found, other) := findAll reach (place + 1) rest marked
          (character :: found, other)
      | none => findAll reach (place + 1) rest other

/-- A fraction between zero and one. -/
structure Share where
  /-- What stands above the line. -/
  numerator : Nat
  /-- What stands below the line. -/
  denominator : Nat
  deriving DecidableEq

namespace Share

/-- A fraction is larger than another one. -/
def exceeds (one other : Share) : Bool :=
  other.numerator * one.denominator < one.numerator * other.denominator

end Share

/-- How similar two texts are. -/
def similarity (one other : List Char) : Share :=
  if one.isEmpty && other.isEmpty then { numerator := 1, denominator := 1 }
  else
    let reach := max one.length other.length / 2 - 1
    let (found, marked) := findAll reach 0 one (other.map fun character => (character, false))
    let answering := (marked.filter Prod.snd).map Prod.fst
    let moved := ((found.zip answering).countP fun pair => pair.1 != pair.2) / 2
    let count := found.length
    if count = 0 then { numerator := 0, denominator := 1 }
    else
      { numerator :=
          count * count * (one.length + other.length) +
            (count - moved) * one.length * other.length
        denominator := 3 * count * one.length * other.length }

/-- The similarity from which on one text may have been meant by another one. -/
def enoughToSuggest : Share := { numerator := 7, denominator := 10 }

/-- Insert a text behind all that are not more similar. -/
def insertBySimilarity (share : Share) (text : String) :
    List (Share × String) -> List (Share × String)
  | [] => [(share, text)]
  | (least, found) :: rest =>
      if least.exceeds share then (share, text) :: (least, found) :: rest
      else (least, found) :: insertBySimilarity share text rest

/-- The texts that may have been meant by a text, the most similar one last. -/
def suggestions (text : String) (known : List String) : List String :=
  let ranked := known.foldl
    (fun ranked candidate =>
      let share := similarity text.toList candidate.toList
      if share.exceeds enoughToSuggest then insertBySimilarity share candidate ranked
      else ranked)
    []
  ranked.map Prod.snd

@[simp] theorem suggestions_nil (text : String) : suggestions text [] = [] := rfl

end Text
end ErrorTemplates
