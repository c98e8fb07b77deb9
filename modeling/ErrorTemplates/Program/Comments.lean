/-!
# Comments

The comments of a program, kept beside its tree. A comment belongs to a byte position:
it either leads what begins there or trails what ends there. Printing takes a comment
away, so each is written at most once.
-/

namespace ErrorTemplates
namespace Program

/-- A comment without its marks. -/
structure Comment where
  /-- The comment runs to the end of its line. -/
  isLine : Bool
  /-- The text between the marks. -/
  text : String
  deriving DecidableEq

/-- The comments of a program by position. -/
structure Comments where
  /-- The comments before what begins at a position, in the order of the text. -/
  leading : List (Nat × Comment)
  /-- The comments after what ends at a position, in the order of the text. -/
  trailing : List (Nat × Comment)
  deriving DecidableEq

namespace Comments

/-- No comments. -/
def none : Comments := { leading := [], trailing := [] }

/-- Add comments before what begins at a position. -/
def addLeading (comments : Comments) (position : Nat) (added : List Comment) : Comments :=
  { comments with
    leading := comments.leading ++ added.map fun comment => (position, comment) }

/-- Add comments after what ends at a position. -/
def addTrailing (comments : Comments) (position : Nat) (added : List Comment) : Comments :=
  { comments with
    trailing := comments.trailing ++ added.map fun comment => (position, comment) }

/-- The comments at a position. -/
def entriesAt (position : Nat) (entries : List (Nat × Comment)) : List Comment :=
  (entries.filter fun entry => entry.1 == position).map Prod.snd

/-- The comments that are not at a position. -/
def elsewhere (position : Nat) (entries : List (Nat × Comment)) : List (Nat × Comment) :=
  entries.filter fun entry => entry.1 != position

/-- A comment leads what begins at the position. -/
def leads (comments : Comments) (position : Nat) : Bool :=
  comments.leading.any fun entry => entry.1 == position

/-- Take the comments before what begins at a position. -/
def takeLeading (comments : Comments) (position : Nat) : List Comment × Comments :=
  (entriesAt position comments.leading,
    { comments with leading := elsewhere position comments.leading })

/-- Take the comments after what ends at a position. -/
def takeTrailing (comments : Comments) (position : Nat) : List Comment × Comments :=
  (entriesAt position comments.trailing,
    { comments with trailing := elsewhere position comments.trailing })

@[simp] theorem takeLeading_none (position : Nat) :
    none.takeLeading position = ([], none) := rfl

@[simp] theorem takeTrailing_none (position : Nat) :
    none.takeTrailing position = ([], none) := rfl

end Comments

end Program
end ErrorTemplates
