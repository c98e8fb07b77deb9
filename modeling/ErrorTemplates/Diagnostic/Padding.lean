import ErrorTemplates.Diagnostic.Styled

/-!
# Padding

The margin, the numbers of the lines and the blanks before the carets are padded to widths that
are only known when a report is written. A text can be padded to a width of sixteen bits. A row
with a larger width cannot be written.
-/

namespace ErrorTemplates
namespace Diagnostic

/-- Blanks. -/
def blanks (count : Nat) : String := String.ofList (List.replicate count ' ')

/-- A text with blanks before it, so that it has at least so many characters. -/
def padded (width : Nat) (text : String) : String :=
  blanks (width - text.length) ++ text

/-- The largest width to which a text can be padded. -/
def widestPadding : Nat := 65535

/-- A part of a row. -/
inductive Part
  /-- A piece as it is. -/
  | fixed (piece : Piece)
  /-- A piece with blanks before its text, so that the text is at least so wide. -/
  | aligned (width : Nat) (piece : Piece)

namespace Part

/-- The width to which the part is padded. -/
def width? : Part -> Option Nat
  | .fixed _ => none
  | .aligned width _ => some width

/-- The part with its padding. -/
def piece : Part -> Piece
  | .fixed piece => piece
  | .aligned width piece => { piece with text := padded width piece.text }

@[simp] theorem piece_fixed (piece : Piece) : (fixed piece).piece = piece := rfl

@[simp] theorem piece_aligned (width : Nat) (piece : Piece) :
    (aligned width piece).piece = { piece with text := padded width piece.text } := rfl

@[simp] theorem width?_fixed (piece : Piece) : (fixed piece).width? = none := rfl

@[simp] theorem width?_aligned (width : Nat) (piece : Piece) :
    (aligned width piece).width? = some width := rfl

/-- The part is not padded too far. -/
def fits (part : Part) : Bool := part.width?.all (· ≤ widestPadding)

end Part

/-- A line with its end, in parts. -/
abbrev Row := List Part

namespace Row

/-- The row with its padding. -/
def styled (row : Row) : Styled := row.map Part.piece

/-- The row as it is written, unless a part of it is padded too far. -/
def write? (inColour : Bool) (row : Row) : Option String :=
  if row.all Part.fits then some (row.styled.render inColour) else none

end Row

end Diagnostic
end ErrorTemplates
