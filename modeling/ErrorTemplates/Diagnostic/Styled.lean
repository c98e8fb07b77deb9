/-!
# Styled text

Text for a terminal is a list of pieces that may have a style. With colours a styled piece
stands between two escape sequences, without colours the text alone is written.
-/

namespace ErrorTemplates
namespace Diagnostic

/-- The colours that are used. -/
inductive Colour
  | red
  | green
  | yellow
  | blue
  | cyan
  deriving DecidableEq

/-- The code of a colour. -/
def Colour.code : Colour -> String
  | .red => "31"
  | .green => "32"
  | .yellow => "33"
  | .blue => "34"
  | .cyan => "36"

/-- How a piece of text looks. -/
structure Style where
  /-- The text is bold. -/
  isBold : Bool
  /-- The text is dimmed. -/
  isDimmed : Bool
  /-- The text has a colour. -/
  colour : Option Colour
  deriving DecidableEq

namespace Style

/-- Text as it is. -/
def plain : Style := { isBold := false, isDimmed := false, colour := none }

/-- Text in a colour. -/
def of (colour : Colour) : Style := { plain with colour := some colour }

/-- Bold text. -/
def bold : Style := { plain with isBold := true }

/-- Dimmed text. -/
def dimmed : Style := { plain with isDimmed := true }

/-- Bold text in a colour. -/
def boldOf (colour : Colour) : Style := { bold with colour := some colour }

/-- Dimmed text in a colour. -/
def dimmedOf (colour : Colour) : Style := { dimmed with colour := some colour }

/-- The codes of a style, in the order in which they are written. -/
def codes (style : Style) : List String :=
  (if style.isBold then ["1"] else []) ++ (if style.isDimmed then ["2"] else []) ++
    (style.colour.map Colour.code).toList

/-- The escape sequence that begins a style. -/
def opening (style : Style) : String :=
  "\x1b[" ++ String.intercalate ";" style.codes ++ "m"

end Style

/-- The escape sequence that ends all styles. -/
def resetting : String := "\x1b[0m"

/-- A text in which every end of all styles begins a style again. -/
def restyled (opening : List Char) : List Char -> List Char
  | [] => []
  | '\x1b' :: '[' :: '0' :: 'm' :: rest =>
      '\x1b' :: '[' :: '0' :: 'm' :: (opening ++ restyled opening rest)
  | character :: rest => character :: restyled opening rest

/-- A text with a style. -/
structure Piece where
  /-- The style. -/
  style : Style
  /-- The text. -/
  text : String
  deriving DecidableEq

namespace Piece

/-- A text as it is. -/
def plain (text : String) : Piece := { style := .plain, text }

/-- A piece as it is written, with colours or without. -/
def render (inColour : Bool) (piece : Piece) : String :=
  if inColour && piece.style ≠ .plain then
    piece.style.opening ++
      String.ofList (restyled piece.style.opening.toList piece.text.toList) ++ resetting
  else piece.text

@[simp] theorem render_without_colour (piece : Piece) : piece.render false = piece.text := by
  simp [render]

end Piece

/-- Styled text. -/
abbrev Styled := List Piece

/-- Styled text as it is written, with colours or without. -/
def Styled.render (inColour : Bool) (text : Styled) : String :=
  String.join (text.map (Piece.render inColour))

/-! ## When colours are used -/

/-- A setting is on: it is there and is not zero. -/
def isOn (setting : Option String) (otherwise : Bool) : Bool :=
  match setting with
  | some value => value != "0"
  | none => otherwise

/-- Colours are used when they are forced, or when they are not refused and the output is
a terminal. -/
def usesColour (forced refused wanted : Option String) (isTerminal : Bool) : Bool :=
  if isOn forced false then true
  else if refused.isSome then false
  else isOn wanted true && isTerminal

end Diagnostic
end ErrorTemplates
