/-
  TagCalc.Screen.Style

  Colours, text attributes and the cells of a terminal screen.
-/

namespace TagCalc.Screen

/-- A colour of 24 bits. -/
structure Rgb where
  red : UInt8
  green : UInt8
  blue : UInt8
deriving DecidableEq, Repr

namespace Rgb

/-- A byte as two hexadecimal digits in upper case. -/
def hexByte (b : UInt8) : List Char :=
  (Nat.toDigits 16 (b.toNat / 16) ++ Nat.toDigits 16 (b.toNat % 16)).map Char.toUpper

/-- The colour as a number sign and six digits. -/
def hex (c : Rgb) : String :=
  String.ofList ('#' :: hexByte c.red ++ hexByte c.green ++ hexByte c.blue)

end Rgb

/-- The attributes that the screen uses. -/
structure Attributes where
  bold : Bool
  italic : Bool
  reversed : Bool
deriving DecidableEq, Repr

namespace Attributes

/-- No attribute. -/
def none : Attributes := ⟨false, false, false⟩

/-- The attributes of either. -/
def union (a b : Attributes) : Attributes :=
  ⟨a.bold || b.bold, a.italic || b.italic, a.reversed || b.reversed⟩

/-- The names of the attributes, or a word for none. -/
def name (a : Attributes) : String :=
  let names := (if a.bold then ["BOLD"] else []) ++ (if a.italic then ["ITALIC"] else [])
    ++ (if a.reversed then ["REVERSED"] else [])
  if names.isEmpty then "NONE" else " | ".intercalate names

end Attributes

/-- How a text is drawn. A colour that is not set is that of what lies below. -/
structure Style where
  foreground : Option Rgb
  background : Option Rgb
  attributes : Attributes
deriving DecidableEq, Repr

namespace Style

/-- Changes nothing. -/
def plain : Style := ⟨none, none, .none⟩

/-- Sets the foreground. -/
def ink (c : Rgb) : Style := { plain with foreground := some c }

/-- Sets the background. -/
def paper (c : Rgb) : Style := { plain with background := some c }

/-- One style drawn over another. -/
def drawnOn (top below : Style) : Style where
  foreground := top.foreground.or below.foreground
  background := top.background.or below.background
  attributes := below.attributes.union top.attributes

/-- Also bold. -/
def bold (s : Style) : Style := { s with attributes := { s.attributes with bold := true } }

/-- Also italic. -/
def italic (s : Style) : Style := { s with attributes := { s.attributes with italic := true } }

/-- Also with ink and paper exchanged. -/
def reversed (s : Style) : Style := { s with attributes := { s.attributes with reversed := true } }

/-- The name of a colour, or of the terminal's own. -/
def colorName (c : Option Rgb) : String :=
  (c.map Rgb.hex).getD "Reset"

/-- Foreground, background and attributes. -/
def name (s : Style) : String :=
  colorName s.foreground ++ " " ++ colorName s.background ++ " " ++ s.attributes.name

end Style

/-- A cell of the screen. The cells that a wide character covers besides its
    first are blank and take no style. -/
structure Cell where
  symbol : String
  style : Style
  covered : Bool
deriving DecidableEq, Repr

namespace Cell

/-- A blank in a style. -/
def blank (s : Style) : Cell := ⟨" ", s, false⟩

/-- A cell that a wide character covers. -/
def cover : Cell := ⟨" ", .plain, true⟩

/-- The cell with a style drawn over its own. -/
def restyle (s : Style) (c : Cell) : Cell :=
  if c.covered then c else { c with style := s.drawnOn c.style }

end Cell

/-- The cells of a row, from left to right. -/
abbrev Row := List Cell

/-- A row of blanks. -/
def blankRow (width : Nat) (s : Style) : Row := List.replicate width (.blank s)

/-- Writes cells over a row from some column on. -/
def overwrite (row : Row) (column : Nat) (cells : Row) : Row :=
  row.take column ++ cells ++ row.drop (column + cells.length)

end TagCalc.Screen
