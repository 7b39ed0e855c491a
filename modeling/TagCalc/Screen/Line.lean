/-
  TagCalc.Screen.Line

  Lines of styled text and how they become cells. The units of a line are the
  clusters of its text; those with a control character in them are not drawn.
  Text is cut at the right edge and never wrapped, and a wide character that
  does not fit is left out.
-/

import TagCalc.Screen.Style
import TagCalc.Text.Cluster
import TagCalc.Text.Width

namespace TagCalc.Screen

/-- A text in one style. -/
structure Span where
  text : String
  style : Style
deriving DecidableEq, Repr

/-- A cluster, its width and its style. -/
structure Glyph where
  symbol : String
  width : Nat
  style : Style
deriving DecidableEq, Repr

/-- Control characters, which have no place on the screen. -/
def isControl (c : Char) : Bool :=
  c.toNat < 0x20 || (0x7F ≤ c.toNat && c.toNat < 0xA0)

/-- The clusters of a span that can be drawn. -/
def Span.glyphs (s : Span) : List Glyph :=
  ((Text.clusters s.text.toList).filter fun k => !k.any isControl).map fun k =>
    let symbol := String.ofList k
    ⟨symbol, Text.width symbol, s.style⟩

/-- The cells of a glyph over a style: its symbol, then the cells it covers. -/
def Glyph.cells (g : Glyph) (below : Style) : Row :=
  ⟨g.symbol, g.style.drawnOn below, false⟩ :: List.replicate (g.width - 1) .cover

/-! ## Paragraphs -/

/-- The glyphs that fit into a width, some of which is used. A glyph wider than
    the whole width is passed over; the first other one that does not fit ends
    the line. -/
def fitting (width : Nat) : (used : Nat) → List Glyph → List Glyph
  | _, [] => []
  | used, g :: rest =>
    if width < g.width then fitting width used rest
    else if width < used + g.width then []
    else g :: fitting width (used + g.width) rest

/-- Fills a row up with blanks. -/
def padded (width : Nat) (below : Style) (cells : Row) : Row :=
  cells ++ blankRow (width - cells.length) below

/-- The cells of the glyphs that fit. Glyphs without a width leave no trace. -/
def fittingCells (width : Nat) (below : Style) (glyphs : List Glyph) : Row :=
  (fitting width 0 glyphs).flatMap fun g => if g.width = 0 then [] else g.cells below

/-- A line of a paragraph, from the left edge, over a style. -/
def paragraphRow (width : Nat) (below : Style) (spans : List Span) : Row :=
  padded width below (fittingCells width below (spans.flatMap Span.glyphs))

/-- The width of glyphs side by side. -/
def totalWidth : List Glyph → Nat
  | [] => 0
  | g :: rest => g.width + totalWidth rest

/-- A line of a paragraph in the middle, over a style. -/
def centredRow (width : Nat) (below : Style) (spans : List Span) : Row :=
  let glyphs := spans.flatMap Span.glyphs
  let used := totalWidth (fitting width 0 glyphs)
  padded width below
    (blankRow (width / 2 - used / 2) below ++ fittingCells width below glyphs)

/-! ## List entries -/

/-- Appends to the symbol of the last cell. -/
def appendSymbol (symbol : String) : Row → Row
  | [] => []
  | [c] => if c.covered then [c] else [{ c with symbol := c.symbol ++ symbol }]
  | c :: rest => c :: appendSymbol symbol rest

/-- The cells of the glyphs after a first one, within a width. A glyph without a
    width joins the cell before it, as long as the first cell is filled. -/
def entryCells (width : Nat) (cells : Row) (used : Nat) : List Glyph → Row
  | [] => cells
  | g :: rest =>
    if width < used + g.width then cells
    else if used = 0 then
      -- only glyphs without a width so far, all of them in the first cell
      let opened := appendSymbol g.symbol cells ++ List.replicate (g.width - 1) .cover
      entryCells width opened g.width rest
    else if g.width = 0 then entryCells width (appendSymbol g.symbol cells) used rest
    else entryCells width (cells ++ g.cells .plain) (used + g.width) rest

/-- The cells of a span of a list entry within a width. -/
def Span.entryRow (width : Nat) (s : Span) : Row :=
  match s.glyphs with
  | [] => []
  | g :: rest => if width < g.width then [] else entryCells width (g.cells .plain) g.width rest

/-- A list entry: each span starts where the width of those before it ends. -/
def entryRow (width : Nat) (spans : List Span) : Row :=
  (spans.foldl (fun (row, column) s =>
      if Text.width s.text = 0 || width ≤ column then (row, column)
      else (overwrite row column (s.entryRow (width - column)), column + Text.width s.text))
    (blankRow width .plain, 0)).1

end TagCalc.Screen
