/-
  TagCalc.Screen.Panel

  Boxes with a border and a title, and lists in a box.
-/

import TagCalc.Screen.Line

namespace TagCalc.Screen

/-! ## Boxes -/

/-- A border row: two corners with a run of cells between them. A box one column
    wide shows its left corner only. -/
def borderRow (width : Nat) (left right : String) (below : Style) (middle : Row) : Row :=
  match width with
  | 0 => []
  | 1 => [⟨left, below, false⟩]
  | width + 2 => ⟨left, below, false⟩ :: middle.take width ++ [⟨right, below, false⟩]

/-- A run of the horizontal line of a border. -/
def horizontal (width : Nat) (below : Style) : Row :=
  List.replicate width ⟨"─", below, false⟩

/-- The top border with the title from its second column on. -/
def topBorder (width : Nat) (title : String) (below : Style) : Row :=
  let inner := width - 2
  let text := fittingCells inner below (Span.glyphs ⟨title, .plain⟩)
  borderRow width "┌" "┐" below (text ++ horizontal (inner - text.length) below)

/-- The rows of a box. Of a box too low for all of it the top border is drawn
    first, then the bottom border, then what is inside. -/
def boxRows (width height : Nat) (title : String) (below : Style) (inside : List Row) :
    List Row :=
  match height with
  | 0 => []
  | 1 => [topBorder width title below]
  | height + 2 =>
    let inner := width - 2
    let filled := inside.take height
      ++ List.replicate (height - inside.length) (blankRow inner below)
    [topBorder width title below]
      ++ filled.map (borderRow width "│" "│" below)
      ++ [borderRow width "└" "┘" below (horizontal inner below)]

/-! ## Lists -/

/-- The index of the entry that is marked: the selection, or the last entry if it
    is beyond the end. -/
def markedIndex (selected : Option Nat) (count : Nat) : Option Nat :=
  selected.map fun i => min i (count - 1)

/-- A selection within the list is the entry that is marked. -/
theorem markedIndex_of_lt {i count : Nat} (h : i < count) : markedIndex (some i) count = some i := by
  rw [markedIndex, Option.map_some, Nat.min_eq_left (by omega)]

/-- The index of the first entry shown when `visible` entries have room: as small
    as the marked entry allows. -/
def firstShown (marked : Option Nat) (visible : Nat) : Nat :=
  (marked.map fun i => i + 1 - visible).getD 0

/-- The entries shown in a list: those that have room, from the first one shown on.
    The marked entry takes a style of its own over the whole width. -/
def insideRows (width visible : Nat) (mark : Style) (entries : List (List Span))
    (selected : Option Nat) : List Row :=
  let marked := markedIndex selected entries.length
  let rows := entries.mapIdx fun i spans =>
    let row := entryRow width spans
    if marked = some i then row.map (Cell.restyle mark) else row
  (rows.drop (firstShown marked visible)).take visible

/-- A list in a box. -/
def listRows (width height : Nat) (title : String) (mark : Style) (entries : List (List Span))
    (selected : Option Nat) : List Row :=
  boxRows width height title .plain (insideRows (width - 2) (height - 2) mark entries selected)

end TagCalc.Screen
