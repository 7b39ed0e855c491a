/-
  TagCalc.Screen.Draw

  The picture of the editor: the formula with the input in a box of three rows,
  a free area where a list may open, the result, and a line of help.

  It is drawn into a frame, which need not start at the corner of the screen. The
  place of the cursor and the height of a list are reckoned in checked sums of 16
  bits, so there may be no picture: then the program ends instead of drawing.
-/

import TagCalc.Editor.State
import TagCalc.Screen.Area
import TagCalc.Screen.Panel
import TagCalc.Screen.Theme

namespace TagCalc.Screen

/-! ## Texts -/

/-- The text of a token: a tag is put in brackets. -/
def tokenText (t : Token) : String :=
  match t.kind with
  | .tag => "[" ++ t.value ++ "]"
  | _ => t.value

/-- What an empty formula shows. -/
def placeholder : String := "Add tag, number (e.g., -5, 1/2, 3.14), or operand..."

/-- The help for a mode. -/
def helpText : Mode → String
  | .reselecting => "←/→ tag  ↑/↓ choose  Enter apply  Esc back"
  | _ =>
    "Type a tag or number, Enter to add · operand + Space · Tab pick · "
      ++ "← resolve tags · Ctrl-L clear · Ctrl-C quit"

/-! ## The formula -/

/-- The style of a token. -/
def tokenStyle (theme : Theme) (focused : Bool) (t : Token) : Style :=
  let own : Style :=
    match t.kind with
    | .tag =>
      if t.suggestion.isSome then (Style.ink theme.tag).bold
      else (Style.ink theme.unresolvedTag).italic
    | .operand => .ink theme.operand
    | .number => .ink theme.text
  if focused then { own with foreground := some theme.focus }.reversed else own

/-- The committed tokens, each with a blank after it, and then the input, or the
    placeholder when there is nothing to show. -/
def formulaSpans (theme : Theme) (v : Snapshot) : List Span :=
  v.tokens.flatMap (fun t =>
      [⟨tokenText t, tokenStyle theme (v.isFocused t.id) t⟩, ⟨" ", .plain⟩])
    ++ [if v.input.isEmpty && v.tokens.isEmpty then ⟨placeholder, .ink theme.dimmed⟩
        else ⟨v.input, .ink theme.text⟩]

/-- The box of the formula in its area. -/
def formulaRows (theme : Theme) (formula : Area) (v : Snapshot) : List Row :=
  let width := formula.width.toNat
  let below := Style.paper theme.background
  boxRows width formula.height.toNat " Formula " below
    [paragraphRow (width - 2) below (formulaSpans theme v)]

/-- The width of tokens in a line, each with the blank after it. -/
def tokensWidth : List Token → Nat
  | [] => 0
  | t :: rest => Text.width (tokenText t) + 1 + tokensWidth rest

/-- The width of the formula and the input together. -/
def formulaWidth (v : Snapshot) : Nat := tokensWidth v.tokens + Text.width v.input

/-- The width up to the cursor, capped at the largest column number. -/
def cursorOffset (v : Snapshot) : UInt16 :=
  UInt16.ofNat (min (formulaWidth v) maxColumn)

/-- The column of the cursor in the box of the formula: just after the input, but
    not on the right border. -/
def cursorColumn? (formula : Area) (v : Snapshot) : Option UInt16 := do
  let inside ← addChecked? formula.x 1
  let reach ← addChecked? inside (cursorOffset v)
  return min reach (subCapped formula.right 2)

/-- Column and row of the cursor, which is shown while editing and hidden otherwise. -/
def cursor? (formula : Area) (v : Snapshot) : Option (Option (Nat × Nat)) :=
  if v.mode = .editing then do
    let column ← cursorColumn? formula v
    let row ← addChecked? formula.y 1
    return some (column.toNat, row.toNat)
  else some none

/-! ## Lists -/

/-- The style of the selected entry of a list. -/
def markStyle (theme : Theme) : Style := (Style.ink theme.focus).reversed

/-- A suggestion as a list entry. -/
def suggestionEntry (theme : Theme) (s : Suggestion) : List Span :=
  [⟨s.name, .ink theme.tag⟩, ⟨" (" ++ s.category ++ ")", .ink theme.dimmed⟩]

/-- A list entry that is only a notice. -/
def noticeEntry (theme : Theme) (text : String) : List (List Span) :=
  [[⟨text, .ink theme.dimmed⟩]]

/-- A list to be opened: its title, entries and selection, and the number of
    suggestions it has room for. -/
structure Popup where
  title : String
  entries : List (List Span)
  selected : Option Nat
  count : Nat

/-- The suggestions for the input. While they are looked up, or when there are
    none, a notice stands in for them and nothing is selected. -/
def suggestionsPopup (theme : Theme) (v : Snapshot) : Popup where
  title := " Suggestions "
  entries :=
    if v.loading then noticeEntry theme "Loading..."
    else if v.suggestions.isEmpty then noticeEntry theme "No suggestions found"
    else v.suggestions.map (suggestionEntry theme)
  selected := if v.loading || v.suggestions.isEmpty then none else v.highlighted
  count := v.suggestions.length

/-- The candidates for the tag being resolved. -/
def reselectPopup (theme : Theme) (r : ReselectView) : Popup where
  title := " Resolve tag "
  entries :=
    if r.candidates.isEmpty then noticeEntry theme "No suggestions loaded"
    else r.candidates.map (suggestionEntry theme)
  selected := r.selected
  count := r.candidates.length

/-- The list that is open: the candidates go before the suggestions. -/
def popup? (theme : Theme) (v : Snapshot) : Option Popup :=
  match v.reselect with
  | some r => some (reselectPopup theme r)
  | none => if v.dropdownShown then some (suggestionsPopup theme v) else none

/-- The entries that a list of `count` suggestions has room for, at least one and
    at most `maxRows`. The count is taken as a 16-bit number. -/
def popupEntries (count : Nat) (maxRows : UInt16) : UInt16 :=
  min (UInt16.ofNat (max count 1)) maxRows

/-- The area of a list with its border, at the top of a free area. -/
def popupArea? (free : Area) (count : Nat) (maxRows : UInt16) : Option Area := do
  let height ← addChecked? (popupEntries count maxRows) 2
  return { free with height := min height free.height }

/-- The free area, with the list at its top if one is open. -/
def freeRows? (theme : Theme) (free : Area) (maxRows : UInt16) (v : Snapshot) :
    Option (List Row) :=
  let blank := blankRow free.width.toNat .plain
  match popup? theme v with
  | none => some (List.replicate free.height.toNat blank)
  | some p => do
    let area ← popupArea? free p.count maxRows
    return listRows area.width.toNat area.height.toNat p.title (markStyle theme) p.entries
        p.selected
      ++ List.replicate (free.height.toNat - area.height.toNat) blank

/-! ## The layout

The box of the formula takes three rows, the result and the help one each, and the
free area what is left. Where rows are few, the free area goes first, then the box,
and then the help. -/

/-- The rows of the box of the formula, out of so many rows. -/
def formulaHeight (rows : Nat) : Nat := min 3 (rows - 2)

/-- The rows between the formula and the result. -/
def freeHeight (rows : Nat) : Nat := rows - 5

/-- The rows of the result. -/
def resultHeight (rows : Nat) : Nat := min 1 rows

/-- The rows of the help. -/
def helpHeight (rows : Nat) : Nat := min 1 (rows - 1)

/-- No row is left over and none is used twice. -/
theorem heights_add (rows : Nat) :
    formulaHeight rows + freeHeight rows + resultHeight rows + helpHeight rows = rows := by
  rw [formulaHeight, freeHeight, resultHeight, helpHeight]
  omega

/-- The box of the formula in a frame. -/
def formulaArea (frame : Area) : Area :=
  { frame with height := .ofNat (formulaHeight frame.rowCount) }

/-- The area below the formula and above the result. -/
def freeArea (frame : Area) : Area :=
  { frame with
    y := .ofNat (frame.y.toNat + formulaHeight frame.rowCount)
    height := .ofNat (freeHeight frame.rowCount) }

/-! ## The screen -/

/-- The row of the result. -/
def resultRow (theme : Theme) (width : Nat) (result : String) : Row :=
  let color := if result == invalidResult then theme.invalid else theme.text
  paragraphRow width (.paper theme.background)
    [⟨"Result: ", .ink theme.dimmed⟩, ⟨result, (Style.ink color).bold⟩]

/-- The row of the help. -/
def helpRow (theme : Theme) (width : Nat) (mode : Mode) : Row :=
  centredRow width ((Style.ink theme.dimmed).drawnOn (.paper theme.background))
    [⟨helpText mode, .plain⟩]

/-- What is seen: the rows from top to bottom, and column and row of the cursor
    unless it is hidden. -/
structure Picture where
  rows : List Row
  cursor : Option (Nat × Nat)

/-- Draws the editor in a frame; none if a sum on the way is too large. -/
def drawIn? (theme : Theme) (frame : Area) (maxRows : UInt16) (v : Snapshot) :
    Option Picture := do
  let width := frame.width.toNat
  let cursor ← cursor? (formulaArea frame) v
  let free ← freeRows? theme (freeArea frame) maxRows v
  return {
    rows :=
      formulaRows theme (formulaArea frame) v ++ free
        ++ List.replicate (resultHeight frame.rowCount) (resultRow theme width v.result)
        ++ List.replicate (helpHeight frame.rowCount) (helpRow theme width v.mode)
    cursor := cursor }

/-- Draws the editor on a whole screen. -/
def draw? (theme : Theme) (width height : Nat) (maxRows : UInt16) (v : Snapshot) :
    Option Picture :=
  drawIn? theme (.ofSize width height) maxRows v

end TagCalc.Screen
