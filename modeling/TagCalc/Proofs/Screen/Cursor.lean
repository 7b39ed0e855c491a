/-
  TagCalc.Proofs.Screen.Cursor

  Where the cursor stands. Its column is the left edge of the box, one more for the
  border, and the width of the formula and the input. The width is capped at the largest
  column number before the sum is taken, but the sum is not. So the cursor follows the
  input, up to the right border, as long as the columns up to it can be counted
  (`cursorColumn?_of_le`); beyond that there is no column for it, although the right
  border has one (`cursorColumn?_of_lt`).
-/

import TagCalc.Proofs.Screen.Picture

namespace TagCalc.Screen

/-! ## The width up to the cursor -/

/-- The widths of the tokens, each with a blank after it, add up. -/
theorem tokensWidth_eq_foldr (tokens : List Token) :
    tokensWidth tokens = tokens.foldr (fun t width => Text.width (tokenText t) + 1 + width) 0 := by
  induction tokens with
  | nil => rfl
  | cons t rest ih => rw [tokensWidth, ih, List.foldr_cons]

theorem toNat_cursorOffset (v : Snapshot) :
    (cursorOffset v).toNat = min (formulaWidth v) maxColumn := by
  rw [cursorOffset]
  exact toNat_ofNat_capped (formulaWidth v)

/-! ## The place of the cursor -/

/-- The column after the border, the formula and the input, however far that is. -/
def cursorReach (formula : Area) (v : Snapshot) : Nat := formula.x.toNat + 1 + formulaWidth v

/-- The last column before the right border. -/
def lastInside (formula : Area) : Nat := formula.right.toNat - 2

section Place

variable {formula : Area} {v : Snapshot}

theorem cursorColumn?_of_le (h : cursorReach formula v ≤ maxColumn) :
    ∃ column, cursorColumn? formula v = some column
      ∧ column.toNat = min (cursorReach formula v) (lastInside formula) := by
  rw [cursorReach] at h
  obtain ⟨inside, hinside, hleft⟩ : ∃ inside, addChecked? formula.x 1 = some inside
      ∧ inside.toNat = formula.x.toNat + 1 := addChecked?_of_le (by rw [UInt16.toNat_one]; omega)
  have hwidth : (cursorOffset v).toNat = formulaWidth v := by
    rw [toNat_cursorOffset]
    omega
  obtain ⟨reach, hreach, hsum⟩ : ∃ reach, addChecked? inside (cursorOffset v) = some reach
      ∧ reach.toNat = inside.toNat + (cursorOffset v).toNat := addChecked?_of_le (by omega)
  refine ⟨min reach (subCapped formula.right 2), ?_, ?_⟩
  · simp [cursorColumn?, hinside, hreach]
  · rw [toNat_min, toNat_subCapped, hsum, hleft, hwidth]
    rfl

/-- The cap on the width comes too early to keep the sum within bounds: one column is taken
    by the border. -/
theorem cursorColumn?_of_lt (h : maxColumn < cursorReach formula v) :
    cursorColumn? formula v = none := by
  rw [cursorReach] at h
  cases hinside : addChecked? formula.x 1 with
  | none => simp [cursorColumn?, hinside]
  | some inside =>
    have hleft : inside.toNat = formula.x.toNat + 1 := addChecked?_eq_some_iff.1 hinside
    have hreach : addChecked? inside (cursorOffset v) = none := by
      rw [addChecked?_eq_none_iff, hleft, toNat_cursorOffset]
      omega
    simp [cursorColumn?, hinside, hreach]

/-- While editing, the cursor has a place just when its column and its row can be counted. -/
theorem cursor?_eq_none_iff (editing : v.mode = .editing) :
    cursor? formula v = none
      ↔ maxColumn < cursorReach formula v ∨ maxColumn < formula.y.toNat + 1 := by
  have hrow : addChecked? formula.y 1 = none ↔ maxColumn < formula.y.toNat + 1 :=
    addChecked?_eq_none_iff
  rw [cursor?, if_pos editing, ← hrow]
  -- the row is reckoned only after the column, but either failure leaves no place
  rcases Nat.lt_or_ge maxColumn (cursorReach formula v) with hfar | hnear
  · simp [cursorColumn?_of_lt hfar, hfar]
  · obtain ⟨column, hcolumn, -⟩ := cursorColumn?_of_le hnear
    have hnot : ¬ maxColumn < cursorReach formula v := Nat.not_lt.2 hnear
    cases hsum : addChecked? formula.y 1 <;> simp [hcolumn, hnot]

theorem eq_of_cursor? (editing : v.mode = .editing) {cursor : Option (Nat × Nat)}
    (h : cursor? formula v = some cursor) :
    cursor = some (min (cursorReach formula v) (lastInside formula), formula.y.toNat + 1) := by
  rw [cursor?, if_pos editing] at h
  obtain ⟨column, hcolumn, h⟩ := Option.bind_eq_some_iff.1 h
  obtain ⟨row, hrow, h⟩ := Option.bind_eq_some_iff.1 h
  cases h
  have hbelow : row.toNat = formula.y.toNat + 1 := addChecked?_eq_some_iff.1 hrow
  rcases Nat.lt_or_ge maxColumn (cursorReach formula v) with hfar | hnear
  · rw [cursorColumn?_of_lt hfar] at hcolumn
    cases hcolumn
  · obtain ⟨placed, hplaced, hvalue⟩ := cursorColumn?_of_le hnear
    rw [hplaced] at hcolumn
    cases hcolumn
    rw [hvalue, hbelow]

end Place

/-- In every frame, while editing, a picture shows the cursor just after the formula and the
    input, or before the right border if they reach beyond it. There is no picture just when
    one of three numbers cannot be counted in 16 bits: the column after the formula and the
    input, although the right border may be far to the left of it; the row below the upper
    border; or the rows of an open list with its border, which takes more than 65533 entries
    in view. -/
theorem cursor_follows_input (theme : Theme) (frame : Area) (maxRows : UInt16) (v : Snapshot)
    (editing : v.mode = .editing) :
    let box := formulaArea frame
    cursorReach box v
      = box.x.toNat + 1
        + (v.tokens.foldr (fun t width => Text.width (tokenText t) + 1 + width) 0
          + Text.width v.input)
    ∧ (drawIn? theme frame maxRows v = none
        ↔ maxColumn < cursorReach box v ∨ maxColumn < box.y.toNat + 1
          ∨ ∃ p, popup? theme v = some p
              ∧ maxColumn < (popupEntries p.count maxRows).toNat + 2)
    ∧ ∀ pic, drawIn? theme frame maxRows v = some pic →
        pic.cursor = some (min (cursorReach box v) (lastInside box), box.y.toNat + 1) := by
  intro box
  refine ⟨by rw [cursorReach, formulaWidth, tokensWidth_eq_foldr], ?_, ?_⟩
  · rw [drawIn?_eq_none_iff, cursor?_eq_none_iff editing, freeRows?_eq_none_iff, or_assoc]
  · intro pic hpic
    exact eq_of_cursor? editing (eq_of_drawIn? hpic).1

/-- A formula with one tag, and "12" in the input. -/
def rentTimes : Snapshot where
  mode := .editing
  tokens := [⟨1, "Rent", .tag, none⟩, ⟨2, "*", .operand, none⟩]
  input := "12"
  suggestions := []
  dropdownShown := false
  loading := false
  highlighted := none
  result := "0"
  reselect := none

/-- In a frame at the right edge of a very wide screen, eleven columns are taken before
    the cursor. -/
theorem cursor_follows_input_far_right :
    rentTimes.mode = .editing
    ∧ ∃ pic, drawIn? .midnight ⟨65000, 4, 500, 10⟩ 8 rentTimes = some pic
        ∧ pic.cursor = some (65012, 5) := by
  have editing : rentTimes.mode = .editing := rfl
  obtain ⟨-, hnone, hcursor⟩ :=
    cursor_follows_input .midnight ⟨65000, 4, 500, 10⟩ 8 rentTimes editing
  cases hpic : drawIn? .midnight ⟨65000, 4, 500, 10⟩ 8 rentTimes with
  | none =>
    -- the frame is far enough from the edges of the screen, and no list is open
    rcases hnone.1 hpic with hfar | hlow | ⟨p, opens, -⟩
    · exact absurd hfar (by decide)
    · exact absurd hlow (by decide)
    · cases opens
  | some pic => exact ⟨editing, pic, rfl, hcursor pic hpic⟩

/-- The editor with a very long input. -/
def longInput : Snapshot :=
  { rentTimes with tokens := [], input := String.ofList (List.replicate 65535 'a') }

/-- With an input that is as wide as columns can be counted there is no picture, though
    the cursor should stand before the right border, in column 18. -/
theorem cursor_overflows :
    longInput.mode = .editing
    ∧ draw? .midnight 20 5 8 longInput = none
    ∧ cursorReach (formulaArea (.ofSize 20 5)) longInput = 65536
    ∧ min (cursorReach (formulaArea (.ofSize 20 5)) longInput)
        (lastInside (formulaArea (.ofSize 20 5))) = 18 := by
  have hinput : Text.width longInput.input = 65535 := by
    have hnarrow : ∀ c ∈ longInput.input.toList, c.toNat ≤ 0xA0 ∧ c ≠ '\n' := by
      intro c hc
      rw [longInput, String.toList_ofList] at hc
      rw [List.eq_of_mem_replicate hc]
      decide
    rw [Text.width_of_narrow hnarrow, longInput, String.toList_ofList, List.length_replicate]
  have hreach : cursorReach (formulaArea (.ofSize 20 5)) longInput = 65536 := by
    rw [cursorReach, formulaWidth, hinput]
    rfl
  refine ⟨rfl, ?_, hreach, ?_⟩
  · apply drawIn?_eq_none_iff.2
    refine Or.inl ((cursor?_eq_none_iff rfl).2 (Or.inl ?_))
    rw [hreach]
    decide
  · have hright : lastInside (formulaArea (.ofSize 20 5)) = 18 := by decide
    rw [hreach, hright]
    rfl

end TagCalc.Screen
