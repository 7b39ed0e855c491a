/-
  TagCalc.Proofs.Screen.Picture

  When there is a picture, and how many rows it has. Besides the sums for the cursor, one
  sum is checked: that of the rows of an open list and its border. There is a picture just
  when all of them can be counted (`drawIn?_eq_none_iff`, `freeRows?_eq_none_iff`), and then
  it fills the frame, however low the frame is (`length_rows_of_drawIn?`).
-/

import TagCalc.Screen.Draw

namespace TagCalc.Screen

/-! ## Areas in a frame -/

theorem rowCount_le (a : Area) : a.rowCount ≤ maxColumn := by
  rw [Area.rowCount, Area.bottom, toNat_addCapped]
  omega

theorem toNat_height_formulaArea (frame : Area) :
    (formulaArea frame).height.toNat = formulaHeight frame.rowCount := by
  rw [formulaArea, UInt16.toNat_ofNat', formulaHeight]
  omega

theorem toNat_height_freeArea (frame : Area) :
    (freeArea frame).height.toNat = freeHeight frame.rowCount := by
  have hcount := rowCount_le frame
  rw [maxColumn] at hcount
  rw [freeArea, UInt16.toNat_ofNat', freeHeight]
  omega

/-! ## The area of a list -/

/-- A list has the rows for its entries and its border, as far as the free area reaches. -/
theorem popupArea?_of_le {count : Nat} {maxRows : UInt16}
    (h : (popupEntries count maxRows).toNat + 2 ≤ maxColumn) (free : Area) :
    ∃ area, popupArea? free count maxRows = some area
      ∧ (area.x = free.x ∧ area.y = free.y ∧ area.width = free.width)
      ∧ area.height.toNat = min ((popupEntries count maxRows).toNat + 2) free.height.toNat := by
  obtain ⟨height, hsum, hheight⟩ :
      ∃ height, addChecked? (popupEntries count maxRows) 2 = some height
        ∧ height.toNat = (popupEntries count maxRows).toNat + 2 := addChecked?_of_le h
  refine ⟨{ free with height := min height free.height }, ?_, ⟨rfl, rfl, rfl⟩, ?_⟩
  · rw [popupArea?, hsum]
    rfl
  · rw [toNat_min, hheight]

theorem popupArea?_eq_none_iff {free : Area} {count : Nat} {maxRows : UInt16} :
    popupArea? free count maxRows = none
      ↔ maxColumn < (popupEntries count maxRows).toNat + 2 := by
  have hiff : addChecked? (popupEntries count maxRows) 2 = none
      ↔ maxColumn < (popupEntries count maxRows).toNat + 2 := addChecked?_eq_none_iff
  rw [← hiff, popupArea?]
  cases addChecked? (popupEntries count maxRows) 2 <;> simp

/-- No list is higher than the free area. -/
theorem height_le_of_popupArea? {free area : Area} {count : Nat} {maxRows : UInt16}
    (h : popupArea? free count maxRows = some area) :
    area.height.toNat ≤ free.height.toNat := by
  rcases Nat.lt_or_ge maxColumn ((popupEntries count maxRows).toNat + 2) with hlt | hle
  · rw [popupArea?_eq_none_iff.2 hlt] at h
    cases h
  · obtain ⟨fitting, hfitting, -, hheight⟩ := popupArea?_of_le hle free
    rw [hfitting] at h
    cases h
    omega

/-! ## The free area -/

theorem length_boxRows (width height : Nat) (title : String) (below : Style)
    (inside : List Row) : (boxRows width height title below inside).length = height := by
  match height with
  | 0 => rfl
  | 1 => rfl
  | height + 2 =>
    simp only [boxRows, List.length_append, List.length_map, List.length_take,
      List.length_replicate, List.length_singleton]
    omega

section Free

variable {theme : Theme} {free : Area} {maxRows : UInt16} {v : Snapshot}

/-- The rows of a free area with an open list in it. -/
theorem freeRows?_of_popup? {p : Popup} (h : popup? theme v = some p) :
    freeRows? theme free maxRows v
      = (popupArea? free p.count maxRows).map fun area =>
          listRows area.width.toNat area.height.toNat p.title (markStyle theme) p.entries
              p.selected
            ++ List.replicate (free.height.toNat - area.height.toNat)
                (blankRow free.width.toNat .plain) := by
  rw [freeRows?, h]
  dsimp only
  cases popupArea? free p.count maxRows with
  | none => rfl
  | some area => rfl

/-- Only an open list can be too high to be counted. -/
theorem freeRows?_eq_none_iff :
    freeRows? theme free maxRows v = none
      ↔ ∃ p, popup? theme v = some p
          ∧ maxColumn < (popupEntries p.count maxRows).toNat + 2 := by
  cases hp : popup? theme v with
  | none => simp [freeRows?, hp]
  | some p => simp [freeRows?_of_popup? hp, popupArea?_eq_none_iff]

theorem length_of_freeRows? {rows : List Row} (h : freeRows? theme free maxRows v = some rows) :
    rows.length = free.height.toNat := by
  cases hp : popup? theme v with
  | none =>
    rw [freeRows?, hp] at h
    cases h
    exact List.length_replicate
  | some p =>
    rw [freeRows?_of_popup? hp, Option.map_eq_some_iff] at h
    obtain ⟨area, harea, rfl⟩ := h
    have hle := height_le_of_popupArea? harea
    rw [List.length_append, listRows, length_boxRows, List.length_replicate]
    omega

end Free

/-! ## The picture -/

section Picture

variable {theme : Theme} {frame : Area} {maxRows : UInt16} {v : Snapshot}

theorem drawIn?_eq_none_iff :
    drawIn? theme frame maxRows v = none
      ↔ cursor? (formulaArea frame) v = none
        ∨ freeRows? theme (freeArea frame) maxRows v = none := by
  rw [drawIn?]
  cases cursor? (formulaArea frame) v with
  | none => simp
  | some cursor => cases freeRows? theme (freeArea frame) maxRows v <;> simp

/-- A picture shows the cursor in the box, and around the free area what is always there. -/
theorem eq_of_drawIn? {pic : Picture} (h : drawIn? theme frame maxRows v = some pic) :
    cursor? (formulaArea frame) v = some pic.cursor
    ∧ ∃ free, freeRows? theme (freeArea frame) maxRows v = some free
      ∧ pic.rows
        = formulaRows theme (formulaArea frame) v ++ free
          ++ List.replicate (resultHeight frame.rowCount)
              (resultRow theme frame.width.toNat v.result)
          ++ List.replicate (helpHeight frame.rowCount)
              (helpRow theme frame.width.toNat v.mode) := by
  rw [drawIn?] at h
  obtain ⟨cursor, hcursor, h⟩ := Option.bind_eq_some_iff.1 h
  obtain ⟨free, hfree, h⟩ := Option.bind_eq_some_iff.1 h
  cases h
  exact ⟨hcursor, free, hfree, rfl⟩

/-- A picture has as many rows as its frame. -/
theorem length_rows_of_drawIn? {pic : Picture} (h : drawIn? theme frame maxRows v = some pic) :
    pic.rows.length = frame.rowCount := by
  obtain ⟨-, free, hfree, hrows⟩ := eq_of_drawIn? h
  rw [hrows, List.length_append, List.length_append, List.length_append,
    List.length_replicate, List.length_replicate, length_of_freeRows? hfree, formulaRows,
    length_boxRows, toNat_height_formulaArea, toNat_height_freeArea]
  exact heights_add frame.rowCount

end Picture

end TagCalc.Screen
