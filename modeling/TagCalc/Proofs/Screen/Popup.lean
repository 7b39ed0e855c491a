/-
  TagCalc.Proofs.Screen.Popup

  How high a list opens, and what it shows. A list shows as many entries as it has rows
  inside its border (`length_insideRows`), and it is drawn at the top of the free area
  (`take_freeRows?`). Its rows are reckoned from the number of entries cut to 16 bits, and
  only then held against the bounds. So the list has the room it should have for fewer
  than 65536 entries; beyond that only where the cut number is not the smallest one of
  those that bound it (`popup_fits_entries`).
-/

import TagCalc.Proofs.Screen.Picture

namespace TagCalc.Screen

/-! ## The rows of a list -/

/-- The entries that are passed over leave enough to fill the list. -/
theorem firstShown_le (selected : Option Nat) (count visible : Nat) :
    firstShown (markedIndex selected count) visible ≤ max count 1 - visible := by
  cases selected with
  | none => exact Nat.zero_le _
  | some i =>
    have hfirst : firstShown (markedIndex (some i) count) visible
        = min i (count - 1) + 1 - visible := rfl
    omega

/-- A list shows all its entries, or as many as have room. -/
theorem length_insideRows (width visible : Nat) (mark : Style) (entries : List (List Span))
    (selected : Option Nat) :
    (insideRows width visible mark entries selected).length = min visible entries.length := by
  have hfirst := firstShown_le selected entries.length visible
  rw [insideRows]
  dsimp only
  rw [List.length_take, List.length_drop, List.length_mapIdx]
  omega

/-- An open list takes the first rows of the free area. -/
theorem take_freeRows? {theme : Theme} {v : Snapshot} {p : Popup} (h : popup? theme v = some p)
    {free area : Area} {maxRows : UInt16} (harea : popupArea? free p.count maxRows = some area) :
    (freeRows? theme free maxRows v).map (·.take area.height.toNat)
      = some (listRows area.width.toNat area.height.toNat p.title (markStyle theme) p.entries
          p.selected) := by
  rw [freeRows?_of_popup? h, harea, Option.map_some, Option.map_some]
  exact congrArg some (List.take_left' (length_boxRows ..))

/-! ## What opens -/

/-- The number of suggestions, or of candidates while a tag is resolved. -/
def listedCount (v : Snapshot) : Nat :=
  match v.reselect with
  | some r => r.candidates.length
  | none => v.suggestions.length

/-- Whether a notice stands in for suggestions that are looked up. -/
def showsLoading (v : Snapshot) : Bool := v.reselect.isNone && v.loading

theorem count_of_popup? {theme : Theme} {v : Snapshot} {p : Popup} (h : popup? theme v = some p) :
    p.count = listedCount v := by
  rw [popup?] at h
  rw [listedCount]
  cases hr : v.reselect with
  | some r =>
    rw [hr] at h
    cases h
    rfl
  | none =>
    rw [hr] at h
    dsimp only at h
    split at h
    · cases h
      rfl
    · cases h

/-- One entry for each suggestion, or a notice if there is none. -/
theorem length_entries_or_notice (theme : Theme) (text : String) (c : Catalog) :
    (if c.isEmpty then noticeEntry theme text else c.map (suggestionEntry theme)).length
      = max c.length 1 := by
  cases c with
  | nil => rfl
  | cons s rest =>
    rw [if_neg (by simp), List.length_map, List.length_cons]
    omega

theorem length_entries_of_popup? {theme : Theme} {v : Snapshot} {p : Popup}
    (h : popup? theme v = some p) :
    p.entries.length = if showsLoading v then 1 else max (listedCount v) 1 := by
  rw [popup?] at h
  rw [showsLoading, listedCount]
  cases hr : v.reselect with
  | some r =>
    rw [hr] at h
    cases h
    exact length_entries_or_notice ..
  | none =>
    rw [hr] at h
    dsimp only at h
    split at h
    · cases h
      cases hloading : v.loading with
      | true =>
        rw [suggestionsPopup, hloading]
        rfl
      | false =>
        rw [suggestionsPopup, hloading]
        exact length_entries_or_notice ..
    · cases h

/-! ## The height of a list -/

theorem toNat_popupEntries (count : Nat) (maxRows : UInt16) :
    (popupEntries count maxRows).toNat = min (max count 1 % 65536) maxRows.toNat := by
  rw [popupEntries, toNat_min, UInt16.toNat_ofNat']

/-- A list of at most 32 entries is always low enough to be counted. -/
theorem popupArea?_of_le_32 {maxRows : UInt16} (most : maxRows.toNat ≤ 32) (free : Area)
    (count : Nat) :
    ∃ area, popupArea? free count maxRows = some area
      ∧ (area.x = free.x ∧ area.y = free.y ∧ area.width = free.width)
      ∧ area.height.toNat
        = min (min (max count 1 % 65536) maxRows.toNat + 2) free.height.toNat := by
  have hrows := toNat_popupEntries count maxRows
  rw [← hrows]
  apply popupArea?_of_le
  rw [hrows, maxColumn]
  omega

/-- A smaller number of entries gives the same height only where the bounds are met by it
    too. -/
theorem height_eq_iff {cut entries rows room : Nat} (h : cut ≤ entries) :
    min (min cut rows + 2) room = min (min entries rows + 2) room
      ↔ cut = entries ∨ rows ≤ cut ∨ room ≤ cut + 2 := by
  omega

/-- For every area below the input, there is an area for an open list, which starts at its
    corner and has its width. It has the height for its entries, at least one and at most
    `maxRows`, and for the border, as far as the area reaches, just when there are fewer than
    65536 entries, or the count cut to 16 bits still comes to `maxRows`, or to what the area
    has room for. It shows the entries that it has rows for. -/
theorem popup_fits_entries (theme : Theme) (v : Snapshot) (maxRows : UInt16)
    (most : maxRows.toNat ≤ 32) (below : Area) (p : Popup) (opens : popup? theme v = some p) :
    ∃ area, popupArea? below p.count maxRows = some area ∧
    let shown := insideRows (area.width.toNat - 2) (area.height.toNat - 2) (markStyle theme)
      p.entries p.selected
    let wanted := min (max (listedCount v) 1) maxRows.toNat
    let cut := max (listedCount v) 1 % 65536
    (area.x = below.x ∧ area.y = below.y ∧ area.width = below.width)
    ∧ (freeRows? theme below maxRows v).map (·.take area.height.toNat)
        = some (boxRows area.width.toNat area.height.toNat p.title .plain shown)
    ∧ area.height.toNat = min (min cut maxRows.toNat + 2) below.height.toNat
    ∧ (area.height.toNat = min (wanted + 2) below.height.toNat
        ↔ listedCount v < 65536 ∨ maxRows.toNat ≤ cut ∨ below.height.toNat ≤ cut + 2)
    ∧ shown.length
        = min (area.height.toNat - 2) (if showsLoading v then 1 else max (listedCount v) 1)
    ∧ (listedCount v < 65536 → showsLoading v = false → wanted + 2 ≤ below.height.toNat →
        shown.length = wanted) := by
  obtain ⟨area, harea, hplace, hheight⟩ := popupArea?_of_le_32 most below p.count
  rw [count_of_popup? opens] at hheight
  refine ⟨area, harea, ?_⟩
  intro shown wanted cut
  have hshown : shown.length
      = min (area.height.toNat - 2) (if showsLoading v then 1 else max (listedCount v) 1) := by
    rw [← length_entries_of_popup? opens]
    exact length_insideRows ..
  refine ⟨hplace, take_freeRows? opens harea, hheight, ?_, hshown, ?_⟩
  · have hsame : cut = max (listedCount v) 1 ↔ listedCount v < 65536 := by omega
    rw [hheight, height_eq_iff (Nat.mod_le _ _), hsame]
  · intro hfew hloaded hroom
    rw [hloaded, if_neg Bool.false_ne_true] at hshown
    omega

/-- The editor while a tag is resolved among some candidates. -/
def resolvingAmong (candidates : Catalog) : Snapshot where
  mode := .reselecting
  tokens := [⟨1, "Rent", .tag, none⟩]
  input := ""
  suggestions := []
  dropdownShown := false
  loading := false
  highlighted := none
  result := "0"
  reselect := some ⟨1, candidates, some 0⟩

/-- Among forty candidates, eight are shown. -/
theorem popup_fits_entries_forty :
    let v := resolvingAmong (List.replicate 40 ⟨"1", "Rent", "housing", .text "900"⟩)
    ∃ p area, popup? .midnight v = some p
      ∧ popupArea? (freeArea (.ofSize 80 25)) p.count 8 = some area ∧ area.height = 10
      ∧ (insideRows 78 8 (markStyle .midnight) p.entries p.selected).length = 8 := by
  intro v
  have opens : popup? .midnight v = some (reselectPopup .midnight ⟨1, _, some 0⟩) := rfl
  obtain ⟨area, harea, hplace, -, -, hfits, -, hshown⟩ :=
    popup_fits_entries .midnight v 8 (by decide) (freeArea (.ofSize 80 25)) _ opens
  have hcount : listedCount v = 40 := List.length_replicate
  have hheight := hfits.2 (Or.inl (by omega))
  rw [hcount] at hheight
  have hten : area.height = 10 := UInt16.toNat_inj.1 hheight
  refine ⟨_, area, opens, harea, hten, ?_⟩
  have hlength := hshown (by omega) rfl (by rw [hcount]; decide)
  rw [hplace.2.2, hten, hcount] at hlength
  exact hlength

/-- For 65536 candidates the list opens with no row for any of them, though there is room
    for the eight that it should show. -/
theorem popup_without_entries :
    let v := resolvingAmong (List.replicate 65536 ⟨"1", "Rent", "housing", .text "900"⟩)
    ∃ p area, popup? .midnight v = some p
      ∧ popupArea? (freeArea (.ofSize 80 25)) p.count 8 = some area ∧ area.height = 2
      ∧ min (min (max (listedCount v) 1) (8 : UInt16).toNat + 2)
          (freeArea (.ofSize 80 25)).height.toNat = 10 := by
  intro v
  have opens : popup? .midnight v = some (reselectPopup .midnight ⟨1, _, some 0⟩) := rfl
  have hcount : listedCount v = 65536 := List.length_replicate
  obtain ⟨area, harea, -, hheight⟩ := popupArea?_of_le_32 (by decide : (8 : UInt16).toNat ≤ 32)
    (freeArea (.ofSize 80 25)) (listedCount v)
  rw [hcount] at hheight
  refine ⟨_, area, opens, ?_, UInt16.toNat_inj.1 hheight, ?_⟩
  · rw [count_of_popup? opens]
    exact harea
  · rw [hcount]
    decide

end TagCalc.Screen
