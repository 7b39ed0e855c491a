/-
  TagCalc.Screen.Area

  Rectangles of a screen. Columns and rows are 16-bit numbers, as terminals count
  them. A sum of two is either capped at the largest number or checked: a checked
  sum beyond the largest number does not wrap around, it ends the program.
-/

namespace TagCalc.Screen

/-! ## Coordinates -/

/-- The largest number of a column or a row. -/
def maxColumn : Nat := 65535

/-- The sum of two coordinates, capped at the largest one. -/
def addCapped (a b : UInt16) : UInt16 := .ofNat (min (a.toNat + b.toNat) maxColumn)

/-- The sum of two coordinates; none beyond the largest one, where the program ends. -/
def addChecked? (a b : UInt16) : Option UInt16 :=
  if a.toNat + b.toNat ≤ maxColumn then some (.ofNat (a.toNat + b.toNat)) else none

/-- The difference of two coordinates, and zero if there is none. -/
def subCapped (a b : UInt16) : UInt16 := .ofNat (a.toNat - b.toNat)

theorem toNat_ofNat_capped (n : Nat) : (UInt16.ofNat (min n maxColumn)).toNat = min n maxColumn := by
  rw [UInt16.toNat_ofNat', maxColumn]
  omega

theorem toNat_addCapped (a b : UInt16) : (addCapped a b).toNat = min (a.toNat + b.toNat) maxColumn :=
  toNat_ofNat_capped _

theorem addChecked?_eq_some_iff {a b c : UInt16} :
    addChecked? a b = some c ↔ c.toNat = a.toNat + b.toNat := by
  have hlt := c.toNat_lt
  rw [addChecked?, maxColumn]
  split
  · rename_i hle
    rw [Option.some.injEq, ← UInt16.toNat_inj, UInt16.toNat_ofNat']
    omega
  · rename_i hlt
    simp only [reduceCtorEq, false_iff]
    omega

theorem addChecked?_eq_none_iff {a b : UInt16} :
    addChecked? a b = none ↔ maxColumn < a.toNat + b.toNat := by
  rw [addChecked?]
  split
  · rename_i hle
    simp only [reduceCtorEq, false_iff]
    omega
  · rename_i hlt
    simp only [true_iff]
    omega

theorem addChecked?_of_le {a b : UInt16} (h : a.toNat + b.toNat ≤ maxColumn) :
    ∃ c, addChecked? a b = some c ∧ c.toNat = a.toNat + b.toNat := by
  cases hsum : addChecked? a b with
  | none =>
    have hlt := addChecked?_eq_none_iff.1 hsum
    omega
  | some c => exact ⟨c, rfl, addChecked?_eq_some_iff.1 hsum⟩

theorem toNat_subCapped (a b : UInt16) : (subCapped a b).toNat = a.toNat - b.toNat := by
  have hlt := a.toNat_lt
  rw [subCapped, UInt16.toNat_ofNat']
  omega

theorem toNat_min (a b : UInt16) : (min a b).toNat = min a.toNat b.toNat := by
  have hmin : min a b = if a ≤ b then a else b := rfl
  rw [hmin]
  split
  · rename_i hle
    rw [UInt16.le_iff_toNat_le] at hle
    omega
  · rename_i hlt
    rw [UInt16.le_iff_toNat_le] at hlt
    omega

/-! ## Areas -/

/-- A rectangle: its upper left corner, its width and its height. -/
structure Area where
  x : UInt16
  y : UInt16
  width : UInt16
  height : UInt16
deriving DecidableEq, Repr

namespace Area

/-- A screen of its own. -/
def ofSize (width height : Nat) : Area := ⟨0, 0, .ofNat width, .ofNat height⟩

/-- The column after the last one, as far as columns are counted. -/
def right (a : Area) : UInt16 := addCapped a.x a.width

/-- The row after the last one, as far as rows are counted. -/
def bottom (a : Area) : UInt16 := addCapped a.y a.height

/-- The number of rows, as far as rows are counted. -/
def rowCount (a : Area) : Nat := a.bottom.toNat - a.y.toNat

end Area

end TagCalc.Screen
