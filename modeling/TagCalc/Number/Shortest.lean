/-
  TagCalc.Number.Shortest

  The shortest decimal that reads back as a given double. For one, two, … up to
  17 digits the two neighbours of the double on that decimal grid are tried; the
  first grid with a neighbour that reads back wins, of two such neighbours the
  nearer, and of two equally near the upper one.

  Main statement: the decimal found reads back (`nearestBits_nearest`).
-/

import TagCalc.Number.Decimal

namespace TagCalc.Number

/-- The number of digits of `num / den` before the decimal point; for a number
    below one, minus the number of zeros after it. -/
def pointPosition (num den : Nat) : Int :=
  if den ≤ num then
    ((Nat.toDigits 10 (num / den)).length : Int)
  else
    1 - ((Nat.toDigits 10 (den / num)).length : Int)

/-- The neighbour of `num / den` among the multiples of `10 ^ e` that reads back
    as the magnitude `bits`, if there is one. -/
def nearest (bits num den : Nat) (e : Int) : Option Decimal :=
  let (a, b) := inUnits 10 e num den
  let lower : Decimal := ⟨false, a / b, e⟩
  let upper : Decimal := ⟨false, a / b + 1, e⟩
  if lower.nearestBits = bits then
    if upper.nearestBits = bits && b ≤ 2 * (a % b) then some upper else some lower
  else if upper.nearestBits = bits then some upper
  else none

/-- A finite magnitude with all its digits. -/
def exactDecimal (bits : Nat) : Decimal :=
  let (m, q) := significandAndExponent bits
  if 0 ≤ q then ⟨false, m * Nat.pow 2 q.toNat, 0⟩ else ⟨false, m * Nat.pow 5 (-q).toNat, q⟩

/-- The shortest decimal that reads back as the finite magnitude `bits`. Should
    17 digits not do, all digits are given. -/
def shortestMagnitude (bits : Nat) : Decimal :=
  let (num, den) := ratioOfBits bits
  let point := pointPosition num den
  ((List.range 17).findSome? fun n => nearest bits num den (point - (n + 1 : Nat))).getD
    (exactDecimal bits)

/-- The shortest decimal that reads back as a finite double. -/
def shortest (x : Float) : Decimal :=
  { shortestMagnitude (magnitudeBits x) with negative := isNegative x }

/-- The text of a double: its shortest decimal in positional notation, or a
    word. -/
def text (x : Float) : String :=
  if x.isNaN then "NaN"
  else if x.isInf then (if isNegative x then "-inf" else "inf")
  else String.ofList (shortest x).positional

/-- A neighbour that is chosen reads back. -/
theorem nearestBits_nearest {bits num den : Nat} {e : Int} {d : Decimal}
    (h : nearest bits num den e = some d) : d.nearestBits = bits := by
  simp only [nearest] at h
  split at h
  · rename_i hlow
    split at h
    · rename_i hup
      simp only [Bool.and_eq_true, decide_eq_true_eq] at hup
      cases h
      exact hup.1
    · cases h
      exact hlow
  · split at h
    · rename_i hup
      cases h
      exact hup
    · cases h

end TagCalc.Number
