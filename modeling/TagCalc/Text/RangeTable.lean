/-
  TagCalc.Text.RangeTable

  Sets of characters given by their code point ranges, with membership by
  binary search.
-/

namespace TagCalc.Text

/-- Code point ranges, both ends included, in increasing order and without
    overlap. -/
structure RangeTable where
  ranges : Array (Nat × Nat)

namespace RangeTable

/-- Looks for `n` in the ranges at the indices from `lo` up to `hi`. The window
    halves at each step, so its width bounds the steps needed. -/
def search (ranges : Array (Nat × Nat)) (n : Nat) : (steps lo hi : Nat) → Bool
  | 0, _, _ => false
  | steps + 1, lo, hi =>
    if hi ≤ lo then
      false
    else
      let mid := (lo + hi) / 2
      match ranges[mid]? with
      | none => false
      | some (first, last) =>
        if n < first then search ranges n steps lo mid
        else if last < n then search ranges n steps (mid + 1) hi
        else true

/-- Whether a code point lies in one of the ranges. -/
def containsCode (t : RangeTable) (n : Nat) : Bool :=
  search t.ranges n t.ranges.size 0 t.ranges.size

/-- Whether a character lies in one of the ranges. -/
def contains (t : RangeTable) (c : Char) : Bool :=
  t.containsCode c.toNat

end RangeTable

end TagCalc.Text
