/-
  TagCalc.Number.Decimal

  Decimal numbers: the double nearest to one, and its text in positional
  notation, which never has an exponent.
-/

import TagCalc.Number.Rounding

namespace TagCalc.Number

/-- The number `± digits * 10 ^ exponent`. -/
structure Decimal where
  negative : Bool
  digits : Nat
  exponent : Int
deriving DecidableEq, Repr

namespace Decimal

/-- The bits of the double nearest to the magnitude. A magnitude above `10^400`
    or below `10^-399` is infinite or zero whatever its digits are, which keeps
    the powers of ten small. -/
def nearestBits (d : Decimal) : Nat :=
  if d.digits = 0 then 0
  else if 400 < d.exponent then infinityBits
  else if d.exponent < -(400 + d.digits.log2 : Int) then 0
  else if 0 ≤ d.exponent then Number.nearestBits (d.digits * Nat.pow 10 d.exponent.toNat) 1
  else Number.nearestBits d.digits (Nat.pow 10 (-d.exponent).toNat)

/-- The double nearest to the number; a negative number that rounds to zero is
    negative zero. -/
def toFloat (d : Decimal) : Float :=
  ofSignAndBits d.negative d.nearestBits

/-- The digits of a fraction without the zeros at their end. -/
def dropTrailingZeros (ds : List Char) : List Char :=
  (ds.reverse.dropWhile (· == '0')).reverse

/-- The magnitude in positional notation: at least one digit before the point,
    and no point without a digit other than zero after it. -/
def positionalMagnitude (d : Decimal) : List Char :=
  let ds := Nat.toDigits 10 d.digits
  if 0 ≤ d.exponent then
    if d.digits = 0 then ['0'] else ds ++ List.replicate d.exponent.toNat '0'
  else
    let places := (-d.exponent).toNat
    let padded := List.replicate (places + 1 - ds.length) '0' ++ ds
    let whole := padded.take (padded.length - places)
    match dropTrailingZeros (padded.drop (padded.length - places)) with
    | [] => whole
    | fraction => whole ++ '.' :: fraction

/-- The number in positional notation. -/
def positional (d : Decimal) : List Char :=
  if d.negative then '-' :: d.positionalMagnitude else d.positionalMagnitude

end Decimal

end TagCalc.Number
