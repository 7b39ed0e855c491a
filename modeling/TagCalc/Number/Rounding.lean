/-
  TagCalc.Number.Rounding

  The double nearest to a ratio of natural numbers, as a bit pattern. All of it
  is exact arithmetic on naturals: a ratio is measured in units `2^q`, `q` being
  the exponent that leaves 53 significant bits, and the quotient is rounded half
  to even.
-/

namespace TagCalc.Number

/-- The quotient rounded to the nearest natural, halves to the even one. -/
def roundHalfEven (num den : Nat) : Nat :=
  let floor := num / den
  let rest := num % den
  if 2 * rest < den then floor
  else if den < 2 * rest then floor + 1
  else floor + floor % 2

/-- Numerator and denominator of `num / den` measured in units `base ^ e`. -/
def inUnits (base : Nat) (e : Int) (num den : Nat) : Nat × Nat :=
  if 0 ≤ e then (num, den * Nat.pow base e.toNat) else (num * Nat.pow base (-e).toNat, den)

/-! ## Bit patterns -/

/-- The leading bit of a significand, `2^52`. It is also the lowest bit of the
    exponent field. -/
def leadingBit : Nat := 0x10000000000000

/-- The sign bit, `2^63`. -/
def signBit : Nat := 0x8000000000000000

/-- The exponent of the last binary place that a double near `num / den` has.
    The difference of the logarithms is at most one too small. -/
def lastPlace (num den : Nat) : Int :=
  let q : Int := (num.log2 : Int) - den.log2 - 53
  let (a, b) := inUnits 2 q num den
  let q := if 2 * leadingBit ≤ a / b then q + 1 else q
  max q (-1074)

/-- The bits of positive infinity. -/
def infinityBits : Nat := 0x7FF0000000000000

/-- The bits of the double nearest to `num / den`. A significand with its
    leading bit adds one to the exponent field by itself, and so does a carry
    out of the rounding; what passes the largest finite double is infinite. -/
def nearestBits (num den : Nat) : Nat :=
  if num = 0 then 0
  else
    let q := lastPlace num den
    let (a, b) := inUnits 2 q num den
    min infinityBits ((q + 1074).toNat * leadingBit + roundHalfEven a b)

/-- The double with the given sign and magnitude bits. -/
def ofSignAndBits (negative : Bool) (bits : Nat) : Float :=
  Float.ofBits (UInt64.ofNat (if negative then signBit + bits else bits))

/-- Whether the sign bit of a double is set. -/
def isNegative (x : Float) : Bool :=
  signBit ≤ x.toBits.toNat

/-- The bits of a double without its sign. -/
def magnitudeBits (x : Float) : Nat :=
  x.toBits.toNat % signBit

/-- Significand and exponent of a finite magnitude: the value is
    `significand * 2 ^ exponent`. -/
def significandAndExponent (bits : Nat) : Nat × Int :=
  let field : Nat := bits / leadingBit
  let fraction : Nat := bits % leadingBit
  if field = 0 then (fraction, -1074) else (leadingBit + fraction, (field : Int) - 1075)

/-- A finite magnitude as a ratio of naturals. -/
def ratioOfBits (bits : Nat) : Nat × Nat :=
  let (m, q) := significandAndExponent bits
  if 0 ≤ q then (m * Nat.pow 2 q.toNat, 1) else (m, Nat.pow 2 (-q).toNat)

end TagCalc.Number
