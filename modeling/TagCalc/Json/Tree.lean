/-
  TagCalc.Json.Tree

  JSON values as they are written. Numbers keep their digits and strings their
  escapes: whether a number has a double near it, and whether the surrogates of
  a string come in pairs, is asked only of the values that are used.
-/

import TagCalc.Number.Reading

namespace TagCalc.Json

/-- A number: sign, digits before and after the point, and the exponent with its
    sign, if there is one. -/
structure Numeral where
  negative : Bool
  whole : List Char
  fraction : List Char
  exponent : Option (Bool × List Char)
deriving DecidableEq, Repr

/-- A part of a string: a character as it stands or after a backslash, or a
    16-bit code in four hexadecimal digits. -/
inductive Piece where
  | char (c : Char)
  | code (n : Nat)
deriving DecidableEq, Repr

/-- A JSON value. The members of an object keep their order and may repeat a
    name. -/
inductive Tree where
  | null
  | bool (b : Bool)
  | number (n : Numeral)
  | string (s : List Piece)
  | array (items : List Tree)
  | object (members : List (List Piece × Tree))

/-! ## Strings -/

/-- Whether a 16-bit code is the first half of a surrogate pair. -/
def isHighSurrogate (n : Nat) : Bool := 0xD800 ≤ n && n ≤ 0xDBFF

/-- Whether a 16-bit code is the second half of a surrogate pair. -/
def isLowSurrogate (n : Nat) : Bool := 0xDC00 ≤ n && n ≤ 0xDFFF

/-- The character of a surrogate pair. -/
def pairedChar (high low : Nat) : Char :=
  Char.ofNat (0x10000 + (high - 0xD800) * 0x400 + (low - 0xDC00))

/-- The text of a string; none if a surrogate stands alone. -/
def pieceChars : List Piece → Option (List Char)
  | [] => some []
  | .char c :: rest => (pieceChars rest).map (c :: ·)
  | .code high :: .code low :: rest =>
    if isHighSurrogate high then
      if isLowSurrogate low then (pieceChars rest).map (pairedChar high low :: ·) else none
    else if isLowSurrogate high then none
    else (pieceChars (.code low :: rest)).map (Char.ofNat high :: ·)
  | .code n :: rest =>
    if isHighSurrogate n || isLowSurrogate n then none
    else (pieceChars rest).map (Char.ofNat n :: ·)

/-- The text of a string; none if a surrogate stands alone. -/
def text? (s : List Piece) : Option String := (pieceChars s).map String.ofList

/-! ## Numbers -/

/-- The numbers of 64 bits are below this one. -/
def wordLimit : Nat := 0x10000000000000000

/-- Appends digits to a number as long as it fits into 64 bits, and gives the
    digits left over. -/
def takeDigits (n : Nat) : List Char → Nat × List Char
  | [] => (n, [])
  | d :: rest =>
    let n' := 10 * n + (d.toNat - '0'.toNat)
    if n' < wordLimit then takeDigits n' rest else (n, d :: rest)

/-- The largest power of ten that is a double. -/
def maxPower : Nat := 308

/-- The double nearest to a power of ten. -/
def powerOfTen (n : Nat) : Float := Number.Decimal.toFloat ⟨false, 1, n⟩

/-- Divides by a power of ten, in steps of the largest one that is a double. -/
def divideByPower (x : Float) (places : Nat) : Float :=
  if places ≤ maxPower then x / powerOfTen places
  else if x == 0 then x
  else divideByPower (x / powerOfTen maxPower) (places - maxPower)
termination_by places
decreasing_by simp only [maxPower] at *; omega

/-- Multiplies by a power of ten; none if the product is not finite. -/
def multiplyByPower (x : Float) (places : Nat) : Option Float :=
  if places ≤ maxPower then
    let y := x * powerOfTen places
    if y.isInf then none else some y
  else if x == 0 then some x
  else none

/-- The exponent of a number. -/
def Numeral.exponentValue (n : Numeral) : Int :=
  match n.exponent with
  | none => 0
  | some (negative, ds) =>
    let e : Int := Number.digitsValue ds
    if negative then -e else e

/-- The magnitude of a number in double arithmetic: as many of its digits as fit
    into 64 bits, rounded to a double and scaled by a power of ten. None if the
    magnitude is too large. -/
def Numeral.magnitude? (n : Numeral) : Option Float :=
  let (kept, restWhole) := takeDigits 0 n.whole
  let (kept, restFraction) := takeDigits kept n.fraction
  let significand := Number.Decimal.toFloat ⟨false, kept, 0⟩
  let shift : Int := restWhole.length - (n.fraction.length - restFraction.length : Nat)
  let e := shift + n.exponentValue
  if 0 ≤ e then multiplyByPower significand e.toNat
  else some (divideByPower significand (-e).toNat)

/-- The double that a number denotes; none if the number is out of range. -/
def Numeral.toFloat? (n : Numeral) : Option Float :=
  n.magnitude?.map fun x => if n.negative then -x else x

end TagCalc.Json
