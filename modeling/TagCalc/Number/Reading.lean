/-
  TagCalc.Number.Reading

  Reads a double from text. Accepted are an optional sign followed by decimal
  digits with an optional point among, before or after them and an optional
  exponent, and the words `inf`, `infinity` and `nan` in any case. The result is
  the nearest double.
-/

import TagCalc.Number.Decimal

namespace TagCalc.Number

/-- Not a number. -/
def nan : Float := Float.ofBits 0x7FF8000000000000

/-- The value of a string of digits. -/
def digitsValue (ds : List Char) : Nat :=
  ds.foldl (fun n c => 10 * n + (c.toNat - '0'.toNat)) 0

/-- An optional sign and what follows it. -/
def splitSign : List Char → Bool × List Char
  | '-' :: rest => (true, rest)
  | '+' :: rest => (false, rest)
  | cs => (false, cs)

/-- An exponent that takes up the whole text; no text at all is the exponent
    zero. -/
def readExponent : List Char → Option Int
  | [] => some 0
  | mark :: rest =>
    let (negative, ds) := splitSign rest
    if (mark == 'e' || mark == 'E') && !ds.isEmpty && ds.all Char.isDigit then
      let n : Int := digitsValue ds
      some (if negative then -n else n)
    else
      none

/-- A fraction part, if a point starts the text, and what follows it. -/
def splitFraction : List Char → List Char × List Char
  | '.' :: rest => (rest.takeWhile Char.isDigit, rest.dropWhile Char.isDigit)
  | cs => ([], cs)

/-- An unsigned decimal number that takes up the whole text. -/
def readUnsigned (negative : Bool) (cs : List Char) : Option Decimal :=
  let whole := cs.takeWhile Char.isDigit
  let (fraction, rest) := splitFraction (cs.dropWhile Char.isDigit)
  if whole.isEmpty && fraction.isEmpty then
    none
  else
    (readExponent rest).map fun e =>
      ⟨negative, digitsValue (whole ++ fraction), e - fraction.length⟩

/-- A number given by a word. -/
def readWord (negative : Bool) (cs : List Char) : Option Float :=
  match cs.map Char.toLower with
  | ['i', 'n', 'f'] | ['i', 'n', 'f', 'i', 'n', 'i', 't', 'y'] =>
    some (ofSignAndBits negative infinityBits)
  | ['n', 'a', 'n'] => some nan
  | _ => none

/-- The double that the whole text denotes. -/
def read? (cs : List Char) : Option Float :=
  let (negative, body) := splitSign cs
  match readUnsigned negative body with
  | some d => some d.toFloat
  | none => readWord negative body

/-- The double that the whole text denotes, not a number if there is none. -/
def read (cs : List Char) : Float :=
  (read? cs).getD nan

end TagCalc.Number
