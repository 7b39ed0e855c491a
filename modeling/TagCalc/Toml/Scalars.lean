/-
  TagCalc.Toml.Scalars

  TOML numbers, dates and times. Each reader takes a text and gives what stands
  at its start and the text after it.

  Numbers may have single underscores between digits. Integers have 64 bits, and
  a float may not round to positive infinity. Of dates and times only their
  place in the text is kept, once they are found to exist in the calendar.
-/

import TagCalc.Toml.Tree
import TagCalc.Toml.Strings
import TagCalc.Number.Reading

namespace TagCalc.Toml

/-! ## Digits -/

/-- The digits of a run after its first digit. -/
def moreDigits (isDigit : Char → Bool) : List Char → List Char × List Char
  | [] => ([], [])
  | '_' :: d :: rest =>
    if isDigit d then
      let (ds, after) := moreDigits isDigit rest
      (d :: ds, after)
    else
      ([], '_' :: d :: rest)
  | c :: rest =>
    if isDigit c then
      let (ds, after) := moreDigits isDigit rest
      (c :: ds, after)
    else
      ([], c :: rest)

/-- A run of digits, without the underscores between them. -/
def digitRun (isDigit : Char → Bool) : List Char → Option (List Char × List Char)
  | [] => none
  | c :: rest =>
    if isDigit c then
      let (ds, after) := moreDigits isDigit rest
      some (c :: ds, after)
    else
      none

/-- The text after a sign, and whether it is a minus. -/
def sign (cs : List Char) : Bool × List Char := Number.splitSign cs

/-- Decimal digits without a leading zero: after a zero the run ends. -/
def decimalDigits : List Char → Option (List Char × List Char)
  | '0' :: rest => some (['0'], rest)
  | cs => digitRun Char.isDigit cs

/-! ## Integers -/

/-- An integer within 64 bits with a sign. -/
def bounded (n : Int) : Option Int :=
  if -0x8000000000000000 ≤ n && n < 0x8000000000000000 then some n else none

/-- The value of a hexadecimal digit, zero for any other character. -/
def digitValue (c : Char) : Nat := (hexDigit? c).getD 0

/-- The value of digits to a base. -/
def valueOfDigits (base : Nat) (ds : List Char) : Nat :=
  ds.foldl (fun n c => base * n + digitValue c) 0

/-- Digits to a base other than ten. -/
def radixInteger (base : Nat) (cs : List Char) : Option (Int × List Char) := do
  let isDigit (c : Char) : Bool := (hexDigit? c).any (· < base)
  let (ds, after) ← digitRun isDigit cs
  let n ← bounded (valueOfDigits base ds)
  return (n, after)

/-- An integer. -/
def integer? (cs : List Char) : Option (Int × List Char) :=
  match cs with
  | '0' :: 'x' :: rest => radixInteger 16 rest
  | '0' :: 'o' :: rest => radixInteger 8 rest
  | '0' :: 'b' :: rest => radixInteger 2 rest
  | _ => do
    let (negative, body) := sign cs
    let (ds, after) ← decimalDigits body
    let m : Int := valueOfDigits 10 ds
    let n ← bounded (if negative then -m else m)
    return (n, after)

/-! ## Floats -/

/-- The digits of an exponent with its sign. -/
def exponent? : List Char → Option (Int × List Char)
  | [] => none
  | mark :: rest =>
    if mark == 'e' || mark == 'E' then do
      let (negative, rest) := sign rest
      let (ds, after) ← digitRun Char.isDigit rest
      let e : Int := valueOfDigits 10 ds
      return (if negative then -e else e, after)
    else
      none

/-- The digits after a point. -/
def fraction? : List Char → Option (List Char × List Char)
  | '.' :: rest => digitRun Char.isDigit rest
  | _ => none

/-- A float in digits: it has a fraction, an exponent, or both. -/
def digitFloat? (cs : List Char) : Option (Float × List Char) := do
  let (negative, body) := sign cs
  let (whole, rest) ← decimalDigits body
  let (fraction, rest, mustScale) : List Char × List Char × Bool :=
    match fraction? rest with
    | some (ds, rest) => (ds, rest, false)
    | none => ([], rest, true)
  let (e, rest) ←
    match exponent? rest with
    | some found => some found
    | none => if mustScale then none else some (0, rest)
  let digits := valueOfDigits 10 (whole ++ fraction)
  let x := Number.Decimal.toFloat ⟨negative, digits, e - fraction.length⟩
  if x.isInf && !negative then none else some (x, rest)

/-- A float given by a word. -/
def wordFloat? (cs : List Char) : Option (Float × List Char) :=
  let (negative, body) := sign cs
  match body with
  | 'i' :: 'n' :: 'f' :: rest => some (Number.ofSignAndBits negative Number.infinityBits, rest)
  | 'n' :: 'a' :: 'n' :: rest => some (Number.nan, rest)
  | _ => none

/-! ## Dates and times -/

/-- A number of exactly `count` digits. -/
def fixedNumber (count : Nat) (cs : List Char) : Option (Nat × List Char) :=
  let ds := cs.take count
  if ds.length = count && ds.all Char.isDigit then some (valueOfDigits 10 ds, cs.drop count)
  else none

/-- A number of two digits within bounds. -/
def twoDigits (low high : Nat) (cs : List Char) : Option (Nat × List Char) := do
  let (n, rest) ← fixedNumber 2 cs
  if low ≤ n && n ≤ high then some (n, rest) else none

/-- The text after a character. -/
def expect (c : Char) : List Char → Option (List Char)
  | d :: rest => if c == d then some rest else none
  | [] => none

/-- The number of days of a month. -/
def daysInMonth (year month : Nat) : Nat :=
  if month = 2 then
    if year % 4 = 0 && (year % 100 != 0 || year % 400 = 0) then 29 else 28
  else if month = 4 || month = 6 || month = 9 || month = 11 then 30
  else 31

/-- The text after a date that exists. -/
def afterDate (cs : List Char) : Option (List Char) := do
  let (year, rest) ← fixedNumber 4 cs
  let rest ← expect '-' rest
  let (month, rest) ← twoDigits 1 12 rest
  let rest ← expect '-' rest
  let (_, rest) ← twoDigits 1 (daysInMonth year month) rest
  return rest

/-- The text after a fraction of a second, if there is one. -/
def afterSecondFraction (cs : List Char) : List Char :=
  match cs with
  | '.' :: d :: rest => if d.isDigit then rest.dropWhile Char.isDigit else cs
  | _ => cs

/-- The text after a time of day; a leap second counts. -/
def afterTime (cs : List Char) : Option (List Char) := do
  let (_, rest) ← twoDigits 0 23 cs
  let rest ← expect ':' rest
  let (_, rest) ← twoDigits 0 59 rest
  let rest ← expect ':' rest
  let (_, rest) ← twoDigits 0 60 rest
  return afterSecondFraction rest

/-- The text after an offset from universal time, if there is one. -/
def afterOffset (cs : List Char) : List Char :=
  match cs with
  | 'Z' :: rest | 'z' :: rest => rest
  | '+' :: rest | '-' :: rest =>
    (do
      let (_, rest) ← twoDigits 0 23 rest
      let rest ← expect ':' rest
      let (_, rest) ← twoDigits 0 59 rest
      return rest).getD cs
  | _ => cs

/-- The text after a time that follows a date, if one does. -/
def afterTimeOfDate (cs : List Char) : List Char :=
  match cs with
  | 'T' :: rest | 't' :: rest | ' ' :: rest => ((afterTime rest).map afterOffset).getD cs
  | _ => cs

/-- The text after a date, a time, or both. -/
def afterDateTime (cs : List Char) : Option (List Char) :=
  match afterDate cs with
  | some rest => some (afterTimeOfDate rest)
  | none => afterTime cs

/-! ## Scalars -/

/-- A date, a time or a number. -/
def number? (cs : List Char) : Option (Tree × List Char) :=
  match afterDateTime cs with
  | some rest => some (.datetime, rest)
  | none =>
    match (digitFloat? cs).or (wordFloat? cs) with
    | some (x, rest) => some (.float x, rest)
    | none => (integer? cs).map fun (n, rest) => (.integer n, rest)

/-- A value other than an array or a table. -/
def scalar? (cs : List Char) : Option (Tree × List Char) :=
  match cs with
  | '"' :: _ | '\x27' :: _ => (string? cs).map fun (s, rest) => (.string (String.ofList s), rest)
  | 't' :: 'r' :: 'u' :: 'e' :: rest => some (.boolean true, rest)
  | 'f' :: 'a' :: 'l' :: 's' :: 'e' :: rest => some (.boolean false, rest)
  | _ => number? cs

end TagCalc.Toml
