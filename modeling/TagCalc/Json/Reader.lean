/-
  TagCalc.Json.Reader

  Reads JSON. The grammar is strict: four blank characters, no comments, no
  comma before a closing bracket, no leading zeros, no control characters in
  strings.
-/

import TagCalc.Json.Tree

namespace TagCalc.Json

/-- The blank characters between values. -/
def isBlank (c : Char) : Bool := c == ' ' || c == '\t' || c == '\n' || c == '\r'

/-- The text after leading blanks. -/
def skipBlanks (cs : List Char) : List Char := cs.dropWhile isBlank

/-! ## Strings -/

/-- The value of a hexadecimal digit. -/
def hexDigit? (c : Char) : Option Nat :=
  if c.isDigit then some (c.toNat - '0'.toNat)
  else if 'a' ≤ c && c ≤ 'f' then some (c.toNat - 'a'.toNat + 10)
  else if 'A' ≤ c && c ≤ 'F' then some (c.toNat - 'A'.toNat + 10)
  else none

/-- The value of four hexadecimal digits. -/
def hexCode? (a b c d : Char) : Option Nat := do
  let a ← hexDigit? a
  let b ← hexDigit? b
  let c ← hexDigit? c
  let d ← hexDigit? d
  return ((a * 16 + b) * 16 + c) * 16 + d

/-- The character that a letter after a backslash stands for. -/
def escaped? : Char → Option Char
  | '"' => some '"'
  | '\\' => some '\\'
  | '/' => some '/'
  | 'b' => some '\x08'
  | 'f' => some '\x0C'
  | 'n' => some '\n'
  | 'r' => some '\r'
  | 't' => some '\t'
  | _ => none

/-- A string after its opening quote, and the text after its closing quote. -/
def stringBody : List Char → Option (List Piece × List Char)
  | [] => none
  | '"' :: rest => some ([], rest)
  | '\\' :: 'u' :: a :: b :: c :: d :: rest => do
    let n ← hexCode? a b c d
    let (pieces, after) ← stringBody rest
    return (.code n :: pieces, after)
  | '\\' :: letter :: rest => do
    let c ← escaped? letter
    let (pieces, after) ← stringBody rest
    return (.char c :: pieces, after)
  | c :: rest =>
    if c.toNat < 0x20 || c == '\\' then none
    else do
      let (pieces, after) ← stringBody rest
      return (.char c :: pieces, after)

/-! ## Numbers -/

/-- The digits after a point; none without a point. -/
def fractionPart : List Char → Option (List Char × List Char)
  | '.' :: rest =>
    if (rest.takeWhile Char.isDigit).isEmpty then none
    else some (rest.takeWhile Char.isDigit, rest.dropWhile Char.isDigit)
  | cs => some ([], cs)

/-- The sign and digits of an exponent, if there is one. -/
def exponentPart (cs : List Char) : Option (Option (Bool × List Char) × List Char) :=
  match cs with
  | [] => some (none, [])
  | mark :: rest =>
    if mark == 'e' || mark == 'E' then
      let (negative, rest) := Number.splitSign rest
      if (rest.takeWhile Char.isDigit).isEmpty then none
      else some (some (negative, rest.takeWhile Char.isDigit), rest.dropWhile Char.isDigit)
    else
      some (none, cs)

/-- Digits without a leading zero, zero itself apart. -/
def wholePart (cs : List Char) : Option (List Char × List Char) :=
  match cs.takeWhile Char.isDigit with
  | [] => none
  | '0' :: _ :: _ => none
  | ds => some (ds, cs.dropWhile Char.isDigit)

/-- A number at the start of a text, and the text after it. -/
def numeral (cs : List Char) : Option (Numeral × List Char) := do
  let negative := cs.head? == some '-'
  let (whole, cs) ← wholePart (if negative then cs.drop 1 else cs)
  let (fraction, cs) ← fractionPart cs
  let (exponent, cs) ← exponentPart cs
  return (⟨negative, whole, fraction, exponent⟩, cs)

/-! ## Values -/

mutual

/-- A value at the start of a text, and the text after it. The fuel bounds the
    number of calls. -/
def value (fuel : Nat) (cs : List Char) : Option (Tree × List Char) :=
  match fuel with
  | 0 => none
  | fuel + 1 =>
    match skipBlanks cs with
    | 'n' :: 'u' :: 'l' :: 'l' :: rest => some (.null, rest)
    | 't' :: 'r' :: 'u' :: 'e' :: rest => some (.bool true, rest)
    | 'f' :: 'a' :: 'l' :: 's' :: 'e' :: rest => some (.bool false, rest)
    | '"' :: rest => (stringBody rest).map fun (s, after) => (.string s, after)
    | '[' :: rest =>
      if (skipBlanks rest).head? == some ']' then some (.array [], (skipBlanks rest).drop 1)
      else (items fuel rest).map fun (xs, after) => (.array xs, after)
    | '\x7b' :: rest =>
      if (skipBlanks rest).head? == some '\x7d' then some (.object [], (skipBlanks rest).drop 1)
      else (members fuel rest).map fun (xs, after) => (.object xs, after)
    | rest => (numeral rest).map fun (n, after) => (.number n, after)

/-- One or more values, separated by commas, and a closing bracket. -/
def items (fuel : Nat) (cs : List Char) : Option (List Tree × List Char) :=
  match fuel with
  | 0 => none
  | fuel + 1 => do
    let (x, rest) ← value fuel cs
    match skipBlanks rest with
    | ',' :: rest =>
      let (xs, after) ← items fuel rest
      return (x :: xs, after)
    | ']' :: rest => return ([x], rest)
    | _ => none

/-- One or more members, separated by commas, and a closing brace. -/
def members (fuel : Nat) (cs : List Char) : Option (List (List Piece × Tree) × List Char) :=
  match fuel with
  | 0 => none
  | fuel + 1 =>
    match skipBlanks cs with
    | '"' :: rest => do
      let (name, rest) ← stringBody rest
      match skipBlanks rest with
      | ':' :: rest =>
        let (x, rest) ← value fuel rest
        match skipBlanks rest with
        | ',' :: rest =>
          let (xs, after) ← members fuel rest
          return ((name, x) :: xs, after)
        | '\x7d' :: rest => return ([(name, x)], rest)
        | _ => none
      | _ => none
    | _ => none

end

/-- The value that the whole text denotes. Every two calls take a character, so
    twice the length is fuel enough. -/
def read? (cs : List Char) : Option Tree :=
  match value (2 * cs.length + 2) cs with
  | some (t, rest) => if (skipBlanks rest).isEmpty then some t else none
  | none => none

end TagCalc.Json
