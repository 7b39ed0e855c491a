/-
  TagCalc.Formula.Literal

  Number literals: decimals such as `-1.5` and `.5`, and fractions such as
  `1/2`. Only ASCII digits are digits, and only a minus sign may come first.

  `classify` sorts a typed text into the kinds of tokens. Every text has a kind:
  what is neither an operand nor a number literal is a tag.
-/

import TagCalc.Formula.Token

namespace TagCalc

/-- The text after an optional minus sign. -/
def dropMinus : List Char → List Char
  | '-' :: rest => rest
  | cs => cs

/-- Whether a text is one or more digits. -/
def isDigits (cs : List Char) : Bool :=
  !cs.isEmpty && cs.all Char.isDigit

/-- A decimal literal: an optional minus sign, digits, and an optional point
    with digits after it; before the point there may be no digit. -/
def isDecimalLiteral (cs : List Char) : Bool :=
  let body := dropMinus cs
  match body.dropWhile Char.isDigit with
  | [] => !body.isEmpty
  | '.' :: fraction => isDigits fraction
  | _ => false

/-- A fraction literal: an optional minus sign, digits, a slash, and digits. -/
def isFractionLiteral (cs : List Char) : Bool :=
  let body := dropMinus cs
  match body.dropWhile Char.isDigit with
  | '/' :: denominator => !(body.takeWhile Char.isDigit).isEmpty && isDigits denominator
  | _ => false

/-- A number literal: a decimal or a fraction. -/
def isNumberLiteral (cs : List Char) : Bool :=
  isDecimalLiteral cs || isFractionLiteral cs

/-- The number that a literal denotes; a fraction is the quotient of its two
    sides. Other texts are read as decimals, and denote not a number when that
    fails. -/
def literalValue (s : String) : Float :=
  let cs := Text.trimmed s.toList
  if isFractionLiteral cs then
    Number.read (cs.takeWhile (· != '/')) / Number.read ((cs.dropWhile (· != '/')).drop 1)
  else
    Number.read cs

/-- The kind of a typed text, blanks at both ends aside. -/
def classify (s : String) : Kind :=
  let text := Text.trim s
  if (Operator.ofSymbol? text).isSome then .operand
  else if isNumberLiteral text.toList then .number
  else .tag

end TagCalc
