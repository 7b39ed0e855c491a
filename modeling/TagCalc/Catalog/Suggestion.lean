/-
  TagCalc.Catalog.Suggestion

  Suggestions: named entries with a category and a value, which a formula refers
  to by tag. A value is a number or a text that is read as a number.
-/

import TagCalc.Text.Blank
import TagCalc.Number.Reading
import TagCalc.Number.Shortest

namespace TagCalc

/-- The value of a suggestion. -/
inductive Value where
  | number (x : Float)
  | text (s : String)

namespace Value

/-- The characters of a plain decimal number: words such as `inf` are not
    numbers in a value. -/
def isPlainChar (c : Char) : Bool :=
  c.isDigit || c == '.' || c == '-' || c == '+' || c == 'e' || c == 'E'

/-- The number that a text stands for: zero for a blank text, not a number for
    one that is no plain decimal. -/
def ofText (cs : List Char) : Float :=
  let cs := Text.trimmed cs
  if cs.isEmpty then 0
  else if cs.all isPlainChar then Number.read cs
  else Number.nan

/-- The number that a value stands for. -/
def toFloat : Value → Float
  | number x => x
  | text s => ofText s.toList

/-- The value as it is shown. -/
def display : Value → String
  | number x => Number.text x
  | text s => s

end Value

/-- An entry of the catalog. Two entries are the same entry when their ids
    agree. -/
structure Suggestion where
  id : String
  name : String
  category : String
  value : Value

namespace Suggestion

/-- The entry with its category, as one text. -/
def label (s : Suggestion) : String :=
  s.name ++ " (" ++ s.category ++ ")"

end Suggestion

end TagCalc
