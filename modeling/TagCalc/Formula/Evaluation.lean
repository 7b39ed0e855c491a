/-
  TagCalc.Formula.Evaluation

  The value of a formula. Tokens are read from left to right, without precedence
  and without regard to brackets: the last operator met is applied to the result
  so far and to each value that follows, until another operator replaces it.
-/

import TagCalc.Formula.Literal

namespace TagCalc

/-- The number that a token stands for: the value of its suggestion or zero for
    a tag, the literal's value for a number, nothing for an operand. -/
def Token.number? (t : Token) : Option Float :=
  match t.kind with
  | .tag => some ((t.suggestion.map (·.value.toFloat)).getD 0)
  | .number => some (literalValue t.value)
  | .operand => none

/-- Raises a number to a power. Any number to the power zero is one, and one to
    any power is one, also where the other number is not a number; in all other
    cases a power of or by what is not a number is not a number. -/
def power (x y : Float) : Float :=
  if y == 0 then 1
  else if x == 1 then 1
  else if x.isNaN || y.isNaN then Number.nan
  else Float.pow x y

/-- Applies an operator to the result so far and a value. Dividing by a literal
    zero leaves the result as it is; a tag that is zero does divide by zero. -/
def Operator.apply (o : Operator) (result value : Float) (kind : Kind) : Float :=
  match o with
  | .add => result + value
  | .sub => result - value
  | .mul => result * value
  | .div => result / (if kind == .number && value == 0 then 1 else value)
  | .pow => power result value
  | .opening | .closing => result

/-- The result so far and the operator that applies to the next value. -/
structure Reduction where
  result : Float
  pending : Option Operator

namespace Reduction

/-- Reads an operator; brackets change nothing. -/
def latch (r : Reduction) (o : Operator) : Reduction :=
  if o.isGrouping then r else { r with pending := some o }

/-- Reads the first token of a formula: a value is the result so far. -/
def first (t : Token) : Reduction :=
  match t.operator?, t.number? with
  | some o, _ => latch ⟨0, none⟩ o
  | none, some x => ⟨x, none⟩
  | none, none => ⟨0, none⟩

/-- Reads a later token: a value is ignored as long as no operator is known. -/
def step (r : Reduction) (t : Token) : Reduction :=
  match t.operator?, t.number?, r.pending with
  | some o, _, _ => r.latch o
  | none, some x, some o => { r with result := o.apply r.result x t.kind }
  | none, _, _ => r

end Reduction

/-- The value of a formula; zero for the empty one. -/
def evaluate : List Token → Float
  | [] => 0
  | t :: rest => (rest.foldl Reduction.step (.first t)).result

/-- What is shown for a result that is not a finite number. -/
def invalidResult : String := "Invalid"

/-- The text of a result. Both zeros are shown as `0`. -/
def resultText (x : Float) : String :=
  if !x.isFinite then invalidResult
  else if x == 0 then "0"
  else Number.text x

end TagCalc
