/-
  TagCalc.Formula.Token

  The elements of a formula: tags, number literals and operands.
-/

import TagCalc.Catalog.Suggestion

namespace TagCalc

/-- What an element of a formula is. -/
inductive Kind where
  | tag
  | operand
  | number
deriving DecidableEq, Repr

namespace Kind

/-- Tags and numbers stand for a value. -/
def isValue : Kind → Bool
  | tag | number => true
  | operand => false

/-- The name of a kind, as reports give it. -/
def name : Kind → String
  | tag => "Tag"
  | operand => "Operand"
  | number => "Number"

end Kind

/-- The operations and brackets that an operand can stand for. -/
inductive Operator where
  | add
  | sub
  | mul
  | div
  | pow
  | opening
  | closing
deriving DecidableEq, Repr

namespace Operator

/-- All operators. -/
def all : List Operator := [add, sub, mul, div, pow, opening, closing]

/-- The symbol of an operator. -/
def symbol : Operator → String
  | add => "+"
  | sub => "-"
  | mul => "*"
  | div => "/"
  | pow => "^"
  | opening => "("
  | closing => ")"

/-- The operator of a symbol. -/
def ofSymbol? (s : String) : Option Operator :=
  all.find? (·.symbol == s)

/-- Brackets are part of a formula but are not evaluated. -/
def isGrouping : Operator → Bool
  | opening | closing => true
  | _ => false

@[simp] theorem ofSymbol?_symbol (o : Operator) : ofSymbol? o.symbol = some o := by
  cases o <;> decide

theorem symbol_of_ofSymbol? {s : String} {o : Operator} (h : ofSymbol? s = some o) :
    o.symbol = s := by
  simpa using List.find?_some h

end Operator

/-- One element of a formula. Its value is the symbol of an operand, a number
    literal as it was typed, or the name of a tag; a tag that is resolved
    carries a suggestion. -/
structure Token where
  id : Nat
  value : String
  kind : Kind
  suggestion : Option Suggestion

namespace Token

/-- The operator that a token stands for; only operands have one. -/
def operator? (t : Token) : Option Operator :=
  match t.kind with
  | .operand => Operator.ofSymbol? t.value
  | _ => none

end Token

end TagCalc
