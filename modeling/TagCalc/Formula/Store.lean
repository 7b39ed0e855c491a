/-
  TagCalc.Formula.Store

  A formula under construction. Tokens are appended, removed by id and updated
  in place; ids are never given twice, and the revision counts the changes.

  The store does not check that values and operands alternate: `Kind.canFollow`
  says when a token may be appended, and callers ask it first.
-/

import TagCalc.Formula.Token

namespace TagCalc

/-- Whether a token of one kind may come after another, or first. Values and
    operands alternate, and a value comes first. -/
def Kind.canFollow (candidate : Kind) (last : Option Kind) : Bool :=
  match last with
  | none => candidate.isValue
  | some k => candidate.isValue != k.isValue

/-- The tokens of a formula in order, the number of ids given so far, and the
    number of changes made. -/
structure Store where
  tokens : List Token
  issued : Nat
  revision : Nat

namespace Store

/-- The empty formula. -/
def empty : Store := ⟨[], 0, 0⟩

/-- The last token. -/
def last? (s : Store) : Option Token := s.tokens.getLast?

/-- The token of an id. -/
def get? (s : Store) (id : Nat) : Option Token :=
  s.tokens.find? (·.id == id)

/-- Whether a token of this kind may be appended. -/
def accepts (s : Store) (kind : Kind) : Bool :=
  kind.canFollow (s.last?.map (·.kind))

/-- The id of the next token. -/
def freshId (s : Store) : Nat := s.issued + 1

/-- The suggestion that a token of this kind may carry. -/
def carried (kind : Kind) (suggestion : Option Suggestion) : Option Suggestion :=
  if kind = .tag then suggestion else none

/-- Appends a token with a fresh id. -/
def append (s : Store) (value : String) (kind : Kind) (suggestion : Option Suggestion) : Store :=
  { tokens := s.tokens ++ [⟨s.freshId, value, kind, carried kind suggestion⟩]
    issued := s.freshId
    revision := s.revision + 1 }

/-- Removes the token of an id. -/
def remove (s : Store) (id : Nat) : Store :=
  let rest := s.tokens.filter (·.id != id)
  if rest.length = s.tokens.length then s
  else { s with tokens := rest, revision := s.revision + 1 }

/-- The token with another value and suggestion. -/
def retag (value : String) (suggestion : Option Suggestion) (t : Token) : Token :=
  { t with value := value, suggestion := carried t.kind suggestion }

/-- Changes the first token that satisfies a test. -/
def updateFirst (p : Token → Bool) (f : Token → Token) : List Token → List Token
  | [] => []
  | t :: rest => if p t then f t :: rest else t :: updateFirst p f rest

/-- Gives the token of an id another value and suggestion; its place, kind and
    id stay. -/
def update (s : Store) (id : Nat) (value : String) (suggestion : Option Suggestion) : Store :=
  if (s.get? id).isNone then s
  else
    { s with
      tokens := updateFirst (·.id == id) (retag value suggestion) s.tokens
      revision := s.revision + 1 }

/-- Removes all tokens. -/
def clear (s : Store) : Store :=
  if s.tokens.isEmpty then s else { s with tokens := [], revision := s.revision + 1 }

end Store

end TagCalc
