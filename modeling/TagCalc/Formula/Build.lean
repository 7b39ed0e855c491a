/-
  TagCalc.Formula.Build

  Builds a formula from a list of texts, one token each. Unlike the editor,
  which ignores a text that may not come next, this reports the first one.
-/

import TagCalc.Formula.Store
import TagCalc.Formula.Literal
import TagCalc.Catalog.Search
import TagCalc.Text.Quoted

namespace TagCalc

/-- Why a list of texts is no formula. Positions count from zero. -/
inductive BuildError where
  | emptyToken (position : Nat)
  | rejected (position : Nat) (text : String) (kind : Kind)
deriving DecidableEq, Repr

namespace BuildError

/-- The failure in words. -/
def message : BuildError → String
  | emptyToken position => "empty token at position " ++ toString position
  | rejected position text kind =>
    kind.name ++ " \x60" ++ text ++ "\x60 cannot follow the previous token (position "
      ++ toString position ++ ")"

/-- The failure as a record, as the program reports it when it ends. -/
def report : BuildError → String
  | emptyToken position => "EmptyToken(" ++ toString position ++ ")"
  | rejected position text kind =>
    "Rejected \x7b position: " ++ toString position ++ ", text: " ++ Text.quoted text
      ++ ", kind: " ++ kind.name ++ " \x7d"

end BuildError

namespace Store

/-- Appends the token of a text, which comes at some position. Tags are resolved
    by name. -/
def appendText (s : Store) (catalog : Catalog) (position : Nat) (raw : String) :
    Except BuildError Store :=
  let text := Text.trim raw
  let kind := classify text
  if text.isEmpty then .error (.emptyToken position)
  else if s.accepts kind then
    .ok (s.append text kind (if kind = .tag then catalog.findNamed? text else none))
  else .error (.rejected position text kind)

/-- Appends the tokens of texts, the first of which comes at some position. -/
def appendTexts (s : Store) (catalog : Catalog) (position : Nat) :
    List String → Except BuildError Store
  | [] => .ok s
  | raw :: rest => do
    let s ← s.appendText catalog position raw
    s.appendTexts catalog (position + 1) rest

/-- The formula of a list of texts. -/
def build (texts : List String) (catalog : Catalog) : Except BuildError Store :=
  empty.appendTexts catalog 0 texts

end Store

end TagCalc
