/-
  TagCalc.Catalog.Search

  Finding suggestions: the first entry of each id, the entries that match a
  query, and the entry of a name. Case is ignored throughout.
-/

import TagCalc.Catalog.Suggestion
import TagCalc.Text.Lowercase

namespace TagCalc

/-! ## Texts inside texts -/

/-- Whether one text occurs inside another. -/
def occursIn (needle : List Char) : List Char → Bool
  | [] => needle.isEmpty
  | c :: rest => needle.isPrefixOf (c :: rest) || occursIn needle rest

theorem occursIn_iff (needle cs : List Char) : occursIn needle cs = true ↔ needle <:+: cs := by
  induction cs with
  | nil => cases needle <;> simp [occursIn]
  | cons c rest ih => simp [occursIn, ih, List.infix_cons_iff]

namespace Suggestion

/-- Whether the name or the category contains the query, case ignored. -/
def isMatch (query : String) (s : Suggestion) : Bool :=
  let needle := (Text.lowercase query).toList
  occursIn needle (Text.lowercase s.name).toList
    || occursIn needle (Text.lowercase s.category).toList

/-- Whether the names agree, case ignored. -/
def isNamed (name : String) (s : Suggestion) : Bool :=
  Text.lowercase s.name == Text.lowercase name

end Suggestion

/-! ## Catalogs -/

/-- The suggestions that a source holds, in its order. -/
abbrev Catalog := List Suggestion

namespace Catalog

/-- Drops the entries whose id is in a list or was met before. -/
def dropSeen (seen : List String) : Catalog → Catalog
  | [] => []
  | s :: rest =>
    if seen.contains s.id then dropSeen seen rest else s :: dropSeen (s.id :: seen) rest

/-- Only the first entry of each id. -/
def dedup (c : Catalog) : Catalog :=
  dropSeen [] c

/-- The entries that match a query; all of them if the query is empty. -/
def filterBy (query : String) (c : Catalog) : Catalog :=
  if query.isEmpty then c else c.filter (Suggestion.isMatch query)

/-- The first entry of a name, case ignored. -/
def findNamed? (name : String) (c : Catalog) : Option Suggestion :=
  c.find? (Suggestion.isNamed name)

end Catalog

/-! ## Queries -/

/-- Characters that belong to operands and never to a query. -/
def isOperandChar (c : Char) : Bool :=
  c == '+' || c == '*' || c == '-' || c == '/' || c == '^' || c == '(' || c == ')'

/-- The query that an input asks for: its text without operands and without the
    blanks at both ends. -/
def queryOf (input : String) : String :=
  String.ofList (Text.trimmed (input.toList.filter fun c => !isOperandChar c))

end TagCalc
