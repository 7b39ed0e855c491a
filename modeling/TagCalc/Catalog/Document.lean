/-
  TagCalc.Catalog.Document

  Catalogs as JSON documents: an array of suggestions, each an object with the
  members `id`, `name`, `category` and `value` in any order, or an array of the
  four in this order. Other members are passed over, whatever they hold.
-/

import TagCalc.Catalog.Search
import TagCalc.Json.Reader

namespace TagCalc

open Json (Tree Piece)

namespace Value

/-- A value is a number or a string. -/
def ofJson? : Tree → Option Value
  | .number n => n.toFloat?.map .number
  | .string s => (Json.text? s).map .text
  | _ => none

end Value

namespace Suggestion

/-- The text of a string value. -/
def textOfJson? : Tree → Option String
  | .string s => Json.text? s
  | _ => none

/-- The members of an object by their names; none if a name is no text. -/
def namedMembers? (members : List (List Piece × Tree)) : Option (List (String × Tree)) :=
  members.mapM fun (name, t) => (Json.text? name).map (·, t)

/-- The one member of a name; none if there is none or more than one. -/
def member? (members : List (String × Tree)) (name : String) : Option Tree :=
  match members.filter (·.1 == name) with
  | [(_, t)] => some t
  | _ => none

/-- A suggestion from its four fields. -/
def ofFields? (id name category value : Tree) : Option Suggestion := do
  let id ← textOfJson? id
  let name ← textOfJson? name
  let category ← textOfJson? category
  let value ← Value.ofJson? value
  return ⟨id, name, category, value⟩

/-- A suggestion from its object or its array. -/
def ofJson? : Tree → Option Suggestion
  | .object members => do
    let members ← namedMembers? members
    ofFields? (← member? members "id") (← member? members "name")
      (← member? members "category") (← member? members "value")
  | .array [id, name, category, value] => ofFields? id name category value
  | _ => none

end Suggestion

namespace Catalog

/-- A catalog from its array. -/
def ofJson? : Tree → Option Catalog
  | .array items => items.mapM Suggestion.ofJson?
  | _ => none

/-- The catalog that a text denotes. -/
def ofText? (text : String) : Option Catalog :=
  (Json.read? text.toList).bind ofJson?

end Catalog

end TagCalc
