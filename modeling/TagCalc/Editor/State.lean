/-
  TagCalc.Editor.State

  The state of the editor, and the part of it that is drawn.
-/

import TagCalc.Formula.Store
import TagCalc.Formula.Evaluation
import TagCalc.Lookup.Service

namespace TagCalc

/-- What the keys act on. -/
inductive Mode where
  | editing
  | reselecting
  | quit
deriving DecidableEq, Repr

/-- A tag that is being resolved again, and the candidate chosen for it. -/
structure Reselection where
  tokenId : Nat
  candidate : Option Nat
deriving DecidableEq, Repr

/-- The state of the editor.

    `active` is the query whose results may be shown; results of any other query
    are stale. `pending` is the query that is looked up once its time has come. -/
structure Editor where
  mode : Mode
  store : Store
  service : Service
  debounce : Nat
  input : String
  dropdownShown : Bool
  suggestions : Catalog
  highlighted : Option Nat
  active : Option String
  pending : Option (String × Nat)
  loading : Bool
  reselection : Option Reselection

/-- The candidates for the tag that is being resolved again. -/
structure ReselectView where
  tokenId : Nat
  candidates : Catalog
  selected : Option Nat

/-- All that is drawn. -/
structure Snapshot where
  mode : Mode
  tokens : List Token
  input : String
  suggestions : Catalog
  dropdownShown : Bool
  loading : Bool
  highlighted : Option Nat
  result : String
  reselect : Option ReselectView

/-- Whether a token is the one that is being resolved again. -/
def Snapshot.isFocused (v : Snapshot) (id : Nat) : Bool :=
  (v.reselect.map (·.tokenId)) == some id

namespace Editor

/-- The query of the full list. -/
def fullList : String := ""

/-- The last full list, by which tags are resolved. -/
def catalog (e : Editor) : Catalog :=
  (e.service.lastKnown? fullList).getD []

/-- The value of the formula. -/
def result (e : Editor) : Float := evaluate e.store.tokens

/-- The part of the state that is drawn. -/
def snapshot (e : Editor) : Snapshot where
  mode := e.mode
  tokens := e.store.tokens
  input := e.input
  suggestions := e.suggestions
  dropdownShown := e.dropdownShown
  loading := e.loading
  highlighted := e.highlighted
  result := resultText e.result
  reselect := e.reselection.map fun r => ⟨r.tokenId, e.catalog, r.candidate⟩

end Editor

end TagCalc
