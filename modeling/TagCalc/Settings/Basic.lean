/-
  TagCalc.Settings.Basic

  Settings of the lookups and of the editor, with their defaults. A file of
  settings only needs what it changes.
-/

import TagCalc.Lookup.Cache
import TagCalc.Lookup.Endpoint

namespace TagCalc

/-- Settings of the lookups. Lifetimes are those of cached answers. -/
structure LookupSettings where
  endpoint : String
  queryParam : Option String
  /-- A file of suggestions to use instead of the endpoint. -/
  suggestionFile : Option String
  timeoutMillis : Nat
  fullListSeconds : Nat
  querySeconds : Nat
deriving DecidableEq, Repr

/-- Settings of the editor. -/
structure EditorSettings where
  /-- The quiet time after an edit before a query is looked up. -/
  debounceMillis : Nat
  /-- The number of rows of the dropdown. -/
  maxRows : Nat
deriving DecidableEq, Repr

/-- All settings. -/
structure Settings where
  lookups : LookupSettings
  editor : EditorSettings
deriving DecidableEq, Repr

/-! ## Defaults -/

/-- The lookup service that is asked unless the settings name another one. -/
def defaultEndpoint : String := "https://652f91320b8d8ddac0b2b62b.mockapi.io/autocomplete"

/-- The full list lives for five minutes and the answer to a query for one. -/
def LookupSettings.default : LookupSettings :=
  ⟨defaultEndpoint, none, none, 10000, 300, 60⟩

/-- Lookups wait for 0.3 seconds, and the dropdown has eight rows. -/
def EditorSettings.default : EditorSettings := ⟨300, 8⟩

/-- The settings without a file. -/
def Settings.default : Settings := ⟨.default, .default⟩

/-! ## What the settings describe -/

namespace LookupSettings

/-- The lifetime of the full list in milliseconds. -/
def fullListMillis (s : LookupSettings) : Nat := 1000 * s.fullListSeconds

/-- The lifetime of the answer to a query in milliseconds. -/
def queryMillis (s : LookupSettings) : Nat := 1000 * s.querySeconds

/-- The cache before the first answer. -/
def cache (s : LookupSettings) : Cache := Cache.empty s.fullListMillis s.queryMillis

/-- The lookup service. -/
def service (s : LookupSettings) : Endpoint := ⟨s.endpoint, s.queryParam, s.timeoutMillis⟩

end LookupSettings

end TagCalc
