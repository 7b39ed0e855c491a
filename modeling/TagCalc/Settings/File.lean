/-
  TagCalc.Settings.File

  Reads settings from a TOML file. The file has a section for the lookups and
  one for the editor; unknown keys are ignored, and a missing key keeps its
  default.

  A section can be a table, or an array that gives the values in their order.
-/

import TagCalc.Settings.Basic
import TagCalc.Toml.Reader

namespace TagCalc

/-- Why a file gives no settings. -/
inductive SettingsError where
  /-- The file is missing or not text. -/
  | unreadable
  /-- The file is not TOML, or a value has the wrong type. -/
  | malformed
deriving DecidableEq, Repr

namespace Toml.Tree

/-- A string. -/
def text? : Tree → Option String
  | .string s => some s
  | _ => none

/-- An integer that is not negative. -/
def count? : Tree → Option Nat
  | .integer n => if 0 ≤ n then some n.toNat else none
  | _ => none

/-- Whether a value can be a section. A date can, but it gives no values. -/
def isSection : Tree → Bool
  | .table .. | .array _ | .tables _ | .datetime => true
  | _ => false

/-- A value of a section, by its name in a table and by its position in an
    array. -/
def entry? (t : Tree) (position : Nat) (name : String) : Option Tree :=
  match t with
  | .table _ entries => Entries.value? entries name
  | .array items => items[position]?
  | .tables list => list[position]?.map (.table .header)
  | _ => none

/-- A value of a section, or its default where the section has none. -/
def entryOr {α : Type} (t : Tree) (position : Nat) (name : String) (read : Tree → Option α)
    (default : α) : Option α :=
  match t.entry? position name with
  | none => some default
  | some value => read value

end Toml.Tree

open Toml (Tree Entries)

/-- The settings of the lookups in a section. -/
def LookupSettings.ofSection? (t : Tree) : Option LookupSettings :=
  if t.isSection then do
    let endpoint ← t.entryOr 0 "endpoint" Tree.text? default.endpoint
    let queryParam ← t.entryOr 1 "query_param" (Tree.text? · |>.map some) default.queryParam
    let suggestionFile ← t.entryOr 2 "fixture" (Tree.text? · |>.map some) default.suggestionFile
    let timeout ← t.entryOr 3 "request_timeout_ms" Tree.count? default.timeoutMillis
    let fullList ← t.entryOr 4 "full_list_ttl_secs" Tree.count? default.fullListSeconds
    let query ← t.entryOr 5 "query_ttl_secs" Tree.count? default.querySeconds
    return ⟨endpoint, queryParam, suggestionFile, timeout, fullList, query⟩
  else
    none

/-- The settings of the editor in a section. -/
def EditorSettings.ofSection? (t : Tree) : Option EditorSettings :=
  if t.isSection then do
    let debounce ← t.entryOr 0 "debounce_ms" Tree.count? default.debounceMillis
    let rows ← t.entryOr 1 "max_visible_suggestions" Tree.count? default.maxRows
    return ⟨debounce, rows⟩
  else
    none

namespace Settings

/-- The settings in a document. -/
def ofEntries? (entries : Entries) : Option Settings := do
  let document := Tree.table .header entries
  let lookups ← document.entryOr 0 "suggest" LookupSettings.ofSection? .default
  let editor ← document.entryOr 1 "editor" EditorSettings.ofSection? .default
  return ⟨lookups, editor⟩

/-- The settings in a text. -/
def ofText? (text : String) : Option Settings :=
  (Toml.read? text.toList).bind ofEntries?

/-- The settings in a file, whose text is UTF-8; `none` stands for a file that
    does not exist. -/
def ofFile (content : Option ByteArray) : Except SettingsError Settings :=
  match content.bind String.fromUTF8? with
  | none => .error .unreadable
  | some text =>
    match ofText? text with
    | none => .error .malformed
    | some s => .ok s

end Settings

end TagCalc
