/-
  TagCalc.Editor.Step

  How the editor reacts to events and to the passing of time. Typing starts a
  lookup once the input has been left alone for the debounce time; `tick` starts
  it, keeps the full list fresh and takes in what the lookups found.
-/

import TagCalc.Editor.Event
import TagCalc.Text.Cluster

namespace TagCalc

/-! ## Selections -/

/-- Which way a selection moves. -/
inductive Direction where
  | next
  | previous
deriving DecidableEq, Repr

/-- Moves a selection through `count` entries, from either end to the other.
    Without a selection it starts at the end it comes from. -/
def cycle (current : Option Nat) (direction : Direction) (count : Nat) : Option Nat :=
  if count = 0 then none
  else
    match current, direction with
    | some i, .next => some ((i + 1) % count)
    | some i, .previous => some ((i + (count - 1)) % count)
    | none, .next => some 0
    | none, .previous => some (count - 1)

/-- The first index of a list, if it has one. -/
def firstIndex? {α : Type} (xs : List α) : Option Nat :=
  if xs.isEmpty then none else some 0

namespace Editor

/-! ## Input and lookups -/

/-- Shows the results of the active query. -/
def showResults (e : Editor) (found : Catalog) : Editor :=
  { e with loading := false, highlighted := firstIndex? found, suggestions := found }

/-- Whether an input opens the dropdown: when it could become a tag. -/
def opensDropdown (input : String) : Bool :=
  !(Text.trim input).isEmpty && classify (Text.trim input) == .tag

/-- Reacts to a new input: its query becomes pending, and results of another
    query are no longer waited for. -/
def inputEdited (e : Editor) (now : Nat) : Editor :=
  let query := queryOf e.input
  let e := { e with dropdownShown := opensDropdown e.input }
  if query.isEmpty then
    { e with
      pending := none, active := none, loading := false, suggestions := [], highlighted := none }
  else
    let e := if e.active == some query then e else { e with active := none, loading := false }
    { e with pending := some (query, now + e.debounce) }

/-- Replaces the input. -/
def setInput (e : Editor) (input : String) (now : Nat) : Editor :=
  { e with input := input }.inputEdited now

/-- Types a character at the end of the input. -/
def typeChar (e : Editor) (c : Char) (now : Nat) : Editor :=
  e.setInput (e.input.push c) now

/-- Removes the last cluster of the input. -/
def eraseCluster (e : Editor) (now : Nat) : Editor :=
  if e.input.isEmpty then e else e.setInput (Text.dropLastCluster e.input) now

/-- Empties the input and the dropdown. -/
def resetInput (e : Editor) : Editor :=
  { e with
    input := "", dropdownShown := false, suggestions := [], highlighted := none
    active := none, pending := none, loading := false }

/-- Looks a query up: its results are shown when they are at hand and waited for
    otherwise. -/
def startLookup (e : Editor) (query : String) (now : Nat) : Editor :=
  let (service, answer) := e.service.request query now
  let e := { e with service := service, active := some query }
  match answer with
  | .ready found => e.showResults found
  | .pending => { e with loading := true }

/-- Starts the pending lookup if its time has come. -/
def fireDue (e : Editor) (now : Nat) : Editor :=
  match e.pending with
  | none => e
  | some (query, due) =>
    if due ≤ now then { e with pending := none }.startLookup query now else e

/-- Asks for the full list unless it is fresh or under way. -/
def refreshCatalog (e : Editor) (now : Nat) : Editor :=
  if (e.service.cached? fullList now).isNone && !e.service.isInFlight fullList then
    { e with service := (e.service.request fullList now).1 }
  else
    e

/-- Takes in a finished fetch; only results of the active query are shown. -/
def receive (e : Editor) (f : Fetched) : Editor :=
  if e.active == some f.query then e.showResults f.suggestions else e

/-- Takes in all finished fetches. -/
def collect (e : Editor) (now : Nat) : Editor :=
  let (service, fetched) := e.service.poll now
  fetched.foldl receive { e with service := service }

/-- Lets time pass. -/
def tick (e : Editor) (now : Nat) : Editor :=
  ((e.fireDue now).refreshCatalog now).collect now

/-! ## Appending tokens -/

/-- Whether a key commits a text of some kind. Space commits operands only, since
    tags may contain blanks. -/
def commits (k : EditKey) (kind : Kind) : Bool :=
  k == .enter || (k == .space && kind == .operand)

/-- Appends the typed text and empties the input, if the key commits it and the
    formula accepts it. -/
def commit? (e : Editor) (k : EditKey) : Option Editor :=
  let value := Text.trim e.input
  let kind := classify value
  if commits k kind && e.store.accepts kind then
    let suggestion := if kind = .tag then e.catalog.findNamed? value else none
    some { e with store := e.store.append value kind suggestion }.resetInput
  else
    none

/-- Appends a tag that stands for a suggestion and empties the input, if the
    formula accepts a tag. -/
def pick (e : Editor) (s : Suggestion) : Editor :=
  if e.store.accepts .tag then
    { e with store := e.store.append s.name .tag (some s) }.resetInput
  else
    e

/-- The suggestion under the highlight, while the dropdown is shown. -/
def highlightedSuggestion? (e : Editor) : Option Suggestion :=
  if e.dropdownShown then e.highlighted.bind (e.suggestions[·]?) else none

/-- Removes the last token. -/
def removeLast (e : Editor) : Editor :=
  match e.store.last? with
  | some t => { e with store := e.store.remove t.id }
  | none => e

/-- Reacts to a key whose effect depends on the input. On a blank input,
    Backspace removes the last token. -/
def handleKey (e : Editor) (k : EditKey) (now : Nat) : Editor :=
  if (Text.trim e.input).isEmpty then
    match k with
    | .backspace => e.removeLast.eraseCluster now
    | .space => e.typeChar ' ' now
    | .enter => e
  else
    match k with
    | .backspace => e.eraseCluster now
    | .enter => (e.commit? .enter).getD e
    | .space => (e.commit? .space).getD (e.typeChar ' ' now)

/-! ## Resolving tags again -/

/-- Moves the highlight of the dropdown. -/
def moveHighlight (e : Editor) (direction : Direction) : Editor :=
  { e with highlighted := cycle e.highlighted direction e.suggestions.length }

/-- Gives a tag another name, and the first suggestion of exactly that name. -/
def retag (e : Editor) (tokenId : Nat) (name : String) : Editor :=
  if name.isEmpty then e
  else
    match e.store.get? tokenId with
    | some t =>
      if t.kind = .tag then
        { e with store := e.store.update tokenId name (e.catalog.find? (·.name == name)) }
      else
        e
    | none => e

/-- The ids of the tags, in order. -/
def tagIds (e : Editor) : List Nat :=
  (e.store.tokens.filter (·.kind == .tag)).map (·.id)

/-- The candidate that a tag starts from: the first suggestion of its name, or
    the first of all. -/
def candidateFor (e : Editor) (tokenId : Nat) : Option Nat :=
  let named := (e.store.get? tokenId).bind fun t => e.catalog.findIdx? (·.name == t.value)
  named.or (firstIndex? e.catalog)

/-- Starts resolving a tag again. -/
def focus (e : Editor) (tokenId : Nat) : Editor :=
  { e with mode := .reselecting, reselection := some ⟨tokenId, e.candidateFor tokenId⟩ }

/-- Stops resolving tags. -/
def endReselect (e : Editor) : Editor :=
  { e with
    reselection := none
    mode := if e.mode = .reselecting then .editing else e.mode }

/-- Starts resolving the last tag again. -/
def beginReselect (e : Editor) : Editor :=
  match e.tagIds.getLast? with
  | some id => { e with dropdownShown := false }.focus id
  | none => e

/-- The index on one side of another, if there is one. -/
def neighbour? (i : Nat) : Direction → Option Nat
  | .next => some (i + 1)
  | .previous => if i = 0 then none else some (i - 1)

/-- Moves on to the tag on one side, if there is one. When the tag being resolved
    is gone, resolving ends. -/
def moveFocus (e : Editor) (direction : Direction) : Editor :=
  match e.reselection with
  | none => e
  | some r =>
    match e.tagIds.findIdx? (· == r.tokenId) with
    | none => e.endReselect
    | some i =>
      match (neighbour? i direction).bind (e.tagIds[·]?) with
      | some id => e.focus id
      | none => e

/-- Moves between the candidates. -/
def moveCandidate (e : Editor) (direction : Direction) : Editor :=
  { e with
    reselection := e.reselection.map fun r =>
      { r with candidate := cycle r.candidate direction e.catalog.length } }

/-- The tag being resolved and the name of the candidate chosen for it. -/
def chosen? (e : Editor) : Option (Nat × String) := do
  let r ← e.reselection
  let i ← r.candidate
  let s ← e.catalog[i]?
  return (r.tokenId, s.name)

/-- Gives the tag the name of the candidate chosen, and stops resolving. -/
def applyCandidate (e : Editor) : Editor :=
  match e.chosen? with
  | some (id, name) => (e.retag id name).endReselect
  | none => e.endReselect

/-! ## Events -/

/-- Reacts to an event. -/
def handle (e : Editor) (event : Event) (now : Nat) : Editor :=
  match event with
  | .inputChanged text => e.setInput text now
  | .typeChar c => e.typeChar c now
  | .key k => e.handleKey k now
  | .picked s => e.pick s
  | .pickHighlighted =>
    match e.highlightedSuggestion? with
    | some s => e.pick s
    | none => e
  | .highlightNext => e.moveHighlight .next
  | .highlightPrevious => e.moveHighlight .previous
  | .reselect id name => e.retag id name
  | .beginReselect => e.beginReselect
  | .focusNextTag => e.moveFocus .next
  | .focusPreviousTag => e.moveFocus .previous
  | .candidateNext => e.moveCandidate .next
  | .candidatePrevious => e.moveCandidate .previous
  | .applyCandidate => e.applyCandidate
  | .cancel =>
    if e.mode = .reselecting then e.endReselect else { e with dropdownShown := false }
  | .clear =>
    let e := e.endReselect
    { e with store := e.store.clear }
  | .quit => { e with mode := .quit }

/-- A new editor, which asks for the full list first. -/
def new (service : Service) (debounce now : Nat) : Editor :=
  let service := ((service.request fullList now).1.poll now).1
  { mode := .editing, store := .empty, service := service, debounce := debounce
    input := "", dropdownShown := false, suggestions := [], highlighted := none
    active := none, pending := none, loading := false, reselection := none }

/-- Lets the oldest waiting fetch finish. -/
def release (e : Editor) : Editor := { e with service := e.service.release }

end Editor

end TagCalc
