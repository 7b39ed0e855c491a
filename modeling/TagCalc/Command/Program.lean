/-
  TagCalc.Command.Program

  What a run of the program does: it reads the command line, finds the settings,
  opens the log, finds the suggestions, and evaluates a formula or starts the
  editor. The first failure on that way ends the run.
-/

import TagCalc.Command.Help
import TagCalc.Settings.File
import TagCalc.Lookup.File
import TagCalc.Formula.Build
import TagCalc.Formula.Evaluation
import TagCalc.Editor.Step

namespace TagCalc.Command

/-! ## Surroundings -/

/-- The files around a run: the content of those that exist, and the paths at
    which a file can be created. -/
structure Files where
  content : String → Option ByteArray
  canCreate : String → Bool

/-- A log that has just been opened: it is text, and no JSON. -/
def logStart : String := "INFO start"

/-- The files after a log was opened. What a file at its path held is lost. -/
def Files.withLog (files : Files) (path : String) : Files where
  content := fun p => if p = path then some logStart.toUTF8 else files.content p
  canCreate := files.canCreate

/-! ## Failures -/

/-- Why a run fails. -/
inductive Failure where
  | settings (e : SettingsError)
  | log
  | lookup (e : LookupError)
  | build (e : BuildError)
deriving DecidableEq, Repr

/-- What the program says about a failure when it ends. -/
def Failure.report : Failure → String
  | settings .unreadable => "the config file is missing or not text"
  | settings .malformed => "the config file is not valid"
  | log => "the log file cannot be created"
  | lookup .request => "the request for suggestions failed"
  | lookup (.status code) => "lookup service returned status " ++ toString code
  | lookup .undecodable => "the suggestions are not valid"
  | lookup .unreadable => "the file of suggestions is missing or not text"
  | build e => e.report

/-! ## Steps -/

/-- The settings of a request: those of its file, or the defaults, and then the
    values of options. -/
def Request.settings (r : Request) (files : Files) : Except SettingsError Settings := do
  let s ←
    match r.values.config with
    | some path => Settings.ofFile (files.content path)
    | none => .ok .default
  return { s with lookups := { s.lookups with
    endpoint := r.values.endpoint.getD s.lookups.endpoint
    suggestionFile := r.values.suggestions.or s.lookups.suggestionFile } }

/-- The source of suggestions that the settings name. -/
def source (s : Settings) (files : Files) (network : Network) : Except LookupError Source :=
  match s.lookups.suggestionFile with
  | some path => Source.ofFile (files.content path)
  | none => .ok (s.lookups.service.source network)

/-- The full list of a source. It is fetched at once and empty if that fails. -/
def fullList (s : Settings) (src : Source) : Catalog :=
  let service := Service.new src s.lookups.cache .inline
  let service := ((service.request Editor.fullList 0).1.poll 0).1
  (service.lastKnown? Editor.fullList).getD []

/-- Evaluates the formula of some tokens. -/
def evaluateTokens (s : Settings) (files : Files) (network : Network) (tokens : List String) :
    Except Failure String := do
  let src ← (source s files network).mapError .lookup
  let store ← (Store.build tokens (fullList s src)).mapError .build
  return resultText (evaluate store.tokens)

/-- The editor at the start of a session. -/
def startEditor (s : Settings) (files : Files) (network : Network) : Except Failure Editor := do
  let src ← (source s files network).mapError .lookup
  return Editor.new (Service.new src s.lookups.cache .worker) s.editor.debounceMillis 0

/-- Opens the log, if the request names one. -/
def Request.openLog (r : Request) (files : Files) : Except Failure Files :=
  match r.values.logFile with
  | none => .ok files
  | some path => if files.canCreate path then .ok (files.withLog path) else .error .log

/-! ## Runs -/

/-- What a run comes to. -/
inductive Outcome where
  /-- The text is printed. -/
  | printed (text : String)
  /-- A session starts, with a dropdown of at most that many rows. -/
  | session (editor : Editor) (maxRows : Nat)
  | misused (m : Misuse)
  | failed (f : Failure)

namespace Outcome

/-- The status with which the program ends. -/
def status : Outcome → Nat
  | printed _ | session .. => 0
  | failed _ => 1
  | misused _ => 2

/-- What the program prints. -/
def output : Outcome → String
  | printed text => text
  | _ => ""

/-- What the program prints as its complaint. -/
def complaint : Outcome → String
  | misused m => "error: " ++ m.message ++ "\n\nUsage: " ++ Topic.program.usage
  | failed f => "Error: " ++ f.report
  | _ => ""

end Outcome

/-- Carries out a request. -/
def Request.run (r : Request) (files : Files) (network : Network) : Except Failure Outcome := do
  let s ← (r.settings files).mapError .settings
  let files ← r.openLog files
  match r.action.getD .edit with
  | .edit => return .session (← startEditor s files network) s.editor.maxRows
  | .eval tokens => return .printed ((← evaluateTokens s files network tokens) ++ "\n")

/-- Runs the program with some arguments. -/
def run (args : List String) (files : Files) (network : Network) : Outcome :=
  match read args with
  | .error (.help topic) => .printed topic.text
  | .error .version => .printed versionText
  | .error (.misuse m) => .misused m
  | .ok r =>
    match r.run files network with
    | .ok outcome => outcome
    | .error f => .failed f

end TagCalc.Command
