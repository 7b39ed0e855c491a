/-
  TagCalc.Main

  The program. It reads the files that its arguments name and leaves the rest to
  `TagCalc.Command.run`. It sends no requests: to it, the network is down.

  A session of the editor needs a terminal that hands over single key strokes,
  and there is none here: a run that would start one ends with status 1.
-/

import TagCalc.Command.Program

namespace TagCalc.Command

/-- The content of a file, if it can be read. -/
def readFile? (path : Option String) : IO (Option ByteArray) := do
  match path with
  | none => return none
  | some path => try return some (← IO.FS.readBinFile path) catch _ => return none

/-- Makes an empty file, and says whether that worked. -/
def createFile (path : Option String) : IO Bool := do
  match path with
  | none => return false
  | some path =>
    try
      IO.FS.writeFile path ""
      return true
    catch _ => return false

/-- The files that a request needs. The log is opened after the settings were
    found and before the suggestions are read. -/
def filesOf (r : Request) : IO Files := do
  let config ← readFile? r.values.config
  let files : Files := ⟨fun path => if r.values.config = some path then config else none, fun _ => false⟩
  match r.settings files with
  | .error _ => return files
  | .ok s =>
    let created ← createFile r.values.logFile
    let suggestions ← readFile? s.lookups.suggestionFile
    return {
      content := fun path =>
        if r.values.config = some path then config
        else if s.lookups.suggestionFile = some path then suggestions
        else none
      canCreate := fun path => created && r.values.logFile = some path }

/-- The files that some arguments name. -/
def filesOfArguments (args : List String) : IO Files := do
  match read args with
  | .ok r => filesOf r
  | .error _ => return ⟨fun _ => none, fun _ => false⟩

/-- Prints what a run comes to, and gives the status. -/
def Outcome.print (outcome : Outcome) : IO UInt32 := do
  match outcome with
  | .session .. =>
    IO.eprintln "Error: there is no terminal"
    return 1
  | _ =>
    IO.print outcome.output
    if outcome.status != 0 then IO.eprintln outcome.complaint
    return outcome.status.toUInt32

end TagCalc.Command

/-- Runs the program. -/
def main (args : List String) : IO UInt32 := do
  let files ← TagCalc.Command.filesOfArguments args
  (TagCalc.Command.run args files .down).print
