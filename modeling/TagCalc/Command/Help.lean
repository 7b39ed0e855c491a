/-
  TagCalc.Command.Help

  The texts that the program shows about itself. A help text is a list of
  sections, separated by blank lines; a section of entries has two columns, of
  which the second starts two blanks after the longest entry of the first.
-/

import TagCalc.Command.Line

namespace TagCalc.Command

/-! ## Columns -/

/-- An entry of a help text and what it says about it. -/
abbrev Entry := String × String

/-- A text followed by blanks up to a width. -/
def padRight (width : Nat) (s : String) : String :=
  s ++ String.ofList (List.replicate (width - s.length) ' ')

/-- The width of the first column. -/
def columnWidth (entries : List Entry) : Nat :=
  entries.foldl (fun width e => max width e.1.length) 0

/-- A section of entries under a title. -/
def entrySection (title : String) (entries : List Entry) : String :=
  let width := columnWidth entries
  "\n".intercalate (title :: entries.map fun e => "  " ++ padRight width e.1 ++ "  " ++ e.2)

/-! ## Entries -/

/-- What an option is for. -/
def Flag.about : Flag → String
  | config => "TOML configuration file"
  | endpoint => "Suggestion endpoint (overrides the config file)"
  | suggestions => "Read suggestions from a JSON file instead of the endpoint"
  | logFile => "Write debug logs to this file"

/-- The name under which help speaks of the value of an option: that of the
    option in capitals, with underscores. -/
def Flag.valueName (flag : Flag) : String :=
  flag.name.toUpper.map fun c => if c = '-' then '_' else c

/-- An option in the first column: its letter, if it has one, and its name. -/
def flagColumn (letter : Option Char) (name : String) : String :=
  match letter with
  | some c => "-" ++ c.toString ++ ", --" ++ name
  | none => "    --" ++ name

/-- The entry of an option. -/
def Flag.entry (flag : Flag) : Entry :=
  (flagColumn flag.letter? flag.name ++ " <" ++ flag.valueName ++ ">", flag.about)

/-- The entry of the flag for help. -/
def helpEntry : Entry := (flagColumn (some 'h') "help", "Print help")

/-- The entry of the flag for the version. -/
def versionEntry : Entry := (flagColumn (some 'V') "version", "Print version")

/-! ## Texts -/

/-- The name of the program. -/
def programName : String := "tagformula"

/-- What a help text starts with. -/
def Topic.about : Topic → String
  | program => "Compose and evaluate tag formulas"
  | edit => "Interactive formula editor (default)"
  | eval => "Evaluate tokens given as arguments, e.g. \x60eval -- rent - 150\x60"
  | help => "Print this message or the help of the given subcommand(s)"

/-- The form of the command line. -/
def Topic.usage : Topic → String
  | program => programName ++ " [OPTIONS] [COMMAND]"
  | edit => programName ++ " edit [OPTIONS]"
  | eval => programName ++ " eval [OPTIONS] <TOKENS>..."
  | help => programName ++ " help [COMMAND]..."

/-- The sections of a help text after its usage. -/
def Topic.sections : Topic → List String
  | program =>
    [entrySection "Commands:" [("edit", edit.about), ("eval", eval.about), ("help", help.about)],
      entrySection "Options:" (Flag.all.map Flag.entry ++ [helpEntry, versionEntry])]
  | edit => [entrySection "Options:" (Flag.all.map Flag.entry ++ [helpEntry])]
  | eval =>
    [entrySection "Arguments:" [("<TOKENS>...", "")],
      entrySection "Options:" (Flag.all.map Flag.entry ++ [helpEntry])]
  | help => [entrySection "Arguments:" [("[COMMAND]...", "Print help for the subcommand(s)")]]

/-- A help text. -/
def Topic.text (topic : Topic) : String :=
  "\n\n".intercalate (topic.about :: ("Usage: " ++ topic.usage) :: topic.sections) ++ "\n"

/-- A mistake on the command line in words. -/
def Misuse.message : Misuse → String
  | missingTokens => "the following required arguments were not provided: <TOKENS>..."
  | missingValue => "a value is required"
  | unneededValue => "unexpected value"
  | repeatedOption => "an argument cannot be used multiple times"
  | unknownArgument => "unexpected argument"
  | unknownCommand => "unrecognized subcommand"

/-- The version of the program. -/
def versionText : String := programName ++ " 0.1.0\n"

end TagCalc.Command
