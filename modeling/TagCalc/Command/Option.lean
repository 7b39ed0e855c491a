/-
  TagCalc.Command.Option

  The options of the command line, the values given for them, and the forms that
  arguments have.

  Every option takes a value: `--name value`, `--name=value`, and for an option
  with a letter also `-l value`, `-lvalue` and `-l=value`.
-/

namespace TagCalc.Command

/-! ## Options -/

/-- The options. Each can be given before the command and after it. -/
inductive Flag where
  | config
  | endpoint
  | suggestions
  | logFile
deriving DecidableEq, Repr

namespace Flag

/-- All options, in the order in which the help lists them. -/
def all : List Flag := [config, endpoint, suggestions, logFile]

/-- The name of an option. -/
def name : Flag → String
  | config => "config"
  | endpoint => "endpoint"
  | suggestions => "suggestions"
  | logFile => "log-file"

/-- The letter of an option. -/
def letter? : Flag → Option Char
  | config => some 'c'
  | _ => none

/-- The option of a name. -/
def ofName? (name : String) : Option Flag := all.find? (·.name == name)

/-- The option of a letter. -/
def ofLetter? (letter : Char) : Option Flag := all.find? (·.letter? == some letter)

/-- Whether a text may be the value of an option. A path may not be empty. -/
def allows : Flag → String → Bool
  | endpoint, _ => true
  | _, value => !value.isEmpty

end Flag

/-! ## Values of options -/

/-- The values given for the options. -/
structure Values where
  config : Option String
  endpoint : Option String
  suggestions : Option String
  logFile : Option String
deriving DecidableEq, Repr

namespace Values

/-- No option is given. -/
def none : Values := ⟨.none, .none, .none, .none⟩

/-- The value of an option. -/
def get? (v : Values) : Flag → Option String
  | .config => v.config
  | .endpoint => v.endpoint
  | .suggestions => v.suggestions
  | .logFile => v.logFile

/-- Gives an option a value. -/
def set (v : Values) (flag : Flag) (value : String) : Values :=
  match flag with
  | .config => { v with config := some value }
  | .endpoint => { v with endpoint := some value }
  | .suggestions => { v with suggestions := some value }
  | .logFile => { v with logFile := some value }

/-- The values given after the command, and where there is none the values given
    before it. -/
def orElse (inner outer : Values) : Values where
  config := inner.config.or outer.config
  endpoint := inner.endpoint.or outer.endpoint
  suggestions := inner.suggestions.or outer.suggestions
  logFile := inner.logFile.or outer.logFile

@[simp] theorem get?_none (flag : Flag) : none.get? flag = .none := by
  cases flag <;> rfl

@[simp] theorem get?_set (v : Values) (flag : Flag) (value : String) :
    (v.set flag value).get? flag = some value := by
  cases flag <;> rfl

theorem get?_set_of_ne (v : Values) {flag other : Flag} (h : flag ≠ other) (value : String) :
    (v.set flag value).get? other = v.get? other := by
  cases flag <;> cases other <;> simp_all [set, get?]

@[simp] theorem get?_orElse (inner outer : Values) (flag : Flag) :
    (inner.orElse outer).get? flag = (inner.get? flag).or (outer.get? flag) := by
  cases flag <;> rfl

@[simp] theorem orElse_none (v : Values) : v.orElse none = v := by
  rw [orElse, none, Option.or_none, Option.or_none, Option.or_none, Option.or_none]

end Values

/-! ## Forms of arguments -/

/-- The form of an argument. -/
inductive Form where
  /-- Two hyphens, which end the options. -/
  | escape
  /-- A name after two hyphens, perhaps with a value after an equals sign. -/
  | long (name : String) (value : Option String)
  /-- Letters after one hyphen. -/
  | short (first : Char) (rest : List Char)
  /-- Anything else; a hyphen alone is plain too. -/
  | plain
deriving DecidableEq, Repr

/-- The text after the first equals sign. -/
def valuePart? (cs : List Char) : Option String :=
  match cs.dropWhile (· != '=') with
  | [] => none
  | _ :: value => some (String.ofList value)

/-- The form of an argument in characters. -/
def Form.ofChars : List Char → Form
  | ['-', '-'] => .escape
  | '-' :: '-' :: cs => .long (String.ofList (cs.takeWhile (· != '='))) (valuePart? cs)
  | '-' :: c :: cs => .short c cs
  | _ => .plain

/-- The form of an argument. -/
def Form.ofArgument (arg : String) : Form := .ofChars arg.toList

/-- What does not start with a hyphen is plain. -/
theorem Form.ofChars_eq_plain {cs : List Char} (h : cs.head? ≠ some '-') :
    Form.ofChars cs = .plain := by
  cases cs with
  | nil => rfl
  | cons c rest =>
    have hc : c ≠ '-' := by simpa using h
    unfold Form.ofChars
    split <;> simp_all

end TagCalc.Command
