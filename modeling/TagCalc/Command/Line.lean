/-
  TagCalc.Command.Line

  Reads the command line: options, then a command, then more options and what
  the command applies to. Without a command the editor is started.

  The last option before some argument may still wait for its value or for the
  check of its value; it is settled when the next option begins, when the tokens
  begin, or at the end. Which of two mistakes is reported depends on that order.
-/

import TagCalc.Command.Option

namespace TagCalc.Command

/-! ## What a command line says -/

/-- The commands. -/
inductive Action where
  /-- Edit a formula. -/
  | edit
  /-- Evaluate the formula of some tokens. -/
  | eval (tokens : List String)
deriving DecidableEq, Repr

/-- A command line that was understood. -/
structure Request where
  values : Values
  action : Option Action
deriving DecidableEq, Repr

/-- What help is about. -/
inductive Topic where
  | program
  | edit
  | eval
  | help
deriving DecidableEq, Repr

/-- Mistakes on a command line. -/
inductive Misuse where
  /-- There is nothing to evaluate. -/
  | missingTokens
  /-- An option without its value, or with an empty path. -/
  | missingValue
  /-- A value for a flag that takes none. -/
  | unneededValue
  /-- An option twice, both before the command or both after it. -/
  | repeatedOption
  | unknownArgument
  | unknownCommand
deriving DecidableEq, Repr

/-- Why a command line asks for nothing that could be run. -/
inductive Stop where
  | help (topic : Topic)
  | version
  | misuse (m : Misuse)
deriving DecidableEq, Repr

/-! ## Levels -/

/-- The part of a command line: before the command, or after one. -/
inductive Level where
  | program
  | edit
  | eval
deriving DecidableEq, Repr

namespace Level

/-- What help is about when it is asked for at a level. -/
def topic : Level → Topic
  | program => .program
  | edit => .edit
  | eval => .eval

/-- Whether an unknown option is a token instead of a mistake. -/
def takesTokens (l : Level) : Bool := l = eval

/-- Whether a letter is known at a level. -/
def knowsLetter (l : Level) (c : Char) : Bool :=
  c == 'h' || (c == 'V' && l = program) || (Flag.ofLetter? c).isSome

end Level

/-- The command of a word. -/
def command? : String → Option Topic
  | "edit" => some .edit
  | "eval" => some .eval
  | "help" => some .help
  | _ => none

/-! ## Single arguments -/

/-- What an argument means at a level. -/
inductive Meaning where
  /-- The options end here. -/
  | escape
  /-- The value of the option comes with the next argument. -/
  | begins (flag : Flag)
  | assigns (flag : Flag) (value : String)
  | shows (s : Stop)
  | wrong (m : Misuse)
  /-- Not an option. -/
  | operand
deriving DecidableEq, Repr

/-- A flag that shows something and takes no value. -/
def shows (s : Stop) (value : Option String) : Meaning :=
  if value.isSome then .wrong .unneededValue else .shows s

/-- The meaning of a name after two hyphens. -/
def longMeaning (l : Level) (name : String) (value : Option String) : Meaning :=
  match Flag.ofName? name with
  | some flag => (value.map (.assigns flag)).getD (.begins flag)
  | none =>
    if name = "help" then shows (.help l.topic) value
    else if name = "version" && l = .program then shows .version value
    else if l.takesTokens then .operand
    else .wrong .unknownArgument

/-- The value that follows the letter of an option at once, perhaps after an
    equals sign. -/
def attachedValue? : List Char → Option String
  | [] => none
  | '=' :: cs => some (String.ofList cs)
  | cs => some (String.ofList cs)

/-- The meaning of letters after one hyphen. Where tokens may stand, letters of
    which one is unknown are a token. -/
def shortMeaning (l : Level) (first : Char) (rest : List Char) : Meaning :=
  if l.takesTokens && !(first :: rest).all l.knowsLetter then .operand
  else
    match Flag.ofLetter? first with
    | some flag => ((attachedValue? rest).map (.assigns flag)).getD (.begins flag)
    | none =>
      if first = 'h' then .shows (.help l.topic)
      else if first = 'V' && l = .program then .shows .version
      else .wrong .unknownArgument

/-- The meaning of an argument at a level. -/
def meaning (l : Level) (arg : String) : Meaning :=
  match Form.ofArgument arg with
  | .escape => .escape
  | .long name value => longMeaning l name value
  | .short first rest => shortMeaning l first rest
  | .plain => .operand

/-! ## The options of a level -/

/-- The options of a level so far. The last option is not settled; its value is
    `none` while it waits for one. -/
structure Progress where
  values : Values
  unsettled : Option (Flag × Option String)
deriving DecidableEq, Repr

namespace Progress

/-- No option is given. -/
def start : Progress := ⟨.none, none⟩

/-- The option that waits for its value. -/
def waiting? (p : Progress) : Option Flag :=
  match p.unsettled with
  | some (flag, none) => some flag
  | _ => none

/-- Checks the value of an option and keeps it. -/
def assign (p : Progress) (flag : Flag) (value : String) : Except Misuse Progress :=
  if (p.values.get? flag).isSome then .error .repeatedOption
  else if flag.allows value then .ok { p with values := p.values.set flag value }
  else .error .missingValue

/-- Settles the last option. -/
def settle (p : Progress) : Except Misuse Progress :=
  match p.unsettled with
  | none => .ok p
  | some (_, none) => .error .missingValue
  | some (flag, some value) => { p with unsettled := none }.assign flag value

/-- The values of a level whose arguments have ended. -/
def finish (p : Progress) : Except Misuse Values := p.settle.map (·.values)

end Progress

/-- Where the options of a level end. -/
inductive Ending where
  /-- At a command; the arguments after it are left. -/
  | command (topic : Topic) (rest : List String)
  /-- At the first argument of `args`, which is not an option, at two hyphens
      before `args`, or at the end. -/
  | operands (escaped : Bool) (args : List String)
deriving DecidableEq, Repr

/-- The command that an argument gives. A command is expected before the command
    only, and not where an option waits for its value. -/
def commandAt? (l : Level) (p : Progress) (arg : String) : Option Topic :=
  if l = .program && p.waiting?.isNone then command? arg else none

/-- Takes an outcome of settled options into the reading of a command line. -/
def orMisuse {α : Type} : Except Misuse α → Except Stop α
  | .ok a => .ok a
  | .error m => .error (.misuse m)

/-- Reads the options of a level. -/
def readOptions (l : Level) (p : Progress) : List String → Except Stop (Progress × Ending)
  | [] => .ok (p, .operands false [])
  | arg :: rest =>
    match commandAt? l p arg with
    | some topic => .ok (p, .command topic rest)
    | none =>
      match meaning l arg with
      | .escape => .ok (p, .operands true rest)
      | .begins flag => do
        let p ← orMisuse p.settle
        readOptions l { p with unsettled := some (flag, none) } rest
      | .assigns flag value => do
        let p ← orMisuse p.settle
        let p ← orMisuse (p.assign flag value)
        readOptions l p rest
      | .shows s => do
        let _ ← orMisuse p.settle
        .error s
      | .wrong m => .error (.misuse m)
      | .operand =>
        match p.waiting? with
        | some flag => readOptions l { p with unsettled := some (flag, some arg) } rest
        | none => .ok (p, .operands false (arg :: rest))

/-! ## Whole command lines -/

/-- What is left where the options of a level end. -/
def Ending.arguments : Ending → List String
  | .command _ rest => rest
  | .operands _ args => args

/-- Reads the arguments after `edit`. -/
def readEdit (args : List String) : Except Stop (Values × Action) := do
  let (p, ending) ← readOptions .edit .start args
  if ending.arguments.isEmpty then
    let values ← orMisuse p.finish
    return (values, .edit)
  else
    .error (.misuse .unknownArgument)

/-- Reads the arguments after `eval`. From the first token on, every argument is
    a token. -/
def readEval (args : List String) : Except Stop (Values × Action) := do
  let (p, ending) ← readOptions .eval .start args
  let values ← orMisuse p.finish
  if ending.arguments.isEmpty then .error (.misuse .missingTokens)
  else return (values, .eval ending.arguments)

/-- Reads the arguments after `help`. -/
def readHelp : List String → Stop
  | [] => .help .program
  | [word] => ((command? word).map .help).getD (.misuse .unknownCommand)
  | _ => .misuse .unknownCommand

/-- Takes the options before the command into what was read after it. Mistakes
    after the command come first. -/
def withOuter (p : Progress) (inner : Except Stop (Values × Action)) : Except Stop Request := do
  let (values, action) ← inner
  let outer ← orMisuse p.finish
  return ⟨values.orElse outer, some action⟩

/-- Reads a command line. -/
def read (args : List String) : Except Stop Request := do
  let (p, ending) ← readOptions .program .start args
  match ending with
  | .command .edit rest => withOuter p (readEdit rest)
  | .command .eval rest => withOuter p (readEval rest)
  | .command _ rest => .error (readHelp rest)
  | .operands _ [] =>
    let values ← orMisuse p.finish
    return ⟨values, none⟩
  | .operands escaped (arg :: _) =>
    if escaped && (command? arg).isSome then .error (.misuse .unknownArgument)
    else .error (.misuse .unknownCommand)

end TagCalc.Command
