/-
  TagCalc.Editor.Event

  What can happen to the editor, and the key bindings.

  While editing, characters type into the input, Space, Enter and Backspace
  commit or edit it, Up and Down move the highlight of the dropdown, Tab picks
  the highlighted suggestion, Left starts resolving tags again and Esc hides the
  dropdown. While resolving, Left and Right move between tags, Up and Down
  between candidates, Enter applies the candidate and Esc goes back. With Ctrl,
  C and Q quit and L clears the formula.
-/

import TagCalc.Editor.State

namespace TagCalc

/-- The keys whose effect depends on the input. -/
inductive EditKey where
  | enter
  | space
  | backspace
deriving DecidableEq, Repr

/-- What can happen to the editor, the passing of time aside. -/
inductive Event where
  | inputChanged (text : String)
  | typeChar (c : Char)
  | key (k : EditKey)
  | picked (s : Suggestion)
  | pickHighlighted
  | highlightNext
  | highlightPrevious
  | reselect (tokenId : Nat) (name : String)
  | beginReselect
  | focusNextTag
  | focusPreviousTag
  | candidateNext
  | candidatePrevious
  | applyCandidate
  | cancel
  | clear
  | quit

/-- A key of the keyboard. Keys that no mode reads go by their name. -/
inductive KeyCode where
  | enter
  | backspace
  | delete
  | tab
  | backTab
  | escape
  | left
  | right
  | up
  | down
  | home
  | function (n : Nat)
  | char (c : Char)
  | other (name : String)
deriving DecidableEq, Repr

/-- Whether a key goes down, is held, or goes up. -/
inductive KeyPhase where
  | press
  | hold
  | release
deriving DecidableEq, Repr

/-- A key together with the modifier keys held. -/
structure KeyStroke where
  code : KeyCode
  control : Bool
  shift : Bool
  alt : Bool
  phase : KeyPhase
deriving DecidableEq, Repr

namespace KeyCode

/-- What a key does together with Ctrl. -/
def controlEvent? : KeyCode → Option Event
  | char 'c' | char 'q' => some .quit
  | char 'l' => some .clear
  | _ => none

/-- What a key does while editing. -/
def editingEvent? : KeyCode → Option Event
  | enter => some (.key .enter)
  | backspace => some (.key .backspace)
  | char c => some (if c = ' ' then .key .space else .typeChar c)
  | down => some .highlightNext
  | up => some .highlightPrevious
  | tab => some .pickHighlighted
  | left => some .beginReselect
  | escape => some .cancel
  | _ => none

/-- What a key does while a tag is being resolved again. -/
def reselectingEvent? : KeyCode → Option Event
  | left => some .focusPreviousTag
  | right => some .focusNextTag
  | down => some .candidateNext
  | up => some .candidatePrevious
  | enter => some .applyCandidate
  | escape => some .cancel
  | _ => none

end KeyCode

/-- What a key stroke does in a mode. Only a key that goes down does anything,
    and Shift and Alt make no difference. -/
def KeyStroke.event? (k : KeyStroke) (mode : Mode) : Option Event :=
  if k.phase != .press then none
  else if k.control then k.code.controlEvent?
  else
    match mode with
    | .editing => k.code.editingEvent?
    | .reselecting => k.code.reselectingEvent?
    | .quit => none

end TagCalc
