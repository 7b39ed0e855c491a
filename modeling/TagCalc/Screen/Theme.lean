/-
  TagCalc.Screen.Theme

  The colours of the editor.
-/

import TagCalc.Screen.Style

namespace TagCalc.Screen

/-- The colours by their use. -/
structure Theme where
  background : Rgb
  text : Rgb
  tag : Rgb
  unresolvedTag : Rgb
  operand : Rgb
  focus : Rgb
  invalid : Rgb
  dimmed : Rgb
deriving DecidableEq, Repr

/-- Muted colours on a dark ground. -/
def Theme.midnight : Theme where
  background := ⟨26, 27, 38⟩
  text := ⟨169, 177, 214⟩
  tag := ⟨122, 162, 247⟩
  unresolvedTag := ⟨224, 175, 104⟩
  operand := ⟨187, 154, 247⟩
  focus := ⟨158, 206, 106⟩
  invalid := ⟨247, 118, 142⟩
  dimmed := ⟨100, 110, 150⟩

/-- The theme in use. -/
def Theme.current : Theme := .midnight

end TagCalc.Screen
