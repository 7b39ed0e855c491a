/-
  TagCalc.Text.Width

  The number of terminal columns that a text takes. The text is read from its
  end to its start, because what a character adds depends on what follows it: a
  variation selector, a joiner, the second letter of a ligature.
-/

import TagCalc.Text.WidthTable

namespace TagCalc.Text

/-! ## What follows a character -/

/-- What the characters after a position can do to the one before them. -/
inductive Follower where
  | plain
  | lineFeed
  -- emoji
  | emoji
  | skinTone
  | regional
  | regionals
  | joinedEmoji
  | joinedKeycap
  | joinedRegional
  | joinedEvenRegionals
  | joinedOddRegionals
  | joinedTag (letters digits : Nat)
  -- letters that form one sign with the letter before them
  | alef
  | lamed
  | ya
  | signBeforeYa
  | tifinagh
  | tifinaghJoined
  | lisuTone
  | orkhonI
  | coengLetter
  | kiratE
  | kiratAi
deriving DecidableEq, Repr

/-- Whether a variation selector in between leaves the sign intact. -/
def Follower.isLigature : Follower → Bool
  | .alef | .lamed | .ya | .signBeforeYa | .tifinagh | .tifinaghJoined
  | .lisuTone | .orkhonI | .coengLetter => true
  | _ => false

/-- Whether a variation selector before it still starts a joined emoji. -/
def Follower.isJoined : Follower → Bool
  | .joinedEmoji | .joinedKeycap => true
  | _ => false

/-- A variation selector that waits for the character before it. -/
inductive Selector where
  | none
  | text
  | emoji
deriving DecidableEq, Repr

/-- All that the text after a position says about the width of the character
    before it. -/
structure WidthContext where
  follower : Follower
  joiner : Bool
  selector : Selector
deriving DecidableEq, Repr

namespace WidthContext

/-- The context at the end of a text, and after any character without an effect
    on the one before it. -/
def plain : WidthContext := ⟨.plain, false, .none⟩

/-- The context before a character that has an effect by itself. -/
def of (f : Follower) : WidthContext := ⟨f, false, .none⟩

/-- The context before the selector of an emoji form. -/
def selectEmoji (ctx : WidthContext) : WidthContext :=
  if ctx.follower.isLigature || ctx.follower.isJoined then
    { ctx with selector := .emoji }
  else
    { plain with selector := .emoji }

/-- The context before the selector of a text form. -/
def selectText (ctx : WidthContext) : WidthContext :=
  if ctx.follower.isLigature then { ctx with selector := .text }
  else { plain with selector := .text }

/-- The context when the selector in it turns out to have no effect. -/
def ignoreSelector (ctx : WidthContext) : WidthContext :=
  if ctx.follower.isLigature then { ctx with selector := .none } else plain

end WidthContext

/-! ## Width of a character by itself -/

/-- Columns of a character after `U+00A0`. The sign `U+17D8` stands for a whole
    word. -/
def columns (c : Char) : Int :=
  if WidthTable.zeroWidth.contains c then 0
  else if WidthTable.doubleWidth.contains c then 2
  else if c.toNat = 0x17D8 then 3
  else 1

/-- The effect of a character on the one before it. -/
def Follower.ofChar (c : Char) : Follower :=
  let n := c.toNat
  if n = 0x5DC then .lamed
  else if WidthTable.alef.containsCode n then .alef
  else if WidthTable.coengLetter.containsCode n then .coengLetter
  else if n = 0x1A10 then .ya
  else if WidthTable.tifinaghConsonant.containsCode n then .tifinagh
  else if n = 0xA4FC || n = 0xA4FD then .lisuTone
  else if n = 0x10C03 then .orkhonI
  else if n = 0x16D67 then .kiratE
  else if n = 0x16D68 then .kiratAi
  else if 0x1F1E6 ≤ n && n ≤ 0x1F1FF then .regional
  else if 0x1F3FB ≤ n && n ≤ 0x1F3FF then .skinTone
  else if WidthTable.emojiPresentation.containsCode n then .emoji
  else .plain

/-- Width and context of a character that nothing after it changes. -/
def alone (c : Char) : Int × WidthContext :=
  if c.toNat = 0xFE0E then (0, WidthContext.plain.selectText)
  else if c.toNat = 0xFE0F then (0, WidthContext.plain.selectEmoji)
  else (columns c, .of (.ofChar c))

/-! ## Width of a character in context -/

/-- Whether an Arabic lam and alef join across the character. -/
def joinsLamAlef (c : Char) : Bool :=
  columns c == 0 && !WidthTable.joinBreaking.contains c

/-- What a character adds when it forms one sign with the text after it, if it
    does so. -/
def combined (c : Char) (ctx : WidthContext) : Option (Int × WidthContext) :=
  let n := c.toNat
  let isRegional := 0x1F1E6 ≤ n && n ≤ 0x1F1FF
  let isTagLetter := 0xE0061 ≤ n && n ≤ 0xE007A
  let isTagDigit := 0xE0030 ≤ n && n ≤ 0xE0039
  match ctx.follower with
  | .alef =>
    if WidthTable.lam.contains c then some (0, .plain)
    else if joinsLamAlef c then some (0, .of .alef)
    else none
  | .lamed => if ctx.joiner && n = 0x5D0 then some (0, .plain) else none
  | .coengLetter => if n = 0x17D2 then some (-1, .plain) else none
  | .ya => if ctx.joiner && n = 0x1A17 then some (0, .of .signBeforeYa) else none
  | .signBeforeYa => if n = 0x1A15 then some (0, .plain) else none
  | .tifinagh =>
    if n = 0x2D7F then some (1, .of .tifinaghJoined)
    else if ctx.joiner && WidthTable.tifinaghConsonant.contains c then some (0, .plain)
    else none
  | .tifinaghJoined =>
    if WidthTable.tifinaghConsonant.contains c then some (-1, .plain) else none
  | .lisuTone => if 0xA4F8 ≤ n && n ≤ 0xA4FB then some (0, .plain) else none
  | .orkhonI => if ctx.joiner && n = 0x10C32 then some (0, .plain) else none
  | .kiratE =>
    if n = 0x16D63 || n = 0x16D69 then some (0, .plain)
    else if n = 0x16D67 then some (0, .of .kiratAi)
    else if n = 0x16D68 then some (1, .plain)
    else none
  | .kiratAi => if n = 0x16D63 then some (0, .plain) else none
  | .skinTone =>
    if WidthTable.modifierBase.contains c then some (0, .of .emoji)
    else if n = 0x200D then some (0, .of .joinedEmoji)
    else none
  | .regional => if isRegional then some (1, .of .regionals) else none
  | .regionals =>
    if isRegional then some (1, .of .regionals)
    else if n = 0x200D then some (0, .of .joinedEmoji)
    else none
  | .emoji => if n = 0x200D then some (0, .of .joinedEmoji) else none
  | .joinedEmoji =>
    if n = 0x20E3 then some (0, .of .joinedKeycap)
    else if isRegional then some (1, .of .joinedRegional)
    else if 0x1F3FB ≤ n && n ≤ 0x1F3FF then some (0, .of .skinTone)
    else if n = 0xE007F then some (0, .of (.joinedTag 0 0))
    else if Follower.ofChar c = .emoji then some (0, .of .emoji)
    else none
  | .joinedRegional => if isRegional then some (-1, .of .joinedEvenRegionals) else none
  | .joinedOddRegionals =>
    if isRegional then some (-1, .of .joinedEvenRegionals)
    else if n = 0x200D then some (0, .of .joinedEmoji)
    else none
  | .joinedEvenRegionals =>
    if isRegional then some (3, .of .joinedOddRegionals)
    else if n = 0x200D then some (0, .of .joinedEmoji)
    else none
  | .joinedTag letters digits =>
    if isTagLetter && digits = 0 && letters < 6 then some (0, .of (.joinedTag (letters + 1) 0))
    else if isTagDigit && digits < 3 then some (0, .of (.joinedTag letters (digits + 1)))
    else if n = 0x1F3F4 && (digits = 3 || (digits = 0 && 3 ≤ letters)) then some (0, .of .emoji)
    else none
  | .plain | .lineFeed | .joinedKeycap => none

/-- What a character after `U+00A0` adds, and the context before it. -/
def widthStepWide (c : Char) (ctx : WidthContext) : Int × WidthContext :=
  let n := c.toNat
  if ctx = .plain then alone c
  else if n = 0xFE0F then (0, ctx.selectEmoji)
  else if n = 0xFE0E then (0, ctx.selectText)
  else if ctx.selector = .text && WidthTable.textVariation.contains c then (1, .plain)
  else
    let ctx := if ctx.selector = .text then ctx.ignoreSelector else ctx
    if ctx.follower.isLigature && ctx.follower != .alef && n = 0x200D then
      (0, { ctx with joiner := true })
    else if ctx.follower.isLigature && ctx.follower != .alef
        && WidthTable.ligatureTransparent.contains c then
      (0, ctx)
    else
      (combined c ctx).getD (alone c)

/-- What a character adds to the width of the text after it, and the context
    before it. A line feed takes no column, and neither does a carriage return
    before it; every other control character takes one. -/
def widthStep (c : Char) (ctx : WidthContext) : Int × WidthContext :=
  if ctx.selector = .emoji && WidthTable.emojiVariation.contains c then
    (if ctx.follower.isJoined then 0 else 2, .of .emoji)
  else
    let ctx := if ctx.selector = .emoji then ctx.ignoreSelector else ctx
    if c.toNat ≤ 0xA0 then
      if c = '\n' then (0, .of .lineFeed)
      else if c = '\r' && ctx.follower = .lineFeed then (0, .plain)
      else (1, .plain)
    else
      widthStepWide c ctx

/-- Width and context of a text, read from its end. -/
def widthAndContext (cs : List Char) : Int × WidthContext :=
  cs.foldr (fun c (total, ctx) =>
    let (added, ctx) := widthStep c ctx
    (total + added, ctx)) (0, .plain)

/-- The number of columns that a text takes. -/
def width (s : String) : Nat :=
  (widthAndContext s.toList).1.toNat

/-- Among characters that come before the wide ones, and are no line feeds, each takes
    one column. -/
theorem widthAndContext_of_narrow {cs : List Char} (h : ∀ c ∈ cs, c.toNat ≤ 0xA0 ∧ c ≠ '\n') :
    widthAndContext cs = ((cs.length : Int), WidthContext.plain) := by
  induction cs with
  | nil => rfl
  | cons c rest ih =>
    obtain ⟨hnarrow, hfeed⟩ := h c (List.mem_cons_self ..)
    -- nothing is pending in a plain context, so the character counts by itself
    have hstep : widthStep c .plain = (1, .plain) := by
      simp [widthStep, WidthContext.plain, hnarrow, hfeed]
    have hrest := ih fun d hd => h d (List.mem_cons_of_mem _ hd)
    rw [widthAndContext] at hrest ⊢
    rw [List.foldr_cons, hrest]
    dsimp only
    rw [hstep, List.length_cons, Int.natCast_succ]

theorem width_of_narrow {s : String} (h : ∀ c ∈ s.toList, c.toNat ≤ 0xA0 ∧ c ≠ '\n') :
    width s = s.toList.length := by
  rw [width, widthAndContext_of_narrow h, Int.toNat_natCast]

end TagCalc.Text
