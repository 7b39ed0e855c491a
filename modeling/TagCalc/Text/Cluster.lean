/-
  TagCalc.Text.Cluster

  Splits a text into extended grapheme clusters, the units that a reader takes
  for one character: a letter with its accents, a Hangul syllable, a flag, an
  emoji sequence, an Indic conjunct. The rules are those of Unicode text
  segmentation.

  Main statements: the clusters of a text join to the text (`flatten_clusters`)
  and none of them is empty (`ne_nil_of_mem_clusters`).
-/

import TagCalc.Text.ClusterTable

namespace TagCalc.Text

/-! ## Classes of characters -/

/-- What a character does at a cluster boundary. -/
inductive ClusterClass where
  | carriageReturn
  | lineFeed
  | control
  | extend
  | joiner
  | regional
  | prepend
  | spacingMark
  | leading
  | vowel
  | trailing
  | openSyllable
  | closedSyllable
  | pictographic
  | other
deriving DecidableEq, Repr

/-- The class of a character. Hangul syllables come in blocks of 28, the first
    of each block without a trailing consonant. -/
def ClusterClass.of (c : Char) : ClusterClass :=
  let n := c.toNat
  if n == 0x0D then .carriageReturn
  else if n == 0x0A then .lineFeed
  else if 0x20 ≤ n && n < 0x7F then .other
  else if ClusterTable.control.containsCode n then .control
  else if n == 0x200D then .joiner
  else if ClusterTable.extend.containsCode n then .extend
  else if 0x1F1E6 ≤ n && n ≤ 0x1F1FF then .regional
  else if ClusterTable.prepend.containsCode n then .prepend
  else if ClusterTable.spacingMark.containsCode n then .spacingMark
  else if ClusterTable.leadingJamo.containsCode n then .leading
  else if ClusterTable.vowelJamo.containsCode n then .vowel
  else if ClusterTable.trailingJamo.containsCode n then .trailing
  else if 0xAC00 ≤ n && n ≤ 0xD7A3 then
    if (n - 0xAC00) % 28 == 0 then .openSyllable else .closedSyllable
  else if ClusterTable.pictographic.containsCode n then .pictographic
  else .other

/-! ## What the text so far allows -/

/-- How far the text so far has come towards an emoji joined to another. -/
inductive EmojiProgress where
  | none
  | started
  | joined
deriving DecidableEq, Repr

/-- How far the text so far has come towards an Indic conjunct. -/
inductive ConjunctProgress where
  | none
  | consonant
  | linked
deriving DecidableEq, Repr

/-- All that the text so far says about a boundary before the next character:
    the class of its last character, whether it ends in an unpaired regional
    indicator, and its progress towards an emoji sequence and a conjunct. -/
structure ClusterContext where
  last : ClusterClass
  unpaired : Bool
  emoji : EmojiProgress
  conjunct : ConjunctProgress
deriving DecidableEq, Repr

namespace ClusterContext

/-- The context after one more character. -/
def advance (ctx : Option ClusterContext) (c : Char) : ClusterContext :=
  let cls := ClusterClass.of c
  let emoji : EmojiProgress := (ctx.map (·.emoji)).getD .none
  let conjunct : ConjunctProgress := (ctx.map (·.conjunct)).getD .none
  { last := cls
    unpaired := cls == .regional && !((ctx.map (·.unpaired)).getD false)
    emoji :=
      if cls == .pictographic then .started
      else if emoji == .started && cls == .extend then .started
      else if emoji == .started && cls == .joiner then .joined
      else .none
    conjunct :=
      if ClusterTable.conjunctConsonant.contains c then .consonant
      else if conjunct == .none then .none
      else if ClusterTable.conjunctLinker.contains c then .linked
      else if ClusterTable.conjunctExtend.contains c then conjunct
      else .none }

/-- Whether the next character belongs to the same cluster as the last one. -/
def joins (ctx : ClusterContext) (c : Char) : Bool :=
  match ctx.last, ClusterClass.of c with
  | .carriageReturn, .lineFeed => true
  | .carriageReturn, _ | .lineFeed, _ | .control, _ => false
  | _, .carriageReturn | _, .lineFeed | _, .control => false
  | .leading, .leading | .leading, .vowel => true
  | .leading, .openSyllable | .leading, .closedSyllable => true
  | .openSyllable, .vowel | .openSyllable, .trailing => true
  | .vowel, .vowel | .vowel, .trailing => true
  | .closedSyllable, .trailing | .trailing, .trailing => true
  | _, .extend | _, .joiner | _, .spacingMark => true
  | .prepend, _ => true
  | .regional, .regional => ctx.unpaired
  | .joiner, .pictographic => ctx.emoji == .joined
  | _, _ => ctx.conjunct == .linked && ClusterTable.conjunctConsonant.contains c

end ClusterContext

/-! ## Splitting -/

/-- What remains of the cluster that is open in a context, and the clusters
    after it. -/
def clustersAfter (ctx : ClusterContext) : List Char → List Char × List (List Char)
  | [] => ([], [])
  | c :: rest =>
    let (tail, more) := clustersAfter (ClusterContext.advance (some ctx) c) rest
    if ctx.joins c then (c :: tail, more) else ([], (c :: tail) :: more)

/-- The clusters of a text, in order. -/
def clusters : List Char → List (List Char)
  | [] => []
  | c :: rest =>
    let (tail, more) := clustersAfter (ClusterContext.advance none c) rest
    (c :: tail) :: more

/-- The text without its last cluster. -/
def dropLastCluster (s : String) : String :=
  String.ofList (clusters s.toList).dropLast.flatten

theorem flatten_clustersAfter (ctx : ClusterContext) (cs : List Char) :
    (clustersAfter ctx cs).1 ++ (clustersAfter ctx cs).2.flatten = cs := by
  induction cs generalizing ctx with
  | nil => rfl
  | cons c rest ih =>
    have h := ih (ClusterContext.advance (some ctx) c)
    unfold clustersAfter
    cases hj : ctx.joins c <;> simp [h]

/-- The clusters of a text join to the text. -/
theorem flatten_clusters (cs : List Char) : (clusters cs).flatten = cs := by
  cases cs with
  | nil => rfl
  | cons c rest => simp [clusters, flatten_clustersAfter]

theorem ne_nil_of_mem_clustersAfter (ctx : ClusterContext) (cs : List Char) :
    ∀ k ∈ (clustersAfter ctx cs).2, k ≠ [] := by
  induction cs generalizing ctx with
  | nil => simp [clustersAfter]
  | cons c rest ih =>
    have h := ih (ClusterContext.advance (some ctx) c)
    unfold clustersAfter
    cases hj : ctx.joins c
    · simpa using h
    · simpa using h

/-- No cluster is empty. -/
theorem ne_nil_of_mem_clusters (cs : List Char) : ∀ k ∈ clusters cs, k ≠ [] := by
  cases cs with
  | nil => simp [clusters]
  | cons c rest =>
    simpa [clusters] using ne_nil_of_mem_clustersAfter (ClusterContext.advance none c) rest

end TagCalc.Text
