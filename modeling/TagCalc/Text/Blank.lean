/-
  TagCalc.Text.Blank

  Blank characters, and text with the blanks at both ends removed. A character
  is blank when it has the property `White_Space`; the zero-width space and the
  byte order mark are not blank.
-/

namespace TagCalc.Text

/-- The characters with the property `White_Space`. -/
def isBlank (c : Char) : Bool :=
  let n := c.toNat
  (0x09 ≤ n && n ≤ 0x0D) || n == 0x20 || n == 0x85 || n == 0xA0 || n == 0x1680
    || (0x2000 ≤ n && n ≤ 0x200A) || n == 0x2028 || n == 0x2029 || n == 0x202F
    || n == 0x205F || n == 0x3000

/-- Drops the blanks at the end. -/
def trimEnd (cs : List Char) : List Char :=
  (cs.reverse.dropWhile isBlank).reverse

/-- Drops the blanks at both ends. -/
def trimmed (cs : List Char) : List Char :=
  trimEnd (cs.dropWhile isBlank)

/-- The text without the blanks at both ends. -/
def trim (s : String) : String :=
  String.ofList (trimmed s.toList)

@[simp] theorem toList_trim (s : String) : (trim s).toList = trimmed s.toList := by
  simp [trim]

/-- A list that ends in a visible character keeps its end. -/
theorem trimEnd_of_getLast? {cs : List Char} (h : ∀ c, cs.getLast? = some c → isBlank c = false) :
    trimEnd cs = cs := by
  unfold trimEnd
  cases hr : cs.reverse with
  | nil => simpa using hr.symm
  | cons c rest =>
    have hlast : cs.getLast? = some c := by
      rw [List.getLast?_eq_head?_reverse, hr]; rfl
    rw [List.dropWhile_cons_of_neg (by simp [h c hlast]), ← hr, List.reverse_reverse]

/-- What is left after trimming the end never ends in a blank. -/
theorem getLast?_trimEnd (cs : List Char) (c : Char) (h : (trimEnd cs).getLast? = some c) :
    isBlank c = false := by
  unfold trimEnd at h
  rw [List.getLast?_reverse] at h
  have := List.head?_dropWhile_not isBlank cs.reverse
  rw [h] at this
  simpa using this

/-- Trimming the end leaves a prefix of the text. -/
theorem trimEnd_append_blanks (cs : List Char) :
    trimEnd cs ++ (cs.reverse.takeWhile isBlank).reverse = cs := by
  unfold trimEnd
  rw [← List.reverse_append, List.takeWhile_append_dropWhile, List.reverse_reverse]

/-- A text that starts and ends with visible characters is not changed. -/
theorem trimmed_of_ends {cs : List Char} (hfirst : ∀ c, cs.head? = some c → isBlank c = false)
    (hlast : ∀ c, cs.getLast? = some c → isBlank c = false) : trimmed cs = cs := by
  have hfront : cs.dropWhile isBlank = cs := by
    cases cs with
    | nil => rfl
    | cons c rest => exact List.dropWhile_cons_of_neg (by simp [hfirst c rfl])
  rw [trimmed, hfront, trimEnd_of_getLast? hlast]

/-- Trimming twice is trimming once. -/
theorem trimmed_trimmed (cs : List Char) : trimmed (trimmed cs) = trimmed cs := by
  refine trimmed_of_ends ?_ (getLast?_trimEnd _)
  intro c hc
  have hstart : (cs.dropWhile isBlank).head? = some c := by
    rw [← trimEnd_append_blanks (cs.dropWhile isBlank), List.head?_append]
    exact Option.or_eq_some_iff.2 (Or.inl hc)
  have hvisible := List.head?_dropWhile_not isBlank cs
  rw [hstart] at hvisible
  simpa using hvisible

theorem trim_trim (s : String) : trim (trim s) = trim s := by
  simp [trim, trimmed_trimmed]

/-- More text at the end does not take blanks away from the front. -/
theorem prefix_dropWhile_isBlank {cs ds : List Char} (h : cs <+: ds) :
    cs.dropWhile isBlank <+: ds.dropWhile isBlank := by
  obtain ⟨rest, rfl⟩ := h
  rw [List.dropWhile_append]
  split
  · rename_i hblank
    rw [List.isEmpty_iff.1 hblank]
    exact List.nil_prefix
  · exact List.prefix_append _ _

theorem prefix_trimEnd {cs ds : List Char} (h : cs <+: ds) : trimEnd cs <+: trimEnd ds := by
  obtain ⟨rest, rfl⟩ := h
  have hself : trimEnd cs <+: cs := ⟨_, trimEnd_append_blanks cs⟩
  rw [trimEnd, trimEnd, List.reverse_append, List.dropWhile_append]
  split
  · -- the rest is blank, so both texts end where the first one does
    exact List.prefix_refl _
  · rw [List.reverse_append, List.reverse_reverse]
    exact hself.trans (List.prefix_append _ _)

/-- A text that starts with another one also starts with it when both are trimmed. -/
theorem prefix_trimmed {cs ds : List Char} (h : cs <+: ds) : trimmed cs <+: trimmed ds :=
  prefix_trimEnd (prefix_dropWhile_isBlank h)

/-! ## Blanks around a text -/

/-- What is trimmed off is blank. -/
theorem exists_append_trimmed (cs : List Char) : ∃ first last : List Char,
    cs = first ++ trimmed cs ++ last
    ∧ (∀ c ∈ first, isBlank c = true) ∧ ∀ c ∈ last, isBlank c = true := by
  refine ⟨cs.takeWhile isBlank, ((cs.dropWhile isBlank).reverse.takeWhile isBlank).reverse,
    ?_, ?_, ?_⟩
  · rw [List.append_assoc, trimmed, trimEnd_append_blanks, List.takeWhile_append_dropWhile]
  · intro c hc
    exact List.all_eq_true.1 List.all_takeWhile c hc
  · intro c hc
    exact List.all_eq_true.1 List.all_takeWhile c (List.mem_reverse.1 hc)

theorem dropWhile_isBlank_of_blank {cs : List Char} (h : ∀ c ∈ cs, isBlank c = true) :
    cs.dropWhile isBlank = [] := by
  have hall : (cs ++ []).dropWhile isBlank = [] := List.dropWhile_append_of_pos h
  rwa [List.append_nil] at hall

theorem trimEnd_append_of_blank {blanks : List Char} (h : ∀ c ∈ blanks, isBlank c = true)
    (cs : List Char) : trimEnd (cs ++ blanks) = trimEnd cs := by
  rw [trimEnd, List.reverse_append, List.dropWhile_append_of_pos]
  · rfl
  · intro c hc
    exact h c (List.mem_reverse.1 hc)

/-- Blanks at both ends make no difference. -/
theorem trimmed_append_of_blank {before after : List Char}
    (hbefore : ∀ c ∈ before, isBlank c = true) (hafter : ∀ c ∈ after, isBlank c = true)
    (cs : List Char) :
    trimmed (before ++ cs ++ after) = trimmed cs := by
  rw [trimmed, trimmed, List.append_assoc, List.dropWhile_append_of_pos hbefore,
    List.dropWhile_append]
  split
  · rename_i hblank
    rw [dropWhile_isBlank_of_blank hafter, List.isEmpty_iff.1 hblank]
  · exact trimEnd_append_of_blank hafter _

end TagCalc.Text
