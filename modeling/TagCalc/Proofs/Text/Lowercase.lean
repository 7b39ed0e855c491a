/-
  TagCalc.Proofs.Text.Lowercase

  Lower case of a text inside a longer one. Each character is put in lower case by
  itself, all but the capital sigma, whose form depends on the text around it. So the
  lower case of a text is the same in two places just when each of its sigmas ends a word
  in both or in neither (`lowerBetween_eq_iff`), and as it is by itself wherever no cased
  character comes next to it (`sigmasAlike_of_startsCased`).
-/

import TagCalc.Text.Lowercase

namespace TagCalc.Text

/-! ## Lower case in a place -/

/-- Lower case of one character, between a text that is given backwards and another. -/
def lowerAt (before : List Char) (c : Char) (after : List Char) : List Char :=
  if c = 'Σ' then [if endsWord before after then 'ς' else 'σ'] else lowerChar c

/-- Lower case of a text between two others, the one before it given backwards. -/
def lowerBetween (before : List Char) : List Char → (after : List Char) → List Char
  | [], _ => []
  | c :: rest, after =>
    lowerAt before c (rest ++ after) ++ lowerBetween (c :: before) rest after

theorem lowerAfter_eq (before cs : List Char) : lowerAfter before cs = lowerBetween before cs [] := by
  induction cs generalizing before with
  | nil => rfl
  | cons c rest ih => rw [lowerAfter, lowerBetween, lowerAt, List.append_nil, ih]

theorem toList_lowercase (s : String) : (lowercase s).toList = lowerBetween [] s.toList [] := by
  rw [lowercase, String.toList_ofList, lowerAfter_eq]

theorem lowerBetween_append (before xs ys after : List Char) :
    lowerBetween before (xs ++ ys) after
      = lowerBetween before xs (ys ++ after) ++ lowerBetween (xs.reverse ++ before) ys after := by
  induction xs generalizing before with
  | nil => rfl
  | cons c rest ih =>
    rw [List.cons_append, lowerBetween, lowerBetween, ih, List.reverse_cons, List.append_assoc,
      List.append_assoc, List.append_assoc, List.singleton_append]

/-- The lower case of a text is put together from those of its parts. -/
theorem lowerBetween_of_occurs (before text after : List Char) :
    lowerBetween [] (before ++ text ++ after) []
      = lowerBetween [] before (text ++ after) ++ lowerBetween before.reverse text after
        ++ lowerBetween (text.reverse ++ before.reverse) after [] := by
  simp only [lowerBetween_append, List.reverse_append, List.append_nil]

/-! ## The same lower case in two places -/

/-- A capital sigma of the text ends a word in both places or in neither. -/
def SigmasAlike (text before₁ after₁ before₂ after₂ : List Char) : Prop :=
  ∀ left right, text = left ++ 'Σ' :: right →
    endsWord (left.reverse ++ before₁) (right ++ after₁)
      = endsWord (left.reverse ++ before₂) (right ++ after₂)

theorem sigmasAlike_cons {c : Char} {rest before₁ after₁ before₂ after₂ : List Char} :
    SigmasAlike (c :: rest) before₁ after₁ before₂ after₂ ↔
      (c = 'Σ' → endsWord before₁ (rest ++ after₁) = endsWord before₂ (rest ++ after₂))
      ∧ SigmasAlike rest (c :: before₁) after₁ (c :: before₂) after₂ := by
  constructor
  · intro h
    refine ⟨?_, ?_⟩
    · rintro rfl
      exact h [] rest rfl
    · rintro left right rfl
      have hleft := h (c :: left) right rfl
      rwa [List.reverse_cons, List.append_assoc, List.append_assoc] at hleft
  · rintro ⟨hfirst, hrest⟩ left right htext
    cases left with
    | nil =>
      obtain ⟨rfl, rfl⟩ := List.cons.inj htext
      exact hfirst rfl
    | cons d left =>
      obtain ⟨rfl, rfl⟩ := List.cons.inj htext
      have hleft := hrest left right rfl
      rwa [List.reverse_cons, List.append_assoc, List.append_assoc]

theorem lowerAt_eq_iff {before₁ after₁ before₂ after₂ : List Char} {c : Char} :
    lowerAt before₁ c after₁ = lowerAt before₂ c after₂ ↔
      (c = 'Σ' → endsWord before₁ after₁ = endsWord before₂ after₂) := by
  rw [lowerAt, lowerAt]
  by_cases hc : c = 'Σ'
  · rw [if_pos hc, if_pos hc]
    cases endsWord before₁ after₁ <;> cases endsWord before₂ after₂ <;> simp [hc]
  · rw [if_neg hc, if_neg hc]
    exact iff_of_true rfl fun hsigma => absurd hsigma hc

/-- The place of a character does not change how long its lower case is. -/
theorem length_lowerAt (before after : List Char) (c : Char) :
    (lowerAt before c after).length = (lowerChar c).length := by
  rw [lowerAt]
  by_cases hc : c = 'Σ'
  · subst hc
    have hsigma : (lowerChar 'Σ').length = 1 := by decide +kernel
    rw [if_pos rfl, hsigma, List.length_singleton]
  · rw [if_neg hc]

/-- The lower case of a text is the same in two places just when its sigmas are. -/
theorem lowerBetween_eq_iff {text before₁ after₁ before₂ after₂ : List Char} :
    lowerBetween before₁ text after₁ = lowerBetween before₂ text after₂ ↔
      SigmasAlike text before₁ after₁ before₂ after₂ := by
  induction text generalizing before₁ before₂ with
  | nil =>
    refine iff_of_true rfl ?_
    intro left right htext
    cases left <;> cases htext
  | cons c rest ih =>
    rw [sigmasAlike_cons, ← lowerAt_eq_iff, ← ih, lowerBetween, lowerBetween]
    constructor
    · intro h
      -- the first parts are of one length, so the lists agree part by part
      refine List.append_inj h ?_
      rw [length_lowerAt, length_lowerAt before₂]
    · rintro ⟨hfirst, hrest⟩
      rw [hfirst, hrest]

/-! ## Places where the sigmas are alike -/

theorem sigmasAlike_of_not_mem {text : List Char} (h : 'Σ' ∉ text)
    (before₁ after₁ before₂ after₂ : List Char) :
    SigmasAlike text before₁ after₁ before₂ after₂ := by
  rintro left right rfl
  exact absurd (List.mem_append_right left (List.mem_cons_self ..)) h

theorem startsCased_append {xs ys : List Char} (h : startsCased ys = false) :
    startsCased (xs ++ ys) = startsCased xs := by
  have happend : (xs ++ ys).dropWhile CaseTable.caseIgnorable.contains
      = if (xs.dropWhile CaseTable.caseIgnorable.contains).isEmpty
        then ys.dropWhile CaseTable.caseIgnorable.contains
        else xs.dropWhile CaseTable.caseIgnorable.contains ++ ys := List.dropWhile_append
  unfold startsCased at h ⊢
  rw [happend]
  cases xs.dropWhile CaseTable.caseIgnorable.contains with
  | nil => exact h
  | cons c rest => rfl

/-- A text between two others that do not meet it with a cased character is put in lower
    case as if it stood alone. -/
theorem sigmasAlike_of_startsCased {before after : List Char} (hbefore : startsCased before = false)
    (hafter : startsCased after = false) (text : List Char) :
    SigmasAlike text before after [] [] := by
  intro left right _
  rw [endsWord, endsWord, List.append_nil, List.append_nil, startsCased_append hbefore,
    startsCased_append hafter]

end TagCalc.Text
