/-
  TagCalc.Proofs.Formula.Positions

  Lists of texts, position by position. Whether a text may come next depends on the
  formula so far; while all texts are taken, that formula is the one of the texts
  before (`ofTexts`), and what it takes depends on the position alone
  (`takes_ofTexts`). So a list builds just when each of its texts fits its position,
  and the first one that does not is reported (`build_cases`).
-/

import TagCalc.Proofs.Catalog.Search
import TagCalc.Proofs.Formula.Alternation
import TagCalc.Proofs.Formula.Build

namespace TagCalc

/-! ## Texts at their positions -/

/-- A text may stand at a position: it is not blank, and it is a value where the position
    is even and an operand where it is odd. -/
def FitsAt (position : Nat) (raw : String) : Prop :=
  Text.trim raw ≠ "" ∧ (classify (Text.trim raw)).isValue = (position % 2 == 0)

/-- All texts may stand where they do. -/
def AllFit (texts : List String) : Prop := ∀ i raw, texts[i]? = some raw → FitsAt i raw

theorem AllFit.nil : AllFit [] := by
  intro i raw h
  cases h

theorem AllFit.concat {texts : List String} (h : AllFit texts) {raw : String}
    (hraw : FitsAt texts.length raw) : AllFit (texts ++ [raw]) := by
  intro i other hi
  rw [List.getElem?_append] at hi
  split at hi
  · exact h i other hi
  · rename_i hge
    have hlt := (List.getElem?_eq_some_iff.1 hi).1
    rw [List.length_singleton] at hlt
    have hlast : i = texts.length := by omega
    subst hlast
    rw [Nat.sub_self, List.getElem?_cons_zero, Option.some.injEq] at hi
    rw [← hi]
    exact hraw

namespace Store

/-! ## The formula of some texts -/

/-- The token of a text at a position. -/
def textToken (catalog : Catalog) (position : Nat) (raw : String) : Token where
  id := position + 1
  value := Text.trim raw
  kind := classify (Text.trim raw)
  suggestion :=
    if classify (Text.trim raw) = .tag then catalog.findNamed? (Text.trim raw) else none

@[simp] theorem kind_textToken (catalog : Catalog) (position : Nat) (raw : String) :
    (textToken catalog position raw).kind = classify (Text.trim raw) := by
  rw [textToken]

/-- The formula of texts that all fit their positions. -/
def ofTexts (catalog : Catalog) (texts : List String) : Store where
  tokens := texts.mapIdx (textToken catalog)
  issued := texts.length
  revision := texts.length

/-- Each text that is taken adds the token of its position. -/
theorem withText_ofTexts (catalog : Catalog) (texts : List String) (raw : String) :
    (ofTexts catalog texts).withText catalog raw = ofTexts catalog (texts ++ [raw]) := by
  have hcarried : carried (classify (Text.trim raw))
        (if classify (Text.trim raw) = .tag then catalog.findNamed? (Text.trim raw) else none)
      = (textToken catalog texts.length raw).suggestion := by
    rw [carried, textToken]
    by_cases htag : classify (Text.trim raw) = .tag
    · rw [if_pos htag]
    · rw [if_neg htag, if_neg htag]
  have htokens : (texts ++ [raw]).mapIdx (textToken catalog)
      = texts.mapIdx (textToken catalog) ++ [textToken catalog texts.length raw] := by
    simp only [List.mapIdx_append, List.mapIdx_cons, List.mapIdx_nil, Nat.zero_add]
  have hlength : (texts ++ [raw]).length = texts.length + 1 := List.length_append
  simp only [withText, append, hcarried, ofTexts, htokens, hlength, freshId]
  simp only [textToken]

theorem kinds_ofTexts_alternating (catalog : Catalog) {texts : List String} (h : AllFit texts) :
    Alternating (ofTexts catalog texts).kinds := by
  intro i k hk
  simp only [kinds, ofTexts, List.getElem?_map, List.getElem?_mapIdx] at hk
  cases hraw : texts[i]? with
  | none =>
    rw [hraw] at hk
    cases hk
  | some raw =>
    rw [hraw, Option.map_some, Option.map_some, Option.some.injEq] at hk
    rw [← hk, kind_textToken]
    exact (h i raw hraw).2

/-- Behind texts that all fit, a text is taken just when it fits the next position. -/
theorem takes_ofTexts (catalog : Catalog) {texts : List String} (h : AllFit texts)
    (raw : String) : (ofTexts catalog texts).takes raw = true ↔ FitsAt texts.length raw := by
  have haccepts : (ofTexts catalog texts).accepts (classify (Text.trim raw))
      = (classify (Text.trim raw)).canFollow (ofTexts catalog texts).kinds.getLast? := by
    rw [accepts, last?, kinds, List.getLast?_map]
  have hlength : (ofTexts catalog texts).kinds.length = texts.length := by
    rw [kinds, ofTexts, List.length_map, List.length_mapIdx]
  rw [takes, Bool.and_eq_true, haccepts, (kinds_ofTexts_alternating catalog h).canFollow_iff,
    hlength, FitsAt]
  simp

/-! ## Building -/

/-- Behind texts that all fit, either all further ones are appended, or the first one that
    does not fit is reported. -/
theorem appendTexts_cases (catalog : Catalog) {front : List String} (h : AllFit front)
    (rest : List String) :
    let built := (ofTexts catalog front).appendTexts catalog front.length rest
    (AllFit (front ++ rest) ∧ built = .ok (ofTexts catalog (front ++ rest)))
    ∨ ∃ before raw after, front ++ rest = before ++ raw :: after ∧ AllFit before
        ∧ ¬FitsAt before.length raw ∧ built = .error (.ofText before.length raw) := by
  induction rest generalizing front with
  | nil =>
    refine Or.inl ⟨?_, ?_⟩
    · rw [List.append_nil]
      exact h
    · rw [List.append_nil]
      rfl
  | cons raw rest ih =>
    by_cases hfits : FitsAt front.length raw
    · -- the text joins those before it, and the rest comes one position later
      have htakes := (takes_ofTexts catalog h raw).2 hfits
      have hnext := ih (h.concat hfits)
      rw [List.length_append, List.length_singleton, List.append_assoc,
        List.singleton_append] at hnext
      rw [appendTexts_cons_of_takes htakes, withText_ofTexts]
      exact hnext
    · have htakes : (ofTexts catalog front).takes raw = false :=
        eq_false_of_ne_true fun ht => hfits ((takes_ofTexts catalog h raw).1 ht)
      refine Or.inr ⟨front, raw, rest, rfl, h, hfits, ?_⟩
      exact appendTexts_cons_of_not_takes htakes catalog front.length rest

/-- A list of texts builds the formula of its texts, or fails at the first one that does
    not fit its position. -/
theorem build_cases (texts : List String) (catalog : Catalog) :
    (AllFit texts ∧ build texts catalog = .ok (ofTexts catalog texts))
    ∨ ∃ before raw after, texts = before ++ raw :: after ∧ AllFit before
        ∧ ¬FitsAt before.length raw
        ∧ build texts catalog = .error (.ofText before.length raw) :=
  appendTexts_cases catalog .nil texts

/-- A list of texts builds a formula just when no text is blank, those at even positions
    are values and those at odd ones are operands. The token of each text then has the
    number of the text, counted from one, for its id, and the text without the blanks
    around it; a tag carries the first suggestion of its name, case aside, if there is
    one, and no other token carries any. Otherwise the failure is that of the first text
    that does not fit, with its position: it is blank, or it is rejected with its kind. -/
theorem build_reports_first_offence (texts : List String) (catalog : Catalog) :
    ((∃ built, build texts catalog = .ok built)
      ↔ ∀ i raw, texts[i]? = some raw → FitsAt i raw)
    ∧ (∀ built, build texts catalog = .ok built →
        built.tokens.length = texts.length
        ∧ ∀ k raw, texts[k]? = some raw → ∃ t, built.tokens[k]? = some t
          ∧ t.id = k + 1 ∧ t.value = Text.trim raw ∧ t.kind = classify (Text.trim raw)
          ∧ (t.kind ≠ .tag → t.suggestion = none)
          ∧ (t.kind = .tag → ∀ s, t.suggestion = some s ↔ catalog.FirstNamed t.value s))
    ∧ ∀ failure, build texts catalog = .error failure →
        ∃ i raw, texts[i]? = some raw ∧ ¬FitsAt i raw
          ∧ (∀ j other, j < i → texts[j]? = some other → FitsAt j other)
          ∧ failure = if Text.trim raw = "" then .emptyToken i
              else .rejected i (Text.trim raw) (classify (Text.trim raw)) := by
  rcases build_cases texts catalog with
    ⟨hall, hbuilt⟩ | ⟨before, raw, after, rfl, hbefore, hraw, hfailed⟩
  · refine ⟨⟨fun _ => hall, fun _ => ⟨_, hbuilt⟩⟩, ?_, ?_⟩
    · intro built heq
      cases hbuilt.symm.trans heq
      refine ⟨List.length_mapIdx, ?_⟩
      intro k raw hraw
      have htoken : (ofTexts catalog texts).tokens[k]? = some (textToken catalog k raw) := by
        rw [ofTexts, List.getElem?_mapIdx, hraw, Option.map_some]
      refine ⟨_, htoken, rfl, rfl, kind_textToken .., ?_, ?_⟩
      · intro hother
        rw [kind_textToken] at hother
        rw [textToken, if_neg hother]
      · intro htag s
        rw [kind_textToken] at htag
        rw [textToken, if_pos htag]
        exact Catalog.findNamed?_eq_some_iff
    · intro failure heq
      cases hbuilt.symm.trans heq
  · have hplace : (before ++ raw :: after)[before.length]? = some raw := by simp
    refine ⟨⟨?_, ?_⟩, ?_, ?_⟩
    · rintro ⟨built, heq⟩
      cases hfailed.symm.trans heq
    · intro hall
      exact absurd (hall _ raw hplace) hraw
    · intro built heq
      cases hfailed.symm.trans heq
    · intro failure heq
      cases hfailed.symm.trans heq
      refine ⟨before.length, raw, hplace, hraw, ?_, rfl⟩
      intro j other hj hother
      rw [List.getElem?_append_left hj] at hother
      exact hbefore j other hother

end Store

end TagCalc
