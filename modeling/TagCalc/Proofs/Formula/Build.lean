/-
  TagCalc.Proofs.Formula.Build

  Building a formula against offering the texts one by one and skipping those that
  may not come next. The two agree as long as nothing is skipped: the texts taken
  do build the formula that all of them leave (`appendTexts_taken`), a list builds
  just when all its texts are taken (`appendTexts_eq_ok_iff`), and a failure
  reports the first one that is not (`appendTexts_eq_error`).
-/

import TagCalc.Formula.Build
import TagCalc.Proofs.Trace

namespace TagCalc

/-- The position that a failure reports. -/
def BuildError.position : BuildError → Nat
  | emptyToken position => position
  | rejected position _ _ => position

/-- What is reported of a text at a position where it may not come. -/
def BuildError.ofText (position : Nat) (raw : String) : BuildError :=
  if Text.trim raw = "" then .emptyToken position
  else .rejected position (Text.trim raw) (classify (Text.trim raw))

@[simp] theorem BuildError.position_ofText (position : Nat) (raw : String) :
    (ofText position raw).position = position := by
  rw [ofText]
  split <;> rfl

namespace Store

/-! ## One text -/

/-- Whether the token of a text may come next. -/
def takes (s : Store) (raw : String) : Bool :=
  !(Text.trim raw).isEmpty && s.accepts (classify (Text.trim raw))

/-- The formula with the token of a text at its end. -/
def withText (s : Store) (catalog : Catalog) (raw : String) : Store :=
  s.append (Text.trim raw) (classify (Text.trim raw))
    (if classify (Text.trim raw) = .tag then catalog.findNamed? (Text.trim raw) else none)

/-- Appends the token of a text if it may come next. -/
def offer (catalog : Catalog) (s : Store) (raw : String) : Store :=
  if s.takes raw then s.withText catalog raw else s

theorem offer_of_takes {s : Store} {raw : String} (h : s.takes raw = true) (catalog : Catalog) :
    s.offer catalog raw = s.withText catalog raw := by
  rw [offer, if_pos h]

theorem offer_of_not_takes {s : Store} {raw : String} (h : s.takes raw = false)
    (catalog : Catalog) : s.offer catalog raw = s := by
  rw [offer, h]
  rfl

theorem appendText_of_takes {s : Store} {raw : String} (h : s.takes raw = true)
    (catalog : Catalog) (position : Nat) :
    s.appendText catalog position raw = .ok (s.withText catalog raw) := by
  rw [takes] at h
  rw [Bool.and_eq_true, Bool.not_eq_true'] at h
  unfold appendText
  dsimp only
  rw [h.1, if_neg Bool.false_ne_true, if_pos h.2, withText]

theorem appendText_of_not_takes {s : Store} {raw : String} (h : s.takes raw = false)
    (catalog : Catalog) (position : Nat) :
    s.appendText catalog position raw = .error (.ofText position raw) := by
  unfold appendText
  dsimp only
  rw [BuildError.ofText]
  by_cases hblank : Text.trim raw = ""
  · rw [if_pos hblank, if_pos (by simpa using hblank)]
  · have hfilled : ¬(Text.trim raw).isEmpty = true := by simpa using hblank
    rw [takes, eq_false_of_ne_true hfilled, Bool.not_false, Bool.true_and] at h
    rw [if_neg hblank, if_neg hfilled, if_neg (ne_true_of_eq_false h)]

/-! ## Lists of texts -/

/-- Offers texts in order. -/
def offerAll (catalog : Catalog) (s : Store) (texts : List String) : Store :=
  texts.foldl (offer catalog) s

/-- The texts that are taken when all are offered. -/
def taken (catalog : Catalog) (s : Store) (texts : List String) : List String :=
  trace (offer catalog) (fun s raw => if s.takes raw then [raw] else []) s texts

@[simp] theorem offerAll_nil (catalog : Catalog) (s : Store) : s.offerAll catalog [] = s := rfl

@[simp] theorem offerAll_cons (catalog : Catalog) (s : Store) (raw : String)
    (rest : List String) :
    s.offerAll catalog (raw :: rest) = (s.offer catalog raw).offerAll catalog rest := by
  rw [offerAll, offerAll, List.foldl_cons]

@[simp] theorem taken_cons (catalog : Catalog) (s : Store) (raw : String) (rest : List String) :
    s.taken catalog (raw :: rest)
      = (if s.takes raw then [raw] else []) ++ (s.offer catalog raw).taken catalog rest := by
  rw [taken, taken, trace_cons]

theorem appendTexts_cons_of_takes {s : Store} {raw : String} (h : s.takes raw = true)
    (catalog : Catalog) (position : Nat) (rest : List String) :
    s.appendTexts catalog position (raw :: rest)
      = (s.withText catalog raw).appendTexts catalog (position + 1) rest := by
  rw [appendTexts, appendText_of_takes h]
  rfl

theorem appendTexts_cons_of_not_takes {s : Store} {raw : String} (h : s.takes raw = false)
    (catalog : Catalog) (position : Nat) (rest : List String) :
    s.appendTexts catalog position (raw :: rest) = .error (.ofText position raw) := by
  rw [appendTexts, appendText_of_not_takes h]
  rfl

/-- What every text that is taken keeps holds of the formula that is built. -/
theorem appendTexts_induction {P : Store → Prop} {catalog : Catalog} {texts : List String}
    (keeps : ∀ raw ∈ texts, ∀ s, s.takes raw = true → P s → P (s.withText catalog raw))
    {s : Store} (h : P s) {position : Nat} {built : Store}
    (hbuilt : s.appendTexts catalog position texts = .ok built) : P built := by
  induction texts generalizing s position with
  | nil =>
    obtain rfl : s = built := Except.ok.inj hbuilt
    exact h
  | cons raw rest ih =>
    cases htakes : s.takes raw with
    | true =>
      rw [appendTexts_cons_of_takes htakes] at hbuilt
      have hnext := keeps raw (List.mem_cons_self ..) s htakes h
      exact ih (fun other hother => keeps other (List.mem_cons_of_mem _ hother)) hnext hbuilt
    | false =>
      rw [appendTexts_cons_of_not_takes htakes] at hbuilt
      cases hbuilt

/-- The texts taken build the formula that all texts leave. -/
theorem appendTexts_taken (catalog : Catalog) (s : Store) (position : Nat) (texts : List String) :
    s.appendTexts catalog position (s.taken catalog texts) = .ok (s.offerAll catalog texts) := by
  induction texts generalizing s position with
  | nil => rfl
  | cons raw rest ih =>
    cases htakes : s.takes raw with
    | true =>
      rw [taken_cons, offerAll_cons, htakes, if_pos rfl, List.singleton_append,
        appendTexts_cons_of_takes htakes, offer_of_takes htakes]
      exact ih (s.withText catalog raw) (position + 1)
    | false =>
      -- the text leaves no token, so the position stays as well
      rw [taken_cons, offerAll_cons, htakes, if_neg Bool.false_ne_true, List.nil_append,
        offer_of_not_takes htakes]
      exact ih s position

/-- A list of texts builds a formula just when all of them are taken. -/
theorem appendTexts_eq_ok_iff (catalog : Catalog) (s : Store) (position : Nat)
    (texts : List String) :
    (∃ built, s.appendTexts catalog position texts = .ok built)
      ↔ s.taken catalog texts = texts := by
  constructor
  · intro hbuilt
    induction texts generalizing s position with
    | nil => rfl
    | cons raw rest ih =>
      cases htakes : s.takes raw with
      | true =>
        rw [appendTexts_cons_of_takes htakes] at hbuilt
        rw [taken_cons, htakes, if_pos rfl, List.singleton_append, offer_of_takes htakes,
          ih _ _ hbuilt]
      | false =>
        obtain ⟨built, hok⟩ := hbuilt
        rw [appendTexts_cons_of_not_takes htakes] at hok
        cases hok
  · intro hall
    have hbuilt := s.appendTexts_taken catalog position texts
    rw [hall] at hbuilt
    exact ⟨_, hbuilt⟩

/-- A failure reports the first text that is not taken. -/
theorem appendTexts_eq_error {catalog : Catalog} {s : Store} {position : Nat}
    {texts : List String} {failure : BuildError}
    (h : s.appendTexts catalog position texts = .error failure) :
    ∃ i raw, failure.position = position + i ∧ texts[i]? = some raw
      ∧ (s.offerAll catalog (texts.take i)).takes raw = false
      ∧ ∀ j other, j < i → texts[j]? = some other →
          (s.offerAll catalog (texts.take j)).takes other = true := by
  induction texts generalizing s position with
  | nil => cases h
  | cons raw rest ih =>
    cases htakes : s.takes raw with
    | true =>
      -- the failure is one of the rest, whose texts come one position later
      rw [appendTexts_cons_of_takes htakes, ← offer_of_takes htakes] at h
      obtain ⟨i, text, hposition, htext, hfirst, hbefore⟩ := ih h
      refine ⟨i + 1, text, ?_, htext, ?_, ?_⟩
      · rw [hposition]
        omega
      · rw [List.take_succ_cons, offerAll_cons]
        exact hfirst
      · intro j other hj hother
        cases j with
        | zero =>
          rw [List.getElem?_cons_zero, Option.some.injEq] at hother
          rw [List.take_zero, offerAll_nil, ← hother]
          exact htakes
        | succ j =>
          rw [List.take_succ_cons, offerAll_cons]
          exact hbefore j other (by omega) hother
    | false =>
      -- the failure is that of the first text
      rw [appendTexts_cons_of_not_takes htakes] at h
      cases h
      refine ⟨0, raw, BuildError.position_ofText .., rfl, ?_,
        fun j _ hj => absurd hj (Nat.not_lt_zero j)⟩
      rw [List.take_zero, offerAll_nil]
      exact htakes

end Store

end TagCalc
