/-
  TagCalc.Proofs.Command.Tokens

  The tokens of `eval` reach the evaluation as they were given. What one argument does to
  the options of a level does not depend on the arguments after it (`readsArgument`): it
  ends the options, belongs to them, or is refused. So options can be read first and the
  rest after them (`readOptions_append`), and where the options end, what is left is a
  final part of the arguments (`arguments_suffix`).
-/

import TagCalc.Command.Line

namespace TagCalc.Command

/-! ## Outcomes -/

theorem bind_eq_ok {ε α β : Type} {x : Except ε α} {f : α → Except ε β} {b : β} :
    x >>= f = .ok b ↔ ∃ a, x = .ok a ∧ f a = .ok b := by
  cases x with
  | error e => exact ⟨nofun, fun ⟨_, h, _⟩ => nomatch h⟩
  | ok a => exact ⟨fun h => ⟨a, rfl, h⟩, fun ⟨_, h, hf⟩ => Except.ok.inj h ▸ hf⟩

theorem orMisuse_eq_ok {α : Type} {x : Except Misuse α} {a : α} :
    orMisuse x = .ok a ↔ x = .ok a := by
  cases x with
  | error m => exact ⟨nofun, nofun⟩
  | ok b =>
    rw [orMisuse, Except.ok.injEq, Except.ok.injEq]

/-! ## One argument -/

/-- What an argument can do to the options of a level, whatever comes after it. -/
inductive ReadsArgument (l : Level) (p : Progress) (arg : String) : Prop where
  | command (topic : Topic)
      (h : ∀ rest, readOptions l p (arg :: rest) = .ok (p, .command topic rest))
  | escape (h : ∀ rest, readOptions l p (arg :: rest) = .ok (p, .operands true rest))
  | operand (h : ∀ rest, readOptions l p (arg :: rest) = .ok (p, .operands false (arg :: rest)))
  | option (next : Progress) (h : ∀ rest, readOptions l p (arg :: rest) = readOptions l next rest)
  | refused (s : Stop) (h : ∀ rest, readOptions l p (arg :: rest) = .error s)

/-- An argument that settles the option before it is refused when that option is. -/
theorem readsArgument_of_settle {l : Level} {p : Progress} {arg : String}
    {goOn : Progress → List String → Except Stop (Progress × Ending)}
    (hsettles : ∀ rest, readOptions l p (arg :: rest)
      = orMisuse p.settle >>= fun settled => goOn settled rest)
    (hgoesOn : ∀ settled, (∃ next, ∀ rest, goOn settled rest = readOptions l next rest)
      ∨ ∃ s, ∀ rest, goOn settled rest = .error s) :
    ReadsArgument l p arg := by
  cases hsettled : p.settle with
  | error m =>
    refine .refused (.misuse m) fun rest => ?_
    rw [hsettles, hsettled]
    rfl
  | ok settled =>
    have hnext : ∀ rest, readOptions l p (arg :: rest) = goOn settled rest := by
      intro rest
      rw [hsettles, hsettled]
      rfl
    rcases hgoesOn settled with ⟨next, h⟩ | ⟨s, h⟩
    · exact .option next fun rest => (hnext rest).trans (h rest)
    · exact .refused s fun rest => (hnext rest).trans (h rest)

theorem readsArgument (l : Level) (p : Progress) (arg : String) : ReadsArgument l p arg := by
  cases hcommand : commandAt? l p arg with
  | some topic => exact .command topic fun rest => by simp only [readOptions, hcommand]
  | none =>
    cases hmeaning : meaning l arg with
    | escape => exact .escape fun rest => by simp only [readOptions, hcommand, hmeaning]
    | begins flag =>
      -- how the reading goes on is read off the definition
      apply readsArgument_of_settle
      · intro rest
        simp only [readOptions, hcommand, hmeaning]
        rfl
      · exact fun settled => Or.inl ⟨{ settled with unsettled := some (flag, none) }, fun _ => rfl⟩
    | assigns flag value =>
      apply readsArgument_of_settle
      · intro rest
        simp only [readOptions, hcommand, hmeaning]
        rfl
      · intro settled
        cases settled.assign flag value with
        | error m => exact Or.inr ⟨.misuse m, fun _ => rfl⟩
        | ok next => exact Or.inl ⟨next, fun _ => rfl⟩
    | shows s =>
      apply readsArgument_of_settle
      · intro rest
        simp only [readOptions, hcommand, hmeaning]
        rfl
      · exact fun _ => Or.inr ⟨s, fun _ => rfl⟩
    | wrong m =>
      exact .refused (.misuse m) fun rest => by simp only [readOptions, hcommand, hmeaning]
    | operand =>
      cases hwaiting : p.waiting? with
      | some flag =>
        refine .option { p with unsettled := some (flag, some arg) } fun rest => ?_
        simp only [readOptions, hcommand, hmeaning, hwaiting]
      | none => exact .operand fun rest => by simp only [readOptions, hcommand, hmeaning, hwaiting]

/-! ## Many arguments -/

/-- Options that come to their end are read in the same way when more follows. -/
theorem readOptions_append {l : Level} {p q : Progress} {options : List String}
    (h : readOptions l p options = .ok (q, .operands false [])) (rest : List String) :
    readOptions l p (options ++ rest) = readOptions l q rest := by
  induction options generalizing p with
  | nil =>
    cases h
    rfl
  | cons arg more ih =>
    rw [List.cons_append]
    cases readsArgument l p arg with
    | command topic hread =>
      rw [hread] at h
      cases h
    | escape hread =>
      rw [hread] at h
      cases h
    | operand hread =>
      rw [hread] at h
      cases h
    | option next hread =>
      rw [hread] at h ⊢
      exact ih h
    | refused s hread =>
      rw [hread] at h
      cases h

/-- What is left where the options end is as it was given. -/
theorem arguments_suffix {l : Level} {p q : Progress} {args : List String} {ending : Ending}
    (h : readOptions l p args = .ok (q, ending)) : ending.arguments <:+ args := by
  induction args generalizing p with
  | nil =>
    cases h
    exact List.suffix_refl _
  | cons arg rest ih =>
    cases readsArgument l p arg with
    | command topic hread =>
      rw [hread] at h
      cases h
      exact List.suffix_cons _ _
    | escape hread =>
      rw [hread] at h
      cases h
      exact List.suffix_cons _ _
    | operand hread =>
      rw [hread] at h
      cases h
      exact List.suffix_refl _
    | option next hread =>
      rw [hread] at h
      exact (ih h).trans (List.suffix_cons _ _)
    | refused s hread =>
      rw [hread] at h
      cases h

/-! ## Where the tokens begin -/

/-- Two hyphens end the options of every level. -/
theorem readOptions_escape (l : Level) (p : Progress) (rest : List String) :
    readOptions l p ("--" :: rest) = .ok (p, .operands true rest) := by
  have hcommand : commandAt? l p "--" = none := by
    rw [commandAt?]
    split <;> rfl
  have hmeaning : meaning l "--" = .escape := rfl
  simp only [readOptions, hcommand, hmeaning]

theorem meaning_of_plain {arg : String} (h : arg.toList.head? ≠ some '-') (l : Level) :
    meaning l arg = .operand := by
  rw [meaning, Form.ofArgument, Form.ofChars_eq_plain h]

/-- What does not start with a hyphen begins the tokens, unless it is the value of an
    option. -/
theorem readOptions_token {p : Progress} (hwaiting : p.waiting? = none) {first : String}
    (h : first.toList.head? ≠ some '-') (rest : List String) :
    readOptions .eval p (first :: rest) = .ok (p, .operands false (first :: rest)) := by
  have hcommand : commandAt? .eval p first = none := rfl
  simp only [readOptions, hcommand, meaning_of_plain h, hwaiting]

/-- Arguments after `eval` that are options with their values, and nothing else. -/
def OnlyOptions (args : List String) (values : Values) : Prop :=
  ∃ p, readOptions .eval .start args = .ok (p, .operands false []) ∧ p.finish = .ok values

theorem OnlyOptions.nil : OnlyOptions [] .none := ⟨.start, rfl, rfl⟩

/-- No option waits for its value at the end. -/
theorem waiting?_of_finish {p : Progress} {values : Values} (h : p.finish = .ok values) :
    p.waiting? = none := by
  obtain ⟨given, unsettled⟩ := p
  cases unsettled with
  | none => rfl
  | some last =>
    obtain ⟨flag, value⟩ := last
    cases value with
    | none => cases h
    | some value => rfl

theorem read_eval (args : List String) : read ("eval" :: args) = withOuter .start (readEval args) :=
  rfl

/-- What is left where the options of `eval` end are its tokens, if there are any. -/
theorem readEval_eq_ok {args : List String} {values : Values} {action : Action} :
    readEval args = .ok (values, action) ↔ ∃ p ending,
      readOptions .eval .start args = .ok (p, ending) ∧ p.finish = .ok values
      ∧ ending.arguments ≠ [] ∧ action = .eval ending.arguments := by
  rw [readEval, bind_eq_ok]
  constructor
  · rintro ⟨⟨p, ending⟩, hread, h⟩
    obtain ⟨given, hfinish, h⟩ := bind_eq_ok.1 h
    refine ⟨p, ending, hread, ?_⟩
    by_cases hempty : ending.arguments.isEmpty = true
    · rw [if_pos hempty] at h
      cases h
    · rw [if_neg hempty] at h
      cases h
      exact ⟨orMisuse_eq_ok.1 hfinish, by simpa using hempty, rfl⟩
  · rintro ⟨p, ending, hread, hfinish, hne, rfl⟩
    refine ⟨(p, ending), hread, bind_eq_ok.2 ⟨values, orMisuse_eq_ok.2 hfinish, ?_⟩⟩
    rw [if_neg (by simpa using hne)]
    rfl

theorem withOuter_eq_ok {p : Progress} {inner : Except Stop (Values × Action)} {r : Request} :
    withOuter p inner = .ok r ↔ ∃ values action outer,
      inner = .ok (values, action) ∧ p.finish = .ok outer
      ∧ r = ⟨values.orElse outer, some action⟩ := by
  rw [withOuter, bind_eq_ok]
  constructor
  · rintro ⟨⟨values, action⟩, hinner, h⟩
    obtain ⟨outer, hfinish, h⟩ := bind_eq_ok.1 h
    cases h
    exact ⟨values, action, outer, hinner, orMisuse_eq_ok.1 hfinish, rfl⟩
  · rintro ⟨values, action, outer, hinner, hfinish, rfl⟩
    exact ⟨(values, action), hinner, bind_eq_ok.2 ⟨outer, orMisuse_eq_ok.2 hfinish, rfl⟩⟩

/-- Where the options after `eval` end with tokens left, these are read. -/
theorem read_eval_of_ending {args : List String} {p : Progress} {ending : Ending}
    {values : Values} (hread : readOptions .eval .start args = .ok (p, ending))
    (hfinish : p.finish = .ok values) (hne : ending.arguments ≠ []) :
    read ("eval" :: args) = .ok ⟨values, some (.eval ending.arguments)⟩ := by
  have hinner := readEval_eq_ok.2 ⟨p, ending, hread, hfinish, hne, rfl⟩
  rw [read_eval, withOuter_eq_ok]
  exact ⟨values, _, .none, hinner, rfl, by rw [Values.orElse_none]⟩

/-- Behind options, two hyphens leave all that follows to the tokens. -/
theorem read_eval_escape {options : List String} {values : Values}
    (h : OnlyOptions options values) {tokens : List String} (hne : tokens ≠ []) :
    read ("eval" :: (options ++ "--" :: tokens)) = .ok ⟨values, some (.eval tokens)⟩ := by
  obtain ⟨p, hoptions, hfinish⟩ := h
  have hread := (readOptions_append hoptions ("--" :: tokens)).trans (readOptions_escape ..)
  exact read_eval_of_ending hread hfinish hne

/-- Behind options, the first argument without a hyphen at its start is a token, and all
    that follows it are tokens. -/
theorem read_eval_plain {options : List String} {values : Values}
    (h : OnlyOptions options values) {first : String} (hplain : first.toList.head? ≠ some '-')
    (rest : List String) :
    read ("eval" :: (options ++ first :: rest)) = .ok ⟨values, some (.eval (first :: rest))⟩ := by
  obtain ⟨p, hoptions, hfinish⟩ := h
  have hread := (readOptions_append hoptions (first :: rest)).trans
    (readOptions_token (waiting?_of_finish hfinish) hplain rest)
  exact read_eval_of_ending hread hfinish (List.cons_ne_nil _ _)

/-! ## Where tokens come from -/

theorem readEdit_action {args : List String} {values : Values} {action : Action}
    (h : readEdit args = .ok (values, action)) : action = .edit := by
  obtain ⟨⟨p, ending⟩, -, h⟩ := bind_eq_ok.1 h
  dsimp only at h
  split at h
  · obtain ⟨_, -, h⟩ := bind_eq_ok.1 h
    cases h
    rfl
  · cases h

/-- Only `eval` has tokens, and they are the last arguments. -/
theorem tokens_suffix {args tokens : List String} {values : Values}
    (h : read args = .ok ⟨values, some (.eval tokens)⟩) : tokens ≠ [] ∧ tokens <:+ args := by
  obtain ⟨⟨p, ending⟩, hread, h⟩ := bind_eq_ok.1 h
  have hleft := arguments_suffix hread
  dsimp only at h
  split at h
  · obtain ⟨_, _, _, hinner, -, heq⟩ := withOuter_eq_ok.1 h
    rw [readEdit_action hinner] at heq
    cases heq
  · obtain ⟨_, _, _, hinner, -, heq⟩ := withOuter_eq_ok.1 h
    obtain ⟨_, _, heval, -, hne, rfl⟩ := readEval_eq_ok.1 hinner
    cases heq
    exact ⟨hne, (arguments_suffix heval).trans hleft⟩
  · cases h
  · -- without a command there is no action
    obtain ⟨_, -, h⟩ := bind_eq_ok.1 h
    cases h
  · split at h <;> cases h

/-- After `eval` and two hyphens, and after `eval` and an argument that does not start with
    a hyphen, every argument is a token as it stands, and no option has a value. Options
    with their values in between get these values and change nothing about the tokens.
    And the tokens of any command line are its last arguments, of which there is at
    least one. -/
theorem tokens_read_verbatim :
    (∀ tokens, tokens ≠ [] →
      read ("eval" :: "--" :: tokens) = .ok ⟨.none, some (.eval tokens)⟩)
    ∧ (∀ first rest, first.toList.head? ≠ some '-' →
      read ("eval" :: first :: rest) = .ok ⟨.none, some (.eval (first :: rest))⟩)
    ∧ (∀ options values, OnlyOptions options values →
      (∀ tokens, tokens ≠ [] →
        read ("eval" :: (options ++ "--" :: tokens)) = .ok ⟨values, some (.eval tokens)⟩)
      ∧ ∀ first rest, first.toList.head? ≠ some '-' →
        read ("eval" :: (options ++ first :: rest)) = .ok ⟨values, some (.eval (first :: rest))⟩)
    ∧ ∀ args values tokens, read args = .ok ⟨values, some (.eval tokens)⟩ →
        tokens ≠ [] ∧ tokens <:+ args := by
  refine ⟨?_, ?_, ?_, fun _ _ _ h => tokens_suffix h⟩
  · exact fun _ hne => read_eval_escape .nil hne
  · exact fun _ rest hplain => read_eval_plain .nil hplain rest
  · intro options values h
    exact ⟨fun _ hne => read_eval_escape h hne, fun _ rest hplain => read_eval_plain h hplain rest⟩

/-- A second pair of hyphens, a known option and a negative number are tokens too. -/
theorem tokens_read_verbatim_hyphens :
    ["--", "-h", "-4", "--config"] ≠ []
    ∧ read ["eval", "--", "--", "-h", "-4", "--config"]
      = .ok ⟨.none, some (.eval ["--", "-h", "-4", "--config"])⟩
    ∧ "2".toList.head? ≠ some '-'
    ∧ read ["eval", "2", "--", "-h", "-4", "--config"]
      = .ok ⟨.none, some (.eval ["2", "--", "-h", "-4", "--config"])⟩
    ∧ read ["eval", "--endpoint", "e", "--", "-4"]
      = .ok ⟨⟨none, some "e", none, none⟩, some (.eval ["-4"])⟩ := by
  have hne : ["--", "-h", "-4", "--config"] ≠ [] := List.cons_ne_nil _ _
  have hplain : "2".toList.head? ≠ some '-' := by decide
  have honly : OnlyOptions ["--endpoint", "e"] ⟨none, some "e", none, none⟩ :=
    ⟨⟨.none, some (.endpoint, some "e")⟩, by rfl, by rfl⟩
  obtain ⟨hescape, hfirst, hoptions, -⟩ := tokens_read_verbatim
  exact ⟨hne, hescape _ hne, hplain, hfirst "2" ["--", "-h", "-4", "--config"] hplain,
    (hoptions _ _ honly).1 ["-4"] (List.cons_ne_nil _ _)⟩

end TagCalc.Command
