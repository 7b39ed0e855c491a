/-
  TagCalc.Proofs.Trace

  What a run leaves behind. A run folds a step function over a list; its trace
  joins what each step puts out, in the order of the steps.

  Main statements: a relation between the trace so far and the state that every
  step keeps holds at the end of the run (`trace_induction`), and two runs leave the
  same trace if a relation between their states is kept and gives the same outputs
  (`trace_eq_of_related`).
-/

namespace TagCalc

variable {σ τ ε α : Type _}

/-- Joins what the steps of a run put out. -/
def trace (step : σ → ε → σ) (output : σ → ε → List α) : σ → List ε → List α
  | _, [] => []
  | s, e :: rest => output s e ++ trace step output (step s e) rest

variable {step : σ → ε → σ} {output : σ → ε → List α}

@[simp] theorem trace_nil (s : σ) : trace step output s [] = [] := rfl

@[simp] theorem trace_cons (s : σ) (e : ε) (rest : List ε) :
    trace step output s (e :: rest) = output s e ++ trace step output (step s e) rest := rfl

/-- The trace of two runs, one after the other. -/
theorem trace_append (s : σ) (first second : List ε) :
    trace step output s (first ++ second)
      = trace step output s first ++ trace step output (first.foldl step s) second := by
  induction first generalizing s with
  | nil => rfl
  | cons e rest ih =>
    rw [List.cons_append, trace_cons, trace_cons, ih, List.foldl_cons, List.append_assoc]

/-- What every step keeps holds at the end. Here a step is one of the run, so a
    condition on the steps of the run may be used. -/
theorem trace_induction {P : List α → σ → Prop} {steps : List ε}
    (keeps : ∀ e ∈ steps, ∀ log s, P log s → P (log ++ output s e) (step s e))
    {log : List α} {s : σ} (h : P log s) :
    P (log ++ trace step output s steps) (steps.foldl step s) := by
  induction steps generalizing log s with
  | nil => simpa using h
  | cons e rest ih =>
    -- the first step extends the log, and the rest starts from what it leaves
    have hnext := keeps e (List.mem_cons_self ..) log s h
    have hrest := ih (fun x hx => keeps x (List.mem_cons_of_mem _ hx)) hnext
    rw [trace_cons, List.foldl_cons, ← List.append_assoc]
    exact hrest

/-- States that every step puts out the same from, and leaves related, have the same
    trace. -/
theorem trace_eq_of_related {step' : τ → ε → τ} {output' : τ → ε → List α}
    {R : σ → τ → Prop}
    (keeps : ∀ e s t, R s t → output s e = output' t e ∧ R (step s e) (step' t e))
    {s : σ} {t : τ} (h : R s t) (steps : List ε) :
    trace step output s steps = trace step' output' t steps := by
  induction steps generalizing s t with
  | nil => rfl
  | cons e rest ih =>
    obtain ⟨hout, hnext⟩ := keeps e s t h
    rw [trace_cons, trace_cons, hout, ih hnext]

end TagCalc
