import AerospikePhp.Lib.Fallible

/-!
# Runs of a machine that may fail

`step s i` answers the input `i` in state `s` with an output and the next state,
or fails. A run feeds a list of inputs, and fails with the first failing step.

Results:
* `run_append`: a run over two lists of inputs is a run followed by a run.
* `run_ok`: when every step from a state of an invariant succeeds and keeps the
  invariant, so does every run.
* `run_fails_iff`: when it depends on the input alone whether a step fails.
* `run_simulates`: machines whose steps agree, and stay related, have the same outputs.
-/

namespace Run

universe u

variable {σ ι ο ε : Type u} (step : σ → ι → Except ε (ο × σ))

/-- The outputs of a run, and the state it reaches. -/
def run : σ → List ι → Except ε (List ο × σ)
  | s, [] => .ok ([], s)
  | s, i :: is => do
    let r ← step s i
    let rs ← run r.2 is
    return (r.1 :: rs.1, rs.2)

@[simp] theorem run_nil (s : σ) : run step s [] = .ok ([], s) := rfl

theorem run_cons (s : σ) (i : ι) (is : List ι) :
    run step s (i :: is) = do
      let r ← step s i
      let rs ← run step r.2 is
      return (r.1 :: rs.1, rs.2) := rfl

theorem run_cons_eq_ok {s : σ} {i : ι} {is : List ι} {os : List ο} {s' : σ} :
    run step s (i :: is) = .ok (os, s') ↔
      ∃ o s₁ os', step s i = .ok (o, s₁) ∧ run step s₁ is = .ok (os', s') ∧ os = o :: os' := by
  rw [run_cons, Fallible.bind_eq_ok]
  constructor
  · rintro ⟨⟨o, s₁⟩, hstep, h⟩
    obtain ⟨⟨os', s''⟩, hrun, h⟩ := Fallible.bind_eq_ok.1 h
    cases h
    exact ⟨o, s₁, os', hstep, hrun, rfl⟩
  · rintro ⟨o, s₁, os', hstep, hrun, rfl⟩
    exact ⟨(o, s₁), hstep, by simp [hrun]⟩

theorem run_append (s : σ) (is js : List ι) :
    run step s (is ++ js) = do
      let r ← run step s is
      let rs ← run step r.2 js
      return (r.1 ++ rs.1, rs.2) := by
  induction is generalizing s with
  | nil =>
    cases h : run step s js with
    | error e => simp [h]
    | ok r => simp [h]
  | cons i is ih =>
    rw [List.cons_append, run_cons, run_cons]
    cases step s i with
    | error e => rfl
    | ok r =>
      simp only [Fallible.ok_bind, ih]
      cases run step r.2 is with
      | error e => rfl
      | ok rs =>
        simp only [Fallible.ok_bind, Fallible.pure_eq_ok]
        cases run step rs.2 js with
        | error e => rfl
        | ok rs' => rfl

/-- The invariant rule: steps that succeed and keep an invariant make runs that
    succeed and keep it. -/
theorem run_ok {Inv : σ → Prop}
    (hstep : ∀ s i, Inv s → ∃ o s', step s i = .ok (o, s') ∧ Inv s')
    {s : σ} (hs : Inv s) (is : List ι) :
    ∃ os s', run step s is = .ok (os, s') ∧ Inv s' := by
  induction is generalizing s with
  | nil => exact ⟨[], s, rfl, hs⟩
  | cons i is ih =>
    obtain ⟨o, s₁, h₁, hs₁⟩ := hstep s i hs
    obtain ⟨os, s', hrun, hs'⟩ := ih hs₁
    exact ⟨o :: os, s', (run_cons_eq_ok step).2 ⟨o, s₁, os, h₁, hrun, rfl⟩, hs'⟩

/-- When it depends on the input alone whether a step fails, a run fails iff it has such an
    input. -/
theorem run_fails_iff {Bad : ι → Prop}
    (hstep : ∀ s i, (∃ e, step s i = .error e) ↔ Bad i) (s : σ) (is : List ι) :
    (∃ e, run step s is = .error e) ↔ ∃ i ∈ is, Bad i := by
  induction is generalizing s with
  | nil => simp
  | cons i is ih =>
    simp only [List.mem_cons, exists_eq_or_imp]
    rw [run_cons, ← hstep s i]
    cases h : step s i with
    | error e => exact iff_of_true ⟨e, rfl⟩ (.inl ⟨e, rfl⟩)
    | ok r =>
      rw [← ih r.2]
      cases hrun : run step r.2 is with
      | error e => exact iff_of_true ⟨e, by simp [hrun]⟩ (.inr ⟨e, rfl⟩)
      | ok rs => simp [hrun]

/-! ## Simulation -/

/-- Two machines that step alike: with the same output to states that are related, or with the
    same failure. -/
def Agree {τ : Type u} (R : σ → τ → Prop) : Except ε (ο × σ) → Except ε (ο × τ) → Prop
  | .ok (o, s), .ok (o', t) => o = o' ∧ R s t
  | .error e, .error e' => e = e'
  | _, _ => False

theorem map_fst_outputs (o : ο) (x : Except ε (List ο × σ)) :
    (x >>= fun rs => pure (o :: rs.1, rs.2)).map Prod.fst = (x.map Prod.fst).map (o :: ·) := by
  cases x with
  | error e => rfl
  | ok rs => rfl

/-- Machines that step alike from related states have the same outputs. -/
theorem run_simulates {τ : Type u} {step' : τ → ι → Except ε (ο × τ)} {R : σ → τ → Prop}
    (hstep : ∀ s t i, R s t → Agree R (step s i) (step' t i)) {s : σ} {t : τ} (h : R s t)
    (is : List ι) : (run step s is).map Prod.fst = (run step' t is).map Prod.fst := by
  induction is generalizing s t with
  | nil => rfl
  | cons i is ih =>
    have hagree := hstep s t i h
    rw [run_cons, run_cons]
    cases hs : step s i with
    | error e =>
      cases ht : step' t i with
      | error e' =>
        rw [hs, ht] at hagree
        cases hagree
        rfl
      | ok r' =>
        rw [hs, ht] at hagree
        cases hagree
    | ok r =>
      cases ht : step' t i with
      | error e' =>
        rw [hs, ht] at hagree
        cases hagree
      | ok r' =>
        rw [hs, ht] at hagree
        obtain ⟨houtput, hrelated⟩ := hagree
        simp only [Fallible.ok_bind]
        rw [map_fst_outputs, map_fst_outputs, ih hrelated, houtput]

end Run
