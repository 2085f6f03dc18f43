import Mathlib.Data.List.Basic
import Mathlib.Tactic.Common

/-!
# Transition systems

`step s e` is the state after the event `e`, or `none` when `e` cannot happen in the
state `s`. A run is a list of events that happen one after the other; the events of
several parties are interleaved in it.

Results:
* `run_append_eq_some`: a run over two lists of events is a run followed by a run.
* `run_invariant`: what every possible event keeps, every run keeps.
-/

namespace Transition

universe u v

variable {σ : Type u} {ε : Type v} (step : σ → ε → Option σ)

/-- The state after the events, if each of them can happen in its turn. -/
def run : σ → List ε → Option σ
  | s, [] => some s
  | s, e :: es => (step s e).bind fun s₁ => run s₁ es

@[simp] theorem run_nil (s : σ) : run step s [] = some s := rfl

theorem run_cons_eq_some {s s' : σ} {e : ε} {es : List ε} :
    run step s (e :: es) = some s' ↔ ∃ s₁, step s e = some s₁ ∧ run step s₁ es = some s' :=
  Option.bind_eq_some_iff

theorem run_append_eq_some {s s' : σ} {es es' : List ε} :
    run step s (es ++ es') = some s' ↔
      ∃ s₁, run step s es = some s₁ ∧ run step s₁ es' = some s' := by
  induction es generalizing s with
  | nil => simp
  | cons e es ih =>
    simp only [List.cons_append, run_cons_eq_some, ih]
    constructor
    · rintro ⟨s₁, hstep, s₂, hrun, hrun'⟩
      exact ⟨s₂, ⟨s₁, hstep, hrun⟩, hrun'⟩
    · rintro ⟨s₂, ⟨s₁, hstep, hrun⟩, hrun'⟩
      exact ⟨s₁, hstep, s₂, hrun, hrun'⟩

/-- One event on top of a run. -/
theorem run_concat_eq_some {s s' : σ} {es : List ε} {e : ε} :
    run step s (es ++ [e]) = some s' ↔ ∃ s₁, run step s es = some s₁ ∧ step s₁ e = some s' := by
  simp [run_append_eq_some, run_cons_eq_some]

/-- The invariant rule, for runs of events of a kind `K`. -/
theorem run_invariant {I : σ → Prop} {K : ε → Prop}
    (hstep : ∀ s e s', K e → I s → step s e = some s' → I s') {s s' : σ} {es : List ε}
    (hkind : ∀ e ∈ es, K e) (hs : I s) (h : run step s es = some s') : I s' := by
  induction es generalizing s with
  | nil =>
    simp only [run_nil, Option.some.injEq] at h
    exact h ▸ hs
  | cons e es ih =>
    obtain ⟨s₁, hfirst, hrest⟩ := (run_cons_eq_some step).1 h
    have hs₁ : I s₁ := hstep s e s₁ (hkind e (by simp)) hs hfirst
    exact ih (fun e' he' => hkind e' (by simp [he'])) hs₁ hrest

end Transition
