import Mathlib.Data.List.Basic
import Mathlib.Tactic.Common

/-!
# Handlers over a service with a state

A handler converts its arguments, which can fail, and calls a service, which answers and changes
its state. What the service has done stays done when the handler fails later.

Results:
* `run_convert_bind`, `run_perform_bind`: what the two kinds of steps do.
* `Session.after_congr`, `Session.along_iff`: two systems that go on alike at each input of a
  kind leave the same state, and their runs satisfy equivalent conditions at each step.
-/

universe u

/-- Computations that fail with `ε`, over a service with the state `σ`. -/
abbrev Handler (σ ε : Type) (α : Type) := ExceptT ε (StateM σ) α

namespace Handler

variable {σ ε α β : Type}

/-- What a handler answers, and the state that it leaves. -/
def run (h : Handler σ ε α) (s : σ) : Except ε α × σ := h s

/-- A conversion: the service is not involved. -/
def convert (x : Except ε α) : Handler σ ε α := fun s => (x, s)

/-- A call of the service. -/
def perform (call : σ → α × σ) : Handler σ ε α := fun s => (.ok (call s).1, (call s).2)

@[simp] theorem run_pure (a : α) (s : σ) : run (pure a : Handler σ ε α) s = (.ok a, s) := rfl

@[simp] theorem run_convert (x : Except ε α) (s : σ) :
    run (convert x : Handler σ ε α) s = (x, s) := rfl

theorem run_convert_bind (x : Except ε α) (f : α → Handler σ ε β) (s : σ) :
    run (convert x >>= f) s = match x with
      | .ok a => run (f a) s
      | .error e => (.error e, s) := by
  cases x with
  | ok a => rfl
  | error e => rfl

@[simp] theorem run_ok_bind (a : α) (f : α → Handler σ ε β) (s : σ) :
    run (convert (.ok a) >>= f) s = run (f a) s := rfl

@[simp] theorem run_error_bind (e : ε) (f : α → Handler σ ε β) (s : σ) :
    run (convert (.error e) >>= f) s = (.error e, s) := rfl

@[simp] theorem run_perform_bind (call : σ → α × σ) (f : α → Handler σ ε β) (s : σ) :
    run (perform call >>= f) s = run (f (call s).1) (call s).2 := rfl

end Handler

/-! ## Runs -/

namespace Session

variable {σ ι : Type}

/-- The state after the inputs. -/
def after (next : σ → ι → σ) (s : σ) (inputs : List ι) : σ := inputs.foldl next s

/-- The condition holds at each step of a run. -/
def Along (next : σ → ι → σ) (P : σ → ι → Prop) : σ → List ι → Prop
  | _, [] => True
  | s, i :: inputs => P s i ∧ Along next P (next s i) inputs

section Alike

variable {next next' : σ → ι → σ} {K : ι → Prop} {inputs : List ι}

/-- Two systems that go on alike at each input of a kind leave the same state. -/
theorem after_congr (hnext : ∀ s i, K i → next s i = next' s i) (s : σ)
    (hkind : ∀ i ∈ inputs, K i) : after next s inputs = after next' s inputs := by
  induction inputs generalizing s with
  | nil => rfl
  | cons i inputs ih =>
    show after next (next s i) inputs = after next' (next' s i) inputs
    rw [hnext s i (hkind i (by simp)), ih _ fun i' hi' => hkind i' (by simp [hi'])]

theorem along_iff {P Q : σ → ι → Prop} (hnext : ∀ s i, K i → next s i = next' s i)
    (hstep : ∀ s i, K i → (P s i ↔ Q s i)) (s : σ) (hkind : ∀ i ∈ inputs, K i) :
    Along next P s inputs ↔ Along next' Q s inputs := by
  induction inputs generalizing s with
  | nil => exact Iff.rfl
  | cons i inputs ih =>
    have hi : K i := hkind i (by simp)
    unfold Along
    rw [hstep s i hi, hnext s i hi, ih _ fun i' hi' => hkind i' (by simp [hi'])]

end Alike

end Session
