import Mathlib.Data.List.Forall2
import Mathlib.Tactic.Common

/-!
# Computations that may fail

The equations of `Except` that turn a `do` block into a chain of rewrites, and
the rule for a loop that stops at the first failing element (`List.mapM` in the
`Except` monad).

Results:
* `bind_eq_ok`: a sequence succeeds iff both of its parts do.
* `exists_both_eq_ok`: two independent computations succeed iff each does.
* `isOk_bind`: when a sequence succeeds, if its second part does not depend on
  the result of the first.
* `mapM_ok`: a loop whose body always succeeds collects the results in order.
* `mapM_eq_ok_iff`: a loop succeeds iff its body succeeds at every element, and
  then the results are those of the elements, in order.
* `mapM_getElem?`: the same by position.
* `failure_bind`, `failure_mapM`: the failure of a sequence or of a loop is the first one.
-/

namespace Fallible

universe u

variable {ε α β γ δ : Type u}

/-! ## Equations of the monad -/

@[simp] theorem pure_eq_ok (a : α) : (pure a : Except ε α) = .ok a := rfl

@[simp] theorem ok_bind (a : α) (f : α → Except ε β) :
    ((.ok a : Except ε α) >>= f) = f a := rfl

@[simp] theorem error_bind (e : ε) (f : α → Except ε β) :
    ((.error e : Except ε α) >>= f) = .error e := rfl

theorem bind_eq_ok {x : Except ε α} {f : α → Except ε β} {b : β} :
    (x >>= f) = .ok b ↔ ∃ a, x = .ok a ∧ f a = .ok b := by
  cases x with
  | error e => simp
  | ok a => simp

theorem map_eq_ok {x : Except ε α} {f : α → β} {b : β} :
    x.map f = .ok b ↔ ∃ a, x = .ok a ∧ f a = b := by
  cases x with
  | error e => simp [Except.map]
  | ok a => simp [Except.map]

theorem exists_map_eq_ok {x : Except ε α} {f : α → β} :
    (∃ b, x.map f = .ok b) ↔ ∃ a, x = .ok a := by
  cases x with
  | error e => simp [Except.map]
  | ok a => simp [Except.map]

theorem exists_bind_pure_eq_ok {x : Except ε α} {f : α → β} :
    (∃ b, (x >>= fun a => pure (f a)) = .ok b) ↔ ∃ a, x = .ok a := by
  cases x with
  | error e => simp
  | ok a => simp

theorem mapError_eq_ok {x : Except ε α} {f : ε → δ} {a : α} :
    x.mapError f = .ok a ↔ x = .ok a := by
  cases x with
  | error e => simp [Except.mapError]
  | ok b => simp [Except.mapError]

theorem map_some_eq_ok {x : Except ε α} {a : α} :
    x.map some = .ok (some a) ↔ x = .ok a := by
  cases x with
  | error e => simp [Except.map]
  | ok b => simp [Except.map]

@[simp] theorem toOption_ok (a : α) : (.ok a : Except ε α).toOption = some a := rfl

@[simp] theorem toOption_error (e : ε) : (.error e : Except ε α).toOption = none := rfl

/-- Success, seen as an optional result: sequencing commutes with
    forgetting which failure occurred. -/
theorem toOption_bind (x : Except ε α) (f : α → Except ε β) :
    (x >>= f).toOption = x.toOption.bind fun a => (f a).toOption := by
  cases x with
  | error e => rfl
  | ok a => rfl

theorem toOption_bind_pure (x : Except ε α) (g : α → β) :
    (x >>= fun a => pure (g a)).toOption = x.toOption.map g := by
  cases x with
  | error e => rfl
  | ok a => rfl

/-- The same for a computation that succeeds iff a condition holds. -/
theorem toOption_bind_pure_of_ite {x : Except ε α} {c : Prop} [Decidable c] {a : α} (g : α → β)
    (h : x.toOption = if c then some a else none) :
    (x >>= fun a => pure (g a)).toOption = if c then some (g a) else none := by
  rw [toOption_bind_pure, h]
  split_ifs
  · rfl
  · rfl

theorem toOption_eq_some {x : Except ε α} {a : α} : x.toOption = some a ↔ x = .ok a := by
  cases x with
  | error e => simp
  | ok b => simp

/-- A sequence that succeeds has a second part that succeeds, here one that does not
    depend on the first. -/
theorem exists_second_of_eq_ok {x : Except ε α} {y : Except ε β} {f : α → β → Except ε γ} {c : γ}
    (h : (x >>= fun a => y >>= f a) = .ok c) : ∃ b, y = .ok b := by
  obtain ⟨a, -, h⟩ := bind_eq_ok.1 h
  obtain ⟨b, hb, -⟩ := bind_eq_ok.1 h
  exact ⟨b, hb⟩

/-- Two computations, neither of which depends on the result of the other. -/
theorem exists_both_eq_ok {x : Except ε α} {y : Except ε β} {g : α → β → γ} :
    (∃ c, (x >>= fun a => y >>= fun b => pure (g a b)) = .ok c) ↔
      (∃ a, x = .ok a) ∧ ∃ b, y = .ok b := by
  cases x with
  | error e => simp
  | ok a =>
    cases y with
    | error e => simp
    | ok b => simp

/-- When one of two such computations fails, so does what is made of both. -/
theorem both_eq_error {x : Except ε α} {y : Except ε β} {f : α → β → γ} {g : α → β → Except ε δ}
    {e : ε} (h : (x >>= fun a => y >>= fun b => pure (f a b)) = .error e) :
    (x >>= fun a => y >>= g a) = .error e := by
  cases x with
  | error e' =>
    cases h
    rfl
  | ok a =>
    cases y with
    | error e' =>
      cases h
      rfl
    | ok b => cases h

/-! ## Does a computation succeed? -/

@[simp] theorem isOk_ok (a : α) : (.ok a : Except ε α).isOk = true := rfl

@[simp] theorem isOk_error (e : ε) : (.error e : Except ε α).isOk = false := rfl

theorem isOk_iff {x : Except ε α} : x.isOk = true ↔ ∃ a, x = .ok a := by
  cases x with
  | error e => simp
  | ok a => simp

/-- A sequence whose second part succeeds or not whatever the first part
    returned. -/
theorem isOk_bind {x : Except ε α} {f : α → Except ε β} (c : Bool)
    (h : ∀ a, (f a).isOk = c) : (x >>= f).isOk = (x.isOk && c) := by
  cases x with
  | error e => simp
  | ok a => simp [h a]

@[simp] theorem isOk_bind_pure (x : Except ε α) (g : α → β) :
    (x >>= fun a => .ok (g a)).isOk = x.isOk := by
  cases x with
  | error e => rfl
  | ok a => rfl

/-! ## Loops that stop at the first failure -/

theorem mapM_ok (f : α → Except ε β) (g : α → β) :
    ∀ xs : List α, (∀ x ∈ xs, f x = .ok (g x)) → xs.mapM f = .ok (xs.map g)
  | [], _ => by simp
  | x :: xs, h => by
    have hx : f x = .ok (g x) := h x (by simp)
    have hxs := mapM_ok f g xs fun y hy => h y (by simp [hy])
    simp [hx, hxs]

theorem mapM_eq_ok_iff (f : α → Except ε β) (xs : List α) (ys : List β) :
    xs.mapM f = .ok ys ↔ List.Forall₂ (fun x y => f x = .ok y) xs ys := by
  induction xs generalizing ys with
  | nil =>
    constructor
    · intro h
      simp only [List.mapM_nil, pure_eq_ok, Except.ok.injEq] at h
      subst h
      exact .nil
    · intro h
      cases h
      rfl
  | cons x xs ih =>
    rw [List.mapM_cons, bind_eq_ok]
    constructor
    · rintro ⟨y, hy, h⟩
      obtain ⟨zs, hzs, h⟩ := bind_eq_ok.1 h
      simp only [pure_eq_ok, Except.ok.injEq] at h
      subst h
      exact .cons hy ((ih zs).1 hzs)
    · intro h
      cases h with
      | cons hy hys => exact ⟨_, hy, by simp [(ih _).2 hys]⟩

/-- The results of a loop by position. -/
theorem mapM_getElem? {f : α → Except ε β} {xs : List α} {ys : List β} (h : xs.mapM f = .ok ys)
    {i : ℕ} {x : α} (hx : xs[i]? = some x) : ∃ y, ys[i]? = some y ∧ f x = .ok y := by
  have hrel := (mapM_eq_ok_iff f xs ys).1 h
  obtain ⟨hi, rfl⟩ := List.getElem?_eq_some_iff.1 hx
  have hi' : i < ys.length := hrel.length_eq ▸ hi
  exact ⟨ys[i], List.getElem?_eq_getElem hi', hrel.get hi hi'⟩

theorem mapM_length {f : α → Except ε β} {xs : List α} {ys : List β} (h : xs.mapM f = .ok ys) :
    ys.length = xs.length :=
  ((mapM_eq_ok_iff f xs ys).1 h).length_eq.symm

/-- A result of a loop is that of one of its elements. -/
theorem exists_of_mem_mapM {f : α → Except ε β} {xs : List α} {ys : List β}
    (h : xs.mapM f = .ok ys) {y : β} (hy : y ∈ ys) : ∃ x ∈ xs, f x = .ok y := by
  have hrel := (mapM_eq_ok_iff f xs ys).1 h
  induction hrel generalizing y with
  | nil => simp at hy
  | @cons x z xs ys hx hxs ih =>
    rcases List.mem_cons.1 hy with rfl | hy
    · exact ⟨x, List.mem_cons_self, hx⟩
    · obtain ⟨x', hx', hy⟩ := ih ((mapM_eq_ok_iff f xs ys).2 hxs) hy
      exact ⟨x', List.mem_cons_of_mem x hx', hy⟩

/-- A loop whose body succeeds at every element. -/
theorem exists_mapM_eq_ok {f : α → Except ε β} {P : α → β → Prop} {xs : List α}
    (h : ∀ x ∈ xs, ∃ y, f x = .ok y ∧ P x y) :
    ∃ ys, xs.mapM f = .ok ys ∧ List.Forall₂ P xs ys := by
  induction xs with
  | nil => exact ⟨[], rfl, .nil⟩
  | cons x xs ih =>
    obtain ⟨y, hy, hPy⟩ := h x List.mem_cons_self
    obtain ⟨ys, hys, hPys⟩ := ih fun z hz => h z (List.mem_cons_of_mem x hz)
    exact ⟨y :: ys, by simp [hy, hys], .cons hPy hPys⟩

/-- Elements that are encoded by one loop are decoded by another as what they stand for iff
    each of them is. -/
theorem mapM_mapM_eq_map_iff {f : α → Except ε β} {g : β → Except δ γ} {h : α → γ}
    {xs : List α} :
    (∃ ys, xs.mapM f = .ok ys ∧ ys.mapM g = .ok (xs.map h)) ↔
      ∀ x ∈ xs, ∃ y, f x = .ok y ∧ g y = .ok (h x) := by
  simp only [mapM_eq_ok_iff, List.forall₂_map_right_iff]
  constructor
  · rintro ⟨ys, hf, hg⟩
    induction hf with
    | nil => simp
    | @cons x y xs ys hx _ ih =>
      obtain ⟨hy, hg⟩ := List.forall₂_cons.1 hg
      exact List.forall_mem_cons.2 ⟨⟨y, hx, hy⟩, ih hg⟩
  · intro hall
    induction xs with
    | nil => exact ⟨[], .nil, .nil⟩
    | cons x xs ih =>
      obtain ⟨⟨y, hx, hy⟩, hall⟩ := List.forall_mem_cons.1 hall
      obtain ⟨ys, hf, hg⟩ := ih hall
      exact ⟨y :: ys, .cons hx hf, .cons hy hg⟩

/-- A loop over elements `ys` that stand for elements `xs`, whose body succeeds for some
    of these and fails for the others. -/
theorem toOption_mapM_of_forall₂ {f : β → Except ε γ} {p : α → Bool} {g : α → γ} {xs : List α}
    {ys : List β}
    (h : List.Forall₂ (fun x y => (f y).toOption = if p x then some (g x) else none) xs ys) :
    (ys.mapM f).toOption = if xs.all p then some (xs.map g) else none := by
  induction h with
  | nil => rfl
  | @cons x y xs ys hxy hrest ih =>
    rw [List.mapM_cons, toOption_bind, hxy, List.all_cons, List.map_cons]
    cases p x with
    | false => rfl
    | true =>
      simp only [if_true, Option.bind_some, toOption_bind_pure, ih, Bool.true_and]
      cases xs.all p with
      | false => rfl
      | true => rfl

theorem toOption_mapM (f : α → Except ε β) (p : α → Bool) (g : α → β) (xs : List α)
    (h : ∀ x ∈ xs, (f x).toOption = if p x then some (g x) else none) :
    (xs.mapM f).toOption = if xs.all p then some (xs.map g) else none :=
  toOption_mapM_of_forall₂ (List.forall₂_same.2 h)

/-! ## Which failure -/

/-- The failure of a computation, if it fails. -/
def failure : Except ε α → Option ε
  | .error e => some e
  | .ok _ => none

@[simp] theorem failure_ok (a : α) : failure (.ok a : Except ε α) = none := rfl

@[simp] theorem failure_error (e : ε) : failure (.error e : Except ε α) = some e := rfl

theorem failure_eq_some {x : Except ε α} {e : ε} : failure x = some e ↔ x = .error e := by
  cases x with
  | error e' => simp
  | ok a => simp

/-- A sequence whose second part fails or not whatever the first part returned. -/
theorem failure_bind {x : Except ε α} {f : α → Except ε β} {o : Option ε}
    (h : ∀ a, failure (f a) = o) : failure (x >>= f) = (failure x).or o := by
  cases x with
  | error e => rfl
  | ok a => exact h a

theorem failure_bind_pure {x : Except ε α} {f : α → β} :
    failure (x >>= fun a => pure (f a)) = failure x := by
  cases x with
  | error e => rfl
  | ok a => rfl

theorem failure_mapError {x : Except ε α} {f : ε → δ} :
    failure (x.mapError f) = (failure x).map f := by
  cases x with
  | error e => rfl
  | ok a => rfl

theorem failure_mapM {f : α → Except ε β} {xs : List α} :
    failure (xs.mapM f) = xs.findSome? fun x => failure (f x) := by
  induction xs with
  | nil => rfl
  | cons x xs ih =>
    rw [List.mapM_cons, failure_bind fun _ => failure_bind_pure, ih, List.findSome?_cons]
    cases failure (f x) with
    | none => rfl
    | some e => rfl

end Fallible
