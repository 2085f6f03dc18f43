import Mathlib.Data.List.Basic

/-!
# Lists that are split at an element

Two ways to write one list around an element with a property agree when the elements on
one side of it do not have the property.

Results:
* `append_cons_inj`: split at the first such element.
* `append_cons_inj_last`: split at the last such element.
* `takeWhile_append_cons`, `dropWhile_append_cons`, `of_dropWhile_eq_cons`: what `takeWhile` and
  `dropWhile` make of a list is the split at the first element that they stop at.
-/

namespace Split

variable {α : Type*} {p : α → Prop} {a b s t : List α} {x y : α}

theorem append_cons_inj (ha : ∀ c ∈ a, ¬ p c) (hb : ∀ c ∈ b, ¬ p c) (hx : p x) (hy : p y)
    (h : a ++ x :: s = b ++ y :: t) : a = b ∧ x = y ∧ s = t := by
  induction a generalizing b with
  | nil =>
    cases b with
    | nil =>
      rw [List.nil_append, List.nil_append, List.cons.injEq] at h
      exact ⟨rfl, h⟩
    | cons c b =>
      rw [List.nil_append, List.cons_append, List.cons.injEq] at h
      exact absurd (h.1 ▸ hx) (hb c List.mem_cons_self)
  | cons c a ih =>
    cases b with
    | nil =>
      rw [List.nil_append, List.cons_append, List.cons.injEq] at h
      exact absurd (h.1 ▸ hy) (ha c List.mem_cons_self)
    | cons d b =>
      rw [List.cons_append, List.cons_append, List.cons.injEq] at h
      obtain ⟨rfl, h⟩ := h
      obtain ⟨rfl, hrest⟩ := ih (fun e he => ha e (List.mem_cons_of_mem c he))
        (fun e he => hb e (List.mem_cons_of_mem c he)) h
      exact ⟨rfl, hrest⟩

/-- The same from the other end. -/
theorem append_cons_inj_last (hs : ∀ c ∈ s, ¬ p c) (ht : ∀ c ∈ t, ¬ p c) (hx : p x) (hy : p y)
    (h : a ++ x :: s = b ++ y :: t) : a = b ∧ x = y ∧ s = t := by
  have hrev : s.reverse ++ x :: a.reverse = t.reverse ++ y :: b.reverse := by
    simpa using congrArg List.reverse h
  obtain ⟨hst, hxy, hab⟩ := append_cons_inj (fun c hc => hs c (List.mem_reverse.1 hc))
    (fun c hc => ht c (List.mem_reverse.1 hc)) hx hy hrev
  exact ⟨List.reverse_inj.1 hab, hxy, List.reverse_inj.1 hst⟩

/-! ## Where a run of elements ends -/

variable {q : α → Bool}

theorem takeWhile_append_cons (ha : ∀ c ∈ a, q c = true) (hx : q x = false) :
    (a ++ x :: s).takeWhile q = a := by
  rw [List.takeWhile_append_of_pos ha]
  simp [hx]

theorem dropWhile_append_cons (ha : ∀ c ∈ a, q c = true) (hx : q x = false) :
    (a ++ x :: s).dropWhile q = x :: s := by
  rw [List.dropWhile_append_of_pos ha]
  simp [hx]

theorem of_dropWhile_eq_cons (h : a.dropWhile q = x :: s) :
    q x = false ∧ a = a.takeWhile q ++ x :: s := by
  constructor
  · have hhead := List.head?_dropWhile_not q a
    rw [h] at hhead
    simpa using hhead
  · conv_lhs => rw [← List.takeWhile_append_dropWhile (p := q) (l := a), h]

end Split
