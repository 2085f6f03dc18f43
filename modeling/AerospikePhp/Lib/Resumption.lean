import Mathlib.Data.List.Nodup
import Mathlib.Tactic.Common

/-!
# Resuming a sequence

A source hands out its elements in order, over several sessions. Between two sessions only the
cursor of the last element that was returned is kept; the next session goes on after the element
with that cursor.

Results:
* `after_append_cons`: what is left after an element, when no two have one cursor.
* `Reached.advance`: a session that returns a prefix of what is left, and notes its last element,
  keeps the returned elements a prefix of the source, and the cursor at its end.
-/

namespace Resumption

universe u v

variable {α : Type u} {κ : Type v} (cursor : α → κ)

/-- The cursor after a session that returned `xs`. -/
def advance (k : Option κ) (xs : List α) : Option κ := (xs.getLast?.map cursor).or k

@[simp] theorem advance_nil (k : Option κ) : advance cursor k [] = k := rfl

variable [DecidableEq κ]

/-- What is left after the element with a cursor; without one, everything. -/
def after : Option κ → List α → List α
  | none, xs => xs
  | some k, xs => (xs.dropWhile fun x => decide (cursor x ≠ k)).tail

@[simp] theorem after_none (xs : List α) : after cursor none xs = xs := rfl

theorem after_append_cons {xs ys : List α} {x : α}
    (hnodup : ((xs ++ x :: ys).map cursor).Nodup) :
    after cursor (some (cursor x)) (xs ++ x :: ys) = ys := by
  have hother : ∀ y ∈ xs, decide (cursor y ≠ cursor x) = true := by
    intro y hy
    rw [List.map_append, List.map_cons] at hnodup
    have hdisjoint := (List.nodup_append.1 hnodup).2.2
    have hne := hdisjoint (cursor y) (List.mem_map.2 ⟨y, hy, rfl⟩) (cursor x) (by simp)
    simpa using hne
  show ((xs ++ x :: ys).dropWhile fun y => decide (cursor y ≠ cursor x)).tail = ys
  rw [List.dropWhile_append_of_pos hother]
  simp

/-- What was returned, and what is left after the cursor, are the source. -/
def Reached (source returned : List α) (k : Option κ) : Prop :=
  returned ++ after cursor k source = source

variable {cursor}

theorem Reached.advance {source returned xs : List α} {k : Option κ}
    (h : Reached cursor source returned k) (hnodup : (source.map cursor).Nodup)
    (hxs : xs <+: after cursor k source) :
    Reached cursor source (returned ++ xs) (advance cursor k xs) := by
  obtain ⟨rest, hrest⟩ := hxs
  unfold Reached at h
  rw [← hrest] at h
  rcases List.eq_nil_or_concat xs with rfl | ⟨ys, y, rfl⟩
  · rw [List.nil_append] at hrest
    unfold Reached
    rw [List.append_nil, advance_nil, ← hrest]
    simpa using h
  · have hsource : source = (returned ++ ys) ++ y :: rest := by
      rw [← h]
      simp
    have hleft : after cursor (some (cursor y)) source = rest := by
      rw [hsource] at hnodup ⊢
      exact after_append_cons cursor hnodup
    have hlast : Resumption.advance cursor k (ys.concat y) = some (cursor y) := by
      simp [Resumption.advance]
    unfold Reached
    rw [hlast, hleft, hsource]
    simp

/-- A session that returns all that is left completes the source. -/
theorem Reached.complete {source returned : List α} {k : Option κ}
    (h : Reached cursor source returned k) : returned ++ after cursor k source = source := h

end Resumption
