import Mathlib.Data.List.Basic
import Mathlib.Tactic.Common
import Mathlib.Tactic.SplitIfs

/-!
# Registers and the last write

A bank of registers `regs`, and a sequence `ws` of writes, each to the register
with a given index. `put v w` is the content after `w` is written over `v`; what
was written before is overwritten.

Results:
* `getElem?_writeAll`: after the writes a register holds the last value written
  to it, or its first content.
* `lastWrite_shift`: writing at indices moved down by `b` is reading at indices
  moved up by `b`.
-/

namespace Registers

variable {V W : Type*}

/-- The last value written to register `i`. -/
def lastWrite : List (ℕ × W) → ℕ → Option W
  | [], _ => none
  | (j, w) :: ws, i => (lastWrite ws i).or (if j = i then some w else none)

/-- The registers after the writes `ws`, in order. -/
def writeAll (put : V → W → V) (regs : List V) : List (ℕ × W) → List V
  | [] => regs
  | (i, w) :: ws => writeAll put (regs.modify i fun v => put v w) ws

/-! ## The last write -/

theorem lastWrite_eq_none {ws : List (ℕ × W)} {i : ℕ} :
    lastWrite ws i = none ↔ ∀ w ∈ ws, w.1 ≠ i := by
  induction ws with
  | nil => simp [lastWrite]
  | cons w ws ih =>
    simp only [lastWrite, Option.or_eq_none_iff, ih, List.forall_mem_cons]
    constructor
    · rintro ⟨hws, hw⟩
      refine ⟨fun heq => ?_, hws⟩
      rw [if_pos heq] at hw
      cases hw
    · rintro ⟨hw, hws⟩
      exact ⟨hws, if_neg hw⟩

theorem mem_of_lastWrite {ws : List (ℕ × W)} {i : ℕ} {w : W}
    (h : lastWrite ws i = some w) : (i, w) ∈ ws := by
  induction ws with
  | nil => cases h
  | cons w' ws ih =>
    rw [lastWrite] at h
    cases hws : lastWrite ws i with
    | some v =>
      rw [hws, Option.some_or, Option.some.injEq] at h
      subst h
      exact List.mem_cons_of_mem _ (ih hws)
    | none =>
      rw [hws, Option.none_or] at h
      split_ifs at h with heq
      cases h
      rw [← heq]
      exact List.mem_cons_self

theorem exists_lastWrite {ws : List (ℕ × W)} {w : ℕ × W} (h : w ∈ ws) :
    ∃ v, lastWrite ws w.1 = some v := by
  cases hlast : lastWrite ws w.1 with
  | some v => exact ⟨v, rfl⟩
  | none => exact absurd rfl (lastWrite_eq_none.1 hlast w h)

/-- The last value written to a register, among the writes to it. -/
theorem lastWrite_eq_getLast? (ws : List (ℕ × W)) (i : ℕ) :
    lastWrite ws i = ((ws.filter fun w => decide (w.1 = i)).getLast?).map Prod.snd := by
  induction ws with
  | nil => rfl
  | cons w ws ih =>
    obtain ⟨j, w⟩ := w
    rw [lastWrite, ih, List.filter_cons]
    by_cases hji : j = i
    · cases hrest : (ws.filter fun w => decide (w.1 = i)).getLast? with
      | none => simp [hji, List.getLast?_cons, hrest]
      | some w' => simp [hji, List.getLast?_cons, hrest]
    · simp [hji]

theorem lastWrite_shift {ws : List (ℕ × W)} {b : ℕ} (h : ∀ w ∈ ws, b ≤ w.1) (i : ℕ) :
    lastWrite (ws.map fun w => (w.1 - b, w.2)) i = lastWrite ws (i + b) := by
  induction ws with
  | nil => rfl
  | cons w ws ih =>
    have hw : b ≤ w.1 := h w (by simp)
    have hiff : w.1 - b = i ↔ w.1 = i + b := by omega
    simp only [List.map_cons, lastWrite, ih fun w' hw' => h w' (by simp [hw']), hiff]

/-! ## The registers -/

theorem writeAll_append (put : V → W → V) (regs : List V) (ws ws' : List (ℕ × W)) :
    writeAll put regs (ws ++ ws') = writeAll put (writeAll put regs ws) ws' := by
  induction ws generalizing regs with
  | nil => rfl
  | cons w ws ih => exact ih _

/-- After the writes, a register holds the last value written to it. -/
theorem getElem?_writeAll {put : V → W → V} (hput : ∀ v w w', put (put v w) w' = put v w')
    (regs : List V) (ws : List (ℕ × W)) (i : ℕ) :
    (writeAll put regs ws)[i]? =
      regs[i]?.map fun v => ((lastWrite ws i).map (put v)).getD v := by
  induction ws generalizing regs with
  | nil => simp [writeAll, lastWrite]
  | cons w ws ih =>
    obtain ⟨j, w⟩ := w
    rw [writeAll, ih, List.getElem?_modify, lastWrite]
    cases regs[i]? with
    | none => simp
    | some v =>
      by_cases hji : j = i
      · cases lastWrite ws i with
        | none => simp [hji]
        | some w' => simp [hji, hput]
      · simp [hji]

/-- A part of the registers' contents that no write changes. -/
theorem map_writeAll {P : Type*} {put : V → W → V} (part : V → P)
    (hpart : ∀ v w, part (put v w) = part v) (regs : List V) (ws : List (ℕ × W)) :
    (writeAll put regs ws).map part = regs.map part := by
  induction ws generalizing regs with
  | nil => rfl
  | cons w ws ih =>
    rw [writeAll, ih]
    apply List.ext_getElem?
    intro i
    rw [List.getElem?_map, List.getElem?_map, List.getElem?_modify]
    cases regs[i]? with
    | none => rfl
    | some v =>
      by_cases hwi : w.1 = i
      · simp [hwi, hpart]
      · simp [hwi]

end Registers
