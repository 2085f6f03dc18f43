import Mathlib.Data.List.Basic

/-!
# Flags that are combined in a number

Each flag of an enumeration is a bit of its own, but for a default flag that is none. A list of
flags is sent as the disjunction of their numbers.

Results:
* `getLsbD_combine`: the bits of the combined number are those of the flags.
* `combine_eq_iff`: two lists give the same number iff they have the same flags, the default
  flag aside; neither the order nor a repetition is seen.
-/

namespace Flags

universe u

variable {α : Type u} (number : α → Int32)

/-- The flags as one number. -/
def combine (flags : List α) : Int32 := flags.foldl (fun acc f => acc ||| number f) 0

/-- Each flag is the bit that `bit` says, or nothing. -/
def Bits (bit : α → Option ℕ) : Prop :=
  ∀ f i, (number f).toBitVec.getLsbD i = true ↔ bit f = some i

theorem getLsbD_foldl (flags : List α) (n : Int32) (i : ℕ) :
    (flags.foldl (fun acc f => acc ||| number f) n).toBitVec.getLsbD i =
      (n.toBitVec.getLsbD i || flags.any fun f => (number f).toBitVec.getLsbD i) := by
  induction flags generalizing n with
  | nil => rw [List.foldl_nil, List.any_nil, Bool.or_false]
  | cons f flags ih =>
    rw [List.foldl_cons, ih, Int32.toBitVec_or, BitVec.getLsbD_or, List.any_cons, Bool.or_assoc]

variable {number} {bit : α → Option ℕ}

theorem getLsbD_combine (hbits : Bits number bit) (flags : List α) (i : ℕ) :
    (combine number flags).toBitVec.getLsbD i = true ↔ ∃ f ∈ flags, bit f = some i := by
  unfold combine
  rw [getLsbD_foldl, Int32.toBitVec_zero, BitVec.getLsbD_zero, Bool.false_or, List.any_eq_true]
  constructor
  · rintro ⟨f, hf, hbit⟩
    exact ⟨f, hf, (hbits f i).1 hbit⟩
  · rintro ⟨f, hf, hbit⟩
    exact ⟨f, hf, (hbits f i).2 hbit⟩

/-- No two flags have one bit. -/
theorem combine_eq_iff (hbits : Bits number bit) (hinj : Function.Injective bit)
    {flags flags' : List α} :
    combine number flags = combine number flags' ↔
      ∀ f, bit f ≠ none → (f ∈ flags ↔ f ∈ flags') := by
  have hmem : ∀ (flags : List α) f i, bit f = some i →
      ((combine number flags).toBitVec.getLsbD i = true ↔ f ∈ flags) := by
    intro flags f i hf
    rw [getLsbD_combine hbits]
    constructor
    · rintro ⟨g, hg, hbit⟩
      rw [hinj (hf.trans hbit.symm)]
      exact hg
    · intro hf'
      exact ⟨f, hf', hf⟩
  constructor
  · intro h f hf
    obtain ⟨i, hi⟩ := Option.ne_none_iff_exists'.1 hf
    rw [← hmem flags f i hi, ← hmem flags' f i hi, h]
  · intro h
    apply Int32.toBitVec_inj.1
    apply BitVec.eq_of_getLsbD_eq
    intro i _
    rw [Bool.eq_iff_iff, getLsbD_combine hbits, getLsbD_combine hbits]
    refine exists_congr fun f => and_congr_left fun hf => h f ?_
    rw [hf]
    exact Option.some_ne_none i

end Flags
