import Mathlib.Algebra.Order.Ring.Nat
import Mathlib.Data.List.Basic
import Mathlib.Tactic.Common

/-!
# One numeral in two bases

`Nat.ofDigitChars b ds` is the number that the digits `ds` denote in base `b`.

Main results:
* `ofDigitChars_eq_iff`: digits of a base `b` denote the same number in a larger base iff
  that number is less than `b`.
* `head?_toDigits_ne`: a positive number is written without a leading zero.
-/

namespace Numeral

open Nat (ofDigitChars)

variable {a a' b b' : ℕ} {ds : List Char} {c : Char}

theorem le_ofDigitChars (hb : 0 < b) : a ≤ ofDigitChars b ds a := by
  induction ds generalizing a with
  | nil => rw [Nat.ofDigitChars_nil]
  | cons d ds ih =>
    rw [Nat.ofDigitChars_cons]
    have hmul : a ≤ b * a := Nat.le_mul_of_pos_left a hb
    have hrest := @ih (b * a + (d.toNat - '0'.toNat))
    omega

theorem digit_le_ofDigitChars (hb : 0 < b) (hc : c ∈ ds) :
    c.toNat - '0'.toNat ≤ ofDigitChars b ds a := by
  induction ds generalizing a with
  | nil => cases hc
  | cons d ds ih =>
    rw [Nat.ofDigitChars_cons]
    rcases List.mem_cons.1 hc with rfl | hc
    · have hrest : b * a + (c.toNat - '0'.toNat) ≤ ofDigitChars b ds _ := le_ofDigitChars hb
      omega
    · exact ih hc

theorem ofDigitChars_mono (hb : b ≤ b') (ha : a ≤ a') :
    ofDigitChars b ds a ≤ ofDigitChars b' ds a' := by
  induction ds generalizing a a' with
  | nil => rwa [Nat.ofDigitChars_nil, Nat.ofDigitChars_nil]
  | cons d ds ih =>
    rw [Nat.ofDigitChars_cons, Nat.ofDigitChars_cons]
    exact ih (Nat.add_le_add_right (Nat.mul_le_mul hb ha) _)

/-- Only the last digit may differ from zero. -/
theorem ofDigitChars_eq_iff (hb : 0 < b) (hbb : b < b') :
    ((∀ d ∈ ds, d.toNat - '0'.toNat < b) ∧ ofDigitChars b ds 0 = ofDigitChars b' ds 0) ↔
      ofDigitChars b' ds 0 < b := by
  rcases List.eq_nil_or_concat' ds with rfl | ⟨ds, d, rfl⟩
  · simpa using hb
  have hle : ofDigitChars b ds 0 ≤ ofDigitChars b' ds 0 := ofDigitChars_mono hbb.le le_rfl
  have hvalue (k : ℕ) : ofDigitChars k (ds ++ [d]) 0 =
      k * ofDigitChars k ds 0 + (d.toNat - '0'.toNat) := by
    rw [Nat.ofDigitChars_append, Nat.ofDigitChars_cons, Nat.ofDigitChars_nil]
  constructor
  · rintro ⟨hdigits, heq⟩
    rw [hvalue, hvalue] at heq
    have hzero : ofDigitChars b' ds 0 = 0 := by
      by_contra hne
      have hlt : b * ofDigitChars b' ds 0 < b' * ofDigitChars b' ds 0 :=
        Nat.mul_lt_mul_of_pos_right hbb (Nat.pos_of_ne_zero hne)
      have hmul : b * ofDigitChars b ds 0 ≤ b * ofDigitChars b' ds 0 := Nat.mul_le_mul_left b hle
      omega
    have hlast := hdigits d (by simp)
    rw [hvalue, hzero, Nat.mul_zero, Nat.zero_add]
    exact hlast
  · intro hlt
    refine ⟨fun e he => Nat.lt_of_le_of_lt (digit_le_ofDigitChars (by omega) he) hlt, ?_⟩
    rw [hvalue] at hlt
    have hzero : ofDigitChars b' ds 0 = 0 := by
      by_contra hne
      have hmul : b' ≤ b' * ofDigitChars b' ds 0 :=
        Nat.le_mul_of_pos_right b' (Nat.pos_of_ne_zero hne)
      omega
    rw [hzero] at hle
    rw [hvalue, hvalue, hzero, Nat.eq_zero_of_le_zero hle, Nat.mul_zero, Nat.mul_zero]

theorem head?_toDigits_ne {n : ℕ} (hn : 0 < n) : (Nat.toDigits 10 n).head? ≠ some '0' := by
  induction n using Nat.strongRecOn with
  | ind n ih =>
    by_cases hlt : n < 10
    · have hdigit : ∀ m < 10, 0 < m → m.digitChar ≠ '0' := by decide
      rw [Nat.toDigits_of_lt_base hlt, List.head?_cons]
      intro h
      exact hdigit n hlt hn (Option.some.inj h)
    · have hrest := ih (n / 10) (by omega) (by omega)
      rw [Nat.toDigits_of_base_le (by decide) (Nat.not_lt.1 hlt),
        List.head?_append_of_ne_nil _ Nat.toDigits_ne_nil]
      exact hrest

end Numeral
