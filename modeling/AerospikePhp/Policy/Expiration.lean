import AerospikePhp.Policy.Accessors

/-!
# Expirations on policies

Three classes of policies have an expiration, each with its own setter and getter over
the number in its message. Three numbers are not seconds: `0`, `2^32 - 1` and
`2^32 - 2`. The setter writes `Seconds(n)` as `n` without looking at them.

Results:
* `Expiration.codec_iff`: what is set is read back, and what is sent denotes it, unless it
  is a reserved number of seconds.
-/

namespace AerospikePhp

namespace Expiration

/-- What the number of an expiration stands for, on the server. -/
inductive Denotes : UInt32 → Expiration → Prop where
  | namespaceDefault : Denotes 0x00000000 namespaceDefault
  | never : Denotes 0xFFFFFFFF never
  | dontUpdate : Denotes 0xFFFFFFFE dontUpdate
  | seconds (n : UInt32) : ¬ Reserved n → Denotes n (seconds n)

/-- A number denotes one expiration, the one that it is read as. -/
theorem denotes_iff {n : UInt32} {e : Expiration} : Denotes n e ↔ ofUInt32 n = e := by
  constructor
  · intro h
    cases h with
    | seconds n hn =>
      refine (ofUInt32_toUInt32 (seconds n)).2 ?_
      intro secs heq
      cases heq
      exact hn
    | namespaceDefault => rfl
    | never => rfl
    | dontUpdate => rfl
  · rintro rfl
    unfold ofUInt32
    split_ifs with hdefault hnever hupdate
    · exact hdefault ▸ .namespaceDefault
    · exact hnever ▸ .never
    · exact hupdate ▸ .dontUpdate
    · refine .seconds n ?_
      rintro (h | h | h)
      · exact hdefault h
      · exact hnever h
      · exact hupdate h

/-- On policy `p` the expiration is read back as it was set, and the number of the
    message denotes it. -/
def KeptOn {P : Type} (acc : Accessor P Expiration) (number : P → UInt32) (e : Expiration)
    (p : P) : Prop :=
  ∃ p', acc.set p e = .ok p' ∧ acc.get p' = .ok e ∧ Denotes (number p') e

theorem keptOn_coded {P : Type} {number : P → UInt32} {put : P → UInt32 → P} {e : Expiration}
    {p : P} (hput : number (put p e.toUInt32) = e.toUInt32) :
    KeptOn (.coded toUInt32 (.ok ∘ ofUInt32) number put) number e p ↔ e.Unreserved := by
  rw [← ofUInt32_toUInt32]
  constructor
  · rintro ⟨p', hset, -, hdenotes⟩
    cases hset
    rw [denotes_iff, hput] at hdenotes
    exact hdenotes
  · intro h
    refine ⟨_, rfl, ?_, ?_⟩
    · exact congrArg Except.ok (hput.symm ▸ h)
    · rw [denotes_iff, hput]
      exact h

/-- The expiration is kept by all policies that have one. -/
def Kept (e : Expiration) : Prop :=
  (∀ p, KeptOn WritePolicy.expiration Proto.WritePolicy.expiration e p) ∧
  (∀ p, KeptOn BatchWritePolicy.expiration Proto.BatchWritePolicy.expiration e p) ∧
  (∀ p, KeptOn BatchUdfPolicy.expiration Proto.BatchUdfPolicy.expiration e p)

theorem kept_iff_unreserved (e : Expiration) : Kept e ↔ e.Unreserved := by
  constructor
  · rintro ⟨h, -, -⟩
    exact (keptOn_coded rfl).1 (h WritePolicy.default)
  · intro h
    exact ⟨fun _ => (keptOn_coded rfl).2 h, fun _ => (keptOn_coded rfl).2 h,
      fun _ => (keptOn_coded rfl).2 h⟩

/-- The expirations are kept that are not reserved seconds, and every number is written
    as it was read. -/
theorem codec_iff (e : Expiration) :
    (Kept e ∧ ∀ n : UInt32, (ofUInt32 n).toUInt32 = n) ↔ e.Unreserved := by
  rw [and_iff_left toUInt32_ofUInt32]
  exact kept_iff_unreserved e

/-- `Seconds(2^32 - 1)` never expires. -/
theorem codec_seconds_max :
    ¬ (Kept (seconds 0xFFFFFFFF) ∧ ∀ n : UInt32, (ofUInt32 n).toUInt32 = n) := by
  rintro ⟨hkept, -⟩
  exact (kept_iff_unreserved _).1 hkept 0xFFFFFFFF rfl (.inr (.inl rfl))

end Expiration

end AerospikePhp
