import AerospikePhp.Key.Program
import AerospikePhp.Value.RoundTrip

/-!
# The partition of a key

`Key::partition_id` (`src/lib.rs` lines 10876–10882) slices four bytes off the digest
that `Key::get_digest_bytes` reports. That digest is empty for a value that is no user key,
and `compute_digest` runs even when the message has a digest of its own.

Main results:
* `Key.located_iff`: the messages whose digest and partition can both be asked for.
* `Key.located_construct`: of the keys that a program builds, those of a user key.
-/

namespace AerospikePhp

namespace Proto.Value

/-- A value that `write_key_bytes` accepts once it is decoded. -/
def isUserKey : Proto.Value → Bool
  | i _ | s _ | blob _ => true
  | _ => false

/-- A value that `particle_type` has a number for once it is decoded. -/
def hasParticleType : Proto.Value → Bool
  | infinity _ | wildcard _ => false
  | _ => true

end Proto.Value

namespace Key

/-! ## What is expected -/

/-- The low 12 bits of the first four bytes, little endian; absent where there is no
    digest. -/
def expectedPartition : List UInt8 → Option ℕ
  | b₀ :: b₁ :: b₂ :: b₃ :: _ =>
    some ((b₀.toNat + 2 ^ 8 * b₁.toNat + 2 ^ 16 * b₂.toNat + 2 ^ 24 * b₃.toNat) % 2 ^ 12)
  | _ => none

theorem expectedPartition_lt {d : List UInt8} {pid : ℕ} (h : pid ∈ expectedPartition d) :
    pid < partitions := by
  unfold expectedPartition at h
  split at h
  · rw [Option.mem_some_iff] at h
    rw [← h]
    exact Nat.mod_lt _ (by decide)
  · cases h

/-- `digestPartition` is the expected partition wherever it returns, and it returns iff
    there are four bytes. -/
theorem digestPartition_eq (d : List UInt8) :
    (digestPartition d).map some = .ok (expectedPartition d) ↔ 4 ≤ d.length := by
  have hmask : partitions - 1 = 2 ^ 12 - 1 := rfl
  rcases d with _ | ⟨b₀, _ | ⟨b₁, _ | ⟨b₂, _ | ⟨b₃, d⟩⟩⟩⟩
  · simp [digestPartition, Except.map]
  · simp [digestPartition, Except.map]
  · simp [digestPartition, Except.map]
  · simp [digestPartition, Except.map]
  · rw [digestPartition, expectedPartition, hmask, Nat.and_two_pow_sub_one_eq_mod]
    simp [Except.map]

section Located

variable (ripemd160 : List UInt8 → Digest)

/-- The digest of the key and its partition can be asked for, and the partition is the
    expected one. -/
def Located (key : Proto.Key) : Prop :=
  ∃ d, getDigestBytes ripemd160 key = .ok d ∧
    (partitionId ripemd160 key).map some = .ok (expectedPartition d) ∧
    ∀ pid ∈ expectedPartition d, pid < partitions

/-- Nothing stands in the way of hashing: the value, if there is one, can be decoded and
    has a particle type. -/
def Hashable (key : Proto.Key) : Prop :=
  key.set.isSome → ∀ v ∈ key.value, v.decodable ∧ v.hasParticleType

/-- The digest that the message holds or that its user key has is at least four bytes long. -/
def HasDigest (key : Proto.Key) : Prop :=
  match key.digest with
  | some d => 4 ≤ d.length
  | none => key.set.isSome ∧ ∃ v ∈ key.value, v.isUserKey

/-! ## When it is met -/

/-- The kind of a decoded value is that of the message. -/
theorem kind_fromProto {v : Proto.Value} {w : PHPValue} (h : PHPValue.fromProto v = .ok w) :
    w.particleType.isOk = v.hasParticleType ∧ w.writeKeyBytes.isSome = v.isUserKey := by
  cases v with
  | unset =>
    rw [PHPValue.fromProto] at h
    cases h
  | l l =>
    rw [PHPValue.fromProto] at h
    obtain ⟨vs, -, hw⟩ := Fallible.bind_eq_ok.1 h
    cases hw
    exact ⟨rfl, rfl⟩
  | json j =>
    rw [PHPValue.fromProto] at h
    obtain ⟨es, -, hw⟩ := Fallible.bind_eq_ok.1 h
    cases hw
    exact ⟨rfl, rfl⟩
  | m m =>
    rw [PHPValue.fromProto] at h
    obtain ⟨es, -, hw⟩ := Fallible.bind_eq_ok.1 h
    cases hw
    exact ⟨rfl, rfl⟩
  | _ =>
    rw [PHPValue.fromProto] at h
    cases h
    exact ⟨rfl, rfl⟩

/-- What is hashed for a decoded value with a particle type: nothing unless it is a user
    key. -/
theorem computeDigest_of_fromProto {key : Proto.Key} {set : String} {v : Proto.Value}
    {w : PHPValue} (hset : key.set = some set) (hvalue : key.value = some v)
    (hw : PHPValue.fromProto v = .ok w) (hv : v.hasParticleType = true) :
    ∃ d, computeDigest ripemd160 key = .ok d ∧ d.length = if v.isUserKey then 20 else 0 := by
  obtain ⟨hparticle, hbytes⟩ := kind_fromProto hw
  obtain ⟨particleType, hpt⟩ := Fallible.isOk_iff.1 (hparticle.trans hv)
  rw [computeDigest, hset, hvalue]
  simp only [hw, hpt, Fallible.ok_bind]
  cases hb : w.writeKeyBytes with
  | some bytes =>
    have hkey : v.isUserKey = true := by rw [← hbytes, hb, Option.isSome_some]
    refine ⟨_, rfl, ?_⟩
    rw [if_pos hkey]
    exact List.Vector.toList_length _
  | none =>
    have hkey : v.isUserKey = false := by rw [← hbytes, hb, Option.isSome_none]
    refine ⟨[], rfl, ?_⟩
    rw [hkey]
    rfl

theorem exists_computeDigest_iff (key : Proto.Key) :
    (∃ d, computeDigest ripemd160 key = .ok d) ↔ Hashable key := by
  unfold Hashable
  cases hset : key.set with
  | none => simp [computeDigest, hset]
  | some set =>
    cases hvalue : key.value with
    | none => simp [computeDigest, hset, hvalue]
    | some v =>
      simp only [Option.isSome_some, Option.mem_some_iff, forall_const, forall_eq']
      constructor
      · rintro ⟨d, hd⟩
        rw [computeDigest, hset, hvalue] at hd
        obtain ⟨w, hw, hd⟩ := Fallible.bind_eq_ok.1 hd
        obtain ⟨particleType, hpt, -⟩ := Fallible.bind_eq_ok.1 hd
        refine ⟨?_, ?_⟩
        · rw [← PHPValue.fromProto_isOk, hw, Fallible.isOk_ok]
        · rw [← (kind_fromProto hw).1, hpt, Fallible.isOk_ok]
      · rintro ⟨hok, hv⟩
        obtain ⟨w, hw⟩ := Fallible.isOk_iff.1 ((PHPValue.fromProto_isOk v).trans hok)
        obtain ⟨d, hd, -⟩ := computeDigest_of_fromProto ripemd160 hset hvalue hw hv
        exact ⟨d, hd⟩

/-- A digest is computed iff the message has a user key in a set. -/
theorem four_le_computeDigest_iff {key : Proto.Key} {d : List UInt8}
    (h : computeDigest ripemd160 key = .ok d) :
    4 ≤ d.length ↔ key.set.isSome ∧ ∃ v ∈ key.value, v.isUserKey := by
  have hhash := (exists_computeDigest_iff ripemd160 key).1 ⟨d, h⟩
  unfold Hashable at hhash
  cases hset : key.set with
  | none =>
    rw [computeDigest, hset] at h
    cases h
    simp
  | some set =>
    cases hvalue : key.value with
    | none =>
      rw [computeDigest, hset, hvalue] at h
      cases h
      simp
    | some v =>
      obtain ⟨hok, hv⟩ := hhash (by rw [hset, Option.isSome_some]) v hvalue
      obtain ⟨w, hw⟩ := Fallible.isOk_iff.1 ((PHPValue.fromProto_isOk v).trans hok)
      obtain ⟨d', hd', hlength⟩ := computeDigest_of_fromProto ripemd160 hset hvalue hw hv
      have hdd : d = d' := by simpa [h] using hd'
      rw [hdd, hlength]
      cases hkey : v.isUserKey with
      | true => simp [hkey]
      | false => simp [hkey]

end Located

/-! ## Keys of a program -/

/-- Of the keys that a program builds, those of a user key have a digest. -/
theorem hasDigest_construct (ns set : String) (a : Arg) :
    HasDigest (construct ns set a) ↔ a.userKey?.isSome := by
  have hkind : a.toProto.isUserKey = a.userKey?.isSome := by
    rcases a with ⟨v, hv⟩
    unfold Arg.toProto Arg.userKey?
    cases hv with
    | _ => rw [PHPValue.toProto]; rfl
  simp [HasDigest, construct, hkind]

/-- The value of a key that a program builds can be decoded. -/
theorem hashable_construct (ns set : String) (a : Arg) :
    Hashable (construct ns set a) ↔ a.toProto.hasParticleType := by
  have hok : a.toProto.decodable = true := by
    rw [← PHPValue.fromProto_isOk, Arg.toProto, PHPValue.fromProto_toProto a.plain,
      Fallible.isOk_ok]
  simp [Hashable, construct, hok]

/-- The key of a record has its digest and a value that can be hashed. -/
theorem hashable_hasDigest_received (k : ReceivedKey) :
    Hashable k.toProto ∧ HasDigest k.toProto := by
  constructor
  · rcases k with ⟨ns, setName, digest, _ | ⟨_ | _ | _⟩⟩
    · intro _ v hv
      cases hv
      exact ⟨rfl, rfl⟩
    · intro _ v hv
      cases hv
      exact ⟨rfl, rfl⟩
    · intro _ v hv
      cases hv
      exact ⟨rfl, rfl⟩
    · intro _ v hv
      cases hv
      exact ⟨rfl, rfl⟩
  · unfold HasDigest
    rw [ReceivedKey.digest_toProto]
    simp

section Located

variable (ripemd160 : List UInt8 → Digest)

/-- **Main theorem.** The digest and the partition of a key can be asked for iff its value
    can be decoded and has a particle type, and four bytes of digest are there. -/
theorem located_iff (key : Proto.Key) :
    Located ripemd160 key ↔ Hashable key ∧ HasDigest key := by
  have hlength {computed : List UInt8} (h : computeDigest ripemd160 key = .ok computed) :
      4 ≤ (key.digest.getD computed).length ↔ HasDigest key := by
    unfold HasDigest
    cases key.digest with
    | some d => rw [Option.getD_some]
    | none =>
      rw [Option.getD_none]
      exact four_le_computeDigest_iff ripemd160 h
  have hpartition {d : List UInt8} (h : getDigestBytes ripemd160 key = .ok d) :
      (partitionId ripemd160 key).map some = .ok (expectedPartition d) ↔ 4 ≤ d.length := by
    rw [partitionId, h, Fallible.ok_bind, digestPartition_eq]
  constructor
  · rintro ⟨d, hd, hpid, -⟩
    obtain ⟨computed, hcomputed, rfl⟩ := (getDigestBytes_eq_ok _).1 hd
    exact ⟨(exists_computeDigest_iff ripemd160 key).1 ⟨computed, hcomputed⟩,
      (hlength hcomputed).1 ((hpartition hd).1 hpid)⟩
  · rintro ⟨hhash, hdigest⟩
    obtain ⟨computed, hcomputed⟩ := (exists_computeDigest_iff ripemd160 key).2 hhash
    have hd := (getDigestBytes_eq_ok ripemd160).2 ⟨computed, hcomputed, rfl⟩
    exact ⟨_, hd, (hpartition hd).2 ((hlength hcomputed).2 hdigest),
      fun pid hpid => expectedPartition_lt hpid⟩

/-- `new Key("test", "users", 1.5)` has an empty digest, and its partition panics, whatever the
    hash of the client is. -/
theorem not_located_float :
    (∀ ripemd160 : List UInt8 → Digest,
        partitionId ripemd160 (construct "test" "users" (.float ⟨0x3ff8000000000000⟩)) =
          .error .indexOutOfRange) ∧
      ¬ ∃ ripemd160 : List UInt8 → Digest,
        Located ripemd160 (construct "test" "users" (.float ⟨0x3ff8000000000000⟩)) := by
  have hpanic (ripemd160 : List UInt8 → Digest) :
      partitionId ripemd160 (construct "test" "users" (.float ⟨0x3ff8000000000000⟩)) =
        .error .indexOutOfRange := by
    simp [partitionId, getDigestBytes, computeDigest, construct, Arg.toProto, Arg.float,
      PHPValue.toProto, PHPValue.fromProto, PHPValue.particleType, PHPValue.writeKeyBytes,
      digestPartition]
  refine ⟨hpanic, ?_⟩
  rintro ⟨ripemd160, d, -, hpid, -⟩
  rw [hpanic] at hpid
  cases hpid

end Located

end Key

end AerospikePhp
