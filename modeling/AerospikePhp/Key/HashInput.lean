import AerospikePhp.Key.Identity
import AerospikePhp.Lib.Split

/-!
# What is hashed for a key

`Key::compute_digest` (`src/lib.rs` lines 10840–10860) feeds RIPEMD-160 with the bytes of
the set, the particle type of the value and the bytes of the value, one after the other
and without a length or a separator.

In a set name without the bytes 1, 3 and 4 the particle type is the first of these bytes,
so the three parts can be told apart.

Main result:
* `hashInput_unambiguous`: for such set names, equal inputs come from equal sets and
  equal keys.
-/

namespace AerospikePhp

/-! ## The bytes of a value -/

theorem utf8_injective : Function.Injective utf8 := by
  intro s t h
  exact String.toByteArray_inj.1 (ByteArray.ext (Array.toList_inj.1 h))

theorem writeI64_getElem? (i : Int64) {k : ℕ} (hk : k < 8) :
    (writeI64 i)[7 - k]? = some ((i.toUInt64 >>> UInt64.ofNat (8 * k)).toUInt8) := by
  have hindex : 7 - (7 - k) = k := by omega
  have hlt : 7 - k < 8 := by omega
  rw [writeI64, List.getElem?_map, List.getElem?_range hlt, Option.map_some, hindex]

/-- A byte of a number. -/
theorem toNat_shiftRight_byte (u : UInt64) {k : ℕ} (hk : k < 8) :
    (u >>> UInt64.ofNat (8 * k)).toUInt8.toNat = u.toNat / 256 ^ k % 256 := by
  have hshift : (UInt64.ofNat (8 * k)).toNat % 64 = 8 * k := by
    rw [UInt64.toNat_ofNat']
    omega
  rw [UInt64.toNat_toUInt8, UInt64.toNat_shiftRight, hshift, Nat.shiftRight_eq_div_pow,
    Nat.pow_mul]

/-- Numbers with the same last bytes. -/
theorem mod_pow_eq_of_bytes {m n : ℕ} (k : ℕ)
    (h : ∀ j < k, m / 256 ^ j % 256 = n / 256 ^ j % 256) : m % 256 ^ k = n % 256 ^ k := by
  induction k with
  | zero => rw [pow_zero, Nat.mod_one, Nat.mod_one]
  | succ k ih =>
    have hlow := ih fun j hj => h j (Nat.lt_succ_of_lt hj)
    rw [Nat.mod_pow_succ, Nat.mod_pow_succ, hlow, h k (Nat.lt_succ_self k)]

theorem writeI64_injective : Function.Injective writeI64 := by
  intro i j h
  have hbytes : ∀ k < 8, i.toUInt64.toNat / 256 ^ k % 256 = j.toUInt64.toNat / 256 ^ k % 256 := by
    intro k hk
    have hget := (writeI64_getElem? i hk).symm.trans
      ((congrArg (·[7 - k]?) h).trans (writeI64_getElem? j hk))
    rw [← toNat_shiftRight_byte _ hk, ← toNat_shiftRight_byte _ hk, Option.some.inj hget]
  have hi := i.toUInt64.toNat_lt
  have hj := j.toUInt64.toNat_lt
  have hmod := mod_pow_eq_of_bytes 8 hbytes
  have hnat : i.toUInt64.toNat = j.toUInt64.toNat := by
    omega
  have huint : i.toUInt64 = j.toUInt64 := UInt64.toNat_inj.1 hnat
  rw [← i.toInt64_toUInt64, huint, j.toInt64_toUInt64]

namespace UserKey

/-- A byte that is the particle type of some user key. -/
def IsParticleType (b : UInt8) : Prop := b = 1 ∨ b = 3 ∨ b = 4

theorem isParticleType (u : UserKey) : IsParticleType u.particleType := by
  cases u with
  | int i => exact .inl rfl
  | string s => exact .inr (.inl rfl)
  | blob b => exact .inr (.inr rfl)

/-- A user key is given by its particle type and its bytes. -/
theorem eq_of_bytes {u v : UserKey} (htype : u.particleType = v.particleType)
    (hbytes : u.bytes = v.bytes) : u = v := by
  cases u with
  | int i =>
    cases v with
    | int j => rw [writeI64_injective hbytes]
    | _ => cases htype
  | string s =>
    cases v with
    | string t => rw [utf8_injective hbytes]
    | _ => cases htype
  | blob b =>
    cases v with
    | blob c => exact congrArg blob hbytes
    | _ => cases htype

end UserKey

/-! ## The input of the hash -/

/-- `compute_digest` feeds the hash with these bytes: whatever the hash function is, the
    digest is that of them. -/
def Key.Feeds (key : Proto.Key) (input : List UInt8) : Prop :=
  ∀ ripemd160 : List UInt8 → Digest,
    Key.computeDigest ripemd160 key = .ok (ripemd160 input).toList

theorem Key.feeds_construct (ns set : String) (u : UserKey) :
    Key.Feeds (Key.construct ns set u.toArg) (u.hashInput set) :=
  fun ripemd160 => computeDigest_userKey (.ofHash ripemd160) _ rfl rfl

/-- The bytes are determined: a hash function tells any two inputs apart. -/
theorem Key.Feeds.unique {key : Proto.Key} {input input' : List UInt8}
    (h : Key.Feeds key input) (h' : Key.Feeds key input') : input = input' := by
  by_contra hne
  let ripemd160 (bytes : List UInt8) : Digest :=
    if bytes = input then List.Vector.replicate 20 0 else List.Vector.replicate 20 1
  have hsame : ripemd160 input = ripemd160 input' :=
    List.Vector.toList_injective (Except.ok.inj ((h ripemd160).symm.trans (h' ripemd160)))
  simp only [ripemd160, if_true, if_neg (Ne.symm hne)] at hsame
  cases hsame

/-- **Main theorem.** Two keys, each a set name without the bytes 1, 3 and 4 and a user
    key. If `compute_digest` feeds the hash with the same bytes for both, then the sets
    are the same and the user keys are the same, of the same kind. -/
theorem hashInput_unambiguous {ns ns' set set' : String} {u u' : UserKey} {input : List UInt8}
    (hset : ∀ b ∈ utf8 set, ¬ UserKey.IsParticleType b)
    (hset' : ∀ b ∈ utf8 set', ¬ UserKey.IsParticleType b)
    (h : Key.Feeds (Key.construct ns set u.toArg) input)
    (h' : Key.Feeds (Key.construct ns' set' u'.toArg) input) : set = set' ∧ u = u' := by
  have heq : u.hashInput set = u'.hashInput set' :=
    ((Key.feeds_construct ns set u).unique h).trans (h'.unique (Key.feeds_construct ns' set' u'))
  rw [UserKey.hashInput, UserKey.hashInput, List.append_assoc, List.append_assoc] at heq
  obtain ⟨hsets, htypes, hbytes⟩ :=
    Split.append_cons_inj hset hset' u.isParticleType u'.isParticleType heq
  exact ⟨utf8_injective hsets, UserKey.eq_of_bytes htypes hbytes⟩

/-- The key 7 in the set `users`, with itself. -/
theorem hashInput_unambiguous_users :
    Key.Feeds (Key.construct "test" "users" (UserKey.int 7).toArg)
        ([117, 115, 101, 114, 115, 1, 0, 0, 0, 0, 0, 0, 0, 7] : List UInt8) ∧
      ("users" = "users" ∧ UserKey.int 7 = UserKey.int 7) := by
  have husers : utf8 "users" = [117, 115, 101, 114, 115] := rfl
  have hset : ∀ b ∈ utf8 "users", ¬ UserKey.IsParticleType b := by
    rw [husers]
    simp [UserKey.IsParticleType]
  have hfeeds := Key.feeds_construct "test" "users" (.int 7)
  exact ⟨hfeeds, hashInput_unambiguous hset hset hfeeds hfeeds⟩

end AerospikePhp
