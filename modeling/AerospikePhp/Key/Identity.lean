import AerospikePhp.Key.Received

/-!
# One record, two digests

A key that a PHP program holds was built by `Key::__construct`, or it came inside
a record that the daemon sent (`fromKey`). The two sides agree on the record it
names when `toKey` (`kvs.go` lines 1481–1490) builds an aero key whose digest is
the one that `get_digest_bytes` reports.

`toKey` hashes the user value of the message again and never reads its digest.
Hence a key without a user value is refused, although it carries the digest of
its record.

Results:
* `sameDigest_iff`: the two sides agree iff the key carries no digest, or carries
  a user value that hashes to its digest.
* `digestOnlyKey_refused`: such a key, whose digest is reported and which the
  daemon refuses.
-/

namespace AerospikePhp

/-! ## The Go client's keys -/

/-- What the two sides use of third-party code: RIPEMD-160, and `aero.NewKey`,
    which hashes the set bytes, one particle-type byte and the value bytes, and
    returns an error for a null value. -/
structure KeyLibrary where
  ripemd160 : List UInt8 → Digest
  newKey : String → String → Aero.Value → Option Aero.Key
  newKey_userKey : ∀ ns set (v : UserKey), newKey ns set v.toAero =
    some { ns := ns, setName := set, digest := ripemd160 (v.hashInput set),
           userKey := some v.toAero }
  newKey_null : ∀ ns set, newKey ns set .null = none

/-- The Go client over a given hash function. -/
def KeyLibrary.ofHash (ripemd160 : List UInt8 → Digest) : KeyLibrary where
  ripemd160 := ripemd160
  newKey ns set v :=
    let key (v' : UserKey) : Aero.Key :=
      { ns := ns, setName := set, digest := ripemd160 (v'.hashInput set), userKey := some v }
    match v with
    | .integer i => some (key (.int i))
    | .string s => some (key (.string s))
    | .bytes b => some (key (.blob b))
    | _ => none
  newKey_userKey ns set v := by
    cases v with
    | int i => rfl
    | string s => rfl
    | blob b => rfl
  newKey_null _ _ := rfl

/-! ## The keys a program holds -/

/-- A key in the hands of a PHP program: built there from a user key, or received
    with the record of a scan, query or get, possibly without a user key. -/
inductive HeldKey where
  | constructed (ns set : String) (value : UserKey)
  | received (k : ReceivedKey)

/-- The message inside the key object. -/
def HeldKey.key : HeldKey → Proto.Key
  | constructed ns set value => Key.construct ns set value.toArg
  | received k => k.toProto

section Identity

variable (lib : KeyLibrary)

/-- The two sides name the same record: `get_digest_bytes` and `toKey` succeed,
    and the aero key has the digest that the PHP side reports. -/
def SameDigest (k : HeldKey) : Prop :=
  ∃ d, Key.getDigestBytes lib.ripemd160 k.key = .ok d ∧
    ∃ ak, toKey lib.newKey (some k.key) = .ok (some ak) ∧ ak.digest.toList = d

/-- The key carries no digest, or carries a user key that hashes to its digest. -/
def HeldKey.HashedValue : HeldKey → Prop
  | constructed _ _ _ => True
  | received k => ∃ v, k.userKey = some v ∧ k.digest = lib.ripemd160 (v.hashInput k.setName)

/-! ## The two hashes -/

theorem computeDigest_userKey (key : Proto.Key) {set : String} {v : UserKey}
    (hset : key.set = some set) (hvalue : key.value = some v.toArg.toProto) :
    Key.computeDigest lib.ripemd160 key = .ok (lib.ripemd160 (v.hashInput set)).toList := by
  rw [Key.computeDigest, hset, hvalue]
  cases v with
  | int i => rfl
  | string s => rfl
  | blob b => rfl

theorem toKey_userKey (key : Proto.Key) {ns set : String} {v : UserKey}
    (hns : key.ns = some ns) (hset : key.set = some set)
    (hvalue : key.value = some v.toArg.toProto) :
    toKey lib.newKey (some key) =
      .ok (some { ns := ns, setName := set, digest := lib.ripemd160 (v.hashInput set),
                  userKey := some v.toAero }) := by
  have hnew := lib.newKey_userKey ns set v
  rw [UserKey.toAero] at hnew
  simp only [toKey, hns, hset, hvalue, toValue_some, Arg.toValueV_toProto, Fallible.ok_bind,
    Option.getD_some, hnew, Fallible.pure_eq_ok, UserKey.toAero]

theorem toKey_nil (key : Proto.Key) (hvalue : key.value = some (.nil true)) :
    toKey lib.newKey (some key) = .error .error := by
  simp only [toKey, hvalue, toValue_some, toValueV, Fallible.ok_bind, lib.newKey_null]

/-! ## Agreement -/

/-- **Main theorem.** The two sides agree on a key iff it carries no digest, or
    carries a user key that hashes to its digest. -/
theorem sameDigest_iff (k : HeldKey) : SameDigest lib k ↔ k.HashedValue lib := by
  cases k with
  | constructed ns set v =>
    have hdigest := computeDigest_userKey lib (HeldKey.constructed ns set v).key rfl rfl
    have hkey := toKey_userKey lib (HeldKey.constructed ns set v).key rfl rfl rfl
    refine iff_of_true ?_ trivial
    exact ⟨_, (Key.getDigestBytes_eq_ok _).2 ⟨_, hdigest, rfl⟩, _, hkey, rfl⟩
  | received k =>
    rcases k with ⟨ns, set, digest, _ | v⟩
    · refine iff_of_false ?_ (by rintro ⟨v, hv, -⟩; cases hv)
      rintro ⟨d, -, ak, hak, -⟩
      rw [toKey_nil lib _ rfl] at hak
      cases hak
    · have hdigest := ReceivedKey.getDigestBytes_toProto lib.ripemd160 ⟨ns, set, digest, some v⟩
      have hkey := toKey_userKey lib (ReceivedKey.toProto ⟨ns, set, digest, some v⟩) rfl rfl rfl
      constructor
      · rintro ⟨d, hd, ak, hak, heq⟩
        have hd' : digest.toList = d := Except.ok.inj (hdigest.symm.trans hd)
        rw [HeldKey.key, hkey] at hak
        cases hak
        exact ⟨v, rfl, (List.Vector.toList_injective (heq.trans hd'.symm)).symm⟩
      · rintro ⟨v', hv', hhash⟩
        cases hv'
        exact ⟨digest.toList, hdigest, _, hkey, congrArg List.Vector.toList hhash.symm⟩

end Identity

/-! ## A key without a user value -/

/-- The key of a record that was stored without its user key. -/
def digestOnlyKey : HeldKey :=
  .received ⟨"test", "users", List.Vector.replicate 20 7, none⟩

/-- Its digest is reported, and the daemon refuses it. -/
theorem digestOnlyKey_refused :
    Key.getDigestBytes (fun _ => List.Vector.replicate 20 0) digestOnlyKey.key =
        .ok (List.replicate 20 7) ∧
      ¬ SameDigest (.ofHash fun _ => List.Vector.replicate 20 0) digestOnlyKey := by
  refine ⟨rfl, ?_⟩
  rintro ⟨d, -, ak, hak, -⟩
  cases hak

end AerospikePhp
