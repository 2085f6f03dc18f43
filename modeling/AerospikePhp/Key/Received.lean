import AerospikePhp.Key.Basic

/-!
# Keys that come with a record

The Go client hands the daemon a record with its key: a digest of 20 bytes, and
the user key when the record was stored with one. `fromKey` (`kvs.go` lines
1637–1648) sends it to the extension.

Results:
* `fromKey_toAero`: `fromKey` sends the message `ReceivedKey.toProto`.
* `getDigestBytes_toProto`, `partitionId_toProto`: the extension reports the
  digest of the key, and its partition.
-/

namespace AerospikePhp

/-- A user key: an integer, a string or a byte string. -/
inductive UserKey where
  | int (i : Int64)
  | string (s : String)
  | blob (b : List UInt8)

namespace UserKey

def toArg : UserKey → Arg
  | int i => ⟨.int i, .int i⟩
  | string s => ⟨.string s, .string s⟩
  | blob b => ⟨.blob b, .blob b⟩

def toAero (v : UserKey) : Aero.Value := v.toArg.toAero

/-- The particle-type byte of a user key. -/
def particleType : UserKey → UInt8
  | int _ => 1
  | string _ => 3
  | blob _ => 4

/-- The value bytes of a user key. -/
def bytes : UserKey → List UInt8
  | int i => writeI64 i
  | string s => utf8 s
  | blob b => b

/-- What is hashed for the user key `v` in `set`. -/
def hashInput (set : String) (v : UserKey) : List UInt8 :=
  utf8 set ++ [v.particleType] ++ v.bytes

end UserKey

/-- The key of a record that the Go client returns. -/
structure ReceivedKey where
  ns : String
  setName : String
  digest : Digest
  userKey : Option UserKey

namespace ReceivedKey

/-- The key as the Go client has it. -/
def toAero (k : ReceivedKey) : Aero.Key where
  ns := k.ns
  setName := k.setName
  digest := k.digest
  userKey := k.userKey.map UserKey.toAero

/-- The user key in its message: null when there is none. -/
def userKeyToProto : Option UserKey → Proto.Value
  | some v => v.toArg.toProto
  | none => .nil true

/-- The key as the extension has it. -/
def toProto (k : ReceivedKey) : Proto.Key where
  digest := some k.digest.toList
  ns := some k.ns
  set := some k.setName
  value := some (userKeyToProto k.userKey)

@[simp] theorem digest_toProto (k : ReceivedKey) : k.toProto.digest = some k.digest.toList := rfl

theorem fromKey_toAero (k : ReceivedKey) : fromKey (some k.toAero) = .ok (some k.toProto) := by
  rcases k with ⟨ns, setName, digest, userKey⟩
  rcases userKey with _ | ⟨_ | _ | _⟩
  · rfl
  · rfl
  · rfl
  · rfl

/-- The partition of a key: that of its digest. -/
def partition (k : ReceivedKey) : ℕ :=
  ((k.digest.get 0).toNat + 2 ^ 8 * (k.digest.get 1).toNat + 2 ^ 16 * (k.digest.get 2).toNat +
    2 ^ 24 * (k.digest.get 3).toNat) &&& (partitions - 1)

theorem digestPartition_digest (k : ReceivedKey) :
    Key.digestPartition k.digest.toList = .ok k.partition := by
  rcases k with ⟨ns, setName, ⟨bytes, hlength⟩, userKey⟩
  match bytes, hlength with
  | _ :: _ :: _ :: _ :: _, _ => rfl

section Reported

variable (ripemd160 : List UInt8 → Digest)

theorem computeDigest_toProto (k : ReceivedKey) :
    ∃ computed, Key.computeDigest ripemd160 k.toProto = .ok computed := by
  rcases k with ⟨ns, setName, digest, userKey⟩
  rcases userKey with _ | ⟨_ | _ | _⟩
  · exact ⟨_, rfl⟩
  · exact ⟨_, rfl⟩
  · exact ⟨_, rfl⟩
  · exact ⟨_, rfl⟩

@[simp] theorem getDigestBytes_toProto (k : ReceivedKey) :
    Key.getDigestBytes ripemd160 k.toProto = .ok k.digest.toList := by
  obtain ⟨computed, hcomputed⟩ := computeDigest_toProto ripemd160 k
  exact (Key.getDigestBytes_eq_ok _).2 ⟨computed, hcomputed, rfl⟩

@[simp] theorem partitionId_toProto (k : ReceivedKey) :
    Key.partitionId ripemd160 k.toProto = .ok k.partition := by
  rw [Key.partitionId, getDigestBytes_toProto, Fallible.ok_bind, digestPartition_digest]

end Reported

end ReceivedKey

end AerospikePhp
