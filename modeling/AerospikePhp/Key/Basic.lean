import AerospikePhp.Value.Native
import AerospikePhp.Value.Zval
import Mathlib.Data.Vector.Basic

/-!
# Keys and their digests

A record is identified by the RIPEMD-160 digest of its set and its user key. The
extension computes it in `Key::compute_digest` (`src/lib.rs` lines 10840–10860),
the daemon gets it from `aero.NewKey` in `toKey` (`kvs.go` lines 1481–1490), and
`fromKey` (lines 1637–1648) sends a digest back inside a record.

RIPEMD-160 and the Go client's keys are third-party code: they are the fields of
`KeyLibrary`.
-/

namespace AerospikePhp

/-- `PARTITIONS` (`src/lib.rs` line 68). -/
def partitions : ℕ := 4096

/-- The 20 bytes of a digest. -/
abbrev Digest := List.Vector UInt8 20

/-- The bytes of a string. -/
def utf8 (s : String) : List UInt8 := s.toUTF8.data.toList

/-- `NetworkEndian::write_i64`: the most significant byte first. -/
def writeI64 (i : Int64) : List UInt8 :=
  (List.range 8).map fun j => (i.toUInt64 >>> UInt64.ofNat (8 * (7 - j))).toUInt8

/-- The `Key` message. -/
structure Proto.Key where
  digest : Option (List UInt8)
  ns : Option String
  set : Option String
  value : Option Proto.Value

/-- A key of the Go client. -/
structure Aero.Key where
  ns : String
  setName : String
  digest : Digest
  userKey : Option Aero.Value

/-! ## The extension -/

namespace PHPValue

/-- `particle_type` (`src/lib.rs` lines 11249–11268). -/
def particleType : PHPValue → Except Panic ℕ
  | nil => .ok 0
  | int _ => .ok 1
  | uInt _ => .ok 1
  | float _ => .ok 2
  | string _ => .ok 3
  | blob _ => .ok 4
  | bool _ => .ok 17
  | hll _ => .ok 18
  | hashMap _ => .ok 19
  | json _ => .ok 19
  | list _ => .ok 20
  | geoJSON _ => .ok 23
  | infinity => .error .unreachable
  | wildcard => .error .unreachable

/-- `write_key_bytes` (lines 11270–11289): the bytes given to the hash; `none` is
    its `Err`. -/
def writeKeyBytes : PHPValue → Option (List UInt8)
  | int val => some (writeI64 val)
  | string val => some (utf8 val)
  | blob val => some val
  | _ => none

end PHPValue

namespace Key

/-- The first four bytes of a digest, little endian, modulo `PARTITIONS`; slicing
    them off a shorter digest panics. -/
def digestPartition : List UInt8 → Except Panic ℕ
  | b₀ :: b₁ :: b₂ :: b₃ :: _ =>
    .ok ((b₀.toNat + 2 ^ 8 * b₁.toNat + 2 ^ 16 * b₂.toNat + 2 ^ 24 * b₃.toNat) &&&
      (partitions - 1))
  | _ => .error .indexOutOfRange

theorem digestPartition_lt {d : List UInt8} {pid : ℕ} (h : digestPartition d = .ok pid) :
    pid < partitions := by
  unfold digestPartition at h
  split at h
  · cases h
    exact Nat.lt_of_le_of_lt Nat.and_le_right (by decide)
  · cases h

section Digest

variable (ripemd160 : List UInt8 → Digest)

/-- `Key::__construct` (lines 10814–10822). -/
def construct (ns set : String) (key : Arg) : Proto.Key where
  digest := none
  ns := some ns
  set := some set
  value := some key.toProto

/-- `Key::compute_digest` (lines 10840–10860). -/
def computeDigest (key : Proto.Key) : Except Panic (List UInt8) :=
  match key.set, key.value with
  | some set, some value => do
    let value ← PHPValue.fromProto value
    let particleType ← value.particleType
    match value.writeKeyBytes with
    | some bytes => return (ripemd160 (utf8 set ++ [UInt8.ofNat particleType] ++ bytes)).toList
    | none => return []
  | _, _ => .ok []

/-- `Key::get_digest_bytes` (lines 10863–10869): the argument of `unwrap_or` is
    computed in every case. -/
def getDigestBytes (key : Proto.Key) : Except Panic (List UInt8) := do
  let computed ← computeDigest ripemd160 key
  return key.digest.getD computed

/-- `Key::partition_id` (lines 10878–10882). -/
def partitionId (key : Proto.Key) : Except Panic ℕ := do
  digestPartition (← getDigestBytes ripemd160 key)

theorem getDigestBytes_eq_ok {key : Proto.Key} {d : List UInt8} :
    getDigestBytes ripemd160 key = .ok d ↔
      ∃ computed, computeDigest ripemd160 key = .ok computed ∧ d = key.digest.getD computed := by
  rw [getDigestBytes, Fallible.bind_eq_ok]
  simp only [Fallible.pure_eq_ok, Except.ok.injEq, eq_comm]

end Digest

end Key

/-! ## The daemon -/

/-- `toKey` (`kvs.go` lines 1481–1490): the digest of the message is not read.
    `newKey` is `aero.NewKey`, `none` its error. -/
def toKey (newKey : String → String → Aero.Value → Option Aero.Key) :
    Option Proto.Key → Except Panic (Option Aero.Key)
  | some key => do
    let value ← toValue key.value
    match newKey (key.ns.getD "") (key.set.getD "") value with
    | some k => return some k
    | none => .error .error
  | none => .ok none

/-- `fromKey` (`kvs.go` lines 1637–1648). -/
def fromKey : Option Aero.Key → Except Panic (Option Proto.Key)
  | some key => do
    let value ← fromValue (match key.userKey with
      | some v => .aero v
      | none => .nil)
    return some
      { digest := some key.digest.toList
        ns := some key.ns
        set := some key.setName
        value := some value }
  | none => .ok none

end AerospikePhp
