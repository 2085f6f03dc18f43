import AerospikePhp.Value.Cycle
import AerospikePhp.Value.Keys

/-!
# Exceptions while a value is read

`impl From<proto::Value> for PHPValue` inserts the entries of a map into a hash map, which
hashes their keys. A key that should not be one makes `hash` throw, which does not stop the
conversion: the value is there, and the exception is thrown when the method returns.

Results:
* `decode_silent_iff`: the messages that are decoded without an exception.
* `Arg.decode_silent`: what is read of a value that a program stored is among them.
-/

namespace AerospikePhp

namespace PHPValue

/-! ## Exceptions while a value is decoded -/

/-- The messages of the exceptions among the actions. -/
def exceptions (actions : List HashAction) : List String :=
  actions.filterMap fun
    | .throw message => some message
    | _ => none

theorem exceptions_append (as bs : List HashAction) :
    exceptions (as ++ bs) = exceptions as ++ exceptions bs :=
  List.filterMap_append

section Decode

variable (floatBits : F64 → UInt64)

mutual

/-- `impl From<proto::Value> for PHPValue` (`src/lib.rs` lines 11514–11557), with the exceptions
    that it throws: the key of an entry is hashed when it is inserted. -/
def decode : Proto.Value → Except Panic (List String × PHPValue)
  | .unset => .error .unwrapNone
  | .nil _ => .ok ([], nil)
  | .b b => .ok ([], bool b)
  | .i i => .ok ([], int i)
  | .f f => .ok ([], float f)
  | .s s => .ok ([], string s)
  | .blob b => .ok ([], blob b)
  | .l l => do
    let r ← listDecode l
    return (r.1, list r.2)
  | .json j => do
    let r ← jsonDecode j []
    return (r.1, json r.2)
  | .m m => do
    let r ← mapDecode m []
    return (r.1, hashMap r.2)
  | .geo gj => .ok ([], geoJSON gj)
  | .hll b => .ok ([], hll b)
  | .infinity _ => .ok ([], infinity)
  | .wildcard _ => .ok ([], wildcard)

def listDecode : List Proto.Value → Except Panic (List String × List PHPValue)
  | [] => .ok ([], [])
  | v :: vs => do
    let v ← decode v
    let r ← listDecode vs
    return (v.1 ++ r.1, v.2 :: r.2)

def optionDecode : Option Proto.Value → Except Panic (List String × PHPValue)
  | none => .error .unwrapNone
  | some v => decode v

def jsonDecode : List (String × Option Proto.Value) → List (String × PHPValue) →
    Except Panic (List String × List (String × PHPValue))
  | [], h => .ok ([], h)
  | (k, v) :: j, h => do
    let v ← optionDecode v
    let r ← jsonDecode j (AssocTable.insert (· == ·) h k v.2)
    return (v.1 ++ r.1, r.2)

def mapDecode : List (Option Proto.Value × Option Proto.Value) →
    List (PHPValue × PHPValue) → Except Panic (List String × List (PHPValue × PHPValue))
  | [], h => .ok ([], h)
  | (none, _) :: m, h => mapDecode m h
  | (some k, v) :: m, h => do
    let k ← decode k
    let v ← optionDecode v
    let r ← mapDecode m (AssocTable.insert eq h k.2 v.2)
    return (k.1 ++ (v.1 ++ (exceptions (hash floatBits k.2) ++ r.1)), r.2)

end

variable {floatBits}

mutual

/-- The value is that of `fromProto`. -/
theorem decode_snd : ∀ v, (decode floatBits v).map Prod.snd = fromProto v
  | .unset | .nil _ | .b _ | .i _ | .f _ | .s _ | .blob _ | .geo _ | .hll _ | .infinity _
  | .wildcard _ => by
    rw [decode, fromProto]
    rfl
  | .l l => by
    rw [decode, fromProto, ← listDecode_snd l]
    cases listDecode floatBits l <;> rfl
  | .json j => by
    rw [decode, fromProto, ← jsonDecode_snd j []]
    cases jsonDecode floatBits j [] <;> rfl
  | .m m => by
    rw [decode, fromProto, ← mapDecode_snd m []]
    cases mapDecode floatBits m [] <;> rfl

theorem listDecode_snd : ∀ vs, (listDecode floatBits vs).map Prod.snd = listFromProto vs
  | [] => by
    rw [listDecode, listFromProto]
    rfl
  | v :: vs => by
    rw [listDecode, listFromProto, ← decode_snd v, ← listDecode_snd vs]
    cases decode floatBits v with
    | error p => rfl
    | ok r => cases listDecode floatBits vs <;> rfl

theorem optionDecode_snd : ∀ v, (optionDecode floatBits v).map Prod.snd = fromProtoOption v
  | none => by
    rw [optionDecode, fromProtoOption]
    rfl
  | some v => by rw [optionDecode, fromProtoOption, decode_snd v]

theorem jsonDecode_snd : ∀ j h, (jsonDecode floatBits j h).map Prod.snd = jsonFromProto j h
  | [], h => by
    rw [jsonDecode, jsonFromProto]
    rfl
  | (k, v) :: j, h => by
    rw [jsonDecode, jsonFromProto, ← optionDecode_snd v]
    cases optionDecode floatBits v with
    | error p => rfl
    | ok r =>
      show _ = jsonFromProto j (AssocTable.insert (· == ·) h k r.2)
      rw [← jsonDecode_snd j]
      simp only [Fallible.ok_bind]
      cases jsonDecode floatBits j (AssocTable.insert (· == ·) h k r.2) <;> rfl

theorem mapDecode_snd : ∀ m h, (mapDecode floatBits m h).map Prod.snd = mapFromProto m h
  | [], h => by
    rw [mapDecode, mapFromProto]
    rfl
  | (none, v) :: m, h => by
    rw [mapDecode, mapFromProto, mapDecode_snd m h]
  | (some k, v) :: m, h => by
    rw [mapDecode, mapFromProto, ← decode_snd k, ← optionDecode_snd v]
    cases decode floatBits k with
    | error p => rfl
    | ok rk =>
      cases optionDecode floatBits v with
      | error p => rfl
      | ok rv =>
        show _ = mapFromProto m (AssocTable.insert eq h rk.2 rv.2)
        rw [← mapDecode_snd m]
        simp only [Fallible.ok_bind]
        cases mapDecode floatBits m (AssocTable.insert eq h rk.2 rv.2) <;> rfl

end

end Decode

end PHPValue

namespace Proto.Value

mutual

/-- A key on which `hash` does not throw. -/
def isKey : Proto.Value → Bool
  | .l vs => listIsKey vs
  | .m _ | .json _ | .infinity _ | .wildcard _ => false
  | _ => true

def listIsKey : List Proto.Value → Bool
  | [] => true
  | v :: vs => v.isKey && listIsKey vs

end

mutual

/-- Every key of a map in the message is one on which `hash` does not throw. -/
def keyed : Proto.Value → Bool
  | .l vs => listKeyed vs
  | .m es => mapKeyed es
  | .json es => jsonKeyed es
  | _ => true

def listKeyed : List Proto.Value → Bool
  | [] => true
  | v :: vs => v.keyed && listKeyed vs

def optionKeyed : Option Proto.Value → Bool
  | none => true
  | some v => v.keyed

def jsonKeyed : List (String × Option Proto.Value) → Bool
  | [] => true
  | (_, v) :: es => optionKeyed v && jsonKeyed es

def mapKeyed : List (Option Proto.Value × Option Proto.Value) → Bool
  | [] => true
  | (none, _) :: es => mapKeyed es
  | (some k, v) :: es => k.keyed && (optionKeyed v && (k.isKey && mapKeyed es))

end

end Proto.Value

namespace PHPValue

open Proto.Value (isKey listIsKey keyed listKeyed optionKeyed jsonKeyed mapKeyed)

section Decode

variable {floatBits : F64 → UInt64}

mutual

theorem exceptions_hash : ∀ {v : Proto.Value} {ms : List String} {w : PHPValue},
    decode floatBits v = .ok (ms, w) → (exceptions (hash floatBits w) = [] ↔ v.isKey = true)
  | .l l, _, _, h => by
    rw [decode] at h
    obtain ⟨⟨ms, ws⟩, hl, h⟩ := Fallible.bind_eq_ok.1 h
    cases h
    rw [hash, isKey, ← exceptions_listHash hl]
    rfl
  | .m m, _, _, h => by
    rw [decode] at h
    obtain ⟨r, -, h⟩ := Fallible.bind_eq_ok.1 h
    cases h
    simp [hash, isKey, exceptions]
  | .json j, _, _, h => by
    rw [decode] at h
    obtain ⟨r, -, h⟩ := Fallible.bind_eq_ok.1 h
    cases h
    simp [hash, isKey, exceptions]
  | .unset, _, _, h => by
    rw [decode] at h
    cases h
  | .nil _, _, _, h | .b _, _, _, h | .i _, _, _, h | .f _, _, _, h | .s _, _, _, h
  | .blob _, _, _, h | .geo _, _, _, h | .hll _, _, _, h | .infinity _, _, _, h
  | .wildcard _, _, _, h => by
    rw [decode] at h
    cases h
    simp [hash, isKey, exceptions]

theorem exceptions_listHash : ∀ {vs : List Proto.Value} {ms : List String} {ws : List PHPValue},
    listDecode floatBits vs = .ok (ms, ws) →
      (exceptions (listHash floatBits ws) = [] ↔ listIsKey vs = true)
  | [], _, _, h => by
    rw [listDecode] at h
    cases h
    simp [listHash, listIsKey, exceptions]
  | v :: vs, _, _, h => by
    rw [listDecode] at h
    obtain ⟨⟨m, w⟩, hv, h⟩ := Fallible.bind_eq_ok.1 h
    obtain ⟨⟨ms, ws⟩, hvs, h⟩ := Fallible.bind_eq_ok.1 h
    cases h
    rw [listHash, listIsKey, exceptions_append, List.append_eq_nil_iff, Bool.and_eq_true,
      exceptions_hash hv, exceptions_listHash hvs]

end

mutual

theorem thrown_eq_nil : ∀ {v : Proto.Value} {ms : List String} {w : PHPValue},
    decode floatBits v = .ok (ms, w) → (ms = [] ↔ v.keyed = true)
  | .l l, _, _, h => by
    rw [decode] at h
    obtain ⟨⟨ms, ws⟩, hl, h⟩ := Fallible.bind_eq_ok.1 h
    cases h
    exact listThrown_eq_nil hl
  | .m m, _, _, h => by
    rw [decode] at h
    obtain ⟨⟨ms, ws⟩, hm, h⟩ := Fallible.bind_eq_ok.1 h
    cases h
    exact mapThrown_eq_nil hm
  | .json j, _, _, h => by
    rw [decode] at h
    obtain ⟨⟨ms, ws⟩, hj, h⟩ := Fallible.bind_eq_ok.1 h
    cases h
    exact jsonThrown_eq_nil hj
  | .unset, _, _, h => by
    rw [decode] at h
    cases h
  | .nil _, _, _, h | .b _, _, _, h | .i _, _, _, h | .f _, _, _, h | .s _, _, _, h
  | .blob _, _, _, h | .geo _, _, _, h | .hll _, _, _, h | .infinity _, _, _, h
  | .wildcard _, _, _, h => by
    rw [decode] at h
    cases h
    simp [keyed]

theorem listThrown_eq_nil : ∀ {vs : List Proto.Value} {ms : List String} {ws : List PHPValue},
    listDecode floatBits vs = .ok (ms, ws) → (ms = [] ↔ listKeyed vs = true)
  | [], _, _, h => by
    rw [listDecode] at h
    cases h
    simp [listKeyed]
  | v :: vs, _, _, h => by
    rw [listDecode] at h
    obtain ⟨⟨m, w⟩, hv, h⟩ := Fallible.bind_eq_ok.1 h
    obtain ⟨⟨ms, ws⟩, hvs, h⟩ := Fallible.bind_eq_ok.1 h
    cases h
    rw [listKeyed, List.append_eq_nil_iff, Bool.and_eq_true, thrown_eq_nil hv,
      listThrown_eq_nil hvs]

theorem optionThrown_eq_nil : ∀ {v : Option Proto.Value} {ms : List String} {w : PHPValue},
    optionDecode floatBits v = .ok (ms, w) → (ms = [] ↔ optionKeyed v = true)
  | none, _, _, h => by
    rw [optionDecode] at h
    cases h
  | some v, _, _, h => by
    rw [optionDecode] at h
    rw [optionKeyed, thrown_eq_nil h]

theorem jsonThrown_eq_nil : ∀ {j : List (String × Option Proto.Value)}
    {t t' : List (String × PHPValue)} {ms : List String},
    jsonDecode floatBits j t = .ok (ms, t') → (ms = [] ↔ jsonKeyed j = true)
  | [], _, _, _, h => by
    rw [jsonDecode] at h
    cases h
    simp [jsonKeyed]
  | (k, v) :: j, _, _, _, h => by
    rw [jsonDecode] at h
    obtain ⟨⟨m, w⟩, hv, h⟩ := Fallible.bind_eq_ok.1 h
    obtain ⟨⟨ms, t'⟩, hj, h⟩ := Fallible.bind_eq_ok.1 h
    cases h
    rw [jsonKeyed, List.append_eq_nil_iff, Bool.and_eq_true, optionThrown_eq_nil hv,
      jsonThrown_eq_nil hj]

theorem mapThrown_eq_nil : ∀ {m : List (Option Proto.Value × Option Proto.Value)}
    {t t' : List (PHPValue × PHPValue)} {ms : List String},
    mapDecode floatBits m t = .ok (ms, t') → (ms = [] ↔ mapKeyed m = true)
  | [], _, _, _, h => by
    rw [mapDecode] at h
    cases h
    simp [mapKeyed]
  | (none, v) :: m, _, _, _, h => by
    rw [mapDecode] at h
    rw [mapKeyed, mapThrown_eq_nil h]
  | (some k, v) :: m, _, _, _, h => by
    rw [mapDecode] at h
    obtain ⟨⟨mk, wk⟩, hk, h⟩ := Fallible.bind_eq_ok.1 h
    obtain ⟨⟨mv, wv⟩, hv, h⟩ := Fallible.bind_eq_ok.1 h
    obtain ⟨⟨ms, t'⟩, hm, h⟩ := Fallible.bind_eq_ok.1 h
    cases h
    rw [mapKeyed, List.append_eq_nil_iff, List.append_eq_nil_iff, List.append_eq_nil_iff,
      Bool.and_eq_true, Bool.and_eq_true, Bool.and_eq_true, thrown_eq_nil hk,
      optionThrown_eq_nil hv, exceptions_hash hk, mapThrown_eq_nil hm]

end

/-- A message without such a key is decoded without an exception. -/
theorem decode_of_keyed {v : Proto.Value} {w : PHPValue} (hv : fromProto v = .ok w)
    (hkeyed : v.keyed = true) : decode floatBits v = .ok ([], w) := by
  have hsnd : (decode floatBits v).map Prod.snd = fromProto v := decode_snd v
  rw [hv] at hsnd
  obtain ⟨⟨ms, w'⟩, h, rfl⟩ := Fallible.map_eq_ok.1 hsnd
  rw [h, (thrown_eq_nil h).2 hkeyed]

/-- **Main theorem.** Decoding gives the value of `fromProto`, and throws nothing on the way iff
    no key of a map in the message is a map, an object, an infinity or a wildcard, or a list
    with one of these in it. -/
theorem decode_silent_iff (v : Proto.Value) :
    (decode floatBits v).map Prod.snd = fromProto v ∧
      ((∃ w, decode floatBits v = .ok ([], w)) ↔ v.decodable = true ∧ v.keyed = true) := by
  have hsnd : (decode floatBits v).map Prod.snd = fromProto v := decode_snd v
  refine ⟨hsnd, ?_⟩
  rw [← fromProto_isOk, Fallible.isOk_iff]
  constructor
  · rintro ⟨w, h⟩
    rw [h] at hsnd
    exact ⟨⟨w, hsnd.symm⟩, (thrown_eq_nil h).1 rfl⟩
  · rintro ⟨⟨w, hw⟩, hkeyed⟩
    exact ⟨w, decode_of_keyed hw hkeyed⟩

end Decode

end PHPValue

/-! ## Values that a program stored -/

section Stored

open Proto.Value (listKeyed optionKeyed jsonKeyed mapKeyed)

theorem jsonKeyed_replicate (n : Nat) (es : List (String × Option Proto.Value)) :
    jsonKeyed (List.replicate n ("", none) ++ es) = jsonKeyed es := by
  induction n with
  | zero => rfl
  | succ n ih =>
    rw [List.replicate_succ, List.cons_append, jsonKeyed, optionKeyed, ih, Bool.true_and]

theorem mapKeyed_replicate (n : Nat) (es : List (Option Proto.Value × Option Proto.Value)) :
    mapKeyed (List.replicate n (none, none) ++ es) = mapKeyed es := by
  induction n with
  | zero => rfl
  | succ n ih => rw [List.replicate_succ, List.cons_append, mapKeyed, ih]

mutual

theorem fromAeroValue_keyed : ∀ {v : Aero.Value} {p : Proto.Value},
    fromAeroValue v = .ok p → p.keyed = true
  | .json j, _, h => by
    rw [fromAeroValue] at h
    obtain ⟨es, hj, h⟩ := Fallible.bind_eq_ok.1 h
    cases h
    rw [Proto.Value.keyed, jsonKeyed_replicate]
    exact fromJson_keyed hj
  | .map _, _, h | .list _, _, h => by
    rw [fromAeroValue] at h
    cases h
  | .null, _, h | .integer _, _, h | .float _, _, h | .string _, _, h | .bool _, _, h
  | .bytes _, _, h | .hll _, _, h | .geoJSON _, _, h | .wildCard, _, h | .infinity, _, h => by
    rw [fromAeroValue] at h
    cases h
    rfl

theorem fromJson_keyed : ∀ {j : List (String × Aero.Value)}
    {es : List (String × Option Proto.Value)}, fromJson j = .ok es → jsonKeyed es = true
  | [], _, h => by
    rw [fromJson] at h
    cases h
    rfl
  | (k, v) :: j, _, h => by
    rw [fromJson] at h
    obtain ⟨p, hv, h⟩ := Fallible.bind_eq_ok.1 h
    obtain ⟨es, hj, h⟩ := Fallible.bind_eq_ok.1 h
    cases h
    rw [jsonKeyed, optionKeyed, fromAeroValue_keyed hv, fromJson_keyed hj, Bool.and_self]

end

/-- The message of the value, if it has one, is decoded without an exception. -/
def GoValue.Silent (g : GoValue) : Prop :=
  ∀ p, fromValue g = .ok p → p.keyed = true

theorem fromValues_keyed {vs : List GoValue} {ps : List Proto.Value}
    (hvs : ∀ v ∈ vs, v.Silent) (h : fromValues vs = .ok ps) : listKeyed ps = true := by
  induction vs generalizing ps with
  | nil =>
    rw [fromValues] at h
    cases h
    rfl
  | cons v vs ih =>
    rw [fromValues] at h
    obtain ⟨p, hv, h⟩ := Fallible.bind_eq_ok.1 h
    obtain ⟨ps, hps, h⟩ := Fallible.bind_eq_ok.1 h
    cases h
    obtain ⟨hsilent, hvs⟩ := List.forall_mem_cons.1 hvs
    rw [listKeyed, hsilent p hv, ih hvs hps, Bool.and_self]

theorem fromMembers_keyed {j : List (String × GoValue)} {es : List (String × Option Proto.Value)}
    (hj : ∀ e ∈ j, e.2.Silent) (h : fromMembers j = .ok es) : jsonKeyed es = true := by
  induction j generalizing es with
  | nil =>
    rw [fromMembers] at h
    cases h
    rfl
  | cons e j ih =>
    rw [fromMembers] at h
    obtain ⟨p, hv, h⟩ := Fallible.bind_eq_ok.1 h
    obtain ⟨es, hes, h⟩ := Fallible.bind_eq_ok.1 h
    cases h
    obtain ⟨hsilent, hj⟩ := List.forall_mem_cons.1 hj
    rw [jsonKeyed, optionKeyed, hsilent p hv, ih hj hes, Bool.and_self]

theorem fromEntries_keyed {m : List (GoValue × GoValue)}
    {es : List (Option Proto.Value × Option Proto.Value)}
    (keys : ∀ e ∈ m, GoValue.PlainKey e.1) (vals : ∀ e ∈ m, e.2.Silent)
    (h : fromEntries m = .ok es) : mapKeyed es = true := by
  induction m generalizing es with
  | nil =>
    rw [fromEntries] at h
    cases h
    rfl
  | cons e m ih =>
    obtain ⟨k, v⟩ := e
    rw [fromEntries] at h
    obtain ⟨pk, hk, h⟩ := Fallible.bind_eq_ok.1 h
    obtain ⟨pv, hv, h⟩ := Fallible.bind_eq_ok.1 h
    obtain ⟨es, hes, h⟩ := Fallible.bind_eq_ok.1 h
    cases h
    obtain ⟨hkey, keys⟩ := List.forall_mem_cons.1 keys
    obtain ⟨hsilent, vals⟩ := List.forall_mem_cons.1 vals
    have hkeyed : pk.keyed = true ∧ pk.isKey = true := by
      cases hkey with
      | _ =>
        cases hk
        exact ⟨rfl, rfl⟩
    rw [mapKeyed, hkeyed.1, optionKeyed, hsilent pv hv, hkeyed.2, ih keys vals hes]
    rfl

theorem GoValue.Readable.silent {g : GoValue} (h : g.Readable) : g.Silent := by
  induction h with
  | slice v _ ih | opResults v _ ih =>
    intro p hp
    rw [fromValue] at hp
    obtain ⟨ps, hps, hp⟩ := Fallible.bind_eq_ok.1 hp
    cases hp
    exact fromValues_keyed ih hps
  | map v keys _ _ ih | mapPairs v keys _ _ ih =>
    intro p hp
    rw [fromValue] at hp
    obtain ⟨es, hes, hp⟩ := Fallible.bind_eq_ok.1 hp
    cases hp
    rw [Proto.Value.keyed, mapKeyed_replicate]
    exact fromEntries_keyed keys ih hes
  | json v _ ih =>
    intro p hp
    rw [fromValue] at hp
    obtain ⟨es, hes, hp⟩ := Fallible.bind_eq_ok.1 hp
    cases hp
    rw [Proto.Value.keyed, jsonKeyed_replicate]
    exact fromMembers_keyed ih hes
  | aero v _ =>
    intro p hp
    exact fromAeroValue_keyed hp
  | _ =>
    intro p hp
    cases hp
    rfl

/-- **Main theorem.** Whatever the Go client reads a stored value of a program as, it comes back
    to the program without an exception. -/
theorem Arg.decode_silent (floatBits : F64 → UInt64) (a : Arg) {g : GoValue}
    (hread : a.toAero.ReadAs g) :
    ∃ p, fromValue g = .ok p ∧ PHPValue.decode floatBits p = .ok ([], g.denoted) := by
  obtain ⟨p, hp, hdecoded⟩ := a.plain.comesBack hread
  have hkeyed : p.keyed = true := (a.plain.readable g hread).1.silent p hp
  exact ⟨p, hp, PHPValue.decode_of_keyed hdecoded hkeyed⟩

/-- A map with one entry, read as a Go map. -/
theorem Arg.decode_silent_map :
    ∃ p, fromValue (.map [(.string "visits", .int 1)]) = .ok p ∧
      PHPValue.decode F64.bits p = .ok ([], .hashMap [(.string "visits", .int 1)]) := by
  have hplain : PHPValue.Plain (.hashMap [(.string "visits", .int 1)]) :=
    .hashMap _ (by simp [PHPValue.PlainKey.string]) (List.pairwise_singleton _ _)
      (by simp [PHPValue.Plain.int])
  exact Arg.decode_silent F64.bits ⟨_, hplain⟩ ⟨_, _, .inl rfl, .refl _, rfl, rfl, trivial⟩

end Stored

end AerospikePhp
