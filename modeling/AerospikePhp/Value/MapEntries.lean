import AerospikePhp.Value.Native

/-!
# The entries of encoded maps

`fromValue` (`kvs.go` lines 1698–1709 and 1724–1729) makes the slice of the entries of a map
with the length of the map and then appends the entries to it, so that an empty entry is left
for each pair.

Main results:
* `entryCount_fromValue`: the entries in a message are twice the pairs in the value.
* `encodedExactly_iff`: the values of which every map is encoded entry by entry.
-/

namespace AerospikePhp

/-! ## Pairs and entries -/

namespace Aero.Value

mutual

/-- The pairs of all maps and objects in a value of the client. -/
def pairCount : Aero.Value → ℕ
  | json j => j.length + jsonPairCount j
  | map m => m.length + mapPairCount m
  | list l => listPairCount l
  | _ => 0

def jsonPairCount : List (String × Aero.Value) → ℕ
  | [] => 0
  | (_, v) :: j => v.pairCount + jsonPairCount j

def mapPairCount : List (Aero.Value × Aero.Value) → ℕ
  | [] => 0
  | (k, v) :: m => k.pairCount + v.pairCount + mapPairCount m

def listPairCount : List Aero.Value → ℕ
  | [] => 0
  | v :: vs => v.pairCount + listPairCount vs

end

mutual

/-- An object is encoded entry by entry, and so are the values in it. -/
def EncodedAs : Aero.Value → Proto.Value → Prop
  | json j, p => ∃ es, p = .json es ∧ jsonEncodedAs j es
  | _, _ => True

def jsonEncodedAs : List (String × Aero.Value) → List (String × Option Proto.Value) → Prop
  | [], es => es = []
  | (k, v) :: j, es => ∃ v' es', es = (k, some v') :: es' ∧ v.EncodedAs v' ∧ jsonEncodedAs j es'

end

end Aero.Value

namespace GoValue

mutual

/-- The pairs of all maps, pair lists and objects in a value. -/
def pairCount : GoValue → ℕ
  | slice v | opResults v => listPairCount v
  | map v | mapPairs v => v.length + entriesPairCount v
  | json v => v.length + membersPairCount v
  | aero v => v.pairCount
  | _ => 0

def listPairCount : List GoValue → ℕ
  | [] => 0
  | v :: vs => v.pairCount + listPairCount vs

def entriesPairCount : List (GoValue × GoValue) → ℕ
  | [] => 0
  | (k, v) :: m => k.pairCount + v.pairCount + entriesPairCount m

def membersPairCount : List (String × GoValue) → ℕ
  | [] => 0
  | (_, v) :: j => v.pairCount + membersPairCount j

end

mutual

/-- Each map, pair list and object in the value is encoded as one entry for each of its pairs,
    with the key and the value set. -/
def EncodedAs : GoValue → Proto.Value → Prop
  | slice v, p | opResults v, p => ∃ ps, p = .l ps ∧ listEncodedAs v ps
  | map v, p | mapPairs v, p => ∃ es, p = .m es ∧ entriesEncodedAs v es
  | json v, p => ∃ es, p = .json es ∧ membersEncodedAs v es
  | aero v, p => v.EncodedAs p
  | _, _ => True

def listEncodedAs : List GoValue → List Proto.Value → Prop
  | [], ps => ps = []
  | v :: vs, ps => ∃ p ps', ps = p :: ps' ∧ v.EncodedAs p ∧ listEncodedAs vs ps'

def entriesEncodedAs : List (GoValue × GoValue) →
    List (Option Proto.Value × Option Proto.Value) → Prop
  | [], es => es = []
  | (k, v) :: m, es =>
    ∃ k' v' es', es = (some k', some v') :: es' ∧ k.EncodedAs k' ∧ v.EncodedAs v' ∧
      entriesEncodedAs m es'

def membersEncodedAs : List (String × GoValue) → List (String × Option Proto.Value) → Prop
  | [], es => es = []
  | (k, v) :: j, es =>
    ∃ v' es', es = (k, some v') :: es' ∧ v.EncodedAs v' ∧ membersEncodedAs j es'

end

end GoValue

namespace Proto.Value

mutual

/-- The entries of all maps and objects in a message. -/
def entryCount : Proto.Value → ℕ
  | l vs => listEntryCount vs
  | m es => es.length + mapEntryCount es
  | json es => es.length + jsonEntryCount es
  | _ => 0

def listEntryCount : List Proto.Value → ℕ
  | [] => 0
  | v :: vs => v.entryCount + listEntryCount vs

def optionEntryCount : Option Proto.Value → ℕ
  | none => 0
  | some v => v.entryCount

def mapEntryCount : List (Option Proto.Value × Option Proto.Value) → ℕ
  | [] => 0
  | (k, v) :: es => optionEntryCount k + optionEntryCount v + mapEntryCount es

def jsonEntryCount : List (String × Option Proto.Value) → ℕ
  | [] => 0
  | (_, v) :: es => optionEntryCount v + jsonEntryCount es

end

/-- In the empty entries in front of the entries of a map there is nothing. -/
theorem mapEntryCount_phantoms (n : ℕ) (es : List (Option Proto.Value × Option Proto.Value)) :
    mapEntryCount (List.replicate n (none, none) ++ es) = mapEntryCount es := by
  induction n with
  | zero => rfl
  | succ n ih =>
    rw [List.replicate_succ, List.cons_append, mapEntryCount, ih, optionEntryCount, Nat.zero_add]

theorem jsonEntryCount_phantoms (n : ℕ) (es : List (String × Option Proto.Value)) :
    jsonEntryCount (List.replicate n ("", none) ++ es) = jsonEntryCount es := by
  induction n with
  | zero => rfl
  | succ n ih =>
    rw [List.replicate_succ, List.cons_append, jsonEntryCount, ih, optionEntryCount, Nat.zero_add]

end Proto.Value

/-! ## Counting -/

open Proto.Value (entryCount listEntryCount mapEntryCount jsonEntryCount optionEntryCount)

mutual

theorem entryCount_fromAeroValue : ∀ v {p}, fromAeroValue v = .ok p →
    p.entryCount = 2 * v.pairCount
  | .null, _, h | .integer _, _, h | .float _, _, h | .string _, _, h | .bool _, _, h
  | .bytes _, _, h | .hll _, _, h | .geoJSON _, _, h | .wildCard, _, h | .infinity, _, h => by
    cases h
    rfl
  | .map _, _, h | .list _, _, h => by cases h
  | .json j, _, h => by
    rw [fromAeroValue] at h
    obtain ⟨es, hes, h⟩ := Fallible.bind_eq_ok.1 h
    cases h
    obtain ⟨hlength, hcount⟩ := entryCount_fromJson j hes
    rw [entryCount, Aero.Value.pairCount, Proto.Value.jsonEntryCount_phantoms, hcount,
      List.length_append, List.length_replicate, hlength]
    omega

theorem entryCount_fromJson : ∀ j {es}, fromJson j = .ok es →
    es.length = j.length ∧ jsonEntryCount es = 2 * Aero.Value.jsonPairCount j
  | [], _, h => by
    cases h
    exact ⟨rfl, rfl⟩
  | (k, v) :: j, _, h => by
    rw [fromJson] at h
    obtain ⟨v', hv, h⟩ := Fallible.bind_eq_ok.1 h
    obtain ⟨es, hes, h⟩ := Fallible.bind_eq_ok.1 h
    cases h
    have hcount := entryCount_fromAeroValue v hv
    obtain ⟨hlength, hrest⟩ := entryCount_fromJson j hes
    refine ⟨by rw [List.length_cons, hlength, List.length_cons], ?_⟩
    rw [jsonEntryCount, optionEntryCount, hcount, hrest, Aero.Value.jsonPairCount]
    omega

end

mutual

/-- An encoded value has two entries for each of its pairs. -/
theorem entryCount_fromValue : ∀ v {p}, fromValue v = .ok p → p.entryCount = 2 * v.pairCount
  | .nil, _, h | .int _, _, h | .float64 _, _, h | .string _, _, h | .bool _, _, h
  | .bytes _, _, h => by
    cases h
    rfl
  | .other, _, h => by cases h
  | .slice vs, _, h | .opResults vs, _, h => by
    rw [fromValue] at h
    obtain ⟨ps, hps, h⟩ := Fallible.bind_eq_ok.1 h
    cases h
    rw [entryCount, GoValue.pairCount, listEntryCount_fromValues vs hps]
  | .map m, _, h | .mapPairs m, _, h => by
    rw [fromValue] at h
    obtain ⟨es, hes, h⟩ := Fallible.bind_eq_ok.1 h
    cases h
    obtain ⟨hlength, hcount⟩ := entryCount_fromEntries m hes
    rw [entryCount, GoValue.pairCount, Proto.Value.mapEntryCount_phantoms, hcount,
      List.length_append, List.length_replicate, hlength]
    omega
  | .json j, _, h => by
    rw [fromValue] at h
    obtain ⟨es, hes, h⟩ := Fallible.bind_eq_ok.1 h
    cases h
    obtain ⟨hlength, hcount⟩ := entryCount_fromMembers j hes
    rw [entryCount, GoValue.pairCount, Proto.Value.jsonEntryCount_phantoms, hcount,
      List.length_append, List.length_replicate, hlength]
    omega
  | .aero v, _, h => entryCount_fromAeroValue v h

theorem listEntryCount_fromValues : ∀ vs {ps}, fromValues vs = .ok ps →
    listEntryCount ps = 2 * GoValue.listPairCount vs
  | [], _, h => by
    cases h
    rfl
  | v :: vs, _, h => by
    rw [fromValues] at h
    obtain ⟨p, hp, h⟩ := Fallible.bind_eq_ok.1 h
    obtain ⟨ps, hps, h⟩ := Fallible.bind_eq_ok.1 h
    cases h
    rw [listEntryCount, GoValue.listPairCount, entryCount_fromValue v hp,
      listEntryCount_fromValues vs hps]
    omega

theorem entryCount_fromEntries : ∀ m {es}, fromEntries m = .ok es →
    es.length = m.length ∧ mapEntryCount es = 2 * GoValue.entriesPairCount m
  | [], _, h => by
    cases h
    exact ⟨rfl, rfl⟩
  | (k, v) :: m, _, h => by
    rw [fromEntries] at h
    obtain ⟨k', hk, h⟩ := Fallible.bind_eq_ok.1 h
    obtain ⟨v', hv, h⟩ := Fallible.bind_eq_ok.1 h
    obtain ⟨es, hes, h⟩ := Fallible.bind_eq_ok.1 h
    cases h
    have hkey := entryCount_fromValue k hk
    have hval := entryCount_fromValue v hv
    obtain ⟨hlength, hrest⟩ := entryCount_fromEntries m hes
    refine ⟨by rw [List.length_cons, hlength, List.length_cons], ?_⟩
    rw [mapEntryCount, optionEntryCount, optionEntryCount, hkey, hval, hrest,
      GoValue.entriesPairCount]
    omega

theorem entryCount_fromMembers : ∀ j {es}, fromMembers j = .ok es →
    es.length = j.length ∧ jsonEntryCount es = 2 * GoValue.membersPairCount j
  | [], _, h => by
    cases h
    exact ⟨rfl, rfl⟩
  | (k, v) :: j, _, h => by
    rw [fromMembers] at h
    obtain ⟨v', hv, h⟩ := Fallible.bind_eq_ok.1 h
    obtain ⟨es, hes, h⟩ := Fallible.bind_eq_ok.1 h
    cases h
    have hval := entryCount_fromValue v hv
    obtain ⟨hlength, hrest⟩ := entryCount_fromMembers j hes
    refine ⟨by rw [List.length_cons, hlength, List.length_cons], ?_⟩
    rw [jsonEntryCount, optionEntryCount, hval, hrest, GoValue.membersPairCount]
    omega

end

/-! ## Values without pairs -/

theorem encodedAs_fromAeroValue {v : Aero.Value} {p : Proto.Value} (h : fromAeroValue v = .ok p)
    (hpairs : v.pairCount = 0) : v.EncodedAs p := by
  cases v with
  | json j =>
    rw [Aero.Value.pairCount, Nat.add_eq_zero_iff, List.length_eq_zero_iff] at hpairs
    obtain ⟨rfl, -⟩ := hpairs
    cases h
    exact ⟨[], rfl, rfl⟩
  | _ => trivial

mutual

/-- A value without pairs has no map with entries in it. -/
theorem encodedAs_fromValue : ∀ v {p}, fromValue v = .ok p → v.pairCount = 0 → v.EncodedAs p
  | .nil, _, _, _ | .int _, _, _, _ | .float64 _, _, _, _ | .string _, _, _, _
  | .bool _, _, _, _ | .bytes _, _, _, _ | .other, _, _, _ => trivial
  | .slice vs, _, h, hpairs | .opResults vs, _, h, hpairs => by
    rw [fromValue] at h
    obtain ⟨ps, hps, h⟩ := Fallible.bind_eq_ok.1 h
    cases h
    exact ⟨ps, rfl, listEncodedAs_fromValues vs hps hpairs⟩
  | .map m, _, h, hpairs | .mapPairs m, _, h, hpairs => by
    rw [GoValue.pairCount, Nat.add_eq_zero_iff, List.length_eq_zero_iff] at hpairs
    obtain ⟨rfl, -⟩ := hpairs
    cases h
    exact ⟨[], rfl, rfl⟩
  | .json j, _, h, hpairs => by
    rw [GoValue.pairCount, Nat.add_eq_zero_iff, List.length_eq_zero_iff] at hpairs
    obtain ⟨rfl, -⟩ := hpairs
    cases h
    exact ⟨[], rfl, rfl⟩
  | .aero _, _, h, hpairs => encodedAs_fromAeroValue h hpairs

theorem listEncodedAs_fromValues : ∀ vs {ps}, fromValues vs = .ok ps →
    GoValue.listPairCount vs = 0 → GoValue.listEncodedAs vs ps
  | [], _, h, _ => by
    cases h
    rfl
  | v :: vs, _, h, hpairs => by
    rw [fromValues] at h
    obtain ⟨p, hp, h⟩ := Fallible.bind_eq_ok.1 h
    obtain ⟨ps, hps, h⟩ := Fallible.bind_eq_ok.1 h
    cases h
    rw [GoValue.listPairCount, Nat.add_eq_zero_iff] at hpairs
    exact ⟨p, ps, rfl, encodedAs_fromValue v hp hpairs.1,
      listEncodedAs_fromValues vs hps hpairs.2⟩

end

/-- **Main theorem.** Every map, pair list and object in a value is encoded entry by entry, with
    as many entries in the message as pairs in the value, iff there are no pairs. -/
theorem encodedExactly_iff {v : GoValue} {p : Proto.Value} (h : fromValue v = .ok p) :
    v.EncodedAs p ∧ p.entryCount = v.pairCount ↔ v.pairCount = 0 := by
  have hcount := entryCount_fromValue v h
  constructor
  · rintro ⟨-, hsame⟩
    omega
  · intro hpairs
    refine ⟨encodedAs_fromValue v h hpairs, ?_⟩
    rw [hcount, hpairs]

/-- A list with an empty map. -/
theorem encodedExactly_iff_empty :
    (GoValue.slice [.int 1, .map []]).EncodedAs (.l [.i 1, .m []]) ∧
      (Proto.Value.l [.i 1, .m []]).entryCount = (GoValue.slice [.int 1, .map []]).pairCount :=
  (encodedExactly_iff rfl).2 rfl

/-- In front of the entry of this map stands an empty one. -/
theorem map_entry_phantom :
    fromValue (.map [(.string "a", .int 1)]) =
        .ok (.m [(none, none), (some (.s "a"), some (.i 1))]) ∧
      ¬ (GoValue.map [(.string "a", .int 1)]).EncodedAs
        (.m [(none, none), (some (.s "a"), some (.i 1))]) ∧
      (Proto.Value.m [(none, none), (some (.s "a"), some (.i 1))]).entryCount = 2 ∧
      (GoValue.map [(.string "a", .int 1)]).pairCount = 1 := by
  refine ⟨rfl, ?_, rfl, rfl⟩
  rintro ⟨es, hes, k, v, es', hentries, -⟩
  cases hes
  cases hentries

end AerospikePhp
