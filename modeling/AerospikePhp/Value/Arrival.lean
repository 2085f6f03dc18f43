import AerospikePhp.Value.RoundTrip

/-!
# The values that arrive

What the Go client returns inside of a record may be of any type, and a map in it may
have any keys. It arrives in PHP when `fromValue` encodes it and the extension decodes the
message as the value that it denotes.

Main result:
* `roundTrips_iff_arrives`: a value arrives iff `fromValue` lists all its types, every JSON
  object in it is empty, and no map in it has two keys that denote equal values.
-/

namespace AerospikePhp

namespace GoValue

mutual

/-- The switch of `fromValue` lists every type in the value; its JSON objects are empty; the
    keys of a map denote values that are pairwise different. -/
def arrives : GoValue → Bool
  | slice v | opResults v => listArrives v
  | map v | mapPairs v =>
    entriesArrive v && decide (AssocTable.Distinct PHPValue.eq (entriesDenoted v))
  | json v => v.isEmpty
  | aero v => v.known && v.jsonEmpty
  | other => false
  | _ => true

def listArrives : List GoValue → Bool
  | [] => true
  | v :: vs => v.arrives && listArrives vs

def entriesArrive : List (GoValue × GoValue) → Bool
  | [] => true
  | (k, v) :: m => k.arrives && v.arrives && entriesArrive m

end

end GoValue

/-! ## Lists and maps -/

namespace PHPValue

/-- The key and the value of an entry of a map. -/
def entryFromProto (e : Option Proto.Value × Option Proto.Value) :
    Except Panic (PHPValue × PHPValue) := do
  return (← fromProtoOption e.1, ← fromProtoOption e.2)

/-- Entries that have their keys are decoded and written one after another. -/
theorem mapFromProto_eq_map {ms : List (Option Proto.Value × Option Proto.Value)}
    (keys : ∀ e ∈ ms, e.1.isSome = true) (t : List (PHPValue × PHPValue)) :
    mapFromProto ms t = (ms.mapM entryFromProto).map (AssocTable.insertAll eq t) := by
  induction ms generalizing t with
  | nil => rw [mapFromProto]; rfl
  | cons e ms ih =>
    obtain ⟨hkey, hkeys⟩ := List.forall_mem_cons.1 keys
    obtain ⟨_ | k, v⟩ := e
    · cases hkey
    · have hentry : entryFromProto (some k, v) =
          (fromProto k >>= fun k => fromProtoOption v >>= fun v => pure (k, v)) := rfl
      rw [mapFromProto, List.mapM_cons, hentry]
      cases fromProto k with
      | error p => rfl
      | ok k' =>
        cases fromProtoOption v with
        | error p => rfl
        | ok v' =>
          simp only [Fallible.ok_bind, ih hkeys, Fallible.pure_eq_ok]
          cases ms.mapM entryFromProto with
          | error p => rfl
          | ok es => rfl

end PHPValue
namespace GoValue

/-- A list arrives iff its elements do. -/
theorem list_roundTrips (vs : List GoValue) :
    (slice vs).RoundTrips ↔ ∀ v ∈ vs, v.RoundTrips := by
  have hlist : (∃ ps, fromValues vs = .ok ps ∧
      PHPValue.listFromProto ps = .ok (listDenoted vs)) ↔ ∀ v ∈ vs, v.RoundTrips := by
    simp only [listDenoted_eq_map, fromValues_eq_mapM, PHPValue.listFromProto_eq_mapM]
    exact Fallible.mapM_mapM_eq_map_iff
  rw [← hlist]
  constructor
  · rintro ⟨p, hp, hdecoded⟩
    obtain ⟨ps, hps, hp⟩ := Fallible.bind_eq_ok.1 hp
    cases hp
    obtain ⟨l, hl, hdecoded⟩ := Fallible.bind_eq_ok.1 hdecoded
    cases hdecoded
    exact ⟨ps, hps, hl⟩
  · rintro ⟨ps, hps, hl⟩
    refine ⟨.l ps, ?_, ?_⟩
    · rw [fromValue, hps]
      rfl
    · rw [PHPValue.fromProto, hl]
      rfl

/-- The message of an entry of a map. -/
def entryFromValue (e : GoValue × GoValue) :
    Except Panic (Option Proto.Value × Option Proto.Value) := do
  return (some (← fromValue e.1), some (← fromValue e.2))

theorem entry_roundTrips (e : GoValue × GoValue) :
    (∃ e', entryFromValue e = .ok e' ∧
      PHPValue.entryFromProto e' = .ok (e.1.denoted, e.2.denoted)) ↔
      e.1.RoundTrips ∧ e.2.RoundTrips := by
  constructor
  · rintro ⟨e', he, hdecoded⟩
    obtain ⟨k, hk, he⟩ := Fallible.bind_eq_ok.1 he
    obtain ⟨v, hv, he⟩ := Fallible.bind_eq_ok.1 he
    cases he
    obtain ⟨k', hk', hdecoded⟩ := Fallible.bind_eq_ok.1 hdecoded
    obtain ⟨v', hv', hdecoded⟩ := Fallible.bind_eq_ok.1 hdecoded
    cases hdecoded
    exact ⟨⟨k, hk, hk'⟩, v, hv, hv'⟩
  · rintro ⟨⟨k, hk, hk'⟩, v, hv, hv'⟩
    refine ⟨(some k, some v), ?_, ?_⟩
    · simp only [entryFromValue, hk, hv, Fallible.ok_bind, Fallible.pure_eq_ok]
    · simp only [PHPValue.entryFromProto, PHPValue.fromProtoOption, hk', hv', Fallible.ok_bind,
        Fallible.pure_eq_ok]

/-- A map arrives iff its keys and values do and its keys denote different values. -/
theorem entries_roundTrip (m : List (GoValue × GoValue)) :
    (∃ ms, fromEntries m = .ok ms ∧
      PHPValue.mapFromProto (List.replicate m.length (none, none) ++ ms) [] =
        .ok (entriesDenoted m)) ↔
      (∀ e ∈ m, e.1.RoundTrips ∧ e.2.RoundTrips) ∧
        AssocTable.Distinct PHPValue.eq (entriesDenoted m) := by
  have hkeys : ∀ {ms}, m.mapM entryFromValue = .ok ms → ∀ e ∈ ms, e.1.isSome = true := by
    intro ms hms e he
    obtain ⟨e', -, he'⟩ := Fallible.exists_of_mem_mapM hms he
    obtain ⟨k, -, he'⟩ := Fallible.bind_eq_ok.1 he'
    obtain ⟨v, -, he'⟩ := Fallible.bind_eq_ok.1 he'
    cases he'
    rfl
  have hentry : (∃ ms, m.mapM entryFromValue = .ok ms ∧
      ms.mapM PHPValue.entryFromProto = .ok (entriesDenoted m)) ↔
        ∀ e ∈ m, e.1.RoundTrips ∧ e.2.RoundTrips := by
    rw [entriesDenoted_eq_map, Fallible.mapM_mapM_eq_map_iff]
    exact forall₂_congr fun e _ => entry_roundTrips e
  rw [fromEntries_eq_mapM]
  show (∃ ms, m.mapM entryFromValue = .ok ms ∧ _) ↔ _
  simp only [PHPValue.mapFromProto_phantoms]
  rw [← hentry]
  constructor
  · rintro ⟨ms, hms, hdecoded⟩
    rw [PHPValue.mapFromProto_eq_map (hkeys hms), Fallible.map_eq_ok] at hdecoded
    obtain ⟨es, hes, hall⟩ := hdecoded
    -- as many entries are decoded as there are, so none is overwritten
    have hlength : (entriesDenoted m).length = es.length := by
      rw [entriesDenoted_eq_map, List.length_map, Fallible.mapM_length hes,
        Fallible.mapM_length hms]
    obtain ⟨rfl, hdistinct⟩ := (AssocTable.insertAll_nil_eq_iff PHPValue.eq hlength).1 hall
    exact ⟨⟨ms, hms, hes⟩, hdistinct⟩
  · rintro ⟨⟨ms, hms, hes⟩, hdistinct⟩
    refine ⟨ms, hms, ?_⟩
    rw [PHPValue.mapFromProto_eq_map (hkeys hms), hes]
    exact congrArg _ ((AssocTable.insertAll_nil_eq_iff PHPValue.eq rfl).2 ⟨rfl, hdistinct⟩)

theorem map_roundTrips (m : List (GoValue × GoValue)) :
    (map m).RoundTrips ↔ (∀ e ∈ m, e.1.RoundTrips ∧ e.2.RoundTrips) ∧
      AssocTable.Distinct PHPValue.eq (entriesDenoted m) := by
  rw [← entries_roundTrip]
  constructor
  · rintro ⟨p, hp, hdecoded⟩
    obtain ⟨ms, hms, hp⟩ := Fallible.bind_eq_ok.1 hp
    cases hp
    obtain ⟨h, hh, hdecoded⟩ := Fallible.bind_eq_ok.1 hdecoded
    cases hdecoded
    exact ⟨ms, hms, hh⟩
  · rintro ⟨ms, hms, hh⟩
    refine ⟨.m (List.replicate m.length (none, none) ++ ms), ?_, ?_⟩
    · rw [fromValue, hms]
      rfl
    · rw [PHPValue.fromProto, hh]
      rfl

/-! ## All values -/

/-- A value of the client arrives unless it is one that `fromValue` does not list, or a JSON
    object with entries. -/
theorem aero_roundTrips (v : Aero.Value) :
    (aero v).RoundTrips ↔ (v.known && v.jsonEmpty) = true := by
  rw [Bool.and_eq_true]
  constructor
  · rintro ⟨p, hp, hdecoded⟩
    have hknown : v.known = true := by
      rw [← fromAeroValue_isOk]
      exact Fallible.isOk_iff.2 ⟨p, hp⟩
    obtain ⟨p', hp', hdecodes⟩ := aeroRoundTrip hknown
    have heq : p' = p := Except.ok.inj (hp'.symm.trans hp)
    subst heq
    refine ⟨hknown, ?_⟩
    by_contra hjson
    rw [Decodes, hdecoded, jsonEmpty, if_neg hjson] at hdecodes
    cases hdecodes
  · rintro ⟨hknown, hjson⟩
    obtain ⟨p, hp, hdecodes⟩ := aeroRoundTrip hknown
    rw [Decodes, jsonEmpty, if_pos hjson] at hdecodes
    exact ⟨p, hp, Fallible.toOption_eq_some.1 hdecodes⟩

/-- In front of the entries of a JSON object stand empty ones. -/
theorem json_roundTrips (v : List (String × GoValue)) :
    (json v).RoundTrips ↔ v.isEmpty = true := by
  cases v with
  | nil => exact iff_of_true ⟨.json [], rfl, rfl⟩ rfl
  | cons e v =>
    refine iff_of_false ?_ nofun
    rintro ⟨p, hp, hdecoded⟩
    obtain ⟨ms, -, hp⟩ := Fallible.bind_eq_ok.1 hp
    cases hp
    rw [PHPValue.fromProto, List.length_cons, PHPValue.jsonFromProto_phantoms] at hdecoded
    cases hdecoded

mutual

/-- **Main theorem.** A value arrives iff `fromValue` lists all its types, every JSON object
    in it is empty, and no map in it has two keys that denote equal values. -/
theorem roundTrips_iff_arrives : ∀ g : GoValue, g.RoundTrips ↔ g.arrives = true
  | .nil => iff_of_true ⟨.nil true, rfl, rfl⟩ rfl
  | .int v => iff_of_true ⟨.i v, rfl, rfl⟩ rfl
  | .float64 v => iff_of_true ⟨.f v, rfl, rfl⟩ rfl
  | .string v => iff_of_true ⟨.s v, rfl, rfl⟩ rfl
  | .bool v => iff_of_true ⟨.b v, rfl, rfl⟩ rfl
  | .bytes v => iff_of_true ⟨.blob v, rfl, rfl⟩ rfl
  | .slice v => (list_roundTrips v).trans (list_arrives v)
  | .opResults v => (list_roundTrips v).trans (list_arrives v)
  | .map v => by
    rw [arrives, Bool.and_eq_true, decide_eq_true_eq, ← entries_arrive v]
    exact map_roundTrips v
  | .mapPairs v => by
    rw [arrives, Bool.and_eq_true, decide_eq_true_eq, ← entries_arrive v]
    exact map_roundTrips v
  | .json v => json_roundTrips v
  | .aero v => aero_roundTrips v
  | .other => iff_of_false (by rintro ⟨p, hp, -⟩; cases hp) nofun

theorem list_arrives : ∀ vs : List GoValue, (∀ v ∈ vs, v.RoundTrips) ↔ listArrives vs = true
  | [] => by simp [listArrives]
  | v :: vs => by
    rw [listArrives, List.forall_mem_cons, Bool.and_eq_true, roundTrips_iff_arrives v,
      list_arrives vs]

theorem entries_arrive : ∀ m : List (GoValue × GoValue),
    (∀ e ∈ m, e.1.RoundTrips ∧ e.2.RoundTrips) ↔ entriesArrive m = true
  | [] => by simp [entriesArrive]
  | (k, v) :: m => by
    rw [entriesArrive, List.forall_mem_cons, Bool.and_eq_true, Bool.and_eq_true,
      roundTrips_iff_arrives k, roundTrips_iff_arrives v, entries_arrive m]

end

end GoValue

end AerospikePhp
