import AerospikePhp.Value.Native
import AerospikePhp.Value.Zval

/-!
# Values that cross the socket

A value that a PHP program writes is encoded by `impl From<PHPValue> for
proto::Value`, and has two decoders: `toValue` in the daemon and `impl
From<proto::Value> for PHPValue` in the extension. A value that it reads is encoded
by `fromValue` in the daemon and decoded in the extension.

Main results:
* `written_intact`: both decoders give back every value that `from_zval` yields, but
  for the sign of its integers.
* `roundTrips_iff`: a value that is read arrives unchanged iff every JSON object in
  it is empty.
-/

namespace AerospikePhp

/-! ## Written values -/

namespace PHPValue

mutual

/-- The value with every unsigned integer replaced by the signed one of the same
    64 bits. -/
def signed : PHPValue → PHPValue
  | nil => nil
  | bool b => bool b
  | int i => int i
  | uInt ui => int ui.toInt64
  | float f => float f
  | string s => string s
  | blob b => blob b
  | list l => list (listSigned l)
  | hashMap h => hashMap (hashMapSigned h)
  | json h => json (jsonSigned h)
  | geoJSON gj => geoJSON gj
  | hll b => hll b
  | wildcard => wildcard
  | infinity => infinity

def listSigned : List PHPValue → List PHPValue
  | [] => []
  | v :: vs => v.signed :: listSigned vs

def hashMapSigned : List (PHPValue × PHPValue) → List (PHPValue × PHPValue)
  | [] => []
  | (k, v) :: h => (k.signed, v.signed) :: hashMapSigned h

def jsonSigned : List (String × PHPValue) → List (String × PHPValue)
  | [] => []
  | (k, v) :: h => (k, v.signed) :: jsonSigned h

end

theorem listSigned_eq_map (vs : List PHPValue) : listSigned vs = vs.map signed := by
  induction vs with
  | nil => rw [listSigned, List.map_nil]
  | cons v vs ih => rw [listSigned, ih, List.map_cons]

theorem hashMapSigned_eq_map (h : List (PHPValue × PHPValue)) :
    hashMapSigned h = h.map fun e => (e.1.signed, e.2.signed) := by
  induction h with
  | nil => rw [hashMapSigned, List.map_nil]
  | cons e h ih => rw [hashMapSigned, ih, List.map_cons]

theorem listFromProto_eq_mapM (vs : List Proto.Value) : listFromProto vs = vs.mapM fromProto := by
  induction vs with
  | nil => rw [listFromProto, List.mapM_nil, Fallible.pure_eq_ok]
  | cons v vs ih => rw [listFromProto, ih, List.mapM_cons]

/-- The keys of a map in a record: an integer or a string. -/
inductive RecordKey : PHPValue → Prop
  | int (i : Int64) : RecordKey (.int i)
  | string (s : String) : RecordKey (.string s)

theorem RecordKey.eq_of_ne {k k' : PHPValue} (h : RecordKey k) (h' : RecordKey k')
    (hne : k ≠ k') : k.eq k' = false := by
  cases h with
  | int i =>
    cases h' with
    | int j => simpa [PHPValue.eq] using hne
    | string t => simp [PHPValue.eq]
  | string s =>
    cases h' with
    | int j => simp [PHPValue.eq]
    | string t => simpa [PHPValue.eq] using hne

namespace PlainKey

theorem fromProto_toProto {k : PHPValue} (h : PlainKey k) :
    PHPValue.fromProto k.toProto = .ok k.signed := by
  cases h with
  | uInt ui => rw [toProto, PHPValue.fromProto, signed]
  | string s => rw [toProto, PHPValue.fromProto, signed]

theorem recordKey_signed {k : PHPValue} (h : PlainKey k) : RecordKey k.signed := by
  cases h with
  | uInt ui =>
    rw [signed]
    exact .int ui.toInt64
  | string s =>
    rw [signed]
    exact .string s

theorem signed_ne {k k' : PHPValue} (h : PlainKey k) (h' : PlainKey k') (hne : k ≠ k') :
    k.signed ≠ k'.signed := by
  intro heq
  cases h with
  | uInt ui =>
    cases h' with
    | uInt uj =>
      have hij : ui.toInt64 = uj.toInt64 := by simpa [signed] using heq
      have huij := congrArg Int64.toUInt64 hij
      exact hne (by simpa using huij)
    | string s => simp [signed] at heq
  | string s =>
    cases h' with
    | uInt uj => simp [signed] at heq
    | string t => exact hne (by simpa [signed] using heq)

end PlainKey

/-- The loop over the entries of a hash map whose values are decoded: a sequence of
    writes. -/
theorem mapFromProto_hashMapToProto {h : List (PHPValue × PHPValue)}
    (keys : ∀ e ∈ h, PlainKey e.1) (vals : ∀ e ∈ h, fromProto e.2.toProto = .ok e.2.signed)
    (t : List (PHPValue × PHPValue)) :
    mapFromProto (hashMapToProto h) t =
      .ok (AssocTable.insertAll PHPValue.eq t (hashMapSigned h)) := by
  induction h generalizing t with
  | nil => rw [hashMapToProto, hashMapSigned, mapFromProto, AssocTable.insertAll_nil]
  | cons e h ih =>
    have hk : fromProto e.1.toProto = .ok e.1.signed := (keys e (by simp)).fromProto_toProto
    have hv : fromProto e.2.toProto = .ok e.2.signed := vals e (by simp)
    have htail := ih (fun e' he' => keys e' (by simp [he'])) fun e' he' => vals e' (by simp [he'])
    rw [hashMapToProto, hashMapSigned, mapFromProto, hk, Fallible.ok_bind, fromProtoOption, hv,
      Fallible.ok_bind, htail, AssocTable.insertAll_cons]

/-- The extension decodes its own encoding of a plain value. -/
theorem fromProto_toProto {v : PHPValue} (h : v.Plain) : fromProto v.toProto = .ok v.signed := by
  induction h with
  | nil => rw [toProto, fromProto, signed]
  | bool b => rw [toProto, fromProto, signed]
  | int i => rw [toProto, fromProto, signed]
  | float f => rw [toProto, fromProto, signed]
  | string s => rw [toProto, fromProto, signed]
  | blob b => rw [toProto, fromProto, signed]
  | list l _ ih =>
    have hl : (l.map toProto).mapM fromProto = .ok (l.map signed) := by
      rw [List.mapM_map]
      exact Fallible.mapM_ok _ _ l ih
    rw [toProto, fromProto, listToProto_eq_map, listFromProto_eq_mapM, hl, signed,
      listSigned_eq_map]
    rfl
  | hashMap h keys distinct _ ih =>
    have hdistinct : AssocTable.Distinct PHPValue.eq ([] ++ hashMapSigned h) := by
      rw [List.nil_append, hashMapSigned_eq_map, AssocTable.Distinct, List.pairwise_map]
      apply distinct.imp_of_mem
      intro e e' he he' hne
      exact (keys e he).recordKey_signed.eq_of_ne (keys e' he').recordKey_signed
        ((keys e he).signed_ne (keys e' he') hne)
    have hm := mapFromProto_hashMapToProto keys ih []
    rw [AssocTable.insertAll_of_distinct _ hdistinct, List.nil_append] at hm
    rw [toProto, fromProto, hm, signed]
    rfl
  | geoJSON gj => rw [toProto, fromProto, signed]
  | hll b => rw [toProto, fromProto, signed]
  | wildcard => rw [toProto, fromProto, signed]
  | infinity => rw [toProto, fromProto, signed]

end PHPValue

/-- **Main theorem.** Both decoders give back a value that `from_zval` yields: the
    extension with its unsigned integers made signed, the daemon as the value of the
    Go client that it denotes. -/
theorem written_intact {z : Zval} {v : PHPValue} (h : fromZval z = some v) :
    PHPValue.fromProto v.toProto = .ok v.signed ∧ toValue (some v.toProto) = .ok v.toAero := by
  have hplain : v.Plain := fromZval_plain h
  constructor
  · exact PHPValue.fromProto_toProto hplain
  · rw [toValue_some]
    exact toValueV_toProto hplain

/-- An array with a string key that holds one with an integer key that holds a list. -/
theorem written_intact_nested :
    let v : PHPValue :=
      .hashMap [(.string "m", .hashMap [(.uInt 5, .list [.int 1, .nil, .hll [7]])])]
    PHPValue.fromProto v.toProto = .ok v.signed ∧ toValue (some v.toProto) = .ok v.toAero :=
  written_intact
    (z := .array [(.string "m", .array [(.long 5,
      .array [(.long 0, .long 1), (.long 1, .null), (.long 2, .hll [7])])])])
    rfl

/-! ## Read values -/

namespace Aero.Value

mutual

/-- The PHP value that a value of the Go client denotes. -/
def denoted : Aero.Value → PHPValue
  | null => .nil
  | integer i => .int i
  | float f => .float f
  | string s => .string s
  | bool b => .bool b
  | bytes b => .blob b
  | geoJSON gj => .geoJSON gj
  | hll b => .hll b
  | wildCard => .wildcard
  | infinity => .infinity
  | json j => .json (jsonDenoted j)
  | map m => .hashMap (mapDenoted m)
  | list l => .list (listDenoted l)

def jsonDenoted : List (String × Aero.Value) → List (String × PHPValue)
  | [] => []
  | (k, v) :: j => (k, v.denoted) :: jsonDenoted j

def mapDenoted : List (Aero.Value × Aero.Value) → List (PHPValue × PHPValue)
  | [] => []
  | (k, v) :: m => (k.denoted, v.denoted) :: mapDenoted m

def listDenoted : List Aero.Value → List PHPValue
  | [] => []
  | v :: vs => v.denoted :: listDenoted vs

end

/-- Not a JSON object with entries. -/
def jsonEmpty : Aero.Value → Bool
  | json j => j.isEmpty
  | _ => true

end Aero.Value

namespace GoValue

mutual

/-- The PHP value that a Go value denotes: the same kind, the same elements in the
    same order, the same entries. A type that `fromValue` does not know (`other`)
    denotes nothing. -/
def denoted : GoValue → PHPValue
  | nil => .nil
  | int v => .int v
  | float64 v => .float v
  | string v => .string v
  | bool v => .bool v
  | bytes v => .blob v
  | slice v => .list (listDenoted v)
  | map v => .hashMap (entriesDenoted v)
  | mapPairs v => .hashMap (entriesDenoted v)
  | json v => .json (membersDenoted v)
  | opResults v => .list (listDenoted v)
  | aero v => v.denoted
  | other => .nil

def listDenoted : List GoValue → List PHPValue
  | [] => []
  | v :: vs => v.denoted :: listDenoted vs

def entriesDenoted : List (GoValue × GoValue) → List (PHPValue × PHPValue)
  | [] => []
  | (k, v) :: m => (k.denoted, v.denoted) :: entriesDenoted m

def membersDenoted : List (String × GoValue) → List (String × PHPValue)
  | [] => []
  | (k, v) :: j => (k, v.denoted) :: membersDenoted j

end

mutual

/-- Every JSON object in the value is empty. -/
def jsonEmpty : GoValue → Bool
  | slice v | opResults v => listJsonEmpty v
  | map v | mapPairs v => entriesJsonEmpty v
  | json v => v.isEmpty
  | aero v => v.jsonEmpty
  | _ => true

def listJsonEmpty : List GoValue → Bool
  | [] => true
  | v :: vs => v.jsonEmpty && listJsonEmpty vs

def entriesJsonEmpty : List (GoValue × GoValue) → Bool
  | [] => true
  | (_, v) :: m => v.jsonEmpty && entriesJsonEmpty m

end

theorem listDenoted_eq_map (vs : List GoValue) : listDenoted vs = vs.map denoted := by
  induction vs with
  | nil => rfl
  | cons v vs ih => rw [listDenoted, ih, List.map_cons]

theorem entriesDenoted_eq_map (m : List (GoValue × GoValue)) :
    entriesDenoted m = m.map fun e => (e.1.denoted, e.2.denoted) := by
  induction m with
  | nil => rfl
  | cons e m ih => rw [entriesDenoted, ih, List.map_cons]

theorem listJsonEmpty_eq_all (vs : List GoValue) : listJsonEmpty vs = vs.all jsonEmpty := by
  induction vs with
  | nil => rfl
  | cons v vs ih => rw [listJsonEmpty, ih, List.all_cons]

/-- An integer or a string, native or of the client. -/
inductive PlainKey : GoValue → Prop
  | int (v : Int64) : PlainKey (.int v)
  | string (v : String) : PlainKey (.string v)
  | integer (v : Int64) : PlainKey (.aero (.integer v))
  | stringValue (v : String) : PlainKey (.aero (.string v))

/-- A value of the types that `fromValue` knows, whose map keys are integers or
    strings, pairwise different. -/
inductive Readable : GoValue → Prop
  | nil : Readable .nil
  | int (v : Int64) : Readable (.int v)
  | float64 (v : F64) : Readable (.float64 v)
  | string (v : String) : Readable (.string v)
  | bool (v : Bool) : Readable (.bool v)
  | bytes (v : List UInt8) : Readable (.bytes v)
  | slice (v : List GoValue) (h : ∀ x ∈ v, Readable x) : Readable (.slice v)
  | map (v : List (GoValue × GoValue)) (keys : ∀ e ∈ v, PlainKey e.1)
      (distinct : v.Pairwise fun e e' => e.1.denoted ≠ e'.1.denoted)
      (vals : ∀ e ∈ v, Readable e.2) : Readable (.map v)
  | mapPairs (v : List (GoValue × GoValue)) (keys : ∀ e ∈ v, PlainKey e.1)
      (distinct : v.Pairwise fun e e' => e.1.denoted ≠ e'.1.denoted)
      (vals : ∀ e ∈ v, Readable e.2) : Readable (.mapPairs v)
  | json (v : List (String × GoValue)) (vals : ∀ e ∈ v, Readable e.2) : Readable (.json v)
  | opResults (v : List GoValue) (h : ∀ x ∈ v, Readable x) : Readable (.opResults v)
  | aero (v : Aero.Value) (known : v.known = true) : Readable (.aero v)

end GoValue

/-- A value that the Go client returns. -/
structure ReadValue where
  go : GoValue
  readable : go.Readable

/-- `fromValue` encodes the value, and the extension decodes the message as the value
    that it denotes. -/
def GoValue.RoundTrips (g : GoValue) : Prop :=
  ∃ p, fromValue g = .ok p ∧ PHPValue.fromProto p = .ok g.denoted

/-! ### Encoding -/

/-- What the extension makes of the message of a value: the value that it denotes,
    unless a JSON object in it has entries. -/
def GoValue.Decodes (g : GoValue) (p : Proto.Value) : Prop :=
  (PHPValue.fromProto p).toOption = if g.jsonEmpty then some g.denoted else none

theorem fromValues_eq_mapM (vs : List GoValue) : fromValues vs = vs.mapM fromValue := by
  induction vs with
  | nil => rw [fromValues, List.mapM_nil, Fallible.pure_eq_ok]
  | cons v vs ih => rw [fromValues, ih, List.mapM_cons]

theorem fromEntries_eq_mapM (m : List (GoValue × GoValue)) :
    fromEntries m = m.mapM fun e => do
      let k ← fromValue e.1
      let v ← fromValue e.2
      return (some k, some v) := by
  induction m with
  | nil => rw [fromEntries, List.mapM_nil, Fallible.pure_eq_ok]
  | cons e m ih =>
    rw [fromEntries, ih, List.mapM_cons]
    simp only [bind_assoc, pure_bind]

theorem fromMembers_eq_mapM (j : List (String × GoValue)) :
    fromMembers j = j.mapM fun e => do
      let v ← fromValue e.2
      return (e.1, some v) := by
  induction j with
  | nil => rw [fromMembers, List.mapM_nil, Fallible.pure_eq_ok]
  | cons e j ih =>
    rw [fromMembers, ih, List.mapM_cons]
    simp only [bind_assoc, pure_bind]

/-! ### Decoding -/

namespace PHPValue

/-- The empty entries in front of the entries of a map are skipped. -/
theorem mapFromProto_phantoms (n : ℕ) (m : List (Option Proto.Value × Option Proto.Value))
    (t : List (PHPValue × PHPValue)) :
    mapFromProto (List.replicate n (none, none) ++ m) t = mapFromProto m t := by
  induction n with
  | zero => rfl
  | succ n ih => rw [List.replicate_succ, List.cons_append, mapFromProto, ih]

/-- Those in front of the entries of a JSON object are not. -/
theorem jsonFromProto_phantoms (n : ℕ) (j : List (String × Option Proto.Value))
    (t : List (String × PHPValue)) :
    jsonFromProto (List.replicate (n + 1) ("", none) ++ j) t = .error .unwrapNone := by
  rw [List.replicate_succ, List.cons_append, jsonFromProto, fromProtoOption, Fallible.error_bind]

end PHPValue

theorem listFromProto_of_decodes {vs : List GoValue} {ps : List Proto.Value}
    (h : List.Forall₂ GoValue.Decodes vs ps) :
    (PHPValue.listFromProto ps).toOption =
      if GoValue.listJsonEmpty vs then some (GoValue.listDenoted vs) else none := by
  rw [PHPValue.listFromProto_eq_mapM, GoValue.listJsonEmpty_eq_all, GoValue.listDenoted_eq_map]
  exact Fallible.toOption_mapM_of_forall₂ h

/-- An entry of a map and its message: both fields are present. -/
structure EntryDecodes (e : GoValue × GoValue) (e' : Option Proto.Value × Option Proto.Value) :
    Prop where
  key : ∃ k, e'.1 = some k ∧ PHPValue.fromProto k = .ok e.1.denoted
  val : ∃ v, e'.2 = some v ∧ e.2.Decodes v

/-- The loop over the entries of a map: a sequence of writes, unless a value is not
    decoded. -/
theorem mapFromProto_of_decodes {m : List (GoValue × GoValue)}
    {ms : List (Option Proto.Value × Option Proto.Value)} (h : List.Forall₂ EntryDecodes m ms)
    (t : List (PHPValue × PHPValue)) :
    (PHPValue.mapFromProto ms t).toOption =
      if GoValue.entriesJsonEmpty m then
        some (AssocTable.insertAll PHPValue.eq t (GoValue.entriesDenoted m))
      else none := by
  induction h generalizing t with
  | nil => rfl
  | @cons e e' m ms he _ ih =>
    obtain ⟨⟨k, hk, hkey⟩, v, hv, hval⟩ := he
    obtain ⟨k', v'⟩ := e'
    subst hk hv
    rw [PHPValue.mapFromProto, hkey, Fallible.ok_bind, PHPValue.fromProtoOption,
      Fallible.toOption_bind, hval, GoValue.entriesJsonEmpty, GoValue.entriesDenoted,
      AssocTable.insertAll_cons]
    cases e.2.jsonEmpty with
    | false => rfl
    | true => rw [if_pos rfl, Option.bind_some, ih, Bool.true_and]

namespace GoValue

/-- A key is encoded, and decoded as the integer or the string that it denotes. -/
theorem PlainKey.roundTrips {k : GoValue} (h : PlainKey k) : k.RoundTrips := by
  cases h with
  | int v => exact ⟨.i v, by rw [fromValue], by rw [PHPValue.fromProto, denoted]⟩
  | string v => exact ⟨.s v, by rw [fromValue], by rw [PHPValue.fromProto, denoted]⟩
  | integer v =>
    refine ⟨.i v, ?_, ?_⟩
    · rw [fromValue, fromAeroValue]
    · rw [PHPValue.fromProto, denoted, Aero.Value.denoted]
  | stringValue v =>
    refine ⟨.s v, ?_, ?_⟩
    · rw [fromValue, fromAeroValue]
    · rw [PHPValue.fromProto, denoted, Aero.Value.denoted]

theorem PlainKey.recordKey_denoted {k : GoValue} (h : PlainKey k) :
    PHPValue.RecordKey k.denoted := by
  cases h with
  | int v =>
    rw [denoted]
    exact .int v
  | string v =>
    rw [denoted]
    exact .string v
  | integer v =>
    rw [denoted, Aero.Value.denoted]
    exact .int v
  | stringValue v =>
    rw [denoted, Aero.Value.denoted]
    exact .string v

/-- The entries of a map with plain keys, encoded and decoded. -/
theorem mapRoundTrip {m : List (GoValue × GoValue)} (keys : ∀ e ∈ m, PlainKey e.1)
    (distinct : m.Pairwise fun e e' => e.1.denoted ≠ e'.1.denoted)
    (vals : ∀ e ∈ m, ∃ p, fromValue e.2 = .ok p ∧ e.2.Decodes p) :
    ∃ ms, fromEntries m = .ok ms ∧
      (PHPValue.mapFromProto (List.replicate m.length (none, none) ++ ms) []).toOption =
        if entriesJsonEmpty m then some (entriesDenoted m) else none := by
  have hentries : ∀ e ∈ m, ∃ e', (do
      let k ← fromValue e.1
      let v ← fromValue e.2
      return (some k, some v)) = .ok e' ∧ EntryDecodes e e' := by
    intro e he
    obtain ⟨k, hk, hkey⟩ := (keys e he).roundTrips
    obtain ⟨v, hv, hval⟩ := vals e he
    exact ⟨(some k, some v), by rw [hk, hv]; rfl, ⟨k, rfl, hkey⟩, v, rfl, hval⟩
  obtain ⟨ms, hms, hall⟩ := Fallible.exists_mapM_eq_ok hentries
  have hdistinct : AssocTable.Distinct PHPValue.eq ([] ++ entriesDenoted m) := by
    rw [List.nil_append, entriesDenoted_eq_map, AssocTable.Distinct, List.pairwise_map]
    apply distinct.imp_of_mem
    intro e e' he he' hne
    exact (keys e he).recordKey_denoted.eq_of_ne (keys e' he').recordKey_denoted hne
  refine ⟨ms, by rw [fromEntries_eq_mapM, hms], ?_⟩
  rw [PHPValue.mapFromProto_phantoms, mapFromProto_of_decodes hall,
    AssocTable.insertAll_of_distinct _ hdistinct, List.nil_append]

theorem listRoundTrip {vs : List GoValue}
    (h : ∀ v ∈ vs, ∃ p, fromValue v = .ok p ∧ v.Decodes p) :
    ∃ ps, fromValues vs = .ok ps ∧
      (PHPValue.listFromProto ps).toOption =
        if listJsonEmpty vs then some (listDenoted vs) else none := by
  obtain ⟨ps, hps, hall⟩ := Fallible.exists_mapM_eq_ok h
  exact ⟨ps, by rw [fromValues_eq_mapM, hps], listFromProto_of_decodes hall⟩

/-- A value of the client itself. -/
theorem aeroRoundTrip {v : Aero.Value} (known : v.known = true) :
    ∃ p, fromAeroValue v = .ok p ∧ (aero v).Decodes p := by
  cases v with
  | json j =>
    have hj : (fromJson j).isOk = true := by
      rw [fromJson_isOk]
      exact known
    obtain ⟨ms, hms⟩ := Fallible.isOk_iff.1 hj
    refine ⟨_, by rw [fromAeroValue, hms, Fallible.ok_bind, Fallible.pure_eq_ok], ?_⟩
    rw [Decodes, PHPValue.fromProto]
    cases j with
    | nil =>
      rw [fromJson] at hms
      cases hms
      rfl
    | cons e j => rw [List.length_cons, PHPValue.jsonFromProto_phantoms]; rfl
  | map m => cases known
  | list l => cases known
  | _ => exact ⟨_, rfl, rfl⟩

/-- Every value that the Go client returns is encoded; the message is decoded as the
    value it denotes, unless a JSON object in it has entries. -/
theorem Readable.decodes {g : GoValue} (h : g.Readable) :
    ∃ p, fromValue g = .ok p ∧ g.Decodes p := by
  induction h with
  | nil => exact ⟨.nil true, rfl, rfl⟩
  | int v => exact ⟨.i v, rfl, rfl⟩
  | float64 v => exact ⟨.f v, rfl, rfl⟩
  | string v => exact ⟨.s v, rfl, rfl⟩
  | bool v => exact ⟨.b v, rfl, rfl⟩
  | bytes v => exact ⟨.blob v, rfl, rfl⟩
  | slice v _ ih =>
    obtain ⟨ps, hps, hdecoded⟩ := listRoundTrip ih
    refine ⟨.l ps, by rw [fromValue, hps]; rfl, ?_⟩
    rw [Decodes, PHPValue.fromProto, jsonEmpty, denoted]
    exact Fallible.toOption_bind_pure_of_ite PHPValue.list hdecoded
  | opResults v _ ih =>
    obtain ⟨ps, hps, hdecoded⟩ := listRoundTrip ih
    refine ⟨.l ps, by rw [fromValue, hps]; rfl, ?_⟩
    rw [Decodes, PHPValue.fromProto, jsonEmpty, denoted]
    exact Fallible.toOption_bind_pure_of_ite PHPValue.list hdecoded
  | map v keys distinct _ ih =>
    obtain ⟨ms, hms, hdecoded⟩ := mapRoundTrip keys distinct ih
    refine ⟨.m (List.replicate v.length (none, none) ++ ms), by rw [fromValue, hms]; rfl, ?_⟩
    rw [Decodes, PHPValue.fromProto, jsonEmpty, denoted]
    exact Fallible.toOption_bind_pure_of_ite PHPValue.hashMap hdecoded
  | mapPairs v keys distinct _ ih =>
    obtain ⟨ms, hms, hdecoded⟩ := mapRoundTrip keys distinct ih
    refine ⟨.m (List.replicate v.length (none, none) ++ ms), by rw [fromValue, hms]; rfl, ?_⟩
    rw [Decodes, PHPValue.fromProto, jsonEmpty, denoted]
    exact Fallible.toOption_bind_pure_of_ite PHPValue.hashMap hdecoded
  | json v _ ih =>
    have hmembers : ∀ e ∈ v, ∃ e', (do
        let x ← fromValue e.2
        return (e.1, some x)) = .ok e' ∧ True := by
      intro e he
      obtain ⟨p, hp, -⟩ := ih e he
      exact ⟨(e.1, some p), by rw [hp]; rfl, trivial⟩
    obtain ⟨ms, hms, -⟩ := Fallible.exists_mapM_eq_ok hmembers
    refine ⟨.json (List.replicate v.length ("", none) ++ ms), ?_, ?_⟩
    · rw [fromValue, fromMembers_eq_mapM, hms]
      rfl
    · rw [Decodes, PHPValue.fromProto]
      cases v with
      | nil =>
        cases hms
        rfl
      | cons e v =>
        rw [List.length_cons, PHPValue.jsonFromProto_phantoms]
        rfl
  | aero v known =>
    obtain ⟨p, hp, hdecoded⟩ := aeroRoundTrip known
    exact ⟨p, by rw [fromValue, hp], hdecoded⟩

end GoValue

/-- **Main theorem.** A value that the Go client returns arrives in PHP as the value it
    denotes iff every JSON object in it is empty. -/
theorem roundTrips_iff (v : ReadValue) : v.go.RoundTrips ↔ v.go.jsonEmpty = true := by
  obtain ⟨p, hp, hdecoded⟩ := v.readable.decodes
  constructor
  · rintro ⟨p', hp', hfrom⟩
    rw [hp, Except.ok.injEq] at hp'
    subst hp'
    by_contra hjson
    rw [GoValue.Decodes, hfrom, if_neg hjson] at hdecoded
    cases hdecoded
  · intro hjson
    refine ⟨p, hp, ?_⟩
    rw [GoValue.Decodes, if_pos hjson] at hdecoded
    exact Fallible.toOption_eq_some.1 hdecoded

/-- The JSON object with `a = 1`: in front of its entry stands an empty one, whose
    value the extension unwraps. -/
theorem json_entry_panics :
    fromValue (.json [("a", .int 1)]) = .ok (.json [("", none), ("a", some (.i 1))]) ∧
      PHPValue.fromProto (.json [("", none), ("a", some (.i 1))]) = .error .unwrapNone ∧
      ¬ (GoValue.json [("a", .int 1)]).RoundTrips := by
  refine ⟨rfl, rfl, ?_⟩
  rintro ⟨p, hp, hfrom⟩
  cases hp
  cases hfrom

end AerospikePhp
