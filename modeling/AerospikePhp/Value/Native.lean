import AerospikePhp.Value.ToValue

/-!
# Values on their way back to PHP

The Go client answers with native Go values and with values of its own.
`fromValue` (`kvs.go` lines 1674–1746) packs one into a message by a switch over
its dynamic type, and `impl From<proto::Value> for PHPValue` (`src/lib.rs` lines
11514–11557) unpacks the message in the extension.

Main results:
* `fromValue_isOk`: `fromValue` returns iff every dynamic type in the value is
  one that its switch lists.
* `PHPValue.fromProto_isOk`: a message can be decoded iff none of its values is missing.
-/

namespace AerospikePhp

/-- A Go value of dynamic type `any`, as far as the switch of `fromValue` tells
    such values apart: nil, the native types, `[]aero.MapPair`, `aero.JsonValue`,
    `aero.OpResults`, the value types of the client (`aero`, with the JSON objects
    that `toValue` builds), and every other type (`other`). -/
inductive GoValue where
  | nil
  | int (v : Int64)
  | float64 (v : F64)
  | string (v : String)
  | bool (v : Bool)
  | bytes (v : List UInt8)
  | slice (v : List GoValue)
  | map (v : List (GoValue × GoValue))
  | mapPairs (v : List (GoValue × GoValue))
  | json (v : List (String × GoValue))
  | opResults (v : List GoValue)
  | aero (v : Aero.Value)
  | other

/-! ## `fromValue` -/

mutual

/-- The cases of `fromValue` for the value types of the client, `IntegerValue` and `LongValue` in
    one. `ListValue` and `MapValue` have none. -/
def fromAeroValue : Aero.Value → Except Panic Proto.Value
  | .null => .ok (.nil true)
  | .integer v => .ok (.i v)
  | .float v => .ok (.f v)
  | .string v => .ok (.s v)
  | .bool v => .ok (.b v)
  | .bytes v => .ok (.blob v)
  | .json v => do return .json (List.replicate v.length ("", none) ++ (← fromJson v))
  | .hll v => .ok (.hll v)
  | .geoJSON v => .ok (.geo v)
  | .wildCard => .ok (.wildcard true)
  | .infinity => .ok (.infinity true)
  | .map _ => .error .unreachable
  | .list _ => .error .unreachable

def fromJson : List (String × Aero.Value) → Except Panic (List (String × Option Proto.Value))
  | [] => .ok []
  | (k, v) :: j => do
    let v ← fromAeroValue v
    let j ← fromJson j
    return (k, some v) :: j

end

mutual

/-- `fromValue` (`kvs.go` lines 1674–1746). The slices of map entries are made
    with length `len(v)` and then appended to, so as many empty entries stand
    before the entries of the map. -/
def fromValue : GoValue → Except Panic Proto.Value
  | .nil => .ok (.nil true)
  | .int v => .ok (.i v)
  | .float64 v => .ok (.f v)
  | .string v => .ok (.s v)
  | .bool v => .ok (.b v)
  | .bytes v => .ok (.blob v)
  | .slice v => do return .l (← fromValues v)
  | .map v => do return .m (List.replicate v.length (none, none) ++ (← fromEntries v))
  | .mapPairs v => do return .m (List.replicate v.length (none, none) ++ (← fromEntries v))
  | .json v => do return .json (List.replicate v.length ("", none) ++ (← fromMembers v))
  | .opResults v => do return .l (← fromValues v)
  | .aero v => fromAeroValue v
  | .other => .error .unreachable

def fromValues : List GoValue → Except Panic (List Proto.Value)
  | [] => .ok []
  | v :: vs => do
    let v ← fromValue v
    let vs ← fromValues vs
    return v :: vs

def fromEntries : List (GoValue × GoValue) →
    Except Panic (List (Option Proto.Value × Option Proto.Value))
  | [] => .ok []
  | (k, v) :: m => do
    let k ← fromValue k
    let v ← fromValue v
    let m ← fromEntries m
    return (some k, some v) :: m

def fromMembers : List (String × GoValue) → Except Panic (List (String × Option Proto.Value))
  | [] => .ok []
  | (k, v) :: j => do
    let v ← fromValue v
    let j ← fromMembers j
    return (k, some v) :: j

end

/-! ## The values `fromValue` knows -/

mutual

def Aero.Value.known : Aero.Value → Bool
  | .json v => jsonKnown v
  | .map _ | .list _ => false
  | _ => true

def Aero.Value.jsonKnown : List (String × Aero.Value) → Bool
  | [] => true
  | (_, v) :: j => v.known && jsonKnown j

end

mutual

/-- Every dynamic type in the value is one that the switch of `fromValue` lists. -/
def GoValue.known : GoValue → Bool
  | .slice v | .opResults v => listKnown v
  | .map v | .mapPairs v => entriesKnown v
  | .json v => membersKnown v
  | .aero v => v.known
  | .other => false
  | _ => true

def GoValue.listKnown : List GoValue → Bool
  | [] => true
  | v :: vs => v.known && listKnown vs

def GoValue.entriesKnown : List (GoValue × GoValue) → Bool
  | [] => true
  | (k, v) :: m => k.known && v.known && entriesKnown m

def GoValue.membersKnown : List (String × GoValue) → Bool
  | [] => true
  | (_, v) :: j => v.known && membersKnown j

end

mutual

theorem fromAeroValue_isOk : ∀ v, (fromAeroValue v).isOk = v.known
  | .null | .integer _ | .float _ | .string _ | .bool _ | .bytes _ | .hll _ | .geoJSON _
  | .wildCard | .infinity | .map _ | .list _ => by simp [fromAeroValue, Aero.Value.known]
  | .json j => by
    have hj := fromJson_isOk j
    simp [fromAeroValue, Aero.Value.known, hj]

theorem fromJson_isOk : ∀ j, (fromJson j).isOk = Aero.Value.jsonKnown j
  | [] => by simp [fromJson, Aero.Value.jsonKnown]
  | (k, v) :: j => by
    have hv := fromAeroValue_isOk v
    have hj := fromJson_isOk j
    rw [fromJson, Aero.Value.jsonKnown, Fallible.isOk_bind (Aero.Value.jsonKnown j), hv]
    simp [hj]

end

mutual

/-- **Main theorem.** `fromValue` returns iff its switch lists every dynamic type
    in the value. -/
theorem fromValue_isOk : ∀ v, (fromValue v).isOk = v.known
  | .nil | .int _ | .float64 _ | .string _ | .bool _ | .bytes _ | .other => by
    simp [fromValue, GoValue.known]
  | .slice v | .opResults v => by
    have hv := fromValues_isOk v
    simp [fromValue, GoValue.known, hv]
  | .map v | .mapPairs v => by
    have hv := fromEntries_isOk v
    simp [fromValue, GoValue.known, hv]
  | .json v => by
    have hv := fromMembers_isOk v
    simp [fromValue, GoValue.known, hv]
  | .aero v => by
    rw [fromValue, GoValue.known, fromAeroValue_isOk]

theorem fromValues_isOk : ∀ vs, (fromValues vs).isOk = GoValue.listKnown vs
  | [] => by simp [fromValues, GoValue.listKnown]
  | v :: vs => by
    have hv := fromValue_isOk v
    have hvs := fromValues_isOk vs
    rw [fromValues, GoValue.listKnown, Fallible.isOk_bind (GoValue.listKnown vs), hv]
    simp [hvs]

theorem fromEntries_isOk : ∀ m, (fromEntries m).isOk = GoValue.entriesKnown m
  | [] => by simp [fromEntries, GoValue.entriesKnown]
  | (k, v) :: m => by
    have hk := fromValue_isOk k
    have hv := fromValue_isOk v
    have hm := fromEntries_isOk m
    rw [fromEntries, GoValue.entriesKnown,
      Fallible.isOk_bind (v.known && GoValue.entriesKnown m), hk, Bool.and_assoc]
    intro k'
    rw [Fallible.isOk_bind (GoValue.entriesKnown m), hv]
    simp [hm]

theorem fromMembers_isOk : ∀ j, (fromMembers j).isOk = GoValue.membersKnown j
  | [] => by simp [fromMembers, GoValue.membersKnown]
  | (k, v) :: j => by
    have hv := fromValue_isOk v
    have hj := fromMembers_isOk j
    rw [fromMembers, GoValue.membersKnown, Fallible.isOk_bind (GoValue.membersKnown j), hv]
    simp [hj]

end

/-! ## From the wire to PHP -/

namespace PHPValue

mutual

/-- `impl From<proto::Value> for PHPValue` (`src/lib.rs` lines 11514–11557): an
    entry of a map without a key is skipped. -/
def fromProto : Proto.Value → Except Panic PHPValue
  | .unset => .error .unwrapNone
  | .nil _ => .ok nil
  | .b b => .ok (bool b)
  | .i i => .ok (int i)
  | .f f => .ok (float f)
  | .s s => .ok (string s)
  | .blob b => .ok (blob b)
  | .l l => do return list (← listFromProto l)
  | .json j => do return json (← jsonFromProto j [])
  | .m m => do return hashMap (← mapFromProto m [])
  | .geo gj => .ok (geoJSON gj)
  | .hll b => .ok (hll b)
  | .infinity _ => .ok infinity
  | .wildcard _ => .ok wildcard

def listFromProto : List Proto.Value → Except Panic (List PHPValue)
  | [] => .ok []
  | v :: vs => do
    let v ← fromProto v
    let vs ← listFromProto vs
    return v :: vs

/-- `me.v.clone().unwrap().into()`. -/
def fromProtoOption : Option Proto.Value → Except Panic PHPValue
  | none => .error .unwrapNone
  | some v => fromProto v

def jsonFromProto : List (String × Option Proto.Value) → List (String × PHPValue) →
    Except Panic (List (String × PHPValue))
  | [], h => .ok h
  | (k, v) :: j, h => do
    let v ← fromProtoOption v
    jsonFromProto j (AssocTable.insert (· == ·) h k v)

def mapFromProto : List (Option Proto.Value × Option Proto.Value) →
    List (PHPValue × PHPValue) → Except Panic (List (PHPValue × PHPValue))
  | [], h => .ok h
  | (none, _) :: m, h => mapFromProto m h
  | (some k, v) :: m, h => do
    let k ← fromProto k
    let v ← fromProtoOption v
    mapFromProto m (AssocTable.insert eq h k v)

end

end PHPValue

/-! ## The messages that can be decoded -/

namespace Proto.Value

mutual

/-- Every value in the message has its field set, and so has every entry of an object its
    value, and of a map unless it has no key. -/
def decodable : Proto.Value → Bool
  | .unset => false
  | .l vs => listDecodable vs
  | .json es => jsonDecodable es
  | .m es => mapDecodable es
  | _ => true

def listDecodable : List Proto.Value → Bool
  | [] => true
  | v :: vs => v.decodable && listDecodable vs

def optionDecodable : Option Proto.Value → Bool
  | none => false
  | some v => v.decodable

def jsonDecodable : List (String × Option Proto.Value) → Bool
  | [] => true
  | (_, v) :: es => optionDecodable v && jsonDecodable es

def mapDecodable : List (Option Proto.Value × Option Proto.Value) → Bool
  | [] => true
  | (none, _) :: es => mapDecodable es
  | (some k, v) :: es => k.decodable && optionDecodable v && mapDecodable es

end

end Proto.Value

namespace PHPValue

open Proto.Value (decodable listDecodable optionDecodable jsonDecodable mapDecodable)

mutual

theorem fromProto_isOk : ∀ v, (fromProto v).isOk = v.decodable
  | .unset | .nil _ | .b _ | .i _ | .f _ | .s _ | .blob _ | .geo _ | .hll _ | .infinity _
  | .wildcard _ => by simp [fromProto, decodable]
  | .l l => by
    have hl := listFromProto_isOk l
    simp [fromProto, decodable, hl]
  | .json j => by
    have hj := jsonFromProto_isOk j []
    simp [fromProto, decodable, hj]
  | .m m => by
    have hm := mapFromProto_isOk m []
    simp [fromProto, decodable, hm]

theorem listFromProto_isOk : ∀ vs, (listFromProto vs).isOk = listDecodable vs
  | [] => by simp [listFromProto, listDecodable]
  | v :: vs => by
    have hv := fromProto_isOk v
    have hvs := listFromProto_isOk vs
    rw [listFromProto, listDecodable, Fallible.isOk_bind (listDecodable vs), hv]
    simp [hvs]

theorem fromProtoOption_isOk : ∀ v, (fromProtoOption v).isOk = optionDecodable v
  | none => by simp [fromProtoOption, optionDecodable]
  | some v => by rw [fromProtoOption, optionDecodable, fromProto_isOk]

theorem jsonFromProto_isOk : ∀ j h, (jsonFromProto j h).isOk = jsonDecodable j
  | [], h => by simp [jsonFromProto, jsonDecodable]
  | (k, v) :: j, h => by
    have hv := fromProtoOption_isOk v
    rw [jsonFromProto, jsonDecodable, Fallible.isOk_bind (jsonDecodable j), hv]
    intro v'
    exact jsonFromProto_isOk j _

theorem mapFromProto_isOk : ∀ m h, (mapFromProto m h).isOk = mapDecodable m
  | [], h => by simp [mapFromProto, mapDecodable]
  | (none, v) :: m, h => by
    rw [mapFromProto, mapDecodable]
    exact mapFromProto_isOk m h
  | (some k, v) :: m, h => by
    have hk := fromProto_isOk k
    have hv := fromProtoOption_isOk v
    rw [mapFromProto, mapDecodable, Fallible.isOk_bind (optionDecodable v && mapDecodable m), hk,
      Bool.and_assoc]
    intro k'
    rw [Fallible.isOk_bind (mapDecodable m), hv]
    intro v'
    exact mapFromProto_isOk m _

end

end PHPValue

end AerospikePhp
