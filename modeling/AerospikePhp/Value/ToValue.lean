import AerospikePhp.Lib.AssocTable
import AerospikePhp.Lib.Fallible
import AerospikePhp.Value.Basic

/-!
# `toValue`: from the wire to the Go client

`toValue` (`kvs.go` lines 1500–1573) rebuilds a value of the Go client from its
message, recursively. It can fail in two ways: the message sets no field
(`panic(UNREACHABLE)`), or the key of a map entry is a value that Go cannot
hash. `toListValue` (lines 1575–1586) also refuses an empty list.

Main result:
* `toValue_toProto`: the message of a PHP value whose map keys are integers or
  strings is rebuilt as the value it denotes (`PHPValue.toAero`).
-/

namespace AerospikePhp

/-! ## Go maps -/

namespace Aero.Value

/-- Can the value, stored in an `interface{}`, be a map key? Slices and maps
    cannot be hashed. -/
def hashable : Aero.Value → Bool
  | bytes _ | hll _ | json _ | map _ | list _ => false
  | _ => true

/-- `==` on interface values that can be hashed: the same dynamic type and equal
    contents. -/
def keyEq : Aero.Value → Aero.Value → Bool
  | null, null => true
  | integer i, integer j => i == j
  | float x, float y => x.goEq y
  | string s, string t => s == t
  | bool b, bool c => b == c
  | geoJSON s, geoJSON t => s == t
  | wildCard, wildCard => true
  | infinity, infinity => true
  | _, _ => false

/-- `m[k] = v` on a `map[interface{}]interface{}`. -/
def mapSet (m : List (Aero.Value × Aero.Value)) (k v : Aero.Value) :
    Except Panic (List (Aero.Value × Aero.Value)) :=
  if k.hashable then .ok (AssocTable.insert keyEq m k v) else .error .unhashable

end Aero.Value

/-! ## `toValue` -/

mutual

/-- `toValue` (`kvs.go` lines 1500–1573): an absent message is null. -/
def toValue : Option Proto.Value → Except Panic Aero.Value
  | none => .ok .null
  | some v => toValueV v

/-- The type switch of `toValue` on the field that is set. -/
def toValueV : Proto.Value → Except Panic Aero.Value
  | .nil _ => .ok .null
  | .i i => .ok (.integer i)
  | .s s => .ok (.string s)
  | .f f => .ok (.float f)
  | .b b => .ok (.bool b)
  | .blob b => .ok (.bytes b)
  | .geo gj => .ok (.geoJSON gj)
  | .hll b => .ok (.hll b)
  | .wildcard _ => .ok .wildCard
  | .infinity _ => .ok .infinity
  | .json j => do return .json (← toJson j [])
  | .m m => do return .map (← toMap m [])
  | .l l => do return .list (← toList l)
  | .unset => .error .unreachable

/-- The loop of the `Value_Json` case. -/
def toJson : List (String × Option Proto.Value) → List (String × Aero.Value) →
    Except Panic (List (String × Aero.Value))
  | [], j => .ok j
  | (k, v) :: es, j => do
    let v ← toValue v
    toJson es (AssocTable.insert (· == ·) j k v)

/-- The loop of the `Value_M` case: the key, then the value, then the write. -/
def toMap : List (Option Proto.Value × Option Proto.Value) →
    List (Aero.Value × Aero.Value) → Except Panic (List (Aero.Value × Aero.Value))
  | [], m => .ok m
  | (k, v) :: es, m => do
    let k ← toValue k
    let v ← toValue v
    let m ← Aero.Value.mapSet m k v
    toMap es m

/-- The loop of the `Value_L` case. -/
def toList : List Proto.Value → Except Panic (List Aero.Value)
  | [] => .ok []
  | v :: vs => do
    let v ← toValueV v
    let vs ← toList vs
    return v :: vs

end

@[simp] theorem toValue_some (v : Proto.Value) : toValue (some v) = toValueV v := by
  rw [toValue]

@[simp] theorem toValue_none : toValue none = .ok .null := by rw [toValue]

theorem toList_eq_mapM : ∀ vs, toList vs = vs.mapM toValueV
  | [] => by simp [toList]
  | v :: vs => by simp [toList, toList_eq_mapM vs]

/-- `in.GetL().L`: the elements of a list value; on any other value `GetL` is a
    nil pointer. -/
def Proto.Value.getL : Option Proto.Value → Except Panic (List Proto.Value)
  | some (.l vs) => .ok vs
  | _ => .error .nilDeref

/-- `in.GetI()`: zero unless the value is an integer. -/
def Proto.Value.getI : Option Proto.Value → Int64
  | some (.i n) => n
  | _ => 0

/-- `in.GetB()`: false unless the value is a boolean. -/
def Proto.Value.getB : Option Proto.Value → Bool
  | some (.b x) => x
  | _ => false

/-- `in.GetBlob()`: nil unless the value is a byte string. -/
def Proto.Value.getBlob : Option Proto.Value → List UInt8
  | some (.blob bytes) => bytes
  | _ => []

/-- `toListValue` (`kvs.go` lines 1575–1586). -/
def toListValue (v : Option Proto.Value) : Except Panic (List Aero.Value) := do
  let l ← Proto.Value.getL v
  if l.length > 0 then toList l else .error .unreachable

/-- `toListOfValueIfcs` (`kvs.go` lines 1267–1274). -/
def toListOfValueIfcs (v : Option Proto.Value) : Except Panic (List Aero.Value) := do
  let l ← Proto.Value.getL v
  toList l

/-! ## Values with plain map keys -/

/-- Keys that the extension itself puts in a hash map: an integer or a string. -/
inductive PHPValue.PlainKey : PHPValue → Prop
  | uInt (ui : UInt64) : PlainKey (.uInt ui)
  | string (s : String) : PlainKey (.string s)

/-- A value without a JSON object in it, and whose hash maps have plain keys
    that are pairwise different once they are on the wire. -/
inductive PHPValue.Plain : PHPValue → Prop
  | nil : Plain .nil
  | bool (b : Bool) : Plain (.bool b)
  | int (i : Int64) : Plain (.int i)
  | float (f : F64) : Plain (.float f)
  | string (s : String) : Plain (.string s)
  | blob (b : List UInt8) : Plain (.blob b)
  | list (l : List PHPValue) (h : ∀ v ∈ l, Plain v) : Plain (.list l)
  | hashMap (h : List (PHPValue × PHPValue)) (keys : ∀ e ∈ h, PlainKey e.1)
      (distinct : h.Pairwise fun e e' => e.1 ≠ e'.1) (vals : ∀ e ∈ h, Plain e.2) :
      Plain (.hashMap h)
  | geoJSON (gj : String) : Plain (.geoJSON gj)
  | hll (b : List UInt8) : Plain (.hll b)
  | wildcard : Plain .wildcard
  | infinity : Plain .infinity

namespace PHPValue.PlainKey

theorem toValueV_toProto {k : PHPValue} (h : PlainKey k) : toValueV k.toProto = .ok k.toAero := by
  cases h with
  | uInt ui => rw [toProto, toAero, toValueV]
  | string s => rw [toProto, toAero, toValueV]

theorem hashable {k : PHPValue} (h : PlainKey k) : k.toAero.hashable = true := by
  cases h with
  | uInt ui => rfl
  | string s => rfl

theorem keyEq_toAero {k k' : PHPValue} (h : PlainKey k) (h' : PlainKey k') (hne : k ≠ k') :
    Aero.Value.keyEq k.toAero k'.toAero = false := by
  cases h with
  | uInt ui =>
    cases h' with
    | uInt uj =>
      have hij : ui.toInt64 ≠ uj.toInt64 := by
        intro heq
        have := congrArg Int64.toUInt64 heq
        exact hne (by simpa using this)
      simpa [toAero, Aero.Value.keyEq] using hij
    | string s => rfl
  | string s =>
    cases h' with
    | uInt uj => rfl
    | string t =>
      have hst : s ≠ t := fun heq => hne (by rw [heq])
      simpa [toAero, Aero.Value.keyEq] using hst

end PHPValue.PlainKey

/-- The loop over the entries of a hash map whose values convert: with plain
    keys it is a sequence of writes into a Go map. -/
theorem toMap_hashMapToProto {h : List (PHPValue × PHPValue)}
    (keys : ∀ e ∈ h, PHPValue.PlainKey e.1)
    (vals : ∀ e ∈ h, toValueV e.2.toProto = .ok e.2.toAero)
    (m : List (Aero.Value × Aero.Value)) :
    toMap (PHPValue.hashMapToProto h) m =
      .ok (AssocTable.insertAll Aero.Value.keyEq m (PHPValue.hashMapToAero h)) := by
  induction h generalizing m with
  | nil => simp [PHPValue.hashMapToProto, PHPValue.hashMapToAero, toMap]
  | cons e h ih =>
    have hk := keys e (by simp)
    have hkv : toValueV e.1.toProto = .ok e.1.toAero := hk.toValueV_toProto
    have hvv : toValueV e.2.toProto = .ok e.2.toAero := vals e (by simp)
    have htail := ih (fun e' he' => keys e' (by simp [he'])) fun e' he' => vals e' (by simp [he'])
    simp only [PHPValue.hashMapToProto, PHPValue.hashMapToAero, toMap, toValue_some, hkv, hvv,
      Fallible.ok_bind, Aero.Value.mapSet, hk.hashable, if_true, htail,
      AssocTable.insertAll_cons]

/-- **Main theorem.** The daemon rebuilds, from the message of a plain value,
    the value it denotes. -/
theorem toValueV_toProto {v : PHPValue} (h : v.Plain) : toValueV v.toProto = .ok v.toAero := by
  induction h with
  | nil => rw [PHPValue.toProto, PHPValue.toAero, toValueV]
  | bool b => rw [PHPValue.toProto, PHPValue.toAero, toValueV]
  | int i => rw [PHPValue.toProto, PHPValue.toAero, toValueV]
  | float f => rw [PHPValue.toProto, PHPValue.toAero, toValueV]
  | string s => rw [PHPValue.toProto, PHPValue.toAero, toValueV]
  | blob b => rw [PHPValue.toProto, PHPValue.toAero, toValueV]
  | list l _ ih =>
    have hl : (l.map PHPValue.toProto).mapM toValueV = .ok (l.map PHPValue.toAero) := by
      rw [List.mapM_map]
      exact Fallible.mapM_ok _ _ l ih
    simp [PHPValue.toProto, PHPValue.toAero, toValueV, toList_eq_mapM,
      PHPValue.listToProto_eq_map, PHPValue.listToAero_eq_map, hl]
  | hashMap h keys distinct _ ih =>
    have hdistinct : AssocTable.Distinct Aero.Value.keyEq ([] ++ PHPValue.hashMapToAero h) := by
      rw [List.nil_append, PHPValue.hashMapToAero_eq_map, AssocTable.Distinct, List.pairwise_map]
      refine distinct.imp_of_mem fun he he' hne => ?_
      exact (keys _ he).keyEq_toAero (keys _ he') hne
    have hm := toMap_hashMapToProto keys ih []
    rw [AssocTable.insertAll_of_distinct _ hdistinct, List.nil_append] at hm
    simp [PHPValue.toProto, PHPValue.toAero, toValueV, hm]
  | geoJSON gj => rw [PHPValue.toProto, PHPValue.toAero, toValueV]
  | hll b => rw [PHPValue.toProto, PHPValue.toAero, toValueV]
  | wildcard => rw [PHPValue.toProto, PHPValue.toAero, toValueV]
  | infinity => rw [PHPValue.toProto, PHPValue.toAero, toValueV]

theorem toList_listToProto {vs : List PHPValue} (h : ∀ v ∈ vs, v.Plain) :
    toList (PHPValue.listToProto vs) = .ok (PHPValue.listToAero vs) := by
  rw [toList_eq_mapM, PHPValue.listToProto_eq_map, PHPValue.listToAero_eq_map, List.mapM_map]
  exact Fallible.mapM_ok _ _ vs fun v hv => toValueV_toProto (h v hv)

end AerospikePhp
