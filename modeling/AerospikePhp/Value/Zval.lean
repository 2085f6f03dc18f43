import AerospikePhp.Value.ToValue

/-!
# Arguments from PHP

Every value argument of the API is converted from a PHP value by `from_zval`
(`src/lib.rs` lines 11360–11423) before a constructor sees it. An `Arg` is the
result of such a conversion: a value with plain map keys (`PHPValue.Plain`).

Main results:
* `fromZval_plain`: `from_zval` yields plain values only.
* `Arg.toValueV_toProto`: the daemon rebuilds every argument.
-/

namespace AerospikePhp

inductive ArrayKey where
  | long (i : Int64)
  | string (s : String)
deriving DecidableEq, Repr

/-- A PHP value, as far as `from_zval` tells them apart. `other` is a value with
    no conversion: an object of another class, a string that is not UTF-8, a
    resource. -/
inductive Zval where
  | null
  | bool (b : Bool)
  | long (i : Int64)
  | double (f : F64)
  | string (s : String)
  | array (arr : List (ArrayKey × Zval))
  | blob (b : List UInt8)
  | hll (b : List UInt8)
  | geoJSON (gj : String)
  | infinity
  | wildcard
  | other

/-- `has_sequential_keys`: the keys are `0, 1, …` in order. -/
def hasSequentialKeys (arr : List (ArrayKey × Zval)) : Bool :=
  arr.map Prod.fst == (List.range arr.length).map fun i => .long (Int64.ofNat i)

/-- `has_numerical_keys`: no key is a string. -/
def hasNumericalKeys (arr : List (ArrayKey × Zval)) : Bool :=
  arr.all fun e => match e.1 with
    | .long _ => true
    | .string _ => false

mutual

/-- `from_zval` (`src/lib.rs` lines 11360–11423). `none` is a conversion that
    yields no argument: it throws, returns `None`, or panics on the `None` of a
    nested value. -/
def fromZval : Zval → Option PHPValue
  | .null => some .nil
  | .bool b => some (.bool b)
  | .long i => some (.int i)
  | .double f => some (.float f)
  | .string s => some (.string s)
  | .array arr =>
    if hasSequentialKeys arr then do return .list (← listFromZval arr)
    else if hasNumericalKeys arr then do return .hashMap (← longsFromZval arr [])
    else do return .hashMap (← stringsFromZval arr [])
  | .blob b => some (.blob b)
  | .hll b => some (.hll b)
  | .geoJSON gj => some (.geoJSON gj)
  | .infinity => some .infinity
  | .wildcard => some .wildcard
  | .other => none

/-- An array with sequential keys: its values, in order. -/
def listFromZval : List (ArrayKey × Zval) → Option (List PHPValue)
  | [] => some []
  | (_, z) :: arr => do
    let v ← fromZval z
    let vs ← listFromZval arr
    return v :: vs

/-- A hash map with numerical keys; a string key would be skipped. -/
def longsFromZval : List (ArrayKey × Zval) → List (PHPValue × PHPValue) →
    Option (List (PHPValue × PHPValue))
  | [], h => some h
  | (.long index, z) :: arr, h => do
    let v ← fromZval z
    longsFromZval arr (AssocTable.insert PHPValue.eq h (.uInt index.toUInt64) v)
  | (.string _, _) :: arr, h => longsFromZval arr h

/-- A hash map with string keys; a numerical key is skipped. -/
def stringsFromZval : List (ArrayKey × Zval) → List (PHPValue × PHPValue) →
    Option (List (PHPValue × PHPValue))
  | [], h => some h
  | (.long _, _) :: arr, h => stringsFromZval arr h
  | (.string index, z) :: arr, h => do
    let v ← fromZval z
    stringsFromZval arr (AssocTable.insert PHPValue.eq h (.string index) v)

end

/-! ## Plain values -/

theorem PHPValue.ne_of_eq {k k' : PHPValue} (hk : k.PlainKey) (h : k.eq k' = false) :
    k ≠ k' := by
  rintro rfl
  cases hk with
  | uInt ui => simp [PHPValue.eq] at h
  | string s => simp [PHPValue.eq] at h

/-- What a hash map satisfies while `from_zval` fills it. -/
structure PlainTable (h : List (PHPValue × PHPValue)) : Prop where
  keys : ∀ e ∈ h, PHPValue.PlainKey e.1
  distinct : AssocTable.Distinct PHPValue.eq h
  vals : ∀ e ∈ h, PHPValue.Plain e.2

namespace PlainTable

theorem empty : PlainTable [] := ⟨by simp, .nil, by simp⟩

theorem insert {h : List (PHPValue × PHPValue)} (hh : PlainTable h) {k v : PHPValue}
    (hk : k.PlainKey) (hv : v.Plain) :
    PlainTable (AssocTable.insert PHPValue.eq h k v) where
  keys := by
    intro e he
    rcases AssocTable.mem_insert _ he with hmem | ⟨-, hkey | ⟨e', hmem, hkey⟩⟩
    · exact hh.keys e hmem
    · rw [hkey]
      exact hk
    · rw [← hkey]
      exact hh.keys e' hmem
  distinct := AssocTable.insert_distinct _ hh.distinct k v
  vals := by
    intro e he
    rcases AssocTable.mem_insert _ he with hmem | ⟨hval, -⟩
    · exact hh.vals e hmem
    · rw [hval]
      exact hv

theorem plain {h : List (PHPValue × PHPValue)} (hh : PlainTable h) :
    PHPValue.Plain (.hashMap h) := by
  refine .hashMap h hh.keys ?_ hh.vals
  exact hh.distinct.imp_of_mem fun he _ hne => PHPValue.ne_of_eq (hh.keys _ he) hne

end PlainTable

mutual

theorem fromZval_plain : ∀ {z : Zval} {v : PHPValue}, fromZval z = some v → v.Plain
  | .null, v, h => by
    rw [fromZval] at h
    cases h
    exact .nil
  | .bool b, v, h => by
    rw [fromZval] at h
    cases h
    exact .bool b
  | .long i, v, h => by
    rw [fromZval] at h
    cases h
    exact .int i
  | .double f, v, h => by
    rw [fromZval] at h
    cases h
    exact .float f
  | .string s, v, h => by
    rw [fromZval] at h
    cases h
    exact .string s
  | .array arr, v, h => by
    rw [fromZval] at h
    split_ifs at h
    · obtain ⟨vs, hvs, h⟩ := Option.bind_eq_some_iff.1 h
      cases h
      exact .list vs (listFromZval_plain hvs)
    · obtain ⟨t, ht, h⟩ := Option.bind_eq_some_iff.1 h
      cases h
      exact (longsFromZval_plain .empty ht).plain
    · obtain ⟨t, ht, h⟩ := Option.bind_eq_some_iff.1 h
      cases h
      exact (stringsFromZval_plain .empty ht).plain
  | .blob b, v, h => by
    rw [fromZval] at h
    cases h
    exact .blob b
  | .hll b, v, h => by
    rw [fromZval] at h
    cases h
    exact .hll b
  | .geoJSON gj, v, h => by
    rw [fromZval] at h
    cases h
    exact .geoJSON gj
  | .infinity, v, h => by
    rw [fromZval] at h
    cases h
    exact .infinity
  | .wildcard, v, h => by
    rw [fromZval] at h
    cases h
    exact .wildcard
  | .other, v, h => by
    rw [fromZval] at h
    cases h

theorem listFromZval_plain : ∀ {arr : List (ArrayKey × Zval)} {vs : List PHPValue},
    listFromZval arr = some vs → ∀ v ∈ vs, v.Plain
  | [], vs, h => by
    rw [listFromZval] at h
    cases h
    simp
  | (_, z) :: arr, vs, h => by
    rw [listFromZval] at h
    obtain ⟨v, hv, h⟩ := Option.bind_eq_some_iff.1 h
    obtain ⟨vs', hvs', h⟩ := Option.bind_eq_some_iff.1 h
    cases h
    intro w hw
    rcases List.mem_cons.1 hw with rfl | hw
    · exact fromZval_plain hv
    · exact listFromZval_plain hvs' w hw

theorem longsFromZval_plain : ∀ {arr : List (ArrayKey × Zval)} {h t : List (PHPValue × PHPValue)},
    PlainTable h → longsFromZval arr h = some t → PlainTable t
  | [], h, t, hh, ht => by
    rw [longsFromZval] at ht
    cases ht
    exact hh
  | (.long index, z) :: arr, h, t, hh, ht => by
    rw [longsFromZval] at ht
    obtain ⟨v, hv, ht⟩ := Option.bind_eq_some_iff.1 ht
    exact longsFromZval_plain (hh.insert (.uInt _) (fromZval_plain hv)) ht
  | (.string _, _) :: arr, h, t, hh, ht => by
    rw [longsFromZval] at ht
    exact longsFromZval_plain hh ht

theorem stringsFromZval_plain :
    ∀ {arr : List (ArrayKey × Zval)} {h t : List (PHPValue × PHPValue)},
      PlainTable h → stringsFromZval arr h = some t → PlainTable t
  | [], h, t, hh, ht => by
    rw [stringsFromZval] at ht
    cases ht
    exact hh
  | (.long _, _) :: arr, h, t, hh, ht => by
    rw [stringsFromZval] at ht
    exact stringsFromZval_plain hh ht
  | (.string index, z) :: arr, h, t, hh, ht => by
    rw [stringsFromZval] at ht
    obtain ⟨v, hv, ht⟩ := Option.bind_eq_some_iff.1 ht
    exact stringsFromZval_plain (hh.insert (.string _) (fromZval_plain hv)) ht

end

/-! ## Arguments -/

/-- A value argument of an API call. -/
structure Arg where
  val : PHPValue
  plain : val.Plain

namespace Arg

/-- The argument that a PHP value converts to. -/
def ofZval (z : Zval) : Option Arg :=
  match h : fromZval z with
  | some v => some ⟨v, fromZval_plain h⟩
  | none => none

/-- `value.into()`: the message of an argument. -/
def toProto (a : Arg) : Proto.Value := a.val.toProto

/-- The value an argument denotes. -/
def toAero (a : Arg) : Aero.Value := a.val.toAero

def nil : Arg := ⟨.nil, .nil⟩
def int (i : Int64) : Arg := ⟨.int i, .int i⟩
def bool (b : Bool) : Arg := ⟨.bool b, .bool b⟩
def string (s : String) : Arg := ⟨.string s, .string s⟩
def float (f : F64) : Arg := ⟨.float f, .float f⟩
def blob (b : List UInt8) : Arg := ⟨.blob b, .blob b⟩
def geoJSON (gj : String) : Arg := ⟨.geoJSON gj, .geoJSON gj⟩
def infinity : Arg := ⟨.infinity, .infinity⟩
def wildcard : Arg := ⟨.wildcard, .wildcard⟩

/-- The array argument whose elements are `vs`. -/
def list (vs : List Arg) : Arg :=
  ⟨.list (vs.map val), .list _ fun _ hv => by
    obtain ⟨a, -, rfl⟩ := List.mem_map.1 hv
    exact a.plain⟩

@[simp] theorem toValueV_toProto (a : Arg) : toValueV a.toProto = .ok a.toAero :=
  AerospikePhp.toValueV_toProto a.plain

@[simp] theorem toAero_string (s : String) : (string s).toAero = .string s := by
  rw [toAero, string, PHPValue.toAero]

theorem toAero_list (vs : List Arg) : (list vs).toAero = .list (vs.map toAero) := by
  rw [toAero, list, PHPValue.toAero, PHPValue.listToAero_eq_map, List.map_map]
  rfl

theorem toAero_hashMap {a : Arg} {h : List (PHPValue × PHPValue)} (ha : a.val = .hashMap h) :
    a.toAero = .map (PHPValue.hashMapToAero h) := by
  rw [toAero, ha, PHPValue.toAero]

theorem getL_list (vs : List Arg) :
    Proto.Value.getL (some (list vs).toProto) = .ok (PHPValue.listToProto (vs.map val)) := by
  rw [toProto, list, PHPValue.toProto, Proto.Value.getL]

theorem toList_listToProto (vs : List Arg) :
    toList (PHPValue.listToProto (vs.map val)) = .ok (vs.map toAero) := by
  rw [AerospikePhp.toList_listToProto]
  · rw [PHPValue.listToAero_eq_map, List.map_map]
    rfl
  · intro v hv
    obtain ⟨a, -, rfl⟩ := List.mem_map.1 hv
    exact a.plain

@[simp] theorem toListOfValueIfcs_list (vs : List Arg) :
    toListOfValueIfcs (some (list vs).toProto) = .ok (vs.map toAero) := by
  rw [toListOfValueIfcs, getL_list, Fallible.ok_bind, toList_listToProto]

/-- An empty list is refused. -/
theorem toListValue_list (vs : List Arg) :
    toListValue (some (list vs).toProto) =
      if vs.isEmpty then .error .unreachable else .ok (vs.map toAero) := by
  rw [toListValue, getL_list, Fallible.ok_bind, toList_listToProto]
  cases vs with
  | nil => rfl
  | cons v vs => rfl

end Arg

end AerospikePhp
