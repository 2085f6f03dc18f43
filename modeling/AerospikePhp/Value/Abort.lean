import AerospikePhp.Command.Basic
import AerospikePhp.Value.Entries

/-!
# Values that `from_zval` cannot convert

`from_zval` (`src/lib.rs` lines 11360–11423) on every value of PHP. A value without a
conversion gives no argument, and an exception: an object of another class, a string that
is not UTF-8. Inside an array its absence is unwrapped, which aborts; so does every
reference and resource, at any depth.

The PHP binding is a parameter: its tests on the keys of an array, and the keys that its
iterator gives.

Results:
* `fromZval_toPhp`: on the values of `Zval` it is `fromZval`.
* `neverAborts_iff`: a conversion does not abort iff the elements that are visited have
  one.
-/

namespace AerospikePhp

/-- A key of a PHP array. A string has any bytes. -/
inductive PhpKey where
  | long (i : Int64)
  | string (bytes : ByteArray)

instance : DecidableEq PhpKey
  | .long i, .long j => decidable_of_iff (i = j) (by simp)
  | .string b, .string c => decidable_of_iff (b.data = c.data) (by simp [ByteArray.ext_iff])
  | .long _, .string _ => isFalse (by simp)
  | .string _, .long _ => isFalse (by simp)

/-- A value of PHP. An `object` is of a class that `from_zval` does not know. -/
inductive PhpZval where
  | null
  | bool (b : Bool)
  | long (i : Int64)
  | double (f : F64)
  | string (bytes : ByteArray)
  | array (arr : List (PhpKey × PhpZval))
  | blob (b : List UInt8)
  | hll (b : List UInt8)
  | geoJSON (gj : String)
  | infinity
  | wildcard
  | object
  | resource
  | reference (z : PhpZval)

/-- The PHP binding. Its iterator may have no key for a string that is not UTF-8. -/
structure PhpBinding where
  hasSequentialKeys : List PhpKey → Bool
  hasNumericalKeys : List PhpKey → Bool
  iterKey : PhpKey → Except Panic ArrayKey

/-- A binding whose tests mean what their names say, and whose iterator has the integers
    and the strings that are UTF-8. -/
def PhpBinding.standard : PhpBinding where
  hasSequentialKeys keys := keys == (List.range keys.length).map fun i => .long (Int64.ofNat i)
  hasNumericalKeys keys := keys.all fun k => match k with
    | .long _ => true
    | .string _ => false
  iterKey
    | .long i => .ok (.long i)
    | .string bytes => match String.fromUTF8? bytes with
      | some s => .ok (.string s)
      | none => .error .unwrapNone

/-- What `from_zval` leaves: the exceptions that it throws, and its result. -/
structure Converted where
  thrown : List AerospikeException
  value : Option PHPValue

namespace Converted

def some (v : PHPValue) : Converted := ⟨[], Option.some v⟩

/-- `unwrap`, and `expect` of a hash map. -/
def unwrap (c : Converted) : Except Panic PHPValue :=
  match c.value with
  | Option.some v => .ok v
  | none => .error .unwrapNone

end Converted

/-! ## `from_zval` -/

section FromZval

variable (B : PhpBinding)

namespace PhpZval

mutual

/-- `from_zval`. -/
def fromZval : PhpZval → Except Panic Converted
  | null => .ok (.some .nil)
  | bool b => .ok (.some (.bool b))
  | long i => .ok (.some (.int i))
  | double f => .ok (.some (.float f))
  | string bytes => .ok ⟨[], (String.fromUTF8? bytes).map .string⟩
  | array arr =>
    if B.hasSequentialKeys (arr.map Prod.fst) then do
      return .some (.list (← listFromZval arr))
    else if B.hasNumericalKeys (arr.map Prod.fst) then do
      return .some (.hashMap (← longsFromZval arr []))
    else do
      return .some (.hashMap (← stringsFromZval arr []))
  | blob b => .ok (.some (.blob b))
  | hll b => .ok (.some (.hll b))
  | geoJSON gj => .ok (.some (.geoJSON gj))
  | infinity => .ok (.some .infinity)
  | wildcard => .ok (.some .wildcard)
  | object => .ok ⟨[.new "Invalid Object"], none⟩
  | resource => .error .unreachable
  | reference _ => .error .unreachable

def listFromZval : List (PhpKey × PhpZval) → Except Panic (List PHPValue)
  | [] => .ok []
  | (k, z) :: arr => do
    let _ ← B.iterKey k
    let c ← fromZval z
    let v ← c.unwrap
    let vs ← listFromZval arr
    return v :: vs

def longsFromZval : List (PhpKey × PhpZval) → List (PHPValue × PHPValue) →
    Except Panic (List (PHPValue × PHPValue))
  | [], h => .ok h
  | (k, z) :: arr, h => do
    match ← B.iterKey k with
    | .long index =>
      let c ← fromZval z
      let v ← c.unwrap
      longsFromZval arr (AssocTable.insert PHPValue.eq h (.uInt index.toUInt64) v)
    | .string _ => longsFromZval arr h

def stringsFromZval : List (PhpKey × PhpZval) → List (PHPValue × PHPValue) →
    Except Panic (List (PHPValue × PHPValue))
  | [], h => .ok h
  | (k, z) :: arr, h => do
    match ← B.iterKey k with
    | .long _ => stringsFromZval arr h
    | .string index =>
      let c ← fromZval z
      let v ← c.unwrap
      stringsFromZval arr (AssocTable.insert PHPValue.eq h (.string index) v)

end

end PhpZval

/-- `Bin::__construct` (lines 4202–4214). -/
def Bin.construct (name : String) (value : PhpZval) : Except Panic (CallResult Proto.Bin) := do
  let c ← value.fromZval B
  match c.value with
  | some v => return ⟨c.thrown, .ok { name := name, value := some v.toProto }⟩
  | none => return ⟨c.thrown, .error "Invalid input for argument `value`"⟩

/-! ## Conversions -/

/-- The entries that the loop for these keys visits. -/
def PhpBinding.visits (keys : List PhpKey) (key : ArrayKey) : Bool :=
  if B.hasSequentialKeys keys then true
  else if B.hasNumericalKeys keys then !key.isString
  else key.isString

namespace PhpZval

mutual

/-- The value has a conversion. -/
def Convertible : PhpZval → Prop
  | string bytes => bytes.IsValidUTF8
  | array arr => EntriesConvertible arr (B.visits (arr.map Prod.fst))
  | object => False
  | resource => False
  | reference _ => False
  | _ => True

/-- The iterator has all keys, and every entry that is visited has a conversion. -/
def EntriesConvertible : List (PhpKey × PhpZval) → (ArrayKey → Bool) → Prop
  | [], _ => True
  | (k, z) :: arr, visits =>
    (∃ key, B.iterKey k = .ok key ∧ (visits key = true → Convertible z)) ∧
      EntriesConvertible arr visits

end

/-- The value has a conversion, or it is one that a caller refuses. -/
def Handled : PhpZval → Prop
  | string _ => True
  | object => True
  | z => Convertible B z

variable {B}

/-- A step of a loop goes on with the value of its element. -/
theorem exists_bind_unwrap {α : Type} {x : Except Panic Converted}
    {f : PHPValue → Except Panic α} {R : Prop} (hf : ∀ v, (∃ t, f v = .ok t) ↔ R) :
    (∃ t, (do
      let c ← x
      let v ← c.unwrap
      f v) = .ok t) ↔ (∃ c v, x = .ok c ∧ c.value = some v) ∧ R := by
  cases x with
  | error p => simp
  | ok c =>
    obtain ⟨thrown, _ | v⟩ := c
    · simp [Converted.unwrap]
    · simp [Converted.unwrap, hf]

/-- A step of a loop starts with its key. -/
theorem exists_bind_iterKey {α : Type} {k : PhpKey} {f : ArrayKey → Except Panic α}
    {P : ArrayKey → Prop} {R : Prop} (hf : ∀ key, (∃ t, f key = .ok t) ↔ P key ∧ R) :
    (∃ t, B.iterKey k >>= f = .ok t) ↔ (∃ key, B.iterKey k = .ok key ∧ P key) ∧ R := by
  cases B.iterKey k with
  | error p => simp
  | ok key => simp [hf]

/-- The value of an array is made of what its loop gives. -/
theorem exists_value_of_table {α : Type} {x : Except Panic α} {g : α → PHPValue} :
    (∃ c v, (do return Converted.some (g (← x)) : Except Panic Converted) = .ok c ∧
      c.value = some v) ↔ ∃ t, x = .ok t := by
  cases x with
  | error p => simp
  | ok t => simp [Converted.some]

mutual

theorem exists_fromZval_value : ∀ {z : PhpZval},
    (∃ c v, z.fromZval B = .ok c ∧ c.value = some v) ↔ z.Convertible B
  | null => iff_of_true ⟨_, _, rfl, rfl⟩ trivial
  | bool b => iff_of_true ⟨_, _, rfl, rfl⟩ trivial
  | long i => iff_of_true ⟨_, _, rfl, rfl⟩ trivial
  | double f => iff_of_true ⟨_, _, rfl, rfl⟩ trivial
  | string bytes => by
    rw [fromZval, Convertible, String.fromUTF8?]
    split_ifs with hutf8
    · exact iff_of_true ⟨_, _, rfl, rfl⟩ hutf8
    · exact iff_of_false (by simp) hutf8
  | array arr => by
    rw [fromZval, Convertible]
    unfold PhpBinding.visits
    split_ifs with hseq hnum
    · exact exists_value_of_table.trans exists_listFromZval
    · exact exists_value_of_table.trans exists_longsFromZval
    · exact exists_value_of_table.trans exists_stringsFromZval
  | blob b => iff_of_true ⟨_, _, rfl, rfl⟩ trivial
  | hll b => iff_of_true ⟨_, _, rfl, rfl⟩ trivial
  | geoJSON gj => iff_of_true ⟨_, _, rfl, rfl⟩ trivial
  | infinity => iff_of_true ⟨_, _, rfl, rfl⟩ trivial
  | wildcard => iff_of_true ⟨_, _, rfl, rfl⟩ trivial
  | object => by
    rw [fromZval, Convertible]
    exact iff_of_false (by simp) id
  | resource => by
    rw [fromZval, Convertible]
    exact iff_of_false (by simp) id
  | reference _ => by
    rw [fromZval, Convertible]
    exact iff_of_false (by simp) id

theorem exists_listFromZval : ∀ {arr : List (PhpKey × PhpZval)},
    (∃ vs, listFromZval B arr = .ok vs) ↔ EntriesConvertible B arr fun _ => true
  | [] => iff_of_true ⟨_, rfl⟩ trivial
  | (k, z) :: arr => by
    rw [listFromZval, EntriesConvertible, ← exists_fromZval_value, ← exists_listFromZval]
    refine exists_bind_iterKey fun key => ?_
    refine (exists_bind_unwrap fun v => Fallible.exists_bind_pure_eq_ok).trans ?_
    simp

theorem exists_longsFromZval : ∀ {arr : List (PhpKey × PhpZval)} {h : List (PHPValue × PHPValue)},
    (∃ t, longsFromZval B arr h = .ok t) ↔ EntriesConvertible B arr fun key => !key.isString
  | [], _ => iff_of_true ⟨_, rfl⟩ trivial
  | (k, z) :: arr, h => by
    rw [longsFromZval, EntriesConvertible, ← exists_fromZval_value]
    refine exists_bind_iterKey fun key => ?_
    cases key with
    | long index =>
      refine (exists_bind_unwrap fun v => exists_longsFromZval).trans ?_
      simp [ArrayKey.isString]
    | string s =>
      refine exists_longsFromZval.trans ?_
      simp [ArrayKey.isString]

theorem exists_stringsFromZval :
    ∀ {arr : List (PhpKey × PhpZval)} {h : List (PHPValue × PHPValue)},
      (∃ t, stringsFromZval B arr h = .ok t) ↔ EntriesConvertible B arr ArrayKey.isString
  | [], _ => iff_of_true ⟨_, rfl⟩ trivial
  | (k, z) :: arr, h => by
    rw [stringsFromZval, EntriesConvertible, ← exists_fromZval_value]
    refine exists_bind_iterKey fun key => ?_
    cases key with
    | long index =>
      refine exists_stringsFromZval.trans ?_
      simp [ArrayKey.isString]
    | string s =>
      refine (exists_bind_unwrap fun v => exists_stringsFromZval).trans ?_
      simp [ArrayKey.isString]

end

/-- An array that is converted has a value. -/
theorem value_of_array {arr : List (PhpKey × PhpZval)} {c : Converted}
    (h : (array arr).fromZval B = .ok c) : ∃ v, c.value = some v := by
  rw [fromZval] at h
  split_ifs at h
  · obtain ⟨vs, -, h⟩ := Fallible.bind_eq_ok.1 h
    cases h
    exact ⟨_, rfl⟩
  · obtain ⟨t, -, h⟩ := Fallible.bind_eq_ok.1 h
    cases h
    exact ⟨_, rfl⟩
  · obtain ⟨t, -, h⟩ := Fallible.bind_eq_ok.1 h
    cases h
    exact ⟨_, rfl⟩

/-- A conversion ends without aborting iff a caller can handle the value. -/
theorem exists_fromZval {z : PhpZval} : (∃ c, z.fromZval B = .ok c) ↔ z.Handled B := by
  cases z with
  | array arr =>
    refine Iff.trans ?_ exists_fromZval_value
    constructor
    · rintro ⟨c, hc⟩
      obtain ⟨v, hv⟩ := value_of_array hc
      exact ⟨c, v, hc, hv⟩
    · rintro ⟨c, v, hc, -⟩
      exact ⟨c, hc⟩
  | resource => exact iff_of_false nofun id
  | reference z => exact iff_of_false nofun id
  | _ => exact iff_of_true ⟨_, rfl⟩ trivial

end PhpZval

/-- `from_zval` returns, with a value or without one, and so does a caller, which raises
    an exception where there is no value. -/
def NeverAborts (z : PhpZval) : Prop :=
  ∃ c, z.fromZval B = .ok c ∧ ∀ name, ∃ r, Bin.construct B name z = .ok r ∧
    (∀ v, c.value = some v → r.result = .ok { name := name, value := some v.toProto }) ∧
    (c.value = none → r.Raises)

end FromZval

/-- No conversion aborts on the values that a caller can handle, and every other one
    does. -/
theorem neverAborts_iff (B : PhpBinding) (z : PhpZval) : NeverAborts B z ↔ z.Handled B := by
  rw [← PhpZval.exists_fromZval]
  constructor
  · rintro ⟨c, hc, -⟩
    exact ⟨c, hc⟩
  · rintro ⟨c, hc⟩
    refine ⟨c, hc, fun name => ?_⟩
    obtain ⟨thrown, _ | v⟩ := c
    · refine ⟨⟨thrown, .error "Invalid input for argument `value`"⟩, ?_, nofun, ?_⟩
      · rw [Bin.construct, hc]
        rfl
      · intro _
        exact .inr ⟨_, rfl⟩
    · refine ⟨⟨thrown, .ok { name := name, value := some v.toProto }⟩, ?_, ?_, nofun⟩
      · rw [Bin.construct, hc]
        rfl
      · rintro w hw
        cases hw
        rfl

/-- An array of one object of another class. -/
theorem object_aborts : ¬ NeverAborts .standard (.array [(.long 0, .object)]) := by
  rintro ⟨c, hc, -⟩
  cases hc

/-! ## The model of arguments -/

def ArrayKey.toPhp : ArrayKey → PhpKey
  | long i => .long i
  | string s => .string s.toUTF8

mutual

/-- The value of PHP that a `Zval` stands for. -/
def Zval.toPhp : Zval → PhpZval
  | .null => .null
  | .bool b => .bool b
  | .long i => .long i
  | .double f => .double f
  | .string s => .string s.toUTF8
  | .array arr => .array (entriesToPhp arr)
  | .blob b => .blob b
  | .hll b => .hll b
  | .geoJSON gj => .geoJSON gj
  | .infinity => .infinity
  | .wildcard => .wildcard
  | .other => .object

def entriesToPhp : List (ArrayKey × Zval) → List (PhpKey × PhpZval)
  | [] => []
  | (k, z) :: arr => (k.toPhp, z.toPhp) :: entriesToPhp arr

end

theorem fromUTF8?_toUTF8 (s : String) : String.fromUTF8? s.toUTF8 = some s := by
  have hvalid : s.toUTF8.IsValidUTF8 := s.isValidUTF8
  rw [String.fromUTF8?, dif_pos hvalid]
  rfl

theorem iterKey_toPhp (k : ArrayKey) : PhpBinding.standard.iterKey k.toPhp = .ok k := by
  cases k with
  | long i => rfl
  | string s => simp only [PhpBinding.standard, ArrayKey.toPhp, fromUTF8?_toUTF8]

theorem keys_entriesToPhp (arr : List (ArrayKey × Zval)) :
    (entriesToPhp arr).map Prod.fst = (arr.map Prod.fst).map ArrayKey.toPhp := by
  induction arr with
  | nil => rfl
  | cons e arr ih => rw [entriesToPhp, List.map_cons, ih, List.map_cons, List.map_cons]

theorem toPhp_injective : Function.Injective ArrayKey.toPhp := by
  intro k k' h
  cases k with
  | long i =>
    cases k' with
    | long i' =>
      cases h
      rfl
    | string s' => cases h
  | string s =>
    cases k' with
    | long i' => cases h
    | string s' =>
      rw [ArrayKey.toPhp, ArrayKey.toPhp, PhpKey.string.injEq] at h
      rw [String.toByteArray_inj.1 h]

theorem hasSequentialKeys_toPhp (arr : List (ArrayKey × Zval)) :
    PhpBinding.standard.hasSequentialKeys ((entriesToPhp arr).map Prod.fst) =
      hasSequentialKeys arr := by
  have hrange : ((List.range arr.length).map fun i => PhpKey.long (Int64.ofNat i)) =
      ((List.range arr.length).map fun i => ArrayKey.long (Int64.ofNat i)).map ArrayKey.toPhp := by
    rw [List.map_map]
    rfl
  rw [keys_entriesToPhp, PhpBinding.standard, hasSequentialKeys, Bool.eq_iff_iff, beq_iff_eq,
    beq_iff_eq, List.length_map, List.length_map, hrange]
  exact (List.map_injective_iff.2 toPhp_injective).eq_iff

theorem hasNumericalKeys_toPhp (arr : List (ArrayKey × Zval)) :
    PhpBinding.standard.hasNumericalKeys ((entriesToPhp arr).map Prod.fst) =
      hasNumericalKeys arr := by
  induction arr with
  | nil => rfl
  | cons e arr ih =>
    obtain ⟨_ | s, z⟩ := e
    · exact ih
    · rfl

/-- A step of a loop, seen as an optional result. -/
theorem toOption_bind_unwrap {α : Type} (x : Except Panic Converted)
    (f : PHPValue → Except Panic α) :
    (do
      let c ← x
      let v ← c.unwrap
      f v).toOption = (x.toOption.bind Converted.value).bind fun v => (f v).toOption := by
  cases x with
  | error p => rfl
  | ok c =>
    obtain ⟨thrown, _ | v⟩ := c
    · rfl
    · rfl

theorem toOption_bind_some {α : Type} (x : Except Panic α) (g : α → PHPValue) :
    ((do return Converted.some (g (← x)) : Except Panic Converted).toOption.bind
      Converted.value) = x.toOption.bind fun a => some (g a) := by
  cases x with
  | error p => rfl
  | ok a => rfl

mutual

/-- On the values of `Zval`, `from_zval` has the result that `fromZval` has. -/
theorem fromZval_toPhp : ∀ z : Zval,
    (z.toPhp.fromZval .standard).toOption.bind Converted.value = fromZval z
  | .array arr => by
    rw [Zval.toPhp, PhpZval.fromZval, fromZval, hasSequentialKeys_toPhp, hasNumericalKeys_toPhp]
    split_ifs
    · rw [toOption_bind_some, listFromZval_toPhp]
      rfl
    · rw [toOption_bind_some, longsFromZval_toPhp]
      rfl
    · rw [toOption_bind_some, stringsFromZval_toPhp]
      rfl
  | .string s => by
    rw [Zval.toPhp, PhpZval.fromZval, fromZval, fromUTF8?_toUTF8]
    rfl
  | .null => rfl
  | .bool b => rfl
  | .long i => rfl
  | .double f => rfl
  | .blob b => rfl
  | .hll b => rfl
  | .geoJSON gj => rfl
  | .infinity => rfl
  | .wildcard => rfl
  | .other => rfl

theorem listFromZval_toPhp : ∀ arr : List (ArrayKey × Zval),
    (PhpZval.listFromZval .standard (entriesToPhp arr)).toOption = listFromZval arr
  | [] => rfl
  | (k, z) :: arr => by
    rw [entriesToPhp, PhpZval.listFromZval, iterKey_toPhp, Fallible.ok_bind,
      toOption_bind_unwrap, fromZval_toPhp z, listFromZval]
    refine congrArg _ (funext fun v => ?_)
    rw [Fallible.toOption_bind_pure, listFromZval_toPhp arr]
    cases listFromZval arr with
    | none => rfl
    | some vs => rfl

theorem longsFromZval_toPhp : ∀ (arr : List (ArrayKey × Zval)) (h : List (PHPValue × PHPValue)),
    (PhpZval.longsFromZval .standard (entriesToPhp arr) h).toOption = longsFromZval arr h
  | [], _ => rfl
  | (.long i, z) :: arr, h => by
    rw [entriesToPhp, PhpZval.longsFromZval, iterKey_toPhp, Fallible.ok_bind]
    rw [toOption_bind_unwrap, fromZval_toPhp z, longsFromZval]
    exact congrArg _ (funext fun v => longsFromZval_toPhp arr _)
  | (.string s, z) :: arr, h => by
    rw [entriesToPhp, PhpZval.longsFromZval, iterKey_toPhp, Fallible.ok_bind, longsFromZval]
    exact longsFromZval_toPhp arr h

theorem stringsFromZval_toPhp :
    ∀ (arr : List (ArrayKey × Zval)) (h : List (PHPValue × PHPValue)),
      (PhpZval.stringsFromZval .standard (entriesToPhp arr) h).toOption = stringsFromZval arr h
  | [], _ => rfl
  | (.long i, z) :: arr, h => by
    rw [entriesToPhp, PhpZval.stringsFromZval, iterKey_toPhp, Fallible.ok_bind, stringsFromZval]
    exact stringsFromZval_toPhp arr h
  | (.string s, z) :: arr, h => by
    rw [entriesToPhp, PhpZval.stringsFromZval, iterKey_toPhp, Fallible.ok_bind]
    rw [toOption_bind_unwrap, fromZval_toPhp z, stringsFromZval]
    exact congrArg _ (funext fun v => stringsFromZval_toPhp arr _)

end

end AerospikePhp
