import Mathlib.Data.List.Basic

/-!
# Values: PHP side, wire and daemon

Three representations of one value: `PHPValue` (`src/lib.rs` lines 11145–11187)
is what the extension holds, `Proto.Value` is the protobuf message that crosses
the socket, and `Aero.Value` is what the daemon hands to the Go client.

A hash table is the list of its entries in iteration order; the order of the
entries of a Rust `HashMap` or of a Go `map` is not specified, so nothing below
depends on a choice of it. A 64-bit float is its bit pattern.
-/

namespace AerospikePhp

/-- A 64-bit IEEE 754 number, as its bits. -/
structure F64 where
  bits : UInt64
deriving DecidableEq, Repr

/-- The ways a call stops: `panic(UNREACHABLE)` and `panic(err)` in the daemon
    (`kvs.go`), the run-time panics of Go, and in the extension `unreachable!()`,
    an `unwrap` of `None`, an `expect` of an `Err` and an index out of bounds. -/
inductive Panic where
  | unreachable
  | error
  | nilDeref
  | indexOutOfRange
  | typeAssertion
  | unhashable
  | unwrapNone
  | expectErr
deriving DecidableEq, Repr

/-- `PHPValue` (`src/lib.rs` lines 11145–11187). -/
inductive PHPValue where
  | nil
  | bool (b : Bool)
  | int (i : Int64)
  | uInt (ui : UInt64)
  | float (f : F64)
  | string (s : String)
  | blob (b : List UInt8)
  | list (l : List PHPValue)
  | hashMap (h : List (PHPValue × PHPValue))
  | json (h : List (String × PHPValue))
  | geoJSON (gj : String)
  | hll (b : List UInt8)
  | wildcard
  | infinity

/-- The `Value` message: one field of the `oneof`, or none (`unset`). The key
    and the value of a map entry, and the value of a JSON entry, are message
    fields, hence optional. -/
inductive Proto.Value where
  | unset
  | nil (b : Bool)
  | b (b : Bool)
  | i (i : Int64)
  | f (f : F64)
  | s (s : String)
  | blob (b : List UInt8)
  | l (l : List Proto.Value)
  | m (m : List (Option Proto.Value × Option Proto.Value))
  | geo (gj : String)
  | hll (b : List UInt8)
  | json (j : List (String × Option Proto.Value))
  | infinity (b : Bool)
  | wildcard (b : Bool)

/-- The values of the Go client that `toValue` builds. `LongValue`, of 64 bits as well, is not one
    of them, and the code treats it as an `IntegerValue` (`kvs.go` lines 1713 and 1767): both are
    `integer`. -/
inductive Aero.Value where
  | null
  | integer (i : Int64)
  | float (f : F64)
  | string (s : String)
  | bool (b : Bool)
  | bytes (b : List UInt8)
  | geoJSON (gj : String)
  | hll (b : List UInt8)
  | wildCard
  | infinity
  | json (j : List (String × Aero.Value))
  | map (m : List (Aero.Value × Aero.Value))
  | list (l : List Aero.Value)

instance : Inhabited PHPValue := ⟨.nil⟩
instance : Inhabited Proto.Value := ⟨.unset⟩
instance : Inhabited Aero.Value := ⟨.null⟩

/-! ## Floats and equality -/

namespace F64

/-- A NaN: exponent all ones, mantissa not zero. -/
def isNaN (x : F64) : Bool :=
  x.bits &&& 0x7ff0000000000000 == 0x7ff0000000000000 && x.bits &&& 0x000fffffffffffff != 0

def isZero (x : F64) : Bool := x.bits &&& 0x7fffffffffffffff == 0

/-- `==` on `float64`: NaN differs from itself, and the two zeros are equal. -/
def goEq (x y : F64) : Bool :=
  !x.isNaN && !y.isNaN && (x.bits == y.bits || x.isZero && y.isZero)

/-- `==` on `OrderedFloat`: all NaNs are equal. -/
def orderedEq (x y : F64) : Bool := x.isNaN && y.isNaN || x.goEq y

end F64

namespace PHPValue

mutual

/-- The derived `PartialEq` of `PHPValue` (`src/lib.rs` line 11143). -/
def eq : PHPValue → PHPValue → Bool
  | nil, nil => true
  | bool b, bool b' => b == b'
  | int i, int i' => i == i'
  | uInt ui, uInt ui' => ui == ui'
  | float f, float f' => f.orderedEq f'
  | string s, string s' => s == s'
  | blob b, blob b' => b == b'
  | list l, list l' => listEq l l'
  | hashMap h, hashMap h' => h.length == h'.length && hashMapSubset h h'
  | json h, json h' => h.length == h'.length && jsonSubset h h'
  | geoJSON gj, geoJSON gj' => gj == gj'
  | hll b, hll b' => b == b'
  | wildcard, wildcard => true
  | infinity, infinity => true
  | _, _ => false

def listEq : List PHPValue → List PHPValue → Bool
  | [], [] => true
  | v :: vs, v' :: vs' => eq v v' && listEq vs vs'
  | _, _ => false

/-- Every entry of the first map is in the second. -/
def hashMapSubset : List (PHPValue × PHPValue) → List (PHPValue × PHPValue) → Bool
  | [], _ => true
  | (k, v) :: h, h' => (h'.any fun e => eq k e.1 && eq v e.2) && hashMapSubset h h'

def jsonSubset : List (String × PHPValue) → List (String × PHPValue) → Bool
  | [], _ => true
  | (k, v) :: h, h' => (h'.any fun e => k == e.1 && eq v e.2) && jsonSubset h h'

end

end PHPValue

/-! ## From PHP to the wire -/

namespace PHPValue

mutual

/-- `impl From<PHPValue> for proto::Value` (`src/lib.rs` lines 11446–11512). -/
def toProto : PHPValue → Proto.Value
  | nil => .nil true
  | bool b => .b b
  | int i => .i i
  | uInt ui => .i ui.toInt64
  | float f => .f f
  | string s => .s s
  | blob b => .blob b
  | list l => .l (listToProto l)
  | hashMap h => .m (hashMapToProto h)
  | json h => .json (jsonToProto h)
  | geoJSON gj => .geo gj
  | hll b => .hll b
  | infinity => .infinity true
  | wildcard => .wildcard true

/-- The loop over a list (lines 11472–11478). -/
def listToProto : List PHPValue → List Proto.Value
  | [] => []
  | v :: vs => v.toProto :: listToProto vs

/-- The loop over a hash map (lines 11479–11490): both fields of an entry are
    present. -/
def hashMapToProto : List (PHPValue × PHPValue) → List (Option Proto.Value × Option Proto.Value)
  | [] => []
  | (k, v) :: h => (some k.toProto, some v.toProto) :: hashMapToProto h

/-- The loop over a JSON object (lines 11491–11502). -/
def jsonToProto : List (String × PHPValue) → List (String × Option Proto.Value)
  | [] => []
  | (k, v) :: h => (k, some v.toProto) :: jsonToProto h

end

theorem listToProto_eq_map : ∀ vs, listToProto vs = vs.map toProto
  | [] => by simp [listToProto]
  | v :: vs => by simp [listToProto, listToProto_eq_map vs]

theorem hashMapToProto_eq_map :
    ∀ h, hashMapToProto h = h.map fun e => (some e.1.toProto, some e.2.toProto)
  | [] => by simp [hashMapToProto]
  | e :: h => by simp [hashMapToProto, hashMapToProto_eq_map h]

/-! ## The value a PHP value stands for -/

mutual

/-- The value of the Go client that a PHP value denotes: the same kind and the
    same content, at every depth. -/
def toAero : PHPValue → Aero.Value
  | nil => .null
  | bool b => .bool b
  | int i => .integer i
  | uInt ui => .integer ui.toInt64
  | float f => .float f
  | string s => .string s
  | blob b => .bytes b
  | list l => .list (listToAero l)
  | hashMap h => .map (hashMapToAero h)
  | json h => .json (jsonToAero h)
  | geoJSON gj => .geoJSON gj
  | hll b => .hll b
  | infinity => .infinity
  | wildcard => .wildCard

def listToAero : List PHPValue → List Aero.Value
  | [] => []
  | v :: vs => v.toAero :: listToAero vs

def hashMapToAero : List (PHPValue × PHPValue) → List (Aero.Value × Aero.Value)
  | [] => []
  | (k, v) :: h => (k.toAero, v.toAero) :: hashMapToAero h

def jsonToAero : List (String × PHPValue) → List (String × Aero.Value)
  | [] => []
  | (k, v) :: h => (k, v.toAero) :: jsonToAero h

end

theorem listToAero_eq_map : ∀ vs, listToAero vs = vs.map toAero
  | [] => by simp [listToAero]
  | v :: vs => by simp [listToAero, listToAero_eq_map vs]

theorem hashMapToAero_eq_map :
    ∀ h, hashMapToAero h = h.map fun e => (e.1.toAero, e.2.toAero)
  | [] => by simp [hashMapToAero]
  | e :: h => by simp [hashMapToAero, hashMapToAero_eq_map h]

end PHPValue

end AerospikePhp
