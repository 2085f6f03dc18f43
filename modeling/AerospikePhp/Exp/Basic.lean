import AerospikePhp.Value.Zval

/-!
# Expressions: the message and its constructors

A filter expression is a tree of messages. A node has a command, or is a literal if
it has none; the constructors of `Expression` (`src/lib.rs` lines 208–1137) build
one node each, except `bin_exists`, which builds three.
-/

namespace AerospikePhp

/-! ## The message -/

/-- `ExpType`. -/
inductive ExpType where
  | nil
  | bool
  | int
  | string
  | list
  | map
  | blob
  | float
  | geo
  | hll
deriving DecidableEq

/-- The number of a type in its enumeration; `From<ExpType> for i32` (lines 166–181)
    agrees with it. -/
def ExpType.number : ExpType → Int64
  | nil => 0
  | bool => 1
  | int => 2
  | string => 3
  | list => 4
  | map => 5
  | blob => 6
  | float => 7
  | geo => 8
  | hll => 9

/-- `ExpOp`. -/
inductive ExpOp where
  | unknown
  | eq
  | ne
  | gt
  | ge
  | lt
  | le
  | regex
  | geo
  | and
  | or
  | not
  | exclusive
  | add
  | sub
  | mul
  | div
  | pow
  | log
  | mod
  | abs
  | floor
  | ceil
  | toInt
  | toFloat
  | intAnd
  | intOr
  | intXor
  | intNot
  | intLShift
  | intRShift
  | intARShift
  | intCount
  | intLScan
  | intRScan
  | min
  | max
  | digestModulo
  | deviceSize
  | lastUpdate
  | sinceUpdate
  | voidTime
  | ttl
  | setName
  | keyExists
  | isTombstone
  | memorySize
  | recordSize
  | key
  | bin
  | binType
  | cond
  | var
  | «let»
  | quoted
  | call
deriving DecidableEq

/-- The `Expression` message. -/
inductive Proto.Expression where
  | mk (cmd : Option ExpOp) (val : Option Proto.Value) (bin : Option Proto.Expression)
      (flags : Option Int64) (module : Option ExpType) (exps : List Proto.Expression)

/-! ## The constructors of `Expression` -/

namespace Expression

/-- `new` (lines 209–227). -/
def new (cmd : Option ExpOp) (val : Option Arg) (bin : Option Proto.Expression)
    (flags : Option Int64) (module : Option ExpType) (exps : List Proto.Expression) :
    Proto.Expression :=
  .mk cmd (val.map Arg.toProto) bin flags module exps

/-- A command without operands. -/
def command (cmd : ExpOp) : Proto.Expression := new (some cmd) none none none none []

/-- A command with a value. -/
def valued (cmd : ExpOp) (val : Arg) : Proto.Expression :=
  new (some cmd) (some val) none none none []

/-- The read of a bin of a type. -/
def typedBin (type : ExpType) (name : String) : Proto.Expression :=
  new (some .bin) (some (.string name)) none none (some type) []

/-- A literal. -/
def literal (val : Arg) : Proto.Expression := new none (some val) none none none []

/-- A command with operands. -/
def operator (cmd : ExpOp) (exps : List Proto.Expression) : Proto.Expression :=
  new (some cmd) none none none none exps

/-! ### The record and its bins -/

/-- `key` (lines 230–240). -/
def key (expType : ExpType) : Proto.Expression := valued .key (.int expType.number)

/-- `key_exists` (lines 244–253). -/
def keyExists : Proto.Expression := command .keyExists

/-- `int_bin` (lines 256–265). -/
def intBin (name : String) : Proto.Expression := typedBin .int name

/-- `string_bin` (lines 268–277). -/
def stringBin (name : String) : Proto.Expression := typedBin .string name

/-- `blob_bin` (lines 280–289). -/
def blobBin (name : String) : Proto.Expression := typedBin .blob name

/-- `float_bin` (lines 292–301). -/
def floatBin (name : String) : Proto.Expression := typedBin .float name

/-- `geo_bin` (lines 304–313). -/
def geoBin (name : String) : Proto.Expression := typedBin .geo name

/-- `list_bin` (lines 316–325). -/
def listBin (name : String) : Proto.Expression := typedBin .list name

/-- `map_bin` (lines 328–337). -/
def mapBin (name : String) : Proto.Expression := typedBin .map name

/-- `hll_bin` (lines 340–349). -/
def hllBin (name : String) : Proto.Expression := typedBin .hll name

/-- `bin_type` (lines 373–382). -/
def binType (name : String) : Proto.Expression := valued .binType (.string name)

/-- `set_name` (lines 385–394). -/
def setName : Proto.Expression := command .setName

/-- `device_size` (lines 401–410). -/
def deviceSize : Proto.Expression := command .deviceSize

/-- `memory_size` (lines 418–427). -/
def memorySize : Proto.Expression := command .memorySize

/-- `last_update` (lines 431–440). -/
def lastUpdate : Proto.Expression := command .lastUpdate

/-- `since_update` (lines 444–453). -/
def sinceUpdate : Proto.Expression := command .sinceUpdate

/-- `void_time` (lines 457–466). -/
def voidTime : Proto.Expression := command .voidTime

/-- `ttl` (lines 469–478). -/
def ttl : Proto.Expression := command .ttl

/-- `is_tombstone` (lines 482–491). -/
def isTombstone : Proto.Expression := command .isTombstone

/-- `unknown` (lines 1127–1136). -/
def unknown : Proto.Expression := command .unknown

/-- `digest_modulo` (lines 494–503). -/
def digestModulo (modulo : Int64) : Proto.Expression := valued .digestModulo (.int modulo)

/-- `regex_compare` (lines 506–515). -/
def regexCompare (regex : String) (flags : Int64) (bin : Proto.Expression) : Proto.Expression :=
  new (some .regex) (some (.string regex)) (some bin) (some flags) none []

/-- `var` (lines 1112–1121). -/
def var (name : String) : Proto.Expression := valued .var (.string name)

/-! ### Literals -/

/-- `int_val` (lines 530–539). -/
def intVal (val : Int64) : Proto.Expression := literal (.int val)

/-- `bool_val` (lines 542–551). -/
def boolVal (val : Bool) : Proto.Expression := literal (.bool val)

/-- `string_val` (lines 554–563). -/
def stringVal (val : String) : Proto.Expression := literal (.string val)

/-- `float_val` (lines 566–575). -/
def floatVal (val : F64) : Proto.Expression := literal (.float val)

/-- `blob_val` (lines 578–587). -/
def blobVal (val : List UInt8) : Proto.Expression := literal (.blob val)

/-- `list_val` (lines 591–600). -/
def listVal (val : List Arg) : Proto.Expression := literal (.list val)

/-- `map_val` (lines 604–617): `assert_map` lets hash maps through only. -/
def mapVal (val : Arg) : Option Proto.Expression :=
  match val.val with
  | .hashMap _ => some (literal val)
  | _ => none

/-- `geo_val` (lines 620–629). -/
def geoVal (val : String) : Proto.Expression := literal (.geoJSON val)

/-- `nil` (lines 632–634). -/
def nil : Proto.Expression := literal .nil

/-- `infinity` (lines 637–646). -/
def infinity : Proto.Expression := literal .infinity

/-- `wildcard` (lines 649–658). -/
def wildcard : Proto.Expression := literal .wildcard

/-! ### Operators -/

/-- `not` (lines 661–670). -/
def not (exp : Proto.Expression) : Proto.Expression := operator .not [exp]

/-- `num_abs` (lines 845–854). -/
def numAbs (exp : Proto.Expression) : Proto.Expression := operator .abs [exp]

/-- `num_floor` (lines 859–868). -/
def numFloor (exp : Proto.Expression) : Proto.Expression := operator .floor [exp]

/-- `num_ceil` (lines 873–882). -/
def numCeil (exp : Proto.Expression) : Proto.Expression := operator .ceil [exp]

/-- `to_int` (lines 886–895). -/
def toInt (exp : Proto.Expression) : Proto.Expression := operator .toInt [exp]

/-- `to_float` (lines 899–908). -/
def toFloat (exp : Proto.Expression) : Proto.Expression := operator .toFloat [exp]

/-- `int_not` (lines 954–963). -/
def intNot (exp : Proto.Expression) : Proto.Expression := operator .intNot [exp]

/-- `int_count` (lines 1007–1016). -/
def intCount (exp : Proto.Expression) : Proto.Expression := operator .intCount [exp]

/-- `geo_compare` (lines 518–527). -/
def geoCompare (left right : Proto.Expression) : Proto.Expression :=
  operator .geo [left, right]

/-- `eq` (lines 696–705). -/
def eq (left right : Proto.Expression) : Proto.Expression :=
  operator .eq [left, right]

/-- `ne` (lines 708–717). -/
def ne (left right : Proto.Expression) : Proto.Expression :=
  operator .ne [left, right]

/-- `gt` (lines 720–729). -/
def gt (left right : Proto.Expression) : Proto.Expression :=
  operator .gt [left, right]

/-- `ge` (lines 732–741). -/
def ge (left right : Proto.Expression) : Proto.Expression :=
  operator .ge [left, right]

/-- `lt` (lines 744–753). -/
def lt (left right : Proto.Expression) : Proto.Expression :=
  operator .lt [left, right]

/-- `le` (lines 756–765). -/
def le (left right : Proto.Expression) : Proto.Expression :=
  operator .le [left, right]

/-- `num_pow` (lines 803–812). -/
def numPow (base exponent : Proto.Expression) : Proto.Expression :=
  operator .pow [base, exponent]

/-- `num_log` (lines 817–826). -/
def numLog (num base : Proto.Expression) : Proto.Expression :=
  operator .log [num, base]

/-- `num_mod` (lines 831–840). -/
def numMod (numerator denominator : Proto.Expression) : Proto.Expression :=
  operator .mod [numerator, denominator]

/-- `int_lshift` (lines 967–976). -/
def intLShift (value shift : Proto.Expression) : Proto.Expression :=
  operator .intLShift [value, shift]

/-- `int_rshift` (lines 980–989). -/
def intRShift (value shift : Proto.Expression) : Proto.Expression :=
  operator .intRShift [value, shift]

/-- `int_arshift` (lines 994–1003). -/
def intARShift (value shift : Proto.Expression) : Proto.Expression :=
  operator .intARShift [value, shift]

/-- `int_lscan` (lines 1024–1033). -/
def intLScan (value search : Proto.Expression) : Proto.Expression :=
  operator .intLScan [value, search]

/-- `int_rscan` (lines 1041–1050). -/
def intRScan (value search : Proto.Expression) : Proto.Expression :=
  operator .intRScan [value, search]

/-- `and` (lines 674–676). -/
def and (exps : List Proto.Expression) : Proto.Expression := operator .and exps

/-- `or` (lines 679–681). -/
def or (exps : List Proto.Expression) : Proto.Expression := operator .or exps

/-- `xor` (lines 684–693). -/
def xor (exps : List Proto.Expression) : Proto.Expression := operator .intXor exps

/-- `num_add` (lines 770–772). -/
def numAdd (exps : List Proto.Expression) : Proto.Expression := operator .add exps

/-- `num_sub` (lines 779–781). -/
def numSub (exps : List Proto.Expression) : Proto.Expression := operator .sub exps

/-- `num_mul` (lines 787–789). -/
def numMul (exps : List Proto.Expression) : Proto.Expression := operator .mul exps

/-- `num_div` (lines 796–798). -/
def numDiv (exps : List Proto.Expression) : Proto.Expression := operator .div exps

/-- `int_and` (lines 913–922). -/
def intAnd (exps : List Proto.Expression) : Proto.Expression := operator .intAnd exps

/-- `int_or` (lines 927–936). -/
def intOr (exps : List Proto.Expression) : Proto.Expression := operator .intOr exps

/-- `int_xor` (lines 941–950). -/
def intXor (exps : List Proto.Expression) : Proto.Expression := operator .intXor exps

/-- `min` (lines 1055–1057). -/
def min (exps : List Proto.Expression) : Proto.Expression := operator .min exps

/-- `max` (lines 1062–1064). -/
def max (exps : List Proto.Expression) : Proto.Expression := operator .max exps

/-- `cond` (lines 1076–1085). -/
def cond (exps : List Proto.Expression) : Proto.Expression := operator .cond exps

/-- `exp_let` (lines 1091–1093). -/
def expLet (exps : List Proto.Expression) : Proto.Expression := operator .«let» exps

/-- `bin_exists` (lines 352–357): the particle type of a bin is null if the bin does not exist. -/
def binExists (name : String) : Proto.Expression := ne (binType name) (intVal 0)

/-- `def` (lines 1099–1108): no command, as in a literal. -/
def defExp (name : String) (value : Proto.Expression) : Proto.Expression :=
  new none (some (.string name)) none none none [value]

end Expression

end AerospikePhp
