import AerospikePhp.Exp.Basic

/-!
# `toExpression`: from the wire to the Go client

`toExpression` (`kvs.go` lines 1755–1926) rebuilds an expression of the Go client
from its message, recursively. A message without a command is a literal: its value
alone is looked at. Otherwise the command is looked up in a switch, whose cases
differ in what they take out of the message.
-/

namespace AerospikePhp

/-! ## Expressions of the Go client -/

namespace Aero

/-- The numbers of the types of expressions. -/
def expType : ExpType → Int64
  | .nil => 0
  | .bool => 1
  | .int => 2
  | .string => 3
  | .list => 4
  | .map => 5
  | .blob => 6
  | .float => 7
  | .geo => 8
  | .hll => 9

/-- The functions `Exp…` without arguments. -/
inductive RecordExp where
  | unknown
  | deviceSize
  | lastUpdate
  | sinceUpdate
  | voidTime
  | ttl
  | setName
  | keyExists
  | isTombstone
  | memorySize
  | recordSize
deriving DecidableEq

/-- The functions `Exp…` of one expression. -/
inductive UnaryExp where
  | not
  | numAbs
  | numFloor
  | numCeil
  | toInt
  | toFloat
  | intNot
  | intCount
deriving DecidableEq

/-- The functions `Exp…` of two expressions. -/
inductive BinaryExp where
  | eq
  | notEq
  | greater
  | greaterEq
  | less
  | lessEq
  | geoCompare
  | numPow
  | numLog
  | numMod
  | intLShift
  | intRShift
  | intARShift
  | intLScan
  | intRScan
deriving DecidableEq

/-- The functions `Exp…` of any number of expressions. -/
inductive NaryExp where
  | and
  | or
  | exclusive
  | numAdd
  | numSub
  | numMul
  | numDiv
  | intAnd
  | intOr
  | intXor
  | min
  | max
  | cond
  | let
deriving DecidableEq

/-- An expression, by the function that makes it; `bin` stands for the functions
    `Exp…Bin`. -/
inductive Expression where
  | nilValue
  | intVal (val : Int64)
  | floatVal (val : F64)
  | stringVal (val : String)
  | boolVal (val : Bool)
  | blobVal (val : List UInt8)
  | listVal (vals : List Aero.Value)
  | mapVal (m : List (Aero.Value × Aero.Value))
  | geoVal (val : String)
  | wildCardValue
  | infinityValue
  | record (fn : RecordExp)
  | key (expType : Int64)
  | bin (type : ExpType) (name : String)
  | binType (name : String)
  | digestModulo (modulo : Int64)
  | regexCompare (regex : String) (flags : Int64) (bin : Option Expression)
  | unary (fn : UnaryExp) (exp : Expression)
  | binary (fn : BinaryExp) (left right : Expression)
  | nary (fn : NaryExp) (exps : List Expression)
  | defExp (name : String) (value : Expression)
  | var (name : String)

/-- The method `String` of the values of the Go client. -/
structure ValueString where
  toString : Aero.Value → String
  toString_string : ∀ s, toString (.string s) = s

/-- A client whose other values print as the empty string. -/
def ValueString.strings : ValueString where
  toString v := match v with
    | .string s => s
    | _ => ""
  toString_string _ := rfl

end Aero

/-! ## Parts of a message -/

/-- `in.Val.V.(*pb.Value_I).I`. -/
def valI : Option Proto.Value → Except Panic Int64
  | some (.i n) => .ok n
  | some _ => .error .typeAssertion
  | none => .error .nilDeref

/-- `in.Val.V.(*pb.Value_S).S`. -/
def valS : Option Proto.Value → Except Panic String
  | some (.s s) => .ok s
  | some _ => .error .typeAssertion
  | none => .error .nilDeref

/-- `*in.Flags` and `*in.Module`. -/
def deref {α : Type} : Option α → Except Panic α
  | some a => .ok a
  | none => .error .nilDeref

/-- A message without a command (lines 1760–1792), the cases of `IntegerValue` and `LongValue` in
    one. A value of another type is followed by `*in.Cmd`, which is nil. -/
def toLiteral (val : Option Proto.Value) : Except Panic Aero.Expression := do
  match ← toValue val with
  | .null => return .nilValue
  | .integer i => return .intVal i
  | .float f => return .floatVal f
  | .string s => return .stringVal s
  | .bool b => return .boolVal b
  | .bytes b => return .blobVal b
  | .list _ => return .listVal (← toListValue val)
  | .map m => return .mapVal m
  | .geoJSON s => return .geoVal s
  | .wildCard => return .wildCardValue
  | .infinity => return .infinityValue
  | .hll _ | .json _ => .error .nilDeref

section Command

-- the operands, each with its translation
variable (exps : List (Except Panic Aero.Expression))

/-- `toExpression(in.Exps[i])`. -/
def expAt (i : ℕ) : Except Panic Aero.Expression :=
  match exps[i]? with
  | some exp => exp
  | none => .error .indexOutOfRange

/-- `f(toExpression(in.Exps[0]))`. -/
def unaryExp (fn : Aero.UnaryExp) : Except Panic Aero.Expression := do
  return .unary fn (← expAt exps 0)

/-- `f(toExpression(in.Exps[0]), toExpression(in.Exps[1]))`. -/
def binaryExp (fn : Aero.BinaryExp) : Except Panic Aero.Expression := do
  return .binary fn (← expAt exps 0) (← expAt exps 1)

/-- `f(toExpressions(in.Exps)...)`. -/
def naryExp (fn : Aero.NaryExp) : Except Panic Aero.Expression := do
  return .nary fn (← exps.mapM id)

/-- `f(in.Val.V.(*pb.Value_S).S)`, for a bin of the type. -/
def typedBin (val : Option Proto.Value) : ExpType → Except Panic Aero.Expression
  | .bool => do return .bin .bool (← valS val)
  | .int => do return .bin .int (← valS val)
  | .string => do return .bin .string (← valS val)
  | .list => do return .bin .list (← valS val)
  | .map => do return .bin .map (← valS val)
  | .blob => do return .bin .blob (← valS val)
  | .float => do return .bin .float (← valS val)
  | .geo => do return .bin .geo (← valS val)
  | .nil | .hll => .error .unreachable

/-- The switch on the command (lines 1794–1925). The case of `Floor` is empty, and
    what follows the switch is a panic. -/
def toCommand (S : Aero.ValueString) (cmd : ExpOp) (val : Option Proto.Value)
    (bin : Except Panic (Option Aero.Expression)) (flags : Option Int64)
    (module : Option ExpType) : Except Panic Aero.Expression :=
  match cmd with
  | .unknown => .ok (.record .unknown)
  | .eq => binaryExp exps .eq
  | .ne => binaryExp exps .notEq
  | .gt => binaryExp exps .greater
  | .ge => binaryExp exps .greaterEq
  | .lt => binaryExp exps .less
  | .le => binaryExp exps .lessEq
  | .regex => do
    let regex := S.toString (← toValue val)
    return .regexCompare regex (← deref flags) (← bin)
  | .geo => binaryExp exps .geoCompare
  | .and => naryExp exps .and
  | .or => naryExp exps .or
  | .not => unaryExp exps .not
  | .exclusive => naryExp exps .exclusive
  | .add => naryExp exps .numAdd
  | .sub => naryExp exps .numSub
  | .mul => naryExp exps .numMul
  | .div => naryExp exps .numDiv
  | .pow => binaryExp exps .numPow
  | .log => binaryExp exps .numLog
  | .mod => binaryExp exps .numMod
  | .abs => unaryExp exps .numAbs
  | .floor => .error .unreachable
  | .ceil => unaryExp exps .numCeil
  | .toInt => unaryExp exps .toInt
  | .toFloat => unaryExp exps .toFloat
  | .intAnd => naryExp exps .intAnd
  | .intOr => naryExp exps .intOr
  | .intXor => naryExp exps .intXor
  | .intNot => unaryExp exps .intNot
  | .intLShift => binaryExp exps .intLShift
  | .intRShift => binaryExp exps .intRShift
  | .intARShift => binaryExp exps .intARShift
  | .intCount => unaryExp exps .intCount
  | .intLScan => binaryExp exps .intLScan
  | .intRScan => binaryExp exps .intRScan
  | .min => naryExp exps .min
  | .max => naryExp exps .max
  | .digestModulo => do return .digestModulo (← valI val)
  | .deviceSize => .ok (.record .deviceSize)
  | .lastUpdate => .ok (.record .lastUpdate)
  | .sinceUpdate => .ok (.record .sinceUpdate)
  | .voidTime => .ok (.record .voidTime)
  | .ttl => .ok (.record .ttl)
  | .setName => .ok (.record .setName)
  | .keyExists => .ok (.record .keyExists)
  | .isTombstone => .ok (.record .isTombstone)
  | .memorySize => .ok (.record .memorySize)
  | .recordSize => .ok (.record .recordSize)
  | .key => do return .key (← valI val)
  | .bin => do typedBin val (← deref module)
  | .binType => do return .binType (S.toString (← toValue val))
  | .cond => naryExp exps .cond
  | .var => do return .var (S.toString (← toValue val))
  | .let => naryExp exps .let
  | .quoted => do return .listVal [← toValue val]
  | .call => .error .unreachable

end Command

/-! ## `toExpression` -/

section ToExpression

variable (S : Aero.ValueString)

mutual

/-- `toExpression` on a message that is not nil. -/
def toExpression : Proto.Expression → Except Panic Aero.Expression
  | .mk none val _ _ _ _ => toLiteral val
  | .mk (some cmd) val bin flags module exps =>
    toCommand (toEach exps) S cmd val (toExpression? bin) flags module

/-- `toExpression`: the expression of a nil message is nil. -/
def toExpression? : Option Proto.Expression → Except Panic (Option Aero.Expression)
  | none => .ok none
  | some exp => do return some (← toExpression exp)

/-- The operands of a message, each with its translation; a case of the switch
    asks for some or for all of them. -/
def toEach : List Proto.Expression → List (Except Panic Aero.Expression)
  | [] => []
  | exp :: exps => toExpression exp :: toEach exps

end

end ToExpression

end AerospikePhp
