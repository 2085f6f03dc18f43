import AerospikePhp.Cdt.Basic
import AerospikePhp.Errors

/-!
# HyperLogLog operations

The constructors of `HllOp` (`src/lib.rs` lines 8549–8781), which check that a list
of sketches holds nothing else, and the daemon's `toCdtHLLOp` (`kvs.go` lines
1294–1334), which turns their messages into operations of the Go client. There is
no context path.
-/

namespace AerospikePhp

/-- The `CdtHLLPolicy` message. -/
structure Proto.CdtHllPolicy where
  flags : Int32

/-- `CdtHLLCommandOp`. -/
inductive CdtHllCommandOp where
  | init
  | add
  | setUnion
  | refreshCount
  | fold
  | getCount
  | getUnion
  | getUnionCount
  | getIntersectCount
  | getSimilarity
  | describe
deriving DecidableEq

/-- The `CdtHLLOperation` message. -/
structure Proto.CdtHllOperation where
  op : CdtHllCommandOp
  policy : Option Proto.CdtHllPolicy
  binName : String
  args : List Proto.Value

/-! ## The constructors of `HllOp` -/

/-- `assert_hll_list` (`src/lib.rs` lines 12127–12139): the exception that is thrown,
    and the result. The search stops at the first value that is not an HLL. -/
def assertHllList : List PHPValue → Option AerospikeException × Bool
  | [] => (none, true)
  | .hll _ :: vs => assertHllList vs
  | _ :: _ => (some (.new "Invalid type"), false)

/-- How a call of a constructor ends: the exception that it threw, and the message of
    the operation that it returned. -/
structure HllOp.Built where
  thrown : Option AerospikeException
  operation : Option Proto.CdtHllOperation

namespace HllOp

section Constructors

variable (policy : Proto.CdtHllPolicy) (binName : String)

/-- The message of an operation that modifies the bin. -/
def modify (op : CdtHllCommandOp) (args : List Proto.Value) : Proto.CdtHllOperation where
  op := op
  policy := some policy
  binName := binName
  args := args

/-- The message of an operation without a policy. -/
def read (op : CdtHllCommandOp) (args : List Proto.Value) : Proto.CdtHllOperation where
  op := op
  policy := none
  binName := binName
  args := args

/-- An operation that is returned without a check. -/
def unchecked (op : Proto.CdtHllOperation) : Built := ⟨none, some op⟩

/-- An operation on a list of HLL objects: `None` when the check fails. -/
def checked (list : List Arg) (op : Proto.CdtHllOperation) : Built :=
  match assertHllList (list.map Arg.val) with
  | (thrown, true) => ⟨thrown, some op⟩
  | (thrown, false) => ⟨thrown, none⟩

/-- `init` (lines 8559–8576). -/
def init (indexBitCount minHashBitCount : Int64) : Built :=
  unchecked <| modify policy binName .init
    [(Arg.int indexBitCount).toProto, (Arg.int minHashBitCount).toProto]

/-- `add` (lines 8588–8607). -/
def add (list : List Arg) (indexBitCount minHashBitCount : Int64) : Built :=
  unchecked <| modify policy binName .add
    [(Arg.list list).toProto, (Arg.int indexBitCount).toProto,
      (Arg.int minHashBitCount).toProto]

/-- `set_union` (lines 8616–8633). -/
def setUnion (list : List Arg) : Built :=
  checked list <| modify policy binName .setUnion [(Arg.list list).toProto]

/-- `refresh_count` (lines 8639–8648). -/
def refreshCount : Built := unchecked <| read binName .refreshCount []

/-- `fold` (lines 8657–8666). -/
def fold (indexBitCount : Int64) : Built :=
  unchecked <| read binName .fold [(Arg.int indexBitCount).toProto]

/-- `get_count` (lines 8672–8681). -/
def getCount : Built := unchecked <| read binName .getCount []

/-- `get_union` (lines 8689–8702). -/
def getUnion (list : List Arg) : Built :=
  checked list <| read binName .getUnion [(Arg.list list).toProto]

/-- `get_union_count` (lines 8710–8723). -/
def getUnionCount (list : List Arg) : Built :=
  checked list <| read binName .getUnionCount [(Arg.list list).toProto]

/-- `get_intersect_count` (lines 8731–8744). -/
def getIntersectCount (list : List Arg) : Built :=
  checked list <| read binName .getIntersectCount [(Arg.list list).toProto]

/-- `get_similarity` (lines 8751–8764). -/
def getSimilarity (list : List Arg) : Built :=
  checked list <| read binName .getSimilarity [(Arg.list list).toProto]

/-- `describe` (lines 8771–8780). -/
def describe : Built := unchecked <| read binName .describe []

end Constructors

end HllOp

/-- A call of a constructor of `HllOp`, without the bin name. -/
inductive HllCall where
  | init (policy : Proto.CdtHllPolicy) (indexBitCount minHashBitCount : Int64)
  | add (policy : Proto.CdtHllPolicy) (list : List Arg) (indexBitCount minHashBitCount : Int64)
  | setUnion (policy : Proto.CdtHllPolicy) (list : List Arg)
  | refreshCount
  | fold (indexBitCount : Int64)
  | getCount
  | getUnion (list : List Arg)
  | getUnionCount (list : List Arg)
  | getIntersectCount (list : List Arg)
  | getSimilarity (list : List Arg)
  | describe

/-- What a constructor does. -/
def HllCall.build (binName : String) : HllCall → HllOp.Built
  | .init policy indexBitCount minHashBitCount =>
    HllOp.init policy binName indexBitCount minHashBitCount
  | .add policy list indexBitCount minHashBitCount =>
    HllOp.add policy binName list indexBitCount minHashBitCount
  | .setUnion policy list => HllOp.setUnion policy binName list
  | .refreshCount => HllOp.refreshCount binName
  | .fold indexBitCount => HllOp.fold binName indexBitCount
  | .getCount => HllOp.getCount binName
  | .getUnion list => HllOp.getUnion binName list
  | .getUnionCount list => HllOp.getUnionCount binName list
  | .getIntersectCount list => HllOp.getIntersectCount binName list
  | .getSimilarity list => HllOp.getSimilarity binName list
  | .describe => HllOp.describe binName

/-! ## The daemon -/

/-- An HLL policy of the Go client, by the function that makes it. -/
inductive Aero.HllPolicy where
  | default
  | new (flags : Int64)
deriving DecidableEq

/-- An HLL operation of the Go client, by the function `HLL…Op` that makes it. -/
inductive Aero.HllCommand where
  | init (policy : Aero.HllPolicy) (indexBitCount minHashBitCount : Int64)
  | add (policy : Aero.HllPolicy) (list : List Aero.Value)
      (indexBitCount minHashBitCount : Int64)
  | setUnion (policy : Aero.HllPolicy) (list : List (List UInt8))
  | refreshCount
  | fold (indexBitCount : Int64)
  | getCount
  | getUnion (list : List (List UInt8))
  | getUnionCount (list : List (List UInt8))
  | getIntersectCount (list : List (List UInt8))
  | getSimilarity (list : List (List UInt8))
  | describe

structure Aero.HllOp where
  binName : String
  command : Aero.HllCommand

/-- `toHLLPolicy` (`kvs.go` lines 1259–1265). -/
def toHLLPolicy : Option Proto.CdtHllPolicy → Aero.HllPolicy
  | some policy => .new policy.flags.toInt64
  | none => .default

/-- `toValue(l[i]).(aero.HLLValue)`. -/
def toHLLValue (v : Proto.Value) : Except Panic (List UInt8) := do
  match ← toValueV v with
  | .hll b => return b
  | _ => .error .typeAssertion

/-- `toListOfHLLValues(in.Args[i])` (lines 1285–1292). -/
def hllValuesAt (args : List Proto.Value) (i : ℕ) : Except Panic (List (List UInt8)) := do
  let l ← Proto.Value.getL (some (← argAt args i))
  l.mapM toHLLValue

/-- The switch of `toCdtHLLOp`: the function that is called, and its arguments but
    for the bin name. -/
def hllCommand (op : Proto.CdtHllOperation) : Except Panic Aero.HllCommand :=
  match op.op with
  | .init => do
    return .init (toHLLPolicy op.policy) (← intAt op.args 0) (← intAt op.args 1)
  | .add => do
    let list ← valuesAt op.args 0
    return .add (toHLLPolicy op.policy) list (← intAt op.args 1) (← intAt op.args 2)
  | .setUnion => do return .setUnion (toHLLPolicy op.policy) (← hllValuesAt op.args 0)
  | .refreshCount => .ok .refreshCount
  | .fold => do return .fold (← intAt op.args 0)
  | .getCount => .ok .getCount
  | .getUnion => do return .getUnion (← hllValuesAt op.args 0)
  | .getUnionCount => do return .getUnionCount (← hllValuesAt op.args 0)
  | .getIntersectCount => do return .getIntersectCount (← hllValuesAt op.args 0)
  | .getSimilarity => do return .getSimilarity (← hllValuesAt op.args 0)
  | .describe => .ok .describe

/-- `toCdtHLLOp`: every command has a case. -/
def toCdtHLLOp : Option Proto.CdtHllOperation → Except Panic (Option Aero.HllOp)
  | some op => do return some ⟨op.binName, ← hllCommand op⟩
  | none => .ok none

end AerospikePhp
