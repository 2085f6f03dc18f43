import AerospikePhp.Cdt.BitOp
import AerospikePhp.Cdt.HllOp
import AerospikePhp.Cdt.ListOp
import AerospikePhp.Cdt.MapOp

/-!
# Operations

The constructors of `Operation` (`src/lib.rs` lines 5099–5190), the objects that
all operation classes build, and the daemon's `toOps` (`kvs.go` lines 870–904 and
1441–1455), which translates a list of them.
-/

namespace AerospikePhp

/-! ## Messages -/

/-- `OperationType`. -/
inductive OperationType where
  | get
  | getHeader
  | put
  | add
  | append
  | prepend
  | touch
  | delete
deriving DecidableEq

/-- The `StdOperation` message, but for the two fields that no constructor sets. -/
structure Proto.StdOperation where
  opType : OperationType
  binName : Option String
  binValue : Option Proto.Value

/-- The `Operation` message, by the field that is set. -/
inductive Proto.Operation where
  | std (op : Proto.StdOperation)
  | map (op : Proto.CdtMapOperation)
  | list (op : Proto.CdtListOperation)
  | hll (op : Proto.CdtHllOperation)
  | bitwise (op : Proto.CdtBitwiseOperation)
  | unset

/-! ## The constructors of `Operation` -/

/-- `Bin` (`src/lib.rs` lines 4195–4215). -/
structure Bin where
  name : String
  value : Arg

namespace Operation

/-- The message of an operation on a bin. -/
def ofBin (opType : OperationType) (bin : Bin) : Proto.StdOperation where
  opType := opType
  binName := some bin.name
  binValue := some bin.value.toProto

/-- The message of an operation on the record. -/
def ofRecord (opType : OperationType) : Proto.StdOperation where
  opType := opType
  binName := none
  binValue := none

/-- `get` (lines 5103–5111). -/
def get (binName : Option String) : Proto.StdOperation := { ofRecord .get with binName }

/-- `get_header` (lines 5114–5121). -/
def getHeader : Proto.StdOperation := ofRecord .getHeader

/-- `put` (lines 5124–5133). -/
def put (bin : Bin) : Proto.StdOperation := ofBin .put bin

/-- `append` (lines 5136–5145). -/
def append (bin : Bin) : Proto.StdOperation := ofBin .append bin

/-- `prepend` (lines 5148–5157). -/
def prepend (bin : Bin) : Proto.StdOperation := ofBin .prepend bin

/-- `add` (lines 5160–5169). -/
def add (bin : Bin) : Proto.StdOperation := ofBin .add bin

/-- `touch` (lines 5172–5179). -/
def touch : Proto.StdOperation := ofRecord .touch

/-- `delete` (lines 5182–5189). -/
def delete : Proto.StdOperation := ofRecord .delete

end Operation

/-- A call of a constructor of `Operation`. -/
inductive StdCall where
  | get (binName : Option String)
  | getHeader
  | put (bin : Bin)
  | append (bin : Bin)
  | prepend (bin : Bin)
  | add (bin : Bin)
  | touch
  | delete

/-- The message that a constructor builds. -/
def StdCall.build : StdCall → Proto.StdOperation
  | .get binName => Operation.get binName
  | .getHeader => Operation.getHeader
  | .put bin => Operation.put bin
  | .append bin => Operation.append bin
  | .prepend bin => Operation.prepend bin
  | .add bin => Operation.add bin
  | .touch => Operation.touch
  | .delete => Operation.delete

/-- A call of a constructor of `Operation`, `MapOp`, `ListOp`, `BitwiseOp` or `HllOp`. -/
inductive OperationCall where
  | std (call : StdCall)
  | map (binName : String) (ctx : Option (List CDTContext)) (call : MapCall)
  | list (binName : String) (ctx : Option (List CDTContext)) (call : ListCall)
  | bitwise (binName : String) (ctx : Option (List CDTContext)) (call : BitwiseCall)
  | hll (binName : String) (call : HllCall)

/-- The message in the object that a constructor returns; `none` if it refuses its
    argument. -/
def OperationCall.build : OperationCall → Option Proto.Operation
  | .std call => some (.std call.build)
  | .map binName ctx call => (call.build binName ctx).map .map
  | .list binName ctx call => some (.list (call.build binName ctx))
  | .bitwise binName ctx call => some (.bitwise (call.build binName ctx))
  | .hll binName call => (call.build binName).operation.map .hll

/-- An operation of a PHP program: the message in it, and the call that built it. -/
structure BuiltOperation where
  call : OperationCall
  msg : Proto.Operation
  built : call.build = some msg

/-! ## The daemon -/

/-- An operation of the Go client on a record or a bin, by the function that makes it. -/
inductive Aero.StdOp where
  | get
  | getBin (binName : String)
  | getHeader
  | put (binName : String) (value : Aero.Value)
  | add (binName : String) (value : Aero.Value)
  | append (binName : String) (value : Aero.Value)
  | prepend (binName : String) (value : Aero.Value)
  | touch
  | delete

/-- An operation of the Go client. -/
inductive Aero.Operation where
  | std (op : Aero.StdOp)
  | map (op : Aero.MapOp)
  | list (op : Aero.ListOp)
  | hll (op : Aero.HllOp)
  | bit (op : Aero.BitOp)

/-- `f(aero.NewBin(*in.BinName, toValue(in.BinValue)))`. -/
def binOp (op : Proto.StdOperation) (f : String → Aero.Value → Aero.StdOp) :
    Except Panic Aero.StdOp :=
  match op.binName with
  | some binName => do return f binName (← toValue op.binValue)
  | none => .error .nilDeref

/-- `toStdOp` (`kvs.go` lines 878–904). -/
def toStdOp : Option Proto.StdOperation → Except Panic Aero.StdOp
  | some op =>
    match op.opType with
    | .get =>
      match op.binName with
      | some binName => .ok (.getBin binName)
      | none => .ok .get
    | .getHeader => .ok .getHeader
    | .put => binOp op .put
    | .add => binOp op .add
    | .append => binOp op .append
    | .prepend => binOp op .prepend
    | .touch => .ok .touch
    | .delete => .ok .delete
  | none => .error .unreachable

/-- `toOp` (lines 1441–1455); `none` is a nil operation. -/
def toOp : Proto.Operation → Except Panic (Option Aero.Operation)
  | .std op => do return some (.std (← toStdOp (some op)))
  | .map op => do return (← toCdtMapOp (some op)).map .map
  | .list op => do return (← toCdtListOp (some op)).map .list
  | .hll op => do return (← toCdtHLLOp (some op)).map .hll
  | .bitwise op => do return (← toCdtBitwiseOp (some op)).map .bit
  | .unset => .error .unreachable

/-- `toOps` (lines 870–876). -/
def toOps : List Proto.Operation → Except Panic (List (Option Aero.Operation))
  | [] => .ok []
  | op :: ops => do
    let res ← toOp op
    return res :: (← toOps ops)

end AerospikePhp
