import AerospikePhp.Cdt.Basic

/-!
# Bitwise operations

The constructors of `BitwiseOp` (`src/lib.rs` lines 9048–9670) and the daemon's
`toCdtBitwiseOp` (`kvs.go` lines 1344–1439), which turns their messages into
operations of the Go client.
-/

namespace AerospikePhp

/-! ## Messages -/

/-- `CdtBitwiseResizeFlags`. -/
inductive BitResizeFlags where
  | default
  | fromFront
  | growOnly
  | shrinkOnly
deriving DecidableEq

/-- The number of a resize flag in its enumeration. -/
def BitResizeFlags.number : BitResizeFlags → Int64
  | default => 0
  | fromFront => 1
  | growOnly => 2
  | shrinkOnly => 4

/-- `CdtBitwiseOverflowAction`. -/
inductive BitOverflowAction where
  | fail
  | saturate
  | wrap
deriving DecidableEq

/-- The number of an overflow action in its enumeration. -/
def BitOverflowAction.number : BitOverflowAction → Int64
  | fail => 0
  | saturate => 2
  | wrap => 4

/-- The `CdtBitwisePolicy` message. -/
structure Proto.CdtBitwisePolicy where
  flags : Int32

/-- `CdtBitwiseCommandOp`. -/
inductive CdtBitwiseCommandOp where
  | resize
  | insert
  | remove
  | set
  | or
  | xor
  | and
  | not
  | lShift
  | rShift
  | add
  | subtract
  | setInt
  | get
  | count
  | lScan
  | rScan
  | getInt
deriving DecidableEq

/-- The `CdtBitwiseOperation` message. -/
structure Proto.CdtBitwiseOperation where
  op : CdtBitwiseCommandOp
  policy : Option Proto.CdtBitwisePolicy
  binName : String
  args : List Proto.Value
  ctx : List Proto.CDTContext

/-! ## The constructors of `BitwiseOp` -/

namespace BitwiseOp

section Constructors

variable (policy : Proto.CdtBitwisePolicy) (binName : String) (ctx : Option (List CDTContext))

/-- The message of an operation that modifies the bin. -/
def modify (op : CdtBitwiseCommandOp) (args : List Proto.Value) :
    Proto.CdtBitwiseOperation where
  op := op
  policy := some policy
  binName := binName
  args := args
  ctx := CDTContext.pathToProto ctx

/-- The message of an operation that reads the bin; it has no policy. -/
def read (op : CdtBitwiseCommandOp) (args : List Proto.Value) : Proto.CdtBitwiseOperation where
  op := op
  policy := none
  binName := binName
  args := args
  ctx := CDTContext.pathToProto ctx

/-- `resize` (lines 9058–9080). -/
def resize (byteSize : Int64) (resizeFlags : Option BitResizeFlags) : Proto.CdtBitwiseOperation :=
  modify policy binName ctx .resize
    [(Arg.int byteSize).toProto,
      (Arg.int ((resizeFlags.map BitResizeFlags.number).getD 0)).toProto]

/-- `insert` (lines 9091–9112). -/
def insert (byteOffset : Int64) (value : List UInt8) : Proto.CdtBitwiseOperation :=
  modify policy binName ctx .insert [(Arg.int byteOffset).toProto, (Arg.blob value).toProto]

/-- `remove` (lines 9123–9144). -/
def remove (byteOffset byteSize : Int64) : Proto.CdtBitwiseOperation :=
  modify policy binName ctx .remove [(Arg.int byteOffset).toProto, (Arg.int byteSize).toProto]

/-- The arguments of an operation on the bits in a range, and a byte string. -/
def bytesArgs (bitOffset bitSize : Int64) (value : List UInt8) : List Proto.Value :=
  [(Arg.int bitOffset).toProto, (Arg.int bitSize).toProto, (Arg.blob value).toProto]

/-- The arguments of an operation on the bits in a range. -/
def rangeArgs (bitOffset bitSize : Int64) : List Proto.Value :=
  [(Arg.int bitOffset).toProto, (Arg.int bitSize).toProto]

/-- The arguments of an operation on the bits in a range, and an integer. -/
def intArgs (bitOffset bitSize value : Int64) : List Proto.Value :=
  [(Arg.int bitOffset).toProto, (Arg.int bitSize).toProto, (Arg.int value).toProto]

/-- The arguments of an operation on the bits in a range, and a flag. -/
def boolArgs (bitOffset bitSize : Int64) (value : Bool) : List Proto.Value :=
  [(Arg.int bitOffset).toProto, (Arg.int bitSize).toProto, (Arg.bool value).toProto]

/-- The arguments of `add` and `subtract`. -/
def addArgs (bitOffset bitSize value : Int64) (signed : Bool) (action : BitOverflowAction) :
    List Proto.Value :=
  [(Arg.int bitOffset).toProto, (Arg.int bitSize).toProto, (Arg.int value).toProto,
    (Arg.bool signed).toProto, (Arg.int action.number).toProto]

/-- `set` (lines 9156–9179). -/
def set (bitOffset bitSize : Int64) (value : List UInt8) : Proto.CdtBitwiseOperation :=
  modify policy binName ctx .set (bytesArgs bitOffset bitSize value)

/-- `or` (lines 9191–9214). -/
def or (bitOffset bitSize : Int64) (value : List UInt8) : Proto.CdtBitwiseOperation :=
  modify policy binName ctx .or (bytesArgs bitOffset bitSize value)

/-- `xor` (lines 9226–9249). -/
def xor (bitOffset bitSize : Int64) (value : List UInt8) : Proto.CdtBitwiseOperation :=
  modify policy binName ctx .xor (bytesArgs bitOffset bitSize value)

/-- `and` (lines 9261–9284). -/
def and (bitOffset bitSize : Int64) (value : List UInt8) : Proto.CdtBitwiseOperation :=
  modify policy binName ctx .and (bytesArgs bitOffset bitSize value)

/-- `not` (lines 9295–9316). -/
def not (bitOffset bitSize : Int64) : Proto.CdtBitwiseOperation :=
  modify policy binName ctx .not (rangeArgs bitOffset bitSize)

/-- `lshift` (lines 9328–9351). -/
def lshift (bitOffset bitSize shift : Int64) : Proto.CdtBitwiseOperation :=
  modify policy binName ctx .lShift (intArgs bitOffset bitSize shift)

/-- `rshift` (lines 9363–9386). -/
def rshift (bitOffset bitSize shift : Int64) : Proto.CdtBitwiseOperation :=
  modify policy binName ctx .rShift (intArgs bitOffset bitSize shift)

/-- `add` (lines 9401–9429). -/
def add (bitOffset bitSize value : Int64) (signed : Bool) (action : BitOverflowAction) :
    Proto.CdtBitwiseOperation :=
  modify policy binName ctx .add (addArgs bitOffset bitSize value signed action)

/-- `subtract` (lines 9444–9472). -/
def subtract (bitOffset bitSize value : Int64) (signed : Bool) (action : BitOverflowAction) :
    Proto.CdtBitwiseOperation :=
  modify policy binName ctx .subtract (addArgs bitOffset bitSize value signed action)

/-- `set_int` (lines 9484–9507). -/
def setInt (bitOffset bitSize value : Int64) : Proto.CdtBitwiseOperation :=
  modify policy binName ctx .setInt (intArgs bitOffset bitSize value)

/-- `get` (lines 9517–9537). -/
def get (bitOffset bitSize : Int64) : Proto.CdtBitwiseOperation :=
  read binName ctx .get (rangeArgs bitOffset bitSize)

/-- `count` (lines 9547–9567). -/
def count (bitOffset bitSize : Int64) : Proto.CdtBitwiseOperation :=
  read binName ctx .count (rangeArgs bitOffset bitSize)

/-- `lscan` (lines 9579–9601). -/
def lscan (bitOffset bitSize : Int64) (value : Bool) : Proto.CdtBitwiseOperation :=
  read binName ctx .lScan (boolArgs bitOffset bitSize value)

/-- `rscan` (lines 9613–9635). -/
def rscan (bitOffset bitSize : Int64) (value : Bool) : Proto.CdtBitwiseOperation :=
  read binName ctx .rScan (boolArgs bitOffset bitSize value)

/-- `get_int` (lines 9647–9669). -/
def getInt (bitOffset bitSize : Int64) (signed : Bool) : Proto.CdtBitwiseOperation :=
  read binName ctx .getInt (boolArgs bitOffset bitSize signed)

end Constructors

end BitwiseOp

/-- A call of a constructor of `BitwiseOp`, without the bin name and the context path. -/
inductive BitwiseCall where
  | resize (policy : Proto.CdtBitwisePolicy) (byteSize : Int64)
      (resizeFlags : Option BitResizeFlags)
  | insert (policy : Proto.CdtBitwisePolicy) (byteOffset : Int64) (value : List UInt8)
  | remove (policy : Proto.CdtBitwisePolicy) (byteOffset byteSize : Int64)
  | set (policy : Proto.CdtBitwisePolicy) (bitOffset bitSize : Int64) (value : List UInt8)
  | or (policy : Proto.CdtBitwisePolicy) (bitOffset bitSize : Int64) (value : List UInt8)
  | xor (policy : Proto.CdtBitwisePolicy) (bitOffset bitSize : Int64) (value : List UInt8)
  | and (policy : Proto.CdtBitwisePolicy) (bitOffset bitSize : Int64) (value : List UInt8)
  | not (policy : Proto.CdtBitwisePolicy) (bitOffset bitSize : Int64)
  | lshift (policy : Proto.CdtBitwisePolicy) (bitOffset bitSize shift : Int64)
  | rshift (policy : Proto.CdtBitwisePolicy) (bitOffset bitSize shift : Int64)
  | add (policy : Proto.CdtBitwisePolicy) (bitOffset bitSize value : Int64) (signed : Bool)
      (action : BitOverflowAction)
  | subtract (policy : Proto.CdtBitwisePolicy) (bitOffset bitSize value : Int64) (signed : Bool)
      (action : BitOverflowAction)
  | setInt (policy : Proto.CdtBitwisePolicy) (bitOffset bitSize value : Int64)
  | get (bitOffset bitSize : Int64)
  | count (bitOffset bitSize : Int64)
  | lscan (bitOffset bitSize : Int64) (value : Bool)
  | rscan (bitOffset bitSize : Int64) (value : Bool)
  | getInt (bitOffset bitSize : Int64) (signed : Bool)

/-- The message that a constructor builds. -/
def BitwiseCall.build (binName : String) (ctx : Option (List CDTContext)) :
    BitwiseCall → Proto.CdtBitwiseOperation
  | .resize policy byteSize flags => BitwiseOp.resize policy binName ctx byteSize flags
  | .insert policy byteOffset value => BitwiseOp.insert policy binName ctx byteOffset value
  | .remove policy byteOffset byteSize => BitwiseOp.remove policy binName ctx byteOffset byteSize
  | .set policy offset size value => BitwiseOp.set policy binName ctx offset size value
  | .or policy offset size value => BitwiseOp.or policy binName ctx offset size value
  | .xor policy offset size value => BitwiseOp.xor policy binName ctx offset size value
  | .and policy offset size value => BitwiseOp.and policy binName ctx offset size value
  | .not policy offset size => BitwiseOp.not policy binName ctx offset size
  | .lshift policy offset size shift => BitwiseOp.lshift policy binName ctx offset size shift
  | .rshift policy offset size shift => BitwiseOp.rshift policy binName ctx offset size shift
  | .add policy offset size value signed action =>
    BitwiseOp.add policy binName ctx offset size value signed action
  | .subtract policy offset size value signed action =>
    BitwiseOp.subtract policy binName ctx offset size value signed action
  | .setInt policy offset size value => BitwiseOp.setInt policy binName ctx offset size value
  | .get offset size => BitwiseOp.get binName ctx offset size
  | .count offset size => BitwiseOp.count binName ctx offset size
  | .lscan offset size value => BitwiseOp.lscan binName ctx offset size value
  | .rscan offset size value => BitwiseOp.rscan binName ctx offset size value
  | .getInt offset size signed => BitwiseOp.getInt binName ctx offset size signed

/-! ## The daemon -/

/-- A bit policy of the Go client, by the function that makes it. -/
inductive Aero.BitPolicy where
  | default
  | new (flags : Int64)
deriving DecidableEq

/-- A bit operation of the Go client, by the function `Bit…Op` that makes it; the
    flags of `resize` and the actions of `add` and `subtract` are numbers there. -/
inductive Aero.BitCommand where
  | resize (policy : Aero.BitPolicy) (byteSize resizeFlags : Int64)
  | insert (policy : Aero.BitPolicy) (byteOffset : Int64) (value : List UInt8)
  | remove (policy : Aero.BitPolicy) (byteOffset byteSize : Int64)
  | set (policy : Aero.BitPolicy) (bitOffset bitSize : Int64) (value : List UInt8)
  | or (policy : Aero.BitPolicy) (bitOffset bitSize : Int64) (value : List UInt8)
  | xor (policy : Aero.BitPolicy) (bitOffset bitSize : Int64) (value : List UInt8)
  | and (policy : Aero.BitPolicy) (bitOffset bitSize : Int64) (value : List UInt8)
  | not (policy : Aero.BitPolicy) (bitOffset bitSize : Int64)
  | lShift (policy : Aero.BitPolicy) (bitOffset bitSize shift : Int64)
  | rShift (policy : Aero.BitPolicy) (bitOffset bitSize shift : Int64)
  | add (policy : Aero.BitPolicy) (bitOffset bitSize value : Int64) (signed : Bool)
      (action : Int64)
  | subtract (policy : Aero.BitPolicy) (bitOffset bitSize value : Int64) (signed : Bool)
      (action : Int64)
  | setInt (policy : Aero.BitPolicy) (bitOffset bitSize value : Int64)
  | get (bitOffset bitSize : Int64)
  | count (bitOffset bitSize : Int64)
  | lScan (bitOffset bitSize : Int64) (value : Bool)
  | rScan (bitOffset bitSize : Int64) (value : Bool)
  | getInt (bitOffset bitSize : Int64) (signed : Bool)
deriving DecidableEq

structure Aero.BitOp where
  binName : String
  command : Aero.BitCommand
  ctx : List Aero.CDTContext

/-- `toBitwisePolicy` (`kvs.go` lines 1336–1342). -/
def toBitwisePolicy : Option Proto.CdtBitwisePolicy → Aero.BitPolicy
  | some policy => .new policy.flags.toInt64
  | none => .default

/-- `f(in.Args[0], in.Args[1])`, both integers. -/
def bitRange (args : List Proto.Value) (f : Int64 → Int64 → Aero.BitCommand) :
    Except Panic Aero.BitCommand := do
  return f (← intAt args 0) (← intAt args 1)

/-- `f(in.Args[0], in.Args[1], in.Args[2])`, two integers and a byte string. -/
def bitBytes (args : List Proto.Value) (f : Int64 → Int64 → List UInt8 → Aero.BitCommand) :
    Except Panic Aero.BitCommand := do
  return f (← intAt args 0) (← intAt args 1) (← blobAt args 2)

/-- `f(in.Args[0], in.Args[1], in.Args[2])`, three integers. -/
def bitInt (args : List Proto.Value) (f : Int64 → Int64 → Int64 → Aero.BitCommand) :
    Except Panic Aero.BitCommand := do
  return f (← intAt args 0) (← intAt args 1) (← intAt args 2)

/-- `f(in.Args[0], in.Args[1], in.Args[2])`, two integers and a boolean. -/
def bitBool (args : List Proto.Value) (f : Int64 → Int64 → Bool → Aero.BitCommand) :
    Except Panic Aero.BitCommand := do
  return f (← intAt args 0) (← intAt args 1) (← boolAt args 2)

/-- The arguments of `add` and `subtract`: the flag and the action are both taken
    from `in.Args[3]`. -/
def bitAdd (args : List Proto.Value)
    (f : Int64 → Int64 → Int64 → Bool → Int64 → Aero.BitCommand) :
    Except Panic Aero.BitCommand := do
  return f (← intAt args 0) (← intAt args 1) (← intAt args 2) (← boolAt args 3) (← intAt args 3)

/-- The switch of `toCdtBitwiseOp`: the function that is called, and its arguments
    but for the bin name and the contexts. -/
def bitCommand (op : Proto.CdtBitwiseOperation) : Except Panic Aero.BitCommand :=
  let policy := toBitwisePolicy op.policy
  match op.op with
  | .resize => bitRange op.args (.resize policy)
  | .insert => do return .insert policy (← intAt op.args 0) (← blobAt op.args 1)
  | .remove => bitRange op.args (.remove policy)
  | .set => bitBytes op.args (.set policy)
  | .or => bitBytes op.args (.or policy)
  | .xor => bitBytes op.args (.xor policy)
  | .and => bitBytes op.args (.and policy)
  | .not => bitRange op.args (.not policy)
  | .lShift => bitInt op.args (.lShift policy)
  | .rShift => bitInt op.args (.rShift policy)
  | .add => bitAdd op.args (.add policy)
  | .subtract => bitAdd op.args (.subtract policy)
  | .setInt => bitInt op.args (.setInt policy)
  | .get => bitRange op.args .get
  | .count => bitRange op.args .count
  | .lScan => bitBool op.args .lScan
  | .rScan => bitBool op.args .rScan
  | .getInt => bitBool op.args .getInt

/-- `toCdtBitwiseOp` (lines 1344–1439): every command has a case. -/
def toCdtBitwiseOp : Option Proto.CdtBitwiseOperation → Except Panic (Option Aero.BitOp)
  | some op => do
    let command ← bitCommand op
    return some ⟨op.binName, command, ← toCDTContexts op.ctx⟩
  | none => .ok none

end AerospikePhp
