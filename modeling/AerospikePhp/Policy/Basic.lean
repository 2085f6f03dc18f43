import AerospikePhp.Exp.ToExpression

/-!
# Policies

The policy of a request is sent as a message, and the daemon makes of it the policy of
the Go client (`kvs.go` lines 688–840). A policy of a write or of a batch holds that of
a read, and a policy of a query or of a scan holds one that holds that of a read; this
one and the policies of batch commands hold the filter.

Durations are sent as a number of milliseconds; those of the Go client are 64-bit
numbers of nanoseconds. An enumeration is its number.
-/

namespace AerospikePhp

/-! ## Messages -/

/-- The `ReadPolicy` message. -/
structure Proto.ReadPolicy where
  filterExpression : Option Proto.Expression
  readModeAP : Int32
  readModeSC : Int32
  totalTimeout : UInt64
  socketTimeout : UInt64
  maxRetries : UInt32
  sleepBetweenRetries : Int64
  sleepMultiplier : F64
  exitFastOnExhaustedConnectionPool : Bool
  sendKey : Bool
  useCompression : Bool
  replicaPolicy : Int32
  readTouchTTLPercent : Int32

/-- The `WritePolicy` message. -/
structure Proto.WritePolicy where
  policy : Option Proto.ReadPolicy
  recordExistsAction : Int32
  generationPolicy : Int32
  commitLevel : Int32
  generation : UInt32
  expiration : UInt32
  respondPerEachOp : Bool
  durableDelete : Bool

/-- The `BatchPolicy` message. -/
structure Proto.BatchPolicy where
  policy : Option Proto.ReadPolicy
  concurrentNodes : Option Int32
  allowInline : Bool
  allowInlineSSD : Bool
  respondAllKeys : Bool
  allowPartialResults : Bool

/-- The `BatchReadPolicy` message. -/
structure Proto.BatchReadPolicy where
  filterExpression : Option Proto.Expression
  readModeAP : Int32
  readModeSC : Int32
  readTouchTTLPercent : Int32

/-- The `BatchWritePolicy` message. -/
structure Proto.BatchWritePolicy where
  filterExpression : Option Proto.Expression
  recordExistsAction : Int32
  commitLevel : Int32
  generationPolicy : Int32
  generation : UInt32
  expiration : UInt32
  durableDelete : Bool
  sendKey : Bool

/-- The `BatchDeletePolicy` message. -/
structure Proto.BatchDeletePolicy where
  filterExpression : Option Proto.Expression
  commitLevel : Int32
  generationPolicy : Int32
  generation : UInt32
  durableDelete : Bool
  sendKey : Bool

/-- The `BatchUDFPolicy` message. -/
structure Proto.BatchUdfPolicy where
  filterExpression : Option Proto.Expression
  commitLevel : Int32
  expiration : UInt32
  durableDelete : Bool
  sendKey : Bool

/-- The `MultiPolicy` message. -/
structure Proto.MultiPolicy where
  readPolicy : Option Proto.ReadPolicy
  maxConcurrentNodes : UInt32
  maxRecords : UInt64
  recordsPerSecond : UInt64
  recordQueueSize : UInt32
  includeBinData : Bool

/-- The `QueryPolicy` message. -/
structure Proto.QueryPolicy where
  multiPolicy : Option Proto.MultiPolicy
  expectedDuration : Int32

/-- The `ScanPolicy` message. -/
structure Proto.ScanPolicy where
  multiPolicy : Option Proto.MultiPolicy

/-- The `AdminPolicy` message. -/
structure Proto.AdminPolicy where
  timeout : UInt32

/-- The `InfoPolicy` message. -/
structure Proto.InfoPolicy where
  timeout : UInt32

/-! ## The policies of a program -/

/-- `ReadPolicy::default` (`src/lib.rs` lines 2305–2325). -/
def ReadPolicy.default : Proto.ReadPolicy where
  filterExpression := none
  readModeAP := 0
  readModeSC := 0
  totalTimeout := 1000
  socketTimeout := 500
  maxRetries := 3
  sleepBetweenRetries := 1
  sleepMultiplier := ⟨0x3ff0000000000000⟩
  exitFastOnExhaustedConnectionPool := false
  sendKey := false
  useCompression := false
  replicaPolicy := 1
  readTouchTTLPercent := 0

/-- `proto::ReadPolicy::default()`: every field is zero or absent. -/
def Proto.ReadPolicy.default : Proto.ReadPolicy where
  filterExpression := none
  readModeAP := 0
  readModeSC := 0
  totalTimeout := 0
  socketTimeout := 0
  maxRetries := 0
  sleepBetweenRetries := 0
  sleepMultiplier := ⟨0⟩
  exitFastOnExhaustedConnectionPool := false
  sendKey := false
  useCompression := false
  replicaPolicy := 0
  readTouchTTLPercent := 0

/-- `WritePolicy::default` (lines 2709–2724). -/
def WritePolicy.default : Proto.WritePolicy where
  policy := some .default
  recordExistsAction := 0
  generationPolicy := 0
  commitLevel := 0
  generation := 0
  expiration := 0
  respondPerEachOp := false
  durableDelete := false

/-- `AdminPolicy::default` (lines 2359–2365). -/
def AdminPolicy.default : Proto.AdminPolicy where
  timeout := 3000

/-- `InfoPolicy::default` (lines 2387–2393). -/
def InfoPolicy.default : Proto.InfoPolicy where
  timeout := 3000

/-- `MultiPolicy::default` (lines 2738–2753): that of a read without a total timeout. -/
def MultiPolicy.default : Proto.MultiPolicy where
  readPolicy := some { ReadPolicy.default with totalTimeout := 0 }
  maxConcurrentNodes := 0
  maxRecords := 0
  recordsPerSecond := 0
  recordQueueSize := 50
  includeBinData := true

/-- `QueryPolicy::default` (lines 3093–3102). -/
def QueryPolicy.default : Proto.QueryPolicy where
  multiPolicy := some MultiPolicy.default
  expectedDuration := 0

/-- `ScanPolicy::default` (lines 3428–3436). -/
def ScanPolicy.default : Proto.ScanPolicy where
  multiPolicy := some MultiPolicy.default

/-- `BatchPolicy::default` (lines 4533–4546). -/
def BatchPolicy.default : Proto.BatchPolicy where
  policy := some ReadPolicy.default
  concurrentNodes := some 1
  allowInline := true
  allowInlineSSD := false
  respondAllKeys := true
  allowPartialResults := false

/-- `BatchReadPolicy::default` (lines 4649–4660). -/
def BatchReadPolicy.default : Proto.BatchReadPolicy where
  filterExpression := none
  readModeAP := 0
  readModeSC := 0
  readTouchTTLPercent := 0

/-- `BatchWritePolicy::default` (lines 4832–4847). -/
def BatchWritePolicy.default : Proto.BatchWritePolicy where
  filterExpression := none
  recordExistsAction := 0
  commitLevel := 0
  generationPolicy := 0
  generation := 0
  expiration := 0
  durableDelete := false
  sendKey := false

/-- `BatchDeletePolicy::default` (lines 4949–4962). -/
def BatchDeletePolicy.default : Proto.BatchDeletePolicy where
  filterExpression := none
  commitLevel := 0
  generationPolicy := 0
  generation := 0
  durableDelete := false
  sendKey := false

/-- `BatchUdfPolicy::default` (lines 5073–5085). -/
def BatchUdfPolicy.default : Proto.BatchUdfPolicy where
  filterExpression := none
  commitLevel := 0
  expiration := 0
  durableDelete := false
  sendKey := false

/-! ## Policies of the Go client -/

namespace Aero

structure BasePolicy where
  filterExpression : Option Aero.Expression
  readModeAP : Int64
  readModeSC : Int64
  totalTimeout : Int64
  socketTimeout : Int64
  maxRetries : Int64
  sleepBetweenRetries : Int64
  sleepMultiplier : F64
  exitFastOnExhaustedConnectionPool : Bool
  sendKey : Bool
  useCompression : Bool
  replicaPolicy : Int64
  readTouchTTLPercent : Int32

structure WritePolicy where
  basePolicy : BasePolicy
  recordExistsAction : Int64
  generationPolicy : Int64
  commitLevel : Int64
  generation : UInt32
  expiration : UInt32
  respondPerEachOp : Bool
  durableDelete : Bool

structure MultiPolicy where
  basePolicy : BasePolicy
  maxConcurrentNodes : Int64
  maxRecords : Int64
  recordsPerSecond : Int64
  recordQueueSize : Int64
  includeBinData : Bool

structure QueryPolicy where
  multiPolicy : MultiPolicy
  expectedDuration : Int64

structure ScanPolicy where
  multiPolicy : MultiPolicy

structure AdminPolicy where
  timeout : Int64

structure InfoPolicy where
  timeout : Int64

structure BatchPolicy where
  basePolicy : BasePolicy
  concurrentNodes : Int64
  allowInline : Bool
  allowInlineSSD : Bool
  respondAllKeys : Bool
  allowPartialResults : Bool

structure BatchReadPolicy where
  filterExpression : Option Aero.Expression
  readModeAP : Int64
  readModeSC : Int64
  readTouchTTLPercent : Int32

structure BatchWritePolicy where
  filterExpression : Option Aero.Expression
  recordExistsAction : Int64
  commitLevel : Int64
  generationPolicy : Int64
  generation : UInt32
  expiration : UInt32
  durableDelete : Bool
  sendKey : Bool

structure BatchDeletePolicy where
  filterExpression : Option Aero.Expression
  commitLevel : Int64
  generationPolicy : Int64
  generation : UInt32
  durableDelete : Bool
  sendKey : Bool

structure BatchUdfPolicy where
  filterExpression : Option Aero.Expression
  commitLevel : Int64
  expiration : UInt32
  durableDelete : Bool
  sendKey : Bool

end Aero

/-! ## The daemon -/

/-- `time.Millisecond`. -/
def millisecond : ℕ := 1000000

section ToPolicy

variable (S : Aero.ValueString)

/-- `toReadPolicy` (`kvs.go` lines 688–707). -/
def toReadPolicy : Option Proto.ReadPolicy → Except Panic (Option Aero.BasePolicy)
  | some p => do
    let filterExpression ← toExpression? S p.filterExpression
    return some
      { filterExpression := filterExpression
        readModeAP := p.readModeAP.toInt64
        readModeSC := p.readModeSC.toInt64
        totalTimeout := (p.totalTimeout * UInt64.ofNat millisecond).toInt64
        socketTimeout := (p.socketTimeout * UInt64.ofNat millisecond).toInt64
        maxRetries := p.maxRetries.toUInt64.toInt64
        sleepBetweenRetries := p.sleepBetweenRetries * Int64.ofNat millisecond
        sleepMultiplier := p.sleepMultiplier
        exitFastOnExhaustedConnectionPool := p.exitFastOnExhaustedConnectionPool
        sendKey := p.sendKey
        useCompression := p.useCompression
        replicaPolicy := p.replicaPolicy.toInt64
        readTouchTTLPercent := p.readTouchTTLPercent }
  | none => .ok none

/-- `toWritePolicy` (lines 709–723): `*toReadPolicy(in.Policy)`. -/
def toWritePolicy : Option Proto.WritePolicy → Except Panic (Option Aero.WritePolicy)
  | some p => do
    let basePolicy ← deref (← toReadPolicy S p.policy)
    return some
      { basePolicy := basePolicy
        recordExistsAction := p.recordExistsAction.toInt64
        generationPolicy := p.generationPolicy.toInt64
        commitLevel := p.commitLevel.toInt64
        generation := p.generation
        expiration := p.expiration
        respondPerEachOp := p.respondPerEachOp
        durableDelete := p.durableDelete }
  | none => .ok none

/-- `toMultiPolicy` (lines 725–738): `*toReadPolicy(in.ReadPolicy)`. -/
def toMultiPolicy : Option Proto.MultiPolicy → Except Panic (Option Aero.MultiPolicy)
  | some p => do
    let basePolicy ← deref (← toReadPolicy S p.readPolicy)
    return some
      { basePolicy := basePolicy
        maxConcurrentNodes := p.maxConcurrentNodes.toUInt64.toInt64
        maxRecords := p.maxRecords.toInt64
        recordsPerSecond := p.recordsPerSecond.toInt64
        recordQueueSize := p.recordQueueSize.toUInt64.toInt64
        includeBinData := p.includeBinData }
  | none => .ok none

/-- `toScanPolicy` (lines 740–747). -/
def toScanPolicy : Option Proto.ScanPolicy → Except Panic (Option Aero.ScanPolicy)
  | some { multiPolicy := some mp } => do
    let multiPolicy ← deref (← toMultiPolicy S (some mp))
    return some { multiPolicy := multiPolicy }
  | some { multiPolicy := none } => .ok none
  | none => .ok none

/-- `toQueryPolicy` (lines 749–757). -/
def toQueryPolicy : Option Proto.QueryPolicy → Except Panic (Option Aero.QueryPolicy)
  | some { multiPolicy := some mp, expectedDuration := expectedDuration } => do
    let multiPolicy ← deref (← toMultiPolicy S (some mp))
    return some
      { multiPolicy := multiPolicy
        expectedDuration := expectedDuration.toInt64 }
  | some { multiPolicy := none, .. } => .ok none
  | none => .ok none

/-- `toBatchPolicy` (lines 773–785): `*toReadPolicy(in.Policy)` and
    `*in.ConcurrentNodes`. -/
def toBatchPolicy : Option Proto.BatchPolicy → Except Panic (Option Aero.BatchPolicy)
  | some p => do
    let basePolicy ← deref (← toReadPolicy S p.policy)
    let concurrentNodes ← deref p.concurrentNodes
    return some
      { basePolicy := basePolicy
        concurrentNodes := concurrentNodes.toInt64
        allowInline := p.allowInline
        allowInlineSSD := p.allowInlineSSD
        respondAllKeys := p.respondAllKeys
        allowPartialResults := p.allowPartialResults }
  | none => .ok none

/-- `toBatchReadPolicy` (lines 787–797). -/
def toBatchReadPolicy : Option Proto.BatchReadPolicy → Except Panic (Option Aero.BatchReadPolicy)
  | some p => do
    let filterExpression ← toExpression? S p.filterExpression
    return some
      { filterExpression := filterExpression
        readModeAP := p.readModeAP.toInt64
        readModeSC := p.readModeSC.toInt64
        readTouchTTLPercent := p.readTouchTTLPercent }
  | none => .ok none

/-- `toBatchWritePolicy` (lines 799–813). -/
def toBatchWritePolicy :
    Option Proto.BatchWritePolicy → Except Panic (Option Aero.BatchWritePolicy)
  | some p => do
    let filterExpression ← toExpression? S p.filterExpression
    return some
      { filterExpression := filterExpression
        recordExistsAction := p.recordExistsAction.toInt64
        commitLevel := p.commitLevel.toInt64
        generationPolicy := p.generationPolicy.toInt64
        generation := p.generation
        expiration := p.expiration
        durableDelete := p.durableDelete
        sendKey := p.sendKey }
  | none => .ok none

/-- `toBatchDeletePolicy` (lines 815–827). -/
def toBatchDeletePolicy :
    Option Proto.BatchDeletePolicy → Except Panic (Option Aero.BatchDeletePolicy)
  | some p => do
    let filterExpression ← toExpression? S p.filterExpression
    return some
      { filterExpression := filterExpression
        commitLevel := p.commitLevel.toInt64
        generationPolicy := p.generationPolicy.toInt64
        generation := p.generation
        durableDelete := p.durableDelete
        sendKey := p.sendKey }
  | none => .ok none

/-- `toBatchUDFPolicy` (lines 829–840). -/
def toBatchUdfPolicy : Option Proto.BatchUdfPolicy → Except Panic (Option Aero.BatchUdfPolicy)
  | some p => do
    let filterExpression ← toExpression? S p.filterExpression
    return some
      { filterExpression := filterExpression
        commitLevel := p.commitLevel.toInt64
        expiration := p.expiration
        durableDelete := p.durableDelete
        sendKey := p.sendKey }
  | none => .ok none

end ToPolicy

/-- `time.Duration(timeout * uint32(time.Millisecond))`. -/
def toDuration32 (timeout : UInt32) : Int64 :=
  (timeout * UInt32.ofNat millisecond).toUInt64.toInt64

/-- `toAdminPolicy` (lines 759–764). -/
def toAdminPolicy : Option Proto.AdminPolicy → Option Aero.AdminPolicy
  | some p => some { timeout := toDuration32 p.timeout }
  | none => none

/-- `toInfoPolicy` (lines 766–771). -/
def toInfoPolicy : Option Proto.InfoPolicy → Option Aero.InfoPolicy
  | some p => some { timeout := toDuration32 p.timeout }
  | none => none

end AerospikePhp
