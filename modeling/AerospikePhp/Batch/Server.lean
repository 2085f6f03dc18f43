import AerospikePhp.Batch.Basic
import AerospikePhp.Command.Server
import AerospikePhp.Key.Program

/-!
# Batches in the daemon

`BatchOperate` (`kvs.go` lines 158–171) makes a batch command of the Go client from
each entry of the request by a type switch (lines 842–868), lets the Go client execute
them, which fills each in place, and sends what they hold then (lines 1588–1605).

`BatchRead` has one message for four kinds of reads. The switch tells them apart by
which of its fields are empty.

Result:
* `Server.batchOperate_eq_ok`: what a handler that returns has executed and sends.
-/

namespace AerospikePhp

/-! ## The Go client -/

namespace Aero

/-- A batch command of the Go client, by the function that makes it. -/
inductive BatchCommand where
  | read (policy : Option BatchReadPolicy) (key : Option Key) (binNames : List String)
  | readOps (policy : Option BatchReadPolicy) (key : Option Key) (ops : List (Option Operation))
  | readHeader (policy : Option BatchReadPolicy) (key : Option Key)
  | write (policy : Option BatchWritePolicy) (key : Option Key) (ops : List (Option Operation))
  | delete (policy : Option BatchDeletePolicy) (key : Option Key)
  | udf (policy : Option BatchUdfPolicy) (key : Option Key) (packageName functionName : String)
      (functionArgs : List Value)

/-- The key of a command. -/
def BatchCommand.key : BatchCommand → Option Key
  | read _ key _ => key
  | readOps _ key _ => key
  | readHeader _ key => key
  | write _ key _ => key
  | delete _ key => key
  | udf _ key _ _ _ => key

/-- What a read asks for. -/
inductive ReadMode where
  | bins (binNames : List String)
  | allBins
  | header
  | ops (ops : List (Option Operation))

/-- What a command reads, if it is a read: `NewBatchRead` without bin names reads all
    bins. -/
def BatchCommand.readMode : BatchCommand → Option ReadMode
  | read _ _ [] => some .allBins
  | read _ _ (binName :: binNames) => some (.bins (binName :: binNames))
  | readOps _ _ ops => some (.ops ops)
  | readHeader _ _ => some .header
  | _ => none

/-- What the execution of a command leaves in it. -/
structure BatchFill where
  record : Option Record
  err : Option Error
  inDoubt : Bool

/-- The `BatchRec()` of an executed command. -/
structure BatchRecord extends BatchFill where
  key : Option Key

/-- `BatchOperate` of the Go client: what it leaves in the command at each position,
    and the error it returns. -/
structure BatchClient where
  fill : Option BatchPolicy → List BatchCommand → ℕ → BatchFill
  err : Option BatchPolicy → List BatchCommand → Option Error

/-- The commands after `BatchOperate`. -/
def BatchClient.filled (client : BatchClient) (policy : Option BatchPolicy)
    (brecs : List BatchCommand) : List BatchRecord :=
  brecs.mapIdx fun i brec => ⟨client.fill policy brecs i, brec.key⟩

theorem BatchClient.filled_length (client : BatchClient) (policy : Option BatchPolicy)
    (brecs : List BatchCommand) : (client.filled policy brecs).length = brecs.length := by
  rw [filled, List.length_mapIdx]

theorem BatchClient.getElem?_filled (client : BatchClient) (policy : Option BatchPolicy)
    {brecs : List BatchCommand} {i : ℕ} {brec : BatchCommand} (h : brecs[i]? = some brec) :
    (client.filled policy brecs)[i]? = some ⟨client.fill policy brecs i, brec.key⟩ := by
  rw [filled, List.getElem?_mapIdx, h, Option.map_some]

end Aero

/-! ## From the request to the commands -/

section ToCommand

variable (lib : KeyLibrary) (S : Aero.ValueString)

/-- `toKey(in.BatchRecord.Key)`. -/
def toBatchKey (batchRecord : Option Proto.BatchRecord) : Except Panic (Option Aero.Key) := do
  let batchRecord ← deref batchRecord
  toKey lib.newKey batchRecord.key

/-- The case of `toBatchRecordIfc` for a read (lines 850–858). -/
def toBatchRead (br : Proto.BatchRead) : Except Panic Aero.BatchCommand := do
  let policy ← toBatchReadPolicy S br.policy
  let key ← toBatchKey lib br.batchRecord
  if br.binNames.length > 0 then
    return .read policy key br.binNames
  else if br.ops.length > 0 then
    return .readOps policy key (← toOps br.ops)
  else if br.readAllBins then
    return .read policy key []
  else
    return .readHeader policy key

/-- `toBatchRecordIfc` (lines 849–868). -/
def toBatchRecordIfc (op : Proto.BatchOperate) : Except Panic Aero.BatchCommand :=
  match op with
  | { br := some br, .. } => toBatchRead lib S br
  | { br := none, bw := some bw, .. } => do
    let policy ← toBatchWritePolicy S bw.policy
    let key ← toBatchKey lib bw.batchRecord
    return .write policy key (← toOps bw.ops)
  | { br := none, bw := none, bd := some bd, .. } => do
    let policy ← toBatchDeletePolicy S bd.policy
    return .delete policy (← toBatchKey lib bd.batchRecord)
  | { br := none, bw := none, bd := none, bu := some bu } => do
    let policy ← toBatchUdfPolicy S bu.policy
    let key ← toBatchKey lib bu.batchRecord
    return .udf policy key bu.packageName bu.functionName (← toValues bu.functionArgs)
  | { br := none, bw := none, bd := none, bu := none } => .error .unreachable

/-- `toBatchRecords` (lines 842–847). -/
def toBatchRecords (ops : List Proto.BatchOperate) : Except Panic (List Aero.BatchCommand) :=
  ops.mapM (toBatchRecordIfc lib S)

end ToCommand

/-! ## From the commands to the response -/

/-- `fromError2` (lines 1618–1635). -/
def fromError2 (err : Option Aero.Error) (inDoubt : Bool) : Option Proto.Error :=
  match err with
  | some e => some ⟨e.resultCode, inDoubt⟩
  | none => if inDoubt then some ⟨0, inDoubt⟩ else none

/-- `fromBatchRecord` (lines 1595–1605), on a command, which is never nil. -/
def fromBatchRecord (br : Aero.BatchRecord) : Except Panic Proto.BatchRecord := do
  let key ← fromKey br.key
  let record ← fromRecord br.record
  return { key := key, record := record, error := fromError2 br.err br.inDoubt }

/-- `fromBatchRecords` (lines 1588–1593). -/
def fromBatchRecords (brecs : List Aero.BatchRecord) : Except Panic (List Proto.BatchRecord) :=
  brecs.mapM fromBatchRecord

namespace Server

variable (lib : KeyLibrary) (S : Aero.ValueString) (client : Aero.BatchClient)

/-- `BatchOperate` (lines 158–171). -/
def batchOperate (req : Proto.BatchOperateRequest) : Except Panic Proto.BatchOperateResponse := do
  let brecs ← toBatchRecords lib S req.records
  let policy ← toBatchPolicy S req.policy
  -- Both branches of the handler send the commands; `fromError(nil)` is nil.
  let records ← fromBatchRecords (client.filled policy brecs)
  return { error := fromError (client.err policy brecs), records := records }

variable {lib S client}

theorem fromBatchRecord_eq_ok {br : Aero.BatchRecord} {r : Proto.BatchRecord}
    (h : fromBatchRecord br = .ok r) :
    fromKey br.key = .ok r.key ∧ Option.Rel Aero.Record.SentAs br.record r.record := by
  obtain ⟨key, hkey, h⟩ := Fallible.bind_eq_ok.1 h
  obtain ⟨record, hrecord, h⟩ := Fallible.bind_eq_ok.1 h
  cases h
  exact ⟨hkey, fromRecord_ok.1 hrecord⟩

/-- A handler that returns: the Go client executed one command for each entry of the
    request, and the response holds one record for each, with its key and what the
    Go client left in it. -/
theorem batchOperate_eq_ok {req : Proto.BatchOperateRequest} {resp : Proto.BatchOperateResponse}
    (h : batchOperate lib S client req = .ok resp) :
    ∃ policy executed, toBatchPolicy S req.policy = .ok policy ∧
      toBatchRecords lib S req.records = .ok executed ∧
      resp.records.length = executed.length ∧
      ∀ i brec, executed[i]? = some brec → ∃ r, resp.records[i]? = some r ∧
        fromKey brec.key = .ok r.key ∧
        Option.Rel Aero.Record.SentAs (client.fill policy executed i).record r.record := by
  obtain ⟨executed, hexecuted, h⟩ := Fallible.bind_eq_ok.1 h
  obtain ⟨policy, hpolicy, h⟩ := Fallible.bind_eq_ok.1 h
  obtain ⟨records, hrecords, h⟩ := Fallible.bind_eq_ok.1 h
  cases h
  refine ⟨policy, executed, hpolicy, hexecuted, ?_, ?_⟩
  · rw [Fallible.mapM_length hrecords, client.filled_length]
  · intro i brec hbrec
    obtain ⟨r, hr, hsent⟩ := Fallible.mapM_getElem? hrecords (client.getElem?_filled policy hbrec)
    exact ⟨r, hr, fromBatchRecord_eq_ok hsent⟩

end Server

end AerospikePhp
