import AerospikePhp.Cdt.Operation
import AerospikePhp.Client
import AerospikePhp.Policy.Basic
import AerospikePhp.Record

/-!
# Batches

A program builds batch commands with the constructors of `BatchRead`, `BatchWrite`,
`BatchDelete` and `BatchUdf` (`src/lib.rs` lines 5241–5409) and passes a list of them
to `Client::batch` (lines 10038–10090), which sends them in one request.

An element of the list that is no command throws an exception. The loop over the
list goes on after it, and the request is sent with the other commands.

Results:
* `Client.batch_sent`: the request holds the commands of the list, in order.
* `wholeOrNothing_iff`: a list is rejected or sent whole iff all its elements are
  commands.
-/

namespace AerospikePhp

/-! ## Messages -/

/-- The `BatchRecord` message. -/
structure Proto.BatchRecord where
  key : Option Proto.Key
  record : Option Proto.Record
  error : Option Proto.Error

/-- The `BatchRead` message. -/
structure Proto.BatchRead where
  batchRecord : Option Proto.BatchRecord
  policy : Option Proto.BatchReadPolicy
  binNames : List String
  readAllBins : Bool
  ops : List Proto.Operation

/-- The `BatchWrite` message. -/
structure Proto.BatchWrite where
  batchRecord : Option Proto.BatchRecord
  policy : Option Proto.BatchWritePolicy
  ops : List Proto.Operation

/-- The `BatchDelete` message. -/
structure Proto.BatchDelete where
  batchRecord : Option Proto.BatchRecord
  policy : Option Proto.BatchDeletePolicy

/-- The `BatchUDF` message. -/
structure Proto.BatchUdf where
  batchRecord : Option Proto.BatchRecord
  policy : Option Proto.BatchUdfPolicy
  packageName : String
  functionName : String
  functionArgs : List Proto.Value

/-- The `BatchOperate` message. -/
structure Proto.BatchOperate where
  br : Option Proto.BatchRead
  bw : Option Proto.BatchWrite
  bd : Option Proto.BatchDelete
  bu : Option Proto.BatchUdf

/-- `proto::BatchOperate::default()`. -/
def Proto.BatchOperate.default : Proto.BatchOperate where
  br := none
  bw := none
  bd := none
  bu := none

/-- The `AerospikeBatchOperateRequest` message. -/
structure Proto.BatchOperateRequest where
  policy : Option Proto.BatchPolicy
  records : List Proto.BatchOperate

/-- The `AerospikeBatchOperateResponse` message. -/
structure Proto.BatchOperateResponse where
  error : Option Proto.Error
  records : List Proto.BatchRecord

/-! ## The constructors of batch commands -/

/-- The `BatchRecord` of a command that is not executed yet. -/
def Proto.BatchRecord.ofKey (key : Proto.Key) : Proto.BatchRecord where
  key := some key
  record := none
  error := none

namespace BatchRead

/-- `BatchRead::__construct` (`src/lib.rs` lines 5242–5261). -/
def construct (policy : Proto.BatchReadPolicy) (key : Proto.Key) (bins : Option (List String)) :
    Proto.BatchRead where
  batchRecord := some (.ofKey key)
  policy := some policy
  binNames := bins.getD []
  readAllBins := match bins with
    | none => false
    | some l => l.length == 0
  ops := []

/-- `BatchRead::ops` (lines 5264–5283). -/
def ops (policy : Proto.BatchReadPolicy) (key : Proto.Key) (ops : List Proto.Operation) :
    Proto.BatchRead where
  batchRecord := some (.ofKey key)
  policy := some policy
  binNames := []
  readAllBins := false
  ops := ops

/-- `BatchRead::header` (lines 5289–5303). -/
def header (policy : Proto.BatchReadPolicy) (key : Proto.Key) : Proto.BatchRead where
  batchRecord := some (.ofKey key)
  policy := some policy
  binNames := []
  readAllBins := false
  ops := []

end BatchRead

/-- `BatchWrite::__construct` (lines 5322–5339). -/
def BatchWrite.construct (policy : Proto.BatchWritePolicy) (key : Proto.Key)
    (ops : List Proto.Operation) : Proto.BatchWrite where
  batchRecord := some (.ofKey key)
  policy := some policy
  ops := ops

/-- `BatchDelete::__construct` (lines 5358–5369). -/
def BatchDelete.construct (policy : Proto.BatchDeletePolicy) (key : Proto.Key) :
    Proto.BatchDelete where
  batchRecord := some (.ofKey key)
  policy := some policy

/-- `BatchUdf::__construct` (lines 5388–5408). -/
def BatchUdf.construct (policy : Proto.BatchUdfPolicy) (key : Proto.Key)
    (packageName functionName : String) (functionArgs : List Arg) : Proto.BatchUdf where
  batchRecord := some (.ofKey key)
  policy := some policy
  packageName := packageName
  functionName := functionName
  functionArgs := functionArgs.map Arg.toProto

/-! ## `Client::batch` -/

/-- A PHP value, as far as `batch` tells them apart: an object of one of the four
    command classes, or anything else. -/
inductive BatchElement where
  | read (cmd : Proto.BatchRead)
  | write (cmd : Proto.BatchWrite)
  | delete (cmd : Proto.BatchDelete)
  | udf (cmd : Proto.BatchUdf)
  | other (z : Zval)

namespace BatchElement

/-- The value is an object of a command class. -/
def isCommand : BatchElement → Bool
  | other _ => false
  | _ => true

/-- The entry of the request for a command; `none` for any other value. -/
def operate? : BatchElement → Option Proto.BatchOperate
  | read cmd => some { Proto.BatchOperate.default with br := some cmd }
  | write cmd => some { Proto.BatchOperate.default with bw := some cmd }
  | delete cmd => some { Proto.BatchOperate.default with bd := some cmd }
  | udf cmd => some { Proto.BatchOperate.default with bu := some cmd }
  | other _ => none

end BatchElement

/-- A constructor of a batch command, with its arguments but for the key. -/
inductive BatchKind where
  | read (policy : Proto.BatchReadPolicy) (bins : Option (List String))
  | readOps (policy : Proto.BatchReadPolicy) (ops : List BuiltOperation)
  | readHeader (policy : Proto.BatchReadPolicy)
  | write (policy : Proto.BatchWritePolicy) (ops : List BuiltOperation)
  | delete (policy : Proto.BatchDeletePolicy)
  | udf (policy : Proto.BatchUdfPolicy) (packageName functionName : String)
      (functionArgs : List Arg)

namespace BatchKind

/-- The object that the constructor returns. -/
def element (key : Proto.Key) : BatchKind → BatchElement
  | read policy bins => .read (BatchRead.construct policy key bins)
  | readOps policy ops => .read (BatchRead.ops policy key (ops.map BuiltOperation.msg))
  | readHeader policy => .read (BatchRead.header policy key)
  | write policy ops => .write (BatchWrite.construct policy key (ops.map BuiltOperation.msg))
  | delete policy => .delete (BatchDelete.construct policy key)
  | udf policy packageName functionName functionArgs =>
    .udf (BatchUdf.construct policy key packageName functionName functionArgs)

/-- The entry of the request for this object. -/
def entry (key : Proto.Key) : BatchKind → Proto.BatchOperate
  | read policy bins =>
    { Proto.BatchOperate.default with br := some (BatchRead.construct policy key bins) }
  | readOps policy ops =>
    { Proto.BatchOperate.default with
      br := some (BatchRead.ops policy key (ops.map BuiltOperation.msg)) }
  | readHeader policy =>
    { Proto.BatchOperate.default with br := some (BatchRead.header policy key) }
  | write policy ops =>
    { Proto.BatchOperate.default with
      bw := some (BatchWrite.construct policy key (ops.map BuiltOperation.msg)) }
  | delete policy =>
    { Proto.BatchOperate.default with bd := some (BatchDelete.construct policy key) }
  | udf policy packageName functionName functionArgs =>
    { Proto.BatchOperate.default with
      bu := some (BatchUdf.construct policy key packageName functionName functionArgs) }

theorem operate?_element (key : Proto.Key) (kind : BatchKind) :
    (kind.element key).operate? = some (kind.entry key) := by
  cases kind with
  | _ => rfl

end BatchKind

namespace Client

/-- The loop of `batch` (lines 10040–10065), on one value: what is pushed to the
    request so far, and the exceptions thrown so far. -/
def pushCommand (res : List Proto.BatchOperate × List AerospikeException) (v : BatchElement) :
    List Proto.BatchOperate × List AerospikeException :=
  match v with
  | .read cmd => (res.1 ++ [{ Proto.BatchOperate.default with br := some cmd }], res.2)
  | .write cmd => (res.1 ++ [{ Proto.BatchOperate.default with bw := some cmd }], res.2)
  | .delete cmd => (res.1 ++ [{ Proto.BatchOperate.default with bd := some cmd }], res.2)
  | .udf cmd => (res.1 ++ [{ Proto.BatchOperate.default with bu := some cmd }], res.2)
  | .other _ => (res.1, res.2 ++ [AerospikeException.new "Invalid Batch command"])

/-- `Client::batch` (lines 10038–10090). -/
def batch (server : Proto.BatchOperateRequest → Except String Proto.BatchOperateResponse)
    (policy : Proto.BatchPolicy) (cmds : List BatchElement) :
    Called Proto.BatchOperateRequest (List Proto.BatchRecord) :=
  let res := cmds.foldl pushCommand ([], [])
  let request : Proto.BatchOperateRequest := { policy := some policy, records := res.1 }
  match server request with
  | .error text => { sent := [request], thrown := res.2, result := .error text }
  | .ok { error := none, records := records } =>
    { sent := [request], thrown := res.2, result := .ok records }
  | .ok { error := some pe, records := _ } =>
    { sent := [request], thrown := res.2 ++ [.ofError pe], result := .ok [] }

/-! ## What is sent -/

/-- The exception for a value that is no command. -/
def exception? (v : BatchElement) : Option AerospikeException :=
  if v.isCommand then none else some (.new "Invalid Batch command")

theorem pushCommand_eq (res : List Proto.BatchOperate × List AerospikeException)
    (v : BatchElement) :
    pushCommand res v = (res.1 ++ v.operate?.toList, res.2 ++ (exception? v).toList) := by
  cases v with
  | other z => simp [pushCommand, BatchElement.operate?, exception?, BatchElement.isCommand]
  | _ => simp [pushCommand, BatchElement.operate?, exception?, BatchElement.isCommand]

/-- The loop over the whole list: its commands are pushed in order, and every other
    element throws. -/
theorem foldl_pushCommand (cmds : List BatchElement)
    (res : List Proto.BatchOperate × List AerospikeException) :
    cmds.foldl pushCommand res =
      (res.1 ++ cmds.filterMap BatchElement.operate?, res.2 ++ cmds.filterMap exception?) := by
  induction cmds generalizing res with
  | nil => simp
  | cons v cmds ih =>
    rw [List.foldl_cons, ih, pushCommand_eq, List.append_assoc, List.append_assoc]
    cases hv : v.operate? <;> cases he : exception? v <;> simp [hv, he]

section Batch

variable (server : Proto.BatchOperateRequest → Except String Proto.BatchOperateResponse)
  (policy : Proto.BatchPolicy) (cmds : List BatchElement)

/-- One request is sent, with the commands of the list in order. -/
theorem batch_sent :
    (batch server policy cmds).sent = [⟨some policy, cmds.filterMap BatchElement.operate?⟩] := by
  unfold batch
  rw [foldl_pushCommand]
  dsimp only
  split
  · simp
  · simp
  · simp

theorem batch_raises_of_error
    (h : ∃ text, server ⟨some policy, cmds.filterMap BatchElement.operate?⟩ = .error text) :
    (batch server policy cmds).Raises := by
  obtain ⟨text, htext⟩ := h
  unfold batch
  rw [foldl_pushCommand]
  dsimp only
  rw [List.nil_append, htext]
  exact .inr ⟨text, rfl⟩

end Batch

end Client

/-! ## All or nothing -/

section WholeOrNothing

variable (server : Proto.BatchOperateRequest → Except String Proto.BatchOperateResponse)
  (policy : Proto.BatchPolicy)

/-- A list with an element that is no command raises an exception and sends nothing;
    of a list of commands each is sent, in order and in the field of its class. -/
def WholeOrNothing (cmds : List BatchElement) : Prop :=
  ((∃ v ∈ cmds, v.isCommand = false) →
    (Client.batch server policy cmds).Raises ∧ (Client.batch server policy cmds).sent = []) ∧
  ((∀ v ∈ cmds, v.isCommand = true) →
    ∃ records, (Client.batch server policy cmds).sent = [⟨some policy, records⟩] ∧
      List.Forall₂ (fun v r => v.operate? = some r) cmds records)

theorem BatchElement.operate?_of_isCommand {v : BatchElement} (h : v.isCommand = true) :
    ∃ r, v.operate? = some r := by
  cases v with
  | other z => cases h
  | _ => exact ⟨_, rfl⟩

/-- The entries of a list of commands. -/
theorem forall₂_operate? {cmds : List BatchElement} (h : ∀ v ∈ cmds, v.isCommand = true) :
    List.Forall₂ (fun v r => v.operate? = some r) cmds
      (cmds.filterMap BatchElement.operate?) := by
  induction cmds with
  | nil => exact .nil
  | cons v cmds ih =>
    rw [List.forall_mem_cons] at h
    obtain ⟨r, hr⟩ := BatchElement.operate?_of_isCommand h.1
    rw [List.filterMap_cons_some hr]
    exact .cons hr (ih h.2)

/-- **Main theorem.** A list is rejected or sent whole iff all its elements are
    commands. -/
theorem wholeOrNothing_iff (cmds : List BatchElement) :
    WholeOrNothing server policy cmds ↔ ∀ v ∈ cmds, v.isCommand = true := by
  constructor
  · rintro ⟨hreject, -⟩ v hv
    by_contra hne
    have hinvalid : ∃ v ∈ cmds, v.isCommand = false := ⟨v, hv, Bool.eq_false_of_not_eq_true hne⟩
    have hsent := (hreject hinvalid).2
    rw [Client.batch_sent] at hsent
    cases hsent
  · intro h
    refine ⟨?_, fun _ => ⟨_, Client.batch_sent server policy cmds, forall₂_operate? h⟩⟩
    rintro ⟨v, hv, hinvalid⟩
    rw [h v hv] at hinvalid
    cases hinvalid

end WholeOrNothing

/-- A command that deletes the record with key 1. -/
def deleteOne : BatchElement :=
  (BatchKind.delete BatchDeletePolicy.default).element (Key.construct "test" "users" (.int 1))

/-- A null after a delete: the exception is thrown, and the delete is sent. -/
theorem delete_sent_with_invalid :
    (∃ r, deleteOne.operate? = some r ∧
      Client.batch (fun _ => .ok ⟨none, []⟩) BatchPolicy.default [deleteOne, .other .null] =
        { sent := [⟨some BatchPolicy.default, [r]⟩]
          thrown := [.new "Invalid Batch command"]
          result := .ok [] }) ∧
      ¬ WholeOrNothing (fun _ => .ok ⟨none, []⟩) BatchPolicy.default [deleteOne, .other .null] := by
  refine ⟨⟨_, rfl, rfl⟩, ?_⟩
  rintro ⟨hreject, -⟩
  have hsent := (hreject ⟨.other .null, by simp, rfl⟩).2
  cases hsent

end AerospikePhp
