import AerospikePhp.Command.Basic
import AerospikePhp.Key.Basic

/-!
# Single-record commands in the daemon

Each handler (`kvs.go` lines 29–156 and 240–249) converts the policy, the key and the
bins of the request, calls the Go client, and sends what it returns: a value, or an
error with its result code and its in-doubt flag.
-/

namespace AerospikePhp

/-! ## The Go client -/

namespace Aero

/-- An error that a call of the Go client returns. -/
structure CallError extends Error where
  nonzero : resultCode ≠ 0

/-- A bin of the Go client. -/
structure Bin where
  name : String
  value : Value

end Aero

/-- What a single-record command answers with: a record, a truth value, or nothing. -/
inductive SingleKind where
  | record
  | flag
  | done

/-- The value that the Go client returns without an error. -/
def SingleKind.Go : SingleKind → Type
  | record => Aero.Record
  | flag => Bool
  | done => Unit

/-- A call of the Go client. -/
inductive Aero.SingleCall : SingleKind → Type where
  | get (policy : Option BasePolicy) (key : Option Key) (binNames : List String) :
      SingleCall .record
  | getHeader (policy : Option BasePolicy) (key : Option Key) : SingleCall .record
  | existsKey (policy : Option BasePolicy) (key : Option Key) : SingleCall .flag
  | putBins (policy : Option WritePolicy) (key : Option Key) (bins : List Bin) : SingleCall .done
  | addBins (policy : Option WritePolicy) (key : Option Key) (bins : List Bin) : SingleCall .done
  | appendBins (policy : Option WritePolicy) (key : Option Key) (bins : List Bin) :
      SingleCall .done
  | prependBins (policy : Option WritePolicy) (key : Option Key) (bins : List Bin) :
      SingleCall .done
  | delete (policy : Option WritePolicy) (key : Option Key) : SingleCall .flag
  | touch (policy : Option WritePolicy) (key : Option Key) : SingleCall .done

/-- The Go client: how each call ends. With an error the value is its zero value. -/
structure Aero.SingleClient where
  run : {k : SingleKind} → SingleCall k → Except CallError k.Go
  execute : Option WritePolicy → Option Key → String → String → List Value →
    Except CallError GoValue

/-! ## Requests -/

/-- `toBins` (`kvs.go` lines 1457–1467). -/
def toBins (bins : List Proto.Bin) : Except Panic (List Aero.Bin) :=
  bins.mapM fun bin => do return { name := bin.name, value := ← toValue bin.value }

/-- `toValues` (lines 1492–1498). -/
def toValues (vs : List Proto.Value) : Except Panic (List Aero.Value) := vs.mapM toValueV

theorem toValues_toProto (args : List Arg) :
    toValues (args.map Arg.toProto) = .ok (args.map Arg.toAero) := by
  rw [toValues, List.mapM_map]
  exact Fallible.mapM_ok _ _ args fun a _ => a.toValueV_toProto

theorem toBins_toProto (bins : List Bin) :
    toBins (bins.map Bin.toProto) =
      .ok (bins.map fun bin => ⟨bin.name, bin.value.toAero⟩) := by
  rw [toBins, List.mapM_map]
  refine Fallible.mapM_ok _ _ bins fun bin _ => ?_
  simp [Bin.toProto]

/-! ## Handlers -/

namespace Server

/-- The response of `Get` and `GetHeader`. -/
def singleResponse : Except Aero.CallError Aero.Record → Except Panic Proto.SingleResponse
  | .error e => do
    return { error := fromError (some e.toError), record := ← fromRecord none }
  | .ok rec => do
    return { error := none, record := ← fromRecord (some rec) }

/-- The response of `Put`, `Add`, `Append`, `Prepend` and `Touch`: `fromError(err)`, or
    the result code 0. -/
def errorResponse : Except Aero.CallError Unit → Proto.Error
  | .error e => { resultCode := e.resultCode, inDoubt := e.inDoubt }
  | .ok () => { resultCode := 0, inDoubt := false }

/-- The response of `Exists`. -/
def existsResponse : Except Aero.CallError Bool → Proto.ExistsResponse
  | .error e => { error := fromError (some e.toError), exists? := some false }
  | .ok b => { error := none, exists? := some b }

/-- The response of `Delete`. -/
def deleteResponse : Except Aero.CallError Bool → Proto.DeleteResponse
  | .error e => { error := fromError (some e.toError), existed := some false }
  | .ok b => { error := none, existed := some b }

section Handlers

variable (newKey : String → String → Aero.Value → Option Aero.Key) (S : Aero.ValueString)
  (client : Aero.SingleClient)

/-- `Get` (`kvs.go` lines 29–43). -/
def get (req : Proto.GetRequest) : Except Panic Proto.SingleResponse := do
  let policy ← toReadPolicy S req.policy
  let key ← toKey newKey req.key
  singleResponse (client.run (.get policy key req.binNames))

/-- `GetHeader` (lines 45–59). -/
def getHeader (req : Proto.GetHeaderRequest) : Except Panic Proto.SingleResponse := do
  let policy ← toReadPolicy S req.policy
  let key ← toKey newKey req.key
  singleResponse (client.run (.getHeader policy key))

/-- `Exists` (lines 61–75). -/
def existsKey (req : Proto.ExistsRequest) : Except Panic Proto.ExistsResponse := do
  let policy ← toReadPolicy S req.policy
  let key ← toKey newKey req.key
  return existsResponse (client.run (.existsKey policy key))

/-- `Put` (lines 77–88). -/
def put (req : Proto.PutRequest) : Except Panic Proto.Error := do
  let policy ← toWritePolicy S req.policy
  let key ← toKey newKey req.key
  let bins ← toBins req.bins
  return errorResponse (client.run (.putBins policy key bins))

/-- `Add` (lines 90–101). -/
def add (req : Proto.PutRequest) : Except Panic Proto.Error := do
  let policy ← toWritePolicy S req.policy
  let key ← toKey newKey req.key
  let bins ← toBins req.bins
  return errorResponse (client.run (.addBins policy key bins))

/-- `Append` (lines 103–114). -/
def append (req : Proto.PutRequest) : Except Panic Proto.Error := do
  let policy ← toWritePolicy S req.policy
  let key ← toKey newKey req.key
  let bins ← toBins req.bins
  return errorResponse (client.run (.appendBins policy key bins))

/-- `Prepend` (lines 116–127). -/
def prepend (req : Proto.PutRequest) : Except Panic Proto.Error := do
  let policy ← toWritePolicy S req.policy
  let key ← toKey newKey req.key
  let bins ← toBins req.bins
  return errorResponse (client.run (.prependBins policy key bins))

/-- `Delete` (lines 129–143). -/
def delete (req : Proto.DeleteRequest) : Except Panic Proto.DeleteResponse := do
  let policy ← toWritePolicy S req.policy
  let key ← toKey newKey req.key
  return deleteResponse (client.run (.delete policy key))

/-- `Touch` (lines 145–156). -/
def touch (req : Proto.TouchRequest) : Except Panic Proto.Error := do
  let policy ← toWritePolicy S req.policy
  let key ← toKey newKey req.key
  return errorResponse (client.run (.touch policy key))

/-- `UDFExecute` (lines 240–249). -/
def udfExecute (req : Proto.UdfExecuteRequest) : Except Panic Proto.UdfExecuteResponse := do
  let policy ← toWritePolicy S req.policy
  let key ← toKey newKey req.key
  let args ← toValues req.args
  match client.execute policy key req.packageName req.functionName args with
  | .error e => return { error := fromError (some e.toError), result := none }
  | .ok res => return { error := none, result := some (← fromValue res) }

/-- The service, as the extension sees it. -/
def kvs (statusText : Panic → String) : KVS where
  get req := recovered statusText (get newKey S client req)
  getHeader req := recovered statusText (getHeader newKey S client req)
  existsKey req := recovered statusText (existsKey newKey S client req)
  put req := recovered statusText (put newKey S client req)
  add req := recovered statusText (add newKey S client req)
  append req := recovered statusText (append newKey S client req)
  prepend req := recovered statusText (prepend newKey S client req)
  delete req := recovered statusText (delete newKey S client req)
  touch req := recovered statusText (touch newKey S client req)
  udfExecute req := recovered statusText (udfExecute newKey S client req)

end Handlers

end Server

end AerospikePhp
