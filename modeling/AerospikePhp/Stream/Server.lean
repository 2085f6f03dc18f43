import AerospikePhp.Stream.Recordset

/-!
# The daemon's end of a stream

`Scan` and `Query` (`kvs.go` lines 368–428) start a scan or a query of the Go
client and send each of its results as one message. A panic in the handler is
recovered and ends the stream with a status (`main.go` lines 121–131).

`toPartitionFilter` (`kvs.go` lines 481–518) rebuilds the filter of the request
for the Go client.
-/

namespace AerospikePhp

/-! ## Partition filters -/

/-- A partition status of the Go client. -/
structure Aero.PartitionStatus where
  bval : Int64
  id : ℕ
  retry : Bool
  digest : List UInt8
deriving DecidableEq

/-- A partition filter of the Go client. -/
structure Aero.PartitionFilter where
  begin : ℕ
  count : ℕ
  digest : List UInt8
  partitions : List Aero.PartitionStatus
  done : Bool
  retry : Bool

/-- `toPartitionStatus` (`kvs.go` lines 503–518), on an entry of a list, which is
    never nil. -/
def toPartitionStatus (ps : Proto.PartitionStatus) : Aero.PartitionStatus where
  bval := ps.bval.getD 0
  id := ps.id
  retry := ps.retry
  digest := ps.digest

/-- `toPartitionStatuses` (lines 495–501). -/
def toPartitionStatuses (ps : List Proto.PartitionStatus) : List Aero.PartitionStatus :=
  ps.map toPartitionStatus

/-- `toPartitionFilter` (lines 481–493). -/
def toPartitionFilter : Option Proto.PartitionFilter → Option Aero.PartitionFilter
  | some p => some
    { begin := p.begin
      count := p.count
      digest := p.digest
      partitions := toPartitionStatuses p.partitions
      done := p.done
      retry := p.retry }
  | none => none

/-! ## Results -/

/-- A result of a recordset of the Go client. -/
structure Aero.Result where
  record : Option Aero.Record
  err : Option Aero.Error
  bval : Option Int64

namespace Server

/-- How a handler ends: it returns nil or an error, or it panics. -/
inductive StreamEnd where
  | ok
  | error (e : Aero.Error)
  | sendFailed
  | panicked (p : Panic)

/-- The message for a result (lines 377–391). -/
def response (res : Aero.Result) : Except Panic Proto.StreamResponse :=
  match res.err with
  | some e => .ok { record := none, error := fromError (some e), bval := none }
  | none => do
    let record ← fromRecord res.record
    return { record := record, error := none, bval := res.bval }

/-- The loop over the results (lines 377–396): the messages that are sent, and
    how the handler ends. `sendOk n` tells whether `Send` succeeds on message `n`. -/
def sendResults (sendOk : ℕ → Bool) :
    ℕ → List Aero.Result → List Proto.StreamResponse × StreamEnd
  | _, [] => ([], .ok)
  | n, res :: results =>
    match response res with
    | .error p => ([], .panicked p)
    | .ok resp =>
      if sendOk n then
        let r := sendResults sendOk (n + 1) results
        (resp :: r.1, r.2)
      else ([], .sendFailed)

/-- The body of `Scan` and of `Query`, on what the Go client answers: an error, or
    the results of its recordset. -/
def stream (sendOk : ℕ → Bool) (started : Except Aero.Error (List Aero.Result)) :
    List Proto.StreamResponse × StreamEnd :=
  match started with
  | .error e =>
    let resp : Proto.StreamResponse := { record := none, error := fromError (some e), bval := none }
    (if sendOk 0 then [resp] else [], .error e)
  | .ok results => sendResults sendOk 0 results

/-- `Scan` (lines 368–397). -/
def scan (sendOk : ℕ → Bool) (started : Except Aero.Error (List Aero.Result)) :
    List Proto.StreamResponse × StreamEnd :=
  stream sendOk started

/-- `Query` (lines 399–428). -/
def query (sendOk : ℕ → Bool) (started : Except Aero.Error (List Aero.Result)) :
    List Proto.StreamResponse × StreamEnd :=
  stream sendOk started

/-- What a client reads from the stream: the messages in order, and the status if
    the handler did not return nil. -/
def items (statusText : StreamEnd → String) (sent : List Proto.StreamResponse × StreamEnd) :
    List StreamItem :=
  sent.1.map .ok ++ match sent.2 with
    | .ok => []
    | e => [.error (statusText e)]

end Server

end AerospikePhp
