import AerospikePhp.Key.Received
import AerospikePhp.Lib.Run
import AerospikePhp.Record

/-!
# Partition filters and recordsets

A scan or a query is answered by a stream of messages. The extension holds its
end of the stream in a `Recordset` (`src/lib.rs` lines 4102–4183) and reads one
message in every call of `next`. Next to it lives the `PartitionFilter` (lines
4007–4080) of the request: one status entry for each partition, in which `next`
notes the digest and the `bval` of the last record of the partition. The filter
is shared (an `Arc<Mutex<_>>`) by the PHP object and all recordsets started with
it.
-/

namespace AerospikePhp

/-! ## Messages -/

/-- The `AerospikeStreamResponse` message. -/
structure Proto.StreamResponse where
  record : Option Proto.Record
  error : Option Proto.Error
  bval : Option Int64

/-- The `PartitionStatus` message. -/
structure Proto.PartitionStatus where
  bval : Option Int64
  id : ℕ
  retry : Bool
  digest : List UInt8
deriving DecidableEq

/-- The `PartitionFilter` message. -/
structure Proto.PartitionFilter where
  begin : ℕ
  count : ℕ
  digest : List UInt8
  partitions : List Proto.PartitionStatus
  done : Bool
  retry : Bool

/-- What a client reads from a stream: a message, or the text of the status that
    ends the stream. -/
abbrev StreamItem := Except String Proto.StreamResponse

/-! ## Partition filters -/

/-- `PartitionStatus::__construct` (`src/lib.rs` lines 3943–3952). -/
def Proto.PartitionStatus.construct (id : ℕ) : Proto.PartitionStatus where
  bval := none
  id := id
  retry := false
  digest := []

/-- The status entry after a record with this digest and `bval`. -/
def Proto.PartitionStatus.put (ps : Proto.PartitionStatus) (cursor : List UInt8 × Option Int64) :
    Proto.PartitionStatus :=
  { ps with digest := cursor.1, bval := cursor.2 }

theorem Proto.PartitionStatus.put_put (ps : Proto.PartitionStatus)
    (c c' : List UInt8 × Option Int64) : (ps.put c).put c' = ps.put c' := rfl

@[simp] theorem Proto.PartitionStatus.put_id (ps : Proto.PartitionStatus)
    (c : List UInt8 × Option Int64) : (ps.put c).id = ps.id := rfl

namespace PartitionFilter

/-- The filter over `count` partitions from `begin`, without status entries. -/
def fresh (begin count : ℕ) : Proto.PartitionFilter where
  begin := begin
  count := count
  digest := []
  partitions := []
  done := false
  retry := false

/-- `PartitionFilter::all` (lines 4026–4037). -/
def all : Proto.PartitionFilter := fresh 0 partitions

/-- `PartitionFilter::partition` (lines 4041–4052). -/
def partition (id : ℕ) : Proto.PartitionFilter := fresh id 1

/-- `PartitionFilter::range` (lines 4057–4068). -/
def range (begin count : ℕ) : Proto.PartitionFilter := fresh begin count

/-- `init_partition_status` (lines 4070–4079). -/
def initPartitionStatus (p : Proto.PartitionFilter) : Proto.PartitionFilter :=
  if p.partitions.length > 0 then p
  else { p with partitions := (List.range partitions).map Proto.PartitionStatus.construct }

/-- The update in `next` (lines 4171–4177): `pid - begin` panics when it is
    negative, and so does an index past the end. A digest that is absent leaves
    the old one. -/
def update (p : Proto.PartitionFilter) (pid : ℕ) (bval : Option Int64)
    (digest : Option (List UInt8)) : Except Panic Proto.PartitionFilter :=
  if p.begin ≤ pid ∧ pid - p.begin < p.partitions.length then
    .ok { p with
      partitions := p.partitions.modify (pid - p.begin) fun ps =>
        ps.put (digest.getD ps.digest, bval) }
  else .error .indexOutOfRange

end PartitionFilter

/-! ## Recordsets -/

/-- `Recordset` (lines 4102–4107): the rest of the stream unless it is closed,
    and the filter. -/
structure Recordset where
  stream : Option (List StreamItem)
  partitionFilter : Proto.PartitionFilter

/-- What a call of `next` does for the PHP program: an exception that it throws,
    and the record that it returns. -/
structure Outcome where
  thrown : Option AerospikeException
  value : Option Proto.Record

namespace Outcome

/-- Neither a record nor an exception: the answer at the end of a stream. -/
def nothing : Outcome := ⟨none, none⟩

def returns (rec : Proto.Record) : Outcome := ⟨none, some rec⟩

def throws (e : AerospikeException) : Outcome := ⟨some e, none⟩

end Outcome

namespace Recordset

/-- `Recordset::close` (lines 4113–4115). -/
def close (rs : Recordset) : Recordset := { rs with stream := none }

/-- `Recordset::get_active` (lines 4119–4121). -/
def getActive (rs : Recordset) : Bool := rs.stream.isSome

/-- The variables that the closure of `next` sets, and what it returns. -/
structure Answer where
  pid : Option ℕ
  digest : Option (List UInt8)
  bval : Option Int64
  close : Bool
  outcome : Outcome

section Next

variable (ripemd160 : List UInt8 → Digest)

/-- An answer that sets no variable. -/
def Answer.ofOutcome (outcome : Outcome) : Answer := ⟨none, none, none, false, outcome⟩

/-- The closure of `next` (lines 4130–4168), on what was read from the stream. A
    record without a key makes the first `?` return from the closure. -/
def answer : Option StreamItem → Except Panic Answer
  | none => .ok ⟨none, none, none, true, .nothing⟩
  | some (.error pe) => .ok (.ofOutcome (.throws (.new pe)))
  | some (.ok { record := some rec, error := _, bval := bv }) =>
    match rec.key with
    | none => .ok (.ofOutcome .nothing)
    | some key => do
      let pid ← Key.partitionId ripemd160 key
      return ⟨some pid, key.digest, bv, false, .returns rec⟩
  | some (.ok { record := none, error := some pe, bval := _ }) =>
    .ok (.ofOutcome (.throws (.ofError pe)))
  | some (.ok { record := none, error := none, bval := _ }) => .ok (.ofOutcome .nothing)

/-- `Recordset::next` (lines 4124–4182). -/
def next (rs : Recordset) : Except Panic (Outcome × Recordset) :=
  match rs.stream with
  | none => .ok (.nothing, rs)
  | some stream => do
    let a ← answer ripemd160 stream.head?
    let p ← match a.pid with
      | some pid => PartitionFilter.update rs.partitionFilter pid a.bval a.digest
      | none => .ok rs.partitionFilter
    let rs : Recordset := { stream := some stream.tail, partitionFilter := p }
    return (a.outcome, if a.close then rs.close else rs)

end Next

end Recordset

/-! ## Starting a stream -/

/-- `Client::scan` (lines 10124–10153): the request carries a copy of the filter;
    `server` answers it with a stream, or with a status before the stream starts. -/
def scan (p : Proto.PartitionFilter)
    (server : Proto.PartitionFilter → Except String (List StreamItem)) :
    Except String Recordset := do
  let stream ← server p
  return { stream := some stream, partitionFilter := PartitionFilter.initPartitionStatus p }

/-- `Client::query` (lines 10161–10189): the same steps on another request. -/
def query (p : Proto.PartitionFilter)
    (server : Proto.PartitionFilter → Except String (List StreamItem)) : Except String Recordset :=
  scan p server

end AerospikePhp
