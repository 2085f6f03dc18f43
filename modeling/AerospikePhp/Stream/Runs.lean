import AerospikePhp.Lib.Registers
import AerospikePhp.Stream.Recordset

/-!
# Runs of scans and queries over one filter

A PHP program builds a `PartitionFilter` with one of its constructors, starts
scans and queries with it, and calls `next` and `close` on the recordsets in any
order; all recordsets share the filter. The daemon sends records of the
partitions of the filter only.

Results:
* `next_cons`: one call of `next` returns or throws what the next message says,
  and writes the cursor of a returned record to one status entry.
* `nexts_spec`: what any number of calls of `next` do.
* `World.step_ok`, `World.run_ok`: no run panics, and once a stream has started
  entry `i` of the status array has id `i` in every state (`Indexed`).
-/

namespace AerospikePhp

/-! ## Filters and deliveries -/

/-- A call of a constructor of `PartitionFilter`, within its documented bounds. -/
inductive FilterCall where
  | all
  | partition (id : ℕ) (hid : id < partitions)
  | range (begin count : ℕ) (hcount : 1 ≤ count) (hend : begin + count ≤ partitions)

namespace FilterCall

/-- The first partition of the filter. -/
def begin : FilterCall → ℕ
  | all => 0
  | partition id _ => id
  | range begin _ _ _ => begin

/-- The number of partitions of the filter. -/
def count : FilterCall → ℕ
  | all => partitions
  | partition _ _ => 1
  | range _ count _ _ => count

/-- The filter that the constructor builds. -/
def build : FilterCall → Proto.PartitionFilter
  | all => PartitionFilter.all
  | partition id _ => PartitionFilter.partition id
  | range begin count _ _ => PartitionFilter.range begin count

theorem build_eq (f : FilterCall) : f.build = PartitionFilter.fresh f.begin f.count := by
  cases f with
  | all => rfl
  | partition id hid => rfl
  | range begin count hcount hend => rfl

theorem begin_add_count_le (f : FilterCall) : f.begin + f.count ≤ partitions := by
  cases f with
  | all => exact le_of_eq (Nat.zero_add _)
  | partition id hid => exact hid
  | range begin count hcount hend => exact hend

end FilterCall

/-- What the daemon sends on a stream with filter `f`: a record of one of its
    partitions with its key, a record without a key, an error, or the status that
    ends the stream. -/
inductive Delivered (f : FilterCall) where
  | record (key : ReceivedKey) (hbegin : f.begin ≤ key.partition)
      (hend : key.partition < f.begin + f.count) (generation expiration : UInt32)
      (bins : List (String × Proto.Value)) (bval : Option Int64)
  | keyless (generation expiration : UInt32) (bins : List (String × Proto.Value))
      (bval : Option Int64)
  | error (e : Proto.Error)
  | status (text : String)

/-- The position and the cursor of a record: its partition, its digest and the
    `bval` that comes with it. -/
abbrev Cursor := ℕ × (List UInt8 × Option Int64)

namespace Delivered

variable {f : FilterCall}

/-- The message on the wire. -/
def wire : Delivered f → StreamItem
  | record key _ _ generation expiration bins bval =>
    .ok { record := some ⟨some key.toProto, generation, expiration, bins⟩, error := none,
          bval := bval }
  | keyless generation expiration bins bval =>
    .ok { record := some ⟨none, generation, expiration, bins⟩, error := none, bval := bval }
  | error e => .ok { record := none, error := some e, bval := none }
  | status text => .error text

/-- The record that `next` returns for the message. -/
def returned : Delivered f → Option Proto.Record
  | record key _ _ generation expiration bins _ =>
    some ⟨some key.toProto, generation, expiration, bins⟩
  | _ => none

/-- What `next` does for the PHP program with the message. -/
def outcome : Delivered f → Outcome
  | record key _ _ generation expiration bins _ =>
    .returns ⟨some key.toProto, generation, expiration, bins⟩
  | keyless _ _ _ _ => .nothing
  | error e => .throws (.ofError e)
  | status text => .throws (.new text)

/-- The cursor of the record that `next` returns for the message. -/
def cursor : Delivered f → Option Cursor
  | record key _ _ _ _ _ bval => some (key.partition, key.digest.toList, bval)
  | _ => none

@[simp] theorem outcome_value (d : Delivered f) : d.outcome.value = d.returned := by
  cases d with
  | record => rfl
  | keyless => rfl
  | error => rfl
  | status => rfl

theorem cursor_mem {d : Delivered f} {c : Cursor} (h : d.cursor = some c) :
    f.begin ≤ c.1 ∧ c.1 < f.begin + f.count ∧ Key.digestPartition c.2.1 = .ok c.1 := by
  cases d with
  | record key hbegin hend generation expiration bins bval =>
    simp only [cursor, Option.some.injEq] at h
    subst h
    exact ⟨hbegin, hend, key.digestPartition_digest⟩
  | keyless => cases h
  | error => cases h
  | status => cases h

end Delivered

/-- The cursors of the records that are returned for the messages, in order. -/
def cursors {f : FilterCall} (ds : List (Delivered f)) : List Cursor :=
  ds.filterMap Delivered.cursor

@[simp] theorem cursors_nil {f : FilterCall} : cursors ([] : List (Delivered f)) = [] := rfl

theorem cursors_cons {f : FilterCall} (d : Delivered f) (ds : List (Delivered f)) :
    cursors (d :: ds) = d.cursor.toList ++ cursors ds := by
  cases hd : d.cursor with
  | none => simp [cursors, hd]
  | some c => simp [cursors, hd]

theorem cursors_mem {f : FilterCall} {ds : List (Delivered f)} {c : Cursor} (h : c ∈ cursors ds) :
    f.begin ≤ c.1 ∧ c.1 < f.begin + f.count ∧ Key.digestPartition c.2.1 = .ok c.1 := by
  obtain ⟨d, -, hd⟩ := List.mem_filterMap.1 h
  exact Delivered.cursor_mem hd

/-! ## The status array -/

/-- The filter after the cursors are written, each to the entry at the place of
    its partition in the range of the filter. -/
def Proto.PartitionFilter.writeAll (p : Proto.PartitionFilter) (cs : List Cursor) :
    Proto.PartitionFilter :=
  { p with
    partitions := Registers.writeAll Proto.PartitionStatus.put p.partitions
      (cs.map fun c => (c.1 - p.begin, c.2)) }

@[simp] theorem Proto.PartitionFilter.writeAll_nil (p : Proto.PartitionFilter) :
    p.writeAll [] = p := rfl

theorem Proto.PartitionFilter.writeAll_append (p : Proto.PartitionFilter)
    (cs cs' : List Cursor) : p.writeAll (cs ++ cs') = (p.writeAll cs).writeAll cs' := by
  simp [writeAll, Registers.writeAll_append]

/-- What holds of the filter `f` once a stream has started: entry `i` of the
    status array has id `i`, and its digest, if any, is that of a record of
    partition `begin + i`. -/
structure Indexed (f : FilterCall) (p : Proto.PartitionFilter) : Prop where
  begin_eq : p.begin = f.begin
  count_eq : p.count = f.count
  ids : p.partitions.map Proto.PartitionStatus.id = List.range partitions
  digests : ∀ i ps, p.partitions[i]? = some ps →
    ps.digest = [] ∨ Key.digestPartition ps.digest = .ok (i + f.begin)

namespace Indexed

variable {f : FilterCall} {p : Proto.PartitionFilter}

theorem length_eq (h : Indexed f p) : p.partitions.length = partitions := by
  have hlength := congrArg List.length h.ids
  rwa [List.length_map, List.length_range] at hlength

/-- A partition of the filter has a place in the status array. -/
theorem pos_lt (h : Indexed f p) {pid : ℕ} (hend : pid < f.begin + f.count) :
    pid - p.begin < p.partitions.length := by
  rw [h.length_eq, h.begin_eq]
  have := f.begin_add_count_le
  omega

theorem id_eq (h : Indexed f p) {i : ℕ} {ps : Proto.PartitionStatus}
    (hps : p.partitions[i]? = some ps) : ps.id = i := by
  have hi : (p.partitions.map Proto.PartitionStatus.id)[i]? = some ps.id := by
    rw [List.getElem?_map, hps]
    rfl
  rw [h.ids, List.getElem?_eq_some_iff] at hi
  obtain ⟨hlt, hi⟩ := hi
  rw [List.getElem_range] at hi
  exact hi.symm

/-- Entry `i` after the cursors are written: the last cursor of partition
    `begin + i`, or what was there. -/
theorem getElem?_writeAll (h : Indexed f p) {cs : List Cursor} (hcs : ∀ c ∈ cs, f.begin ≤ c.1)
    (i : ℕ) :
    (p.writeAll cs).partitions[i]? = p.partitions[i]?.map fun ps =>
      ((Registers.lastWrite cs (i + f.begin)).map ps.put).getD ps := by
  rw [Proto.PartitionFilter.writeAll, Registers.getElem?_writeAll Proto.PartitionStatus.put_put,
    h.begin_eq,
    Registers.lastWrite_shift hcs]

theorem writeAll (h : Indexed f p) {cs : List Cursor}
    (hcs : ∀ c ∈ cs, f.begin ≤ c.1 ∧ Key.digestPartition c.2.1 = .ok c.1) :
    Indexed f (p.writeAll cs) where
  begin_eq := h.begin_eq
  count_eq := h.count_eq
  ids := by
    rw [← h.ids]
    exact Registers.map_writeAll _ Proto.PartitionStatus.put_id _ _
  digests := by
    intro i ps hps
    rw [h.getElem?_writeAll fun c hc => (hcs c hc).1] at hps
    obtain ⟨ps₀, hps₀, rfl⟩ := Option.map_eq_some_iff.1 hps
    cases hlast : Registers.lastWrite cs (i + f.begin) with
    | none => exact h.digests i ps₀ hps₀
    | some cursor => exact .inr (hcs _ (Registers.mem_of_lastWrite hlast)).2

theorem writeAll_cursors (h : Indexed f p) (ds : List (Delivered f)) :
    Indexed f (p.writeAll (cursors ds)) :=
  h.writeAll fun _ hc => ⟨(cursors_mem hc).1, (cursors_mem hc).2.2⟩

theorem writeAll_cursor (h : Indexed f p) (d : Delivered f) :
    Indexed f (p.writeAll d.cursor.toList) := by
  have hd := h.writeAll_cursors [d]
  rwa [cursors_cons, cursors_nil, List.append_nil] at hd

end Indexed

theorem initPartitionStatus_fresh (begin count : ℕ) :
    PartitionFilter.initPartitionStatus (PartitionFilter.fresh begin count) =
      { PartitionFilter.fresh begin count with
        partitions := (List.range partitions).map Proto.PartitionStatus.construct } :=
  if_neg (Nat.lt_irrefl 0)

theorem map_id_construct (n : ℕ) :
    ((List.range n).map Proto.PartitionStatus.construct).map Proto.PartitionStatus.id =
      List.range n := by
  rw [List.map_map]
  exact List.map_id _

theorem digest_construct {n i : ℕ} {ps : Proto.PartitionStatus}
    (h : ((List.range n).map Proto.PartitionStatus.construct)[i]? = some ps) :
    ps.digest = [] := by
  rw [List.getElem?_map] at h
  obtain ⟨id, -, rfl⟩ := Option.map_eq_some_iff.1 h
  rfl

/-- The status array that the first scan or query makes. -/
theorem indexed_init (f : FilterCall) :
    Indexed f (PartitionFilter.initPartitionStatus f.build) := by
  rw [FilterCall.build_eq, initPartitionStatus_fresh]
  refine ⟨rfl, rfl, ?_, fun i ps hps => .inl ?_⟩
  · dsimp only
    rw [map_id_construct]
  · dsimp only at hps
    exact digest_construct hps

theorem initPartitionStatus_of_indexed {f : FilterCall} {p : Proto.PartitionFilter}
    (h : Indexed f p) : PartitionFilter.initPartitionStatus p = p := by
  have hpos : p.partitions.length > 0 := by
    rw [h.length_eq]
    decide
  exact if_pos hpos

/-! ## Calls of `next` -/

section Next

variable (ripemd160 : List UInt8 → Digest) {f : FilterCall} {p : Proto.PartitionFilter}

theorem next_closed (p : Proto.PartitionFilter) :
    Recordset.next ripemd160 ⟨none, p⟩ = .ok (.nothing, ⟨none, p⟩) := rfl

theorem next_nil (p : Proto.PartitionFilter) :
    Recordset.next ripemd160 ⟨some [], p⟩ = .ok (.nothing, ⟨none, p⟩) := rfl

theorem update_cursor (h : Indexed f p) {pid : ℕ} (hbegin : f.begin ≤ pid)
    (hend : pid < f.begin + f.count) (bval : Option Int64) (digest : List UInt8) :
    PartitionFilter.update p pid bval (some digest) = .ok (p.writeAll [(pid, digest, bval)]) :=
  if_pos ⟨h.begin_eq ▸ hbegin, h.pos_lt hend⟩

/-- One call of `next` consumes one message: it returns or throws what the
    message says, and writes the cursor of a returned record. -/
theorem next_cons (h : Indexed f p) (d : Delivered f) (rest : List StreamItem) :
    Recordset.next ripemd160 ⟨some (d.wire :: rest), p⟩ =
      .ok (d.outcome, ⟨some rest, p.writeAll d.cursor.toList⟩) := by
  cases d with
  | record key hbegin hend generation expiration bins bval =>
    simp only [Recordset.next, List.head?_cons, Delivered.wire, Recordset.answer,
      ReceivedKey.partitionId_toProto, Fallible.ok_bind, Fallible.pure_eq_ok,
      ReceivedKey.digest_toProto, update_cursor h hbegin hend]
    rfl
  | keyless => rfl
  | error => rfl
  | status => rfl

/-- `n` calls of `next`. -/
def nexts (n : ℕ) (rs : Recordset) : Except Panic (List Outcome × Recordset) :=
  Run.run (fun rs (_ : Unit) => Recordset.next ripemd160 rs) rs (List.replicate n ())

/-- The calls on a closed recordset. -/
theorem nexts_closed (n : ℕ) (p : Proto.PartitionFilter) :
    nexts ripemd160 n ⟨none, p⟩ = .ok (List.replicate n .nothing, ⟨none, p⟩) := by
  induction n with
  | zero => rfl
  | succ n ih =>
    rw [nexts, List.replicate_succ, Run.run_cons_eq_ok]
    exact ⟨_, _, _, next_closed ripemd160 p, ih, rfl⟩

/-- The calls after the last message: the first one closes the recordset. -/
theorem nexts_nil (n : ℕ) (p : Proto.PartitionFilter) :
    nexts ripemd160 (n + 1) ⟨some [], p⟩ =
      .ok (List.replicate (n + 1) .nothing, ⟨none, p⟩) := by
  rw [nexts, List.replicate_succ, Run.run_cons_eq_ok]
  exact ⟨_, _, _, next_nil ripemd160 p, nexts_closed ripemd160 n p, rfl⟩

/-- Any number of calls of `next`: they answer the messages in order, then
    nothing, and write the cursors of the returned records. -/
theorem nexts_spec (h : Indexed f p) (ds : List (Delivered f)) (n : ℕ) :
    ∃ rs, nexts ripemd160 n ⟨some (ds.map Delivered.wire), p⟩ =
        .ok ((ds.take n).map Delivered.outcome ++ List.replicate (n - ds.length) .nothing, rs) ∧
      rs.partitionFilter = p.writeAll (cursors (ds.take n)) := by
  induction n generalizing p ds with
  | zero => exact ⟨⟨some (ds.map Delivered.wire), p⟩, by simp [nexts], by simp⟩
  | succ n ih =>
    cases ds with
    | nil => exact ⟨⟨none, p⟩, by simpa using nexts_nil ripemd160 n p, by simp⟩
    | cons d ds =>
      obtain ⟨rs, hrun, hrs⟩ := ih (h.writeAll_cursor d) ds
      refine ⟨rs, ?_, ?_⟩
      · rw [nexts, List.replicate_succ, Run.run_cons_eq_ok]
        exact ⟨_, _, _, next_cons ripemd160 h d _, hrun, by simp⟩
      · rw [hrs, List.take_succ_cons, cursors_cons, p.writeAll_append]

end Next

/-! ## Runs of a program -/

/-- Which call starts a stream. -/
inductive StreamKind where
  | scan
  | query

/-- `Client::scan` or `Client::query`. -/
def StreamKind.start : StreamKind → Proto.PartitionFilter →
    (Proto.PartitionFilter → Except String (List StreamItem)) → Except String Recordset
  | scan => AerospikePhp.scan
  | query => AerospikePhp.query

/-- A call that the program makes: a scan or a query with the filter, which
    `server` answers with a stream or a status, or a call of `next` or `close` on
    the recordset with number `i`. -/
inductive Call (f : FilterCall) where
  | start (kind : StreamKind) (server : Proto.PartitionFilter → Except String (List (Delivered f)))
  | next (i : ℕ)
  | close (i : ℕ)

/-- What a call answers. -/
inductive Reply where
  | started
  | failed (text : String)
  | next (outcome : Outcome)
  | closed

/-- The filter, and the streams of the recordsets that were started with it. -/
structure World where
  filter : Proto.PartitionFilter
  streams : List (Option (List StreamItem))

namespace World

variable {f : FilterCall}

/-- The filter as its constructor builds it, and no recordset. -/
def init (f : FilterCall) : World := ⟨f.build, []⟩

/-- One call. -/
def step (ripemd160 : List UInt8 → Digest) (w : World) :
    Call f → Except Panic (Reply × World)
  | .start kind server =>
    match kind.start w.filter fun p => (server p).map fun ds => ds.map Delivered.wire with
    | .ok rs => .ok (.started, ⟨rs.partitionFilter, w.streams ++ [rs.stream]⟩)
    | .error text => .ok (.failed text, w)
  | .next i =>
    match w.streams[i]? with
    | some stream => do
      let r ← Recordset.next ripemd160 ⟨stream, w.filter⟩
      return (.next r.1, ⟨r.2.partitionFilter, w.streams.set i r.2.stream⟩)
    | none => .ok (.next .nothing, w)
  | .close i =>
    match w.streams[i]? with
    | some stream =>
      let rs := Recordset.close ⟨stream, w.filter⟩
      .ok (.closed, ⟨rs.partitionFilter, w.streams.set i rs.stream⟩)
    | none => .ok (.closed, w)

/-- The calls of a program, in order. -/
def run (ripemd160 : List UInt8 → Digest) (w : World) (calls : List (Call f)) :
    Except Panic (List Reply × World) :=
  Run.run (step ripemd160) w calls

/-- The rest of a stream is what the daemon still has to deliver. -/
def OnWire (f : FilterCall) (stream : Option (List StreamItem)) : Prop :=
  ∀ items, stream = some items → ∃ ds : List (Delivered f), items = ds.map Delivered.wire

/-- No stream has started. -/
structure Fresh (f : FilterCall) (w : World) : Prop where
  filter : w.filter = f.build
  streams : w.streams = []

/-- A stream has started. -/
structure Started (f : FilterCall) (w : World) : Prop where
  indexed : Indexed f w.filter
  streams : ∀ stream ∈ w.streams, OnWire f stream

theorem fresh_init (f : FilterCall) : Fresh f (init f) := ⟨rfl, rfl⟩

theorem onWire_none : OnWire f none := fun _ h => by cases h

theorem onWire_wire (ds : List (Delivered f)) : OnWire f (some (ds.map Delivered.wire)) := by
  rintro items h
  cases h
  exact ⟨ds, rfl⟩

/-- One call of `next` on a stream of deliveries. -/
theorem next_onWire (ripemd160 : List UInt8 → Digest) {p : Proto.PartitionFilter}
    (hp : Indexed f p) {stream : Option (List StreamItem)} (hstream : OnWire f stream) :
    ∃ outcome rs, Recordset.next ripemd160 ⟨stream, p⟩ = .ok (outcome, rs) ∧
      Indexed f rs.partitionFilter ∧ OnWire f rs.stream := by
  cases stream with
  | none => exact ⟨_, _, next_closed ripemd160 p, hp, onWire_none⟩
  | some items =>
    obtain ⟨ds, rfl⟩ := hstream items rfl
    cases ds with
    | nil => exact ⟨_, _, next_nil ripemd160 p, hp, onWire_none⟩
    | cons d ds =>
      exact ⟨_, _, next_cons ripemd160 hp d _, hp.writeAll_cursor d, onWire_wire ds⟩

theorem streams_set {streams : List (Option (List StreamItem))}
    (h : ∀ stream ∈ streams, OnWire f stream) (i : ℕ) {stream : Option (List StreamItem)}
    (hstream : OnWire f stream) : ∀ stream' ∈ streams.set i stream, OnWire f stream' := by
  intro stream' hmem
  rcases List.mem_or_eq_of_mem_set hmem with hmem | rfl
  · exact h stream' hmem
  · exact hstream

theorem start_ok (kind : StreamKind) (p : Proto.PartitionFilter)
    (server : Proto.PartitionFilter → Except String (List StreamItem)) :
    kind.start p server =
      (server p).map fun items => ⟨some items, PartitionFilter.initPartitionStatus p⟩ := by
  cases kind with
  | scan => cases h : server p <;> simp [StreamKind.start, scan, h, Except.map]
  | query => cases h : server p <;> simp [StreamKind.start, query, scan, h, Except.map]

/-- The filter of a stream that starts in a reachable state. -/
theorem indexed_start {w : World} (hw : Fresh f w ∨ Started f w) :
    Indexed f (PartitionFilter.initPartitionStatus w.filter) := by
  rcases hw with hw | hw
  · rw [hw.filter]
    exact indexed_init f
  · rw [initPartitionStatus_of_indexed hw.indexed]
    exact hw.indexed

/-- A started stream finds a filter with its status array. -/
theorem step_start (ripemd160 : List UInt8 → Digest) {w : World} (hw : Fresh f w ∨ Started f w)
    (kind : StreamKind) (server : Proto.PartitionFilter → Except String (List (Delivered f)))
    {ds : List (Delivered f)} (hserver : server w.filter = .ok ds) :
    ∃ w', step ripemd160 w (.start kind server) = .ok (.started, w') ∧ Started f w' := by
  refine ⟨⟨PartitionFilter.initPartitionStatus w.filter,
    w.streams ++ [some (ds.map Delivered.wire)]⟩, ?_, ?_⟩
  · simp [step, start_ok, hserver, Except.map]
  · refine ⟨indexed_start hw, ?_⟩
    intro stream hmem
    rcases List.mem_append.1 hmem with hmem | hmem
    · rcases hw with hw | hw
      · simp [hw.streams] at hmem
      · exact hw.streams stream hmem
    · rw [List.mem_singleton] at hmem
      rw [hmem]
      exact onWire_wire ds

/-- No call panics, and a world with a started stream stays one. -/
theorem step_ok (ripemd160 : List UInt8 → Digest) {w : World} (call : Call f)
    (hw : Fresh f w ∨ Started f w) :
    ∃ reply w', step ripemd160 w call = .ok (reply, w') ∧ (Fresh f w' ∨ Started f w') ∧
      (Started f w → Started f w') := by
  cases call with
  | start kind server =>
    cases hserver : server w.filter with
    | error text =>
      exact ⟨.failed text, w, by simp [step, start_ok, hserver, Except.map], hw, id⟩
    | ok ds =>
      obtain ⟨w', hstep, hw'⟩ := step_start ripemd160 hw kind server hserver
      exact ⟨_, w', hstep, .inr hw', fun _ => hw'⟩
  | next i =>
    cases hi : w.streams[i]? with
    | none => exact ⟨.next .nothing, w, by simp only [step, hi], hw, id⟩
    | some stream =>
      rcases hw with hw | hw
      · simp [hw.streams] at hi
      · obtain ⟨outcome, rs, hnext, hrs, hstream⟩ := next_onWire ripemd160 hw.indexed
          (hw.streams stream (List.mem_of_getElem? hi))
        have hw' : Started f ⟨rs.partitionFilter, w.streams.set i rs.stream⟩ :=
          ⟨hrs, streams_set hw.streams i hstream⟩
        exact ⟨.next outcome, _, by simp only [step, hi, hnext]; rfl, .inr hw', fun _ => hw'⟩
  | close i =>
    cases hi : w.streams[i]? with
    | none => exact ⟨.closed, w, by simp only [step, hi], hw, id⟩
    | some stream =>
      rcases hw with hw | hw
      · simp [hw.streams] at hi
      · have hw' : Started f ⟨w.filter, w.streams.set i none⟩ :=
          ⟨hw.indexed, streams_set hw.streams i onWire_none⟩
        exact ⟨.closed, _, by simp only [step, hi]; rfl, .inr hw', fun _ => hw'⟩

/-- Every run of a program goes through without a panic. -/
theorem run_ok (ripemd160 : List UInt8 → Digest) {w : World} (hw : Fresh f w ∨ Started f w)
    (calls : List (Call f)) :
    ∃ replies w', run ripemd160 w calls = .ok (replies, w') ∧ (Fresh f w' ∨ Started f w') := by
  refine Run.run_ok (step ripemd160) (fun w call hw => ?_) hw calls
  obtain ⟨reply, w', hstep, hw', -⟩ := step_ok ripemd160 call hw
  exact ⟨reply, w', hstep, hw'⟩

/-- Once a stream has started, every later state has its status array. -/
theorem run_started (ripemd160 : List UInt8 → Digest) {w : World} (hw : Started f w)
    (calls : List (Call f)) :
    ∃ replies w', run ripemd160 w calls = .ok (replies, w') ∧ Started f w' := by
  refine Run.run_ok (step ripemd160) (fun w call hw => ?_) hw calls
  obtain ⟨reply, w', hstep, -, hw'⟩ := step_ok ripemd160 call (.inr hw)
  exact ⟨reply, w', hstep, hw' hw⟩

end World

end AerospikePhp
