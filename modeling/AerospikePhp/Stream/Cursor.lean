import AerospikePhp.Stream.Runs
import AerospikePhp.Stream.Server

/-!
# The partition cursor

A scan can be resumed because its filter remembers, for each of its partitions,
the digest and the `bval` of the last record that was returned. Two functions
must agree on the place of a partition in the status array:
`init_partition_status` (`src/lib.rs` lines 4070–4079) makes entries `0 … 4095`
with these ids, whatever the filter, and `next` (lines 4171–4177) writes the
cursor of partition `pid` to entry `pid - begin`.

Main results:
* `cursorsKept_iff`: the status entries hold the cursors of the partitions they
  name iff the filter begins at partition 0 or no record was returned.
* `represents_iff`: the status array has one entry for each partition of the
  filter iff the filter is over all partitions.
-/

namespace AerospikePhp

/-! ## The cursor of a partition -/

/-- The status array `now`, compared to the array `start` at the beginning of the
    stream: the entry whose id is the partition of a returned record holds the
    last cursor of the partition, and every other entry is as it was. -/
def CursorsKept (start : List Proto.PartitionStatus) (returned : List Cursor)
    (now : List Proto.PartitionStatus) : Prop :=
  now = start.map (fun ps => ((Registers.lastWrite returned ps.id).map ps.put).getD ps) ∧
    ∀ c ∈ returned, ∃ ps ∈ now, ps.id = c.1

theorem exists_max {cs : List Cursor} (h : cs ≠ []) : ∃ c ∈ cs, ∀ c' ∈ cs, c'.1 ≤ c.1 := by
  induction cs with
  | nil => exact absurd rfl h
  | cons c cs ih =>
    by_cases hcs : cs = []
    · subst hcs
      exact ⟨c, by simp, by simp⟩
    · obtain ⟨m, hm, hmax⟩ := ih hcs
      rcases le_total c.1 m.1 with hle | hle
      · refine ⟨m, by simp [hm], ?_⟩
        simp only [List.forall_mem_cons]
        exact ⟨hle, hmax⟩
      · refine ⟨c, by simp, ?_⟩
        simp only [List.forall_mem_cons]
        exact ⟨le_refl _, fun c' hc' => le_trans (hmax c' hc') hle⟩

section Kept

variable {f : FilterCall} {p : Proto.PartitionFilter}

theorem cursorsKept_of_begin_zero (h : Indexed f p) (hbegin : f.begin = 0)
    (ds : List (Delivered f)) :
    CursorsKept p.partitions (cursors ds) (p.writeAll (cursors ds)).partitions := by
  refine ⟨?_, fun c hc => ?_⟩
  · apply List.ext_getElem?
    intro i
    rw [h.getElem?_writeAll fun c hc => (cursors_mem hc).1, List.getElem?_map]
    cases hps : p.partitions[i]? with
    | none => rfl
    | some ps => rw [Option.map_some, Option.map_some, h.id_eq hps, hbegin, Nat.add_zero]
  · have hlt : c.1 < partitions := lt_of_lt_of_le (cursors_mem hc).2.1 f.begin_add_count_le
    have hmem : c.1 ∈ (p.writeAll (cursors ds)).partitions.map Proto.PartitionStatus.id := by
      rw [(h.writeAll_cursors ds).ids]
      exact List.mem_range.2 hlt
    exact List.mem_map.1 hmem

/-- With a filter that begins later, the entry of the largest partition that
    returned a record was not written, and its digest is not that of a record of
    this partition. -/
theorem not_cursorsKept (h : Indexed f p) (hbegin : f.begin ≠ 0) {ds : List (Delivered f)}
    (hds : cursors ds ≠ []) :
    ¬ CursorsKept p.partitions (cursors ds) (p.writeAll (cursors ds)).partitions := by
  rintro ⟨hnow, -⟩
  obtain ⟨c, hc, hmax⟩ := exists_max hds
  have hlt : c.1 < p.partitions.length := by
    rw [h.length_eq]
    exact lt_of_lt_of_le (cursors_mem hc).2.1 f.begin_add_count_le
  obtain ⟨ps, hps⟩ : ∃ ps, p.partitions[c.1]? = some ps := ⟨_, List.getElem?_eq_getElem hlt⟩
  have hnone : Registers.lastWrite (cursors ds) (c.1 + f.begin) = none := by
    rw [Registers.lastWrite_eq_none]
    intro c' hc' heq
    have := hmax c' hc'
    omega
  obtain ⟨cursor, hlast⟩ := Registers.exists_lastWrite hc
  have hentry : some ps = some (ps.put cursor) := by
    have hi := congrArg (fun statuses => statuses[c.1]?) hnow
    simp only [h.getElem?_writeAll fun c hc => (cursors_mem hc).1, List.getElem?_map, hps,
      Option.map_some, hnone, h.id_eq hps, hlast, Option.map_none, Option.getD_none,
      Option.getD_some] at hi
    exact hi
  have hdigest : ps.digest = cursor.1 :=
    congrArg Proto.PartitionStatus.digest (Option.some.inj hentry)
  have hpid : Key.digestPartition ps.digest = .ok c.1 := by
    rw [hdigest]
    exact (cursors_mem (Registers.mem_of_lastWrite hlast)).2.2
  rcases h.digests c.1 ps hps with hnil | hother
  · rw [hnil] at hpid
    cases hpid
  · rw [hother, Except.ok.injEq] at hpid
    omega

theorem cursorsKept_writeAll (h : Indexed f p) (ds : List (Delivered f)) :
    CursorsKept p.partitions (cursors ds) (p.writeAll (cursors ds)).partitions ↔
      f.begin = 0 ∨ cursors ds = [] := by
  constructor
  · intro hkept
    by_contra hne
    rw [not_or] at hne
    exact not_cursorsKept h hne.1 hne.2 hkept
  · rintro (hbegin | hds)
    · exact cursorsKept_of_begin_zero h hbegin ds
    · rw [hds, Proto.PartitionFilter.writeAll_nil]
      refine ⟨?_, by simp⟩
      simp [Registers.lastWrite]

end Kept

/-- **Main theorem.** A program starts scans and queries with a filter and reads
    them in any order; then it starts one more and calls `next` on it `n` times.
    The calls return the records that are delivered with a key, and the status
    entries hold the cursors of the partitions they name iff the filter begins at
    partition 0 or no record was returned. -/
theorem cursorsKept_iff (ripemd160 : List UInt8 → Digest) (f : FilterCall)
    (before : List (Call f)) (kind : StreamKind) (delivered : List (Delivered f)) (n : ℕ) :
    ∃ replies w, World.run ripemd160 (World.init f) before = .ok (replies, w) ∧
    ∃ rs₀, kind.start w.filter (fun _ => .ok (delivered.map Delivered.wire)) = .ok rs₀ ∧
    ∃ outcomes rs, nexts ripemd160 n rs₀ = .ok (outcomes, rs) ∧
      outcomes.filterMap Outcome.value = (delivered.take n).filterMap Delivered.returned ∧
      (CursorsKept rs₀.partitionFilter.partitions (cursors (delivered.take n))
          rs.partitionFilter.partitions ↔
        f.begin = 0 ∨ cursors (delivered.take n) = []) := by
  obtain ⟨replies, w, hrun, hw⟩ := World.run_ok ripemd160 (.inl (World.fresh_init f)) before
  have hindexed := World.indexed_start hw
  obtain ⟨rs, hnexts, hrs⟩ := nexts_spec ripemd160 hindexed delivered n
  refine ⟨replies, w, hrun, ⟨some (delivered.map Delivered.wire), _⟩, World.start_ok kind _ _,
    _, rs, hnexts, ?_, ?_⟩
  · have hvalue : (Outcome.value ∘ Delivered.outcome : Delivered f → _) = Delivered.returned := by
      funext d
      exact d.outcome_value
    rw [List.filterMap_append, List.filterMap_map, hvalue]
    simp [Outcome.nothing]
  · rw [hrs]
    exact cursorsKept_writeAll hindexed (delivered.take n)

/-- The filter over partition 1 alone. -/
def partitionOne : FilterCall := .partition 1 (by decide)

/-- A key in partition 1: its digest begins with the bytes 1, 0, 0, 0. -/
def keyOfOne : ReceivedKey :=
  ⟨"test", "users", ⟨1 :: List.replicate 19 0, by simp⟩, none⟩

/-- A record of partition 1. -/
def recordOfOne : Delivered partitionOne :=
  .record keyOfOne (by decide) (by decide) 1 0 [] none

/-- The cursor of the record goes to the entry of partition 0. -/
theorem recordOfOne_misplaced :
    ∃ rs₀ rs, scan partitionOne.build (fun _ => .ok [recordOfOne.wire]) = .ok rs₀ ∧
      nexts (fun _ => List.Vector.replicate 20 0) 1 rs₀ = .ok ([recordOfOne.outcome], rs) ∧
      ¬ CursorsKept rs₀.partitionFilter.partitions (cursors [recordOfOne])
        rs.partitionFilter.partitions := by
  have hindexed := indexed_init partitionOne
  obtain ⟨rs, hnexts, hrs⟩ := nexts_spec (fun _ => List.Vector.replicate 20 0) hindexed
    [recordOfOne] 1
  refine ⟨⟨some [recordOfOne.wire], _⟩, rs, rfl, hnexts, ?_⟩
  rw [hrs]
  exact not_cursorsKept hindexed (by decide) (by simp [cursors, recordOfOne, Delivered.cursor])

/-! ## The status array of a filter -/

/-- The status array has exactly one entry for each partition of the filter, in
    order, and so has the filter that the daemon rebuilds from a request. -/
def Represents (f : FilterCall) (p : Proto.PartitionFilter) : Prop :=
  p.partitions.map Proto.PartitionStatus.id = List.range' f.begin f.count ∧
    (toPartitionFilter (some p)).map (fun pf => pf.partitions.map Aero.PartitionStatus.id) =
      some (List.range' f.begin f.count)

theorem toPartitionFilter_ids (p : Proto.PartitionFilter) :
    (toPartitionFilter (some p)).map (fun pf => pf.partitions.map Aero.PartitionStatus.id) =
      some (p.partitions.map Proto.PartitionStatus.id) := by
  simp [toPartitionFilter, toPartitionStatuses, toPartitionStatus, Function.comp_def]

theorem represents_of_indexed {f : FilterCall} {p : Proto.PartitionFilter} (h : Indexed f p) :
    Represents f p ↔ f.begin = 0 ∧ f.count = partitions := by
  rw [Represents, toPartitionFilter_ids, h.ids, Option.some.injEq, and_self]
  constructor
  · intro hrange
    have hcount := congrArg List.length hrange
    rw [List.length_range, List.length_range'] at hcount
    exact ⟨by have := f.begin_add_count_le; omega, hcount.symm⟩
  · rintro ⟨hbegin, hcount⟩
    rw [hbegin, hcount, List.range_eq_range']

/-- **Main theorem.** Once a scan or a query has started, in every state that the
    program reaches by further scans, queries, and calls of `next` and `close`,
    the status array has one entry for each partition of the filter iff the
    filter is over all partitions. -/
theorem represents_iff (ripemd160 : List UInt8 → Digest) (f : FilterCall)
    (before : List (Call f)) (kind : StreamKind) (delivered : List (Delivered f))
    (after : List (Call f)) :
    ∃ replies w, World.run ripemd160 (World.init f)
        (before ++ .start kind (fun _ => .ok delivered) :: after) = .ok (replies, w) ∧
      (Represents f w.filter ↔ f.begin = 0 ∧ f.count = partitions) := by
  obtain ⟨replies, w, hrun, hw⟩ := World.run_ok ripemd160 (.inl (World.fresh_init f)) before
  obtain ⟨w₁, hstep, hw₁⟩ := World.step_start ripemd160 hw kind (fun _ => .ok delivered) rfl
  obtain ⟨replies', w', hrun', hw'⟩ := World.run_started ripemd160 hw₁ after
  refine ⟨replies ++ .started :: replies', w', ?_, represents_of_indexed hw'.indexed⟩
  have htail : Run.run (World.step ripemd160) w (.start kind (fun _ => .ok delivered) :: after) =
      .ok (.started :: replies', w') :=
    (Run.run_cons_eq_ok _).2 ⟨.started, w₁, replies', hstep, hrun', rfl⟩
  rw [World.run, Run.run_append]
  rw [World.run] at hrun
  rw [hrun, Fallible.ok_bind, htail]
  rfl

/-- The filter over partition 1 alone is sent back with 4096 partitions. -/
theorem partitionOne_not_represented :
    ∃ rs, scan partitionOne.build (fun _ => .ok []) = .ok rs ∧
      ¬ Represents partitionOne rs.partitionFilter := by
  refine ⟨⟨some [], PartitionFilter.initPartitionStatus partitionOne.build⟩, rfl, ?_⟩
  rw [represents_of_indexed (indexed_init partitionOne)]
  decide

end AerospikePhp
