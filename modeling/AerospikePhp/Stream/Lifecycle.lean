import AerospikePhp.Stream.Runs

/-!
# The life of a recordset

A PHP program calls `next`, `close` and `get_active` on a recordset in any order
(`src/lib.rs` lines 4113–4182). The recordset should be active until the first
`close`, end of the stream or transport failure, and silent from then on.

`next` closes the recordset at the end of the stream only. A transport failure is
thrown, and the stream that failed is kept and read again.

Main results:
* `lifecycle_iff`: in every state of a run the recordset is active or silent as it
  should be iff no call of `next` meets a transport failure.
* `unbroken_of_stream`: none does when there is no failure on the stream. With `lifecycle_iff` it
  gives the law of the recordset for every such stream, whatever the calls.
-/

namespace AerospikePhp

namespace Recordset

/-! ## Calls and what is seen of them -/

/-- The methods of a recordset. -/
inductive Method where
  | next
  | close
  | getActive

/-- What is seen of a call. For `next`: what it read from the stream, if it read
    at all (`none` inside is the end of the stream), and what it did for the
    program. -/
inductive Event where
  | next (read : Option (Option StreamItem)) (outcome : Outcome)
  | closed
  | active (b : Bool)

/-- The recordset is over with this event: it was closed, or `next` read the end
    of the stream or a transport failure. -/
def Event.Ends : Event → Prop
  | next (some none) _ => True
  | next (some (some (.error _))) _ => True
  | next _ _ => False
  | closed => True
  | active _ => False

/-- What `client.next_record` gives to a call of `next` (line 4132): it is called
    when the recordset has a stream. -/
def reads (rs : Recordset) : Option (Option StreamItem) := rs.stream.map List.head?

section Law

variable (ripemd160 : List UInt8 → Digest)

/-- One call. -/
def step (rs : Recordset) : Method → Except Panic (Event × Recordset)
  | .next => do
    let r ← next ripemd160 rs
    return (.next rs.reads r.1, r.2)
  | .close => .ok (.closed, rs.close)
  | .getActive => .ok (.active rs.getActive, rs)

/-- The calls of a program, in order. -/
def run (rs : Recordset) (calls : List Method) : Except Panic (List Event × Recordset) :=
  Run.run (step ripemd160) rs calls

/-- The law, for a recordset after these events: it is active iff none of them
    ended it; once one of them has, a call of `next` reads nothing and returns
    nothing. -/
structure Lawful (events : List Event) (rs : Recordset) : Prop where
  active : rs.getActive = true ↔ ∀ e ∈ events, ¬ e.Ends
  silent : (∃ e ∈ events, e.Ends) → rs.reads = none ∧ next ripemd160 rs = .ok (.nothing, rs)

/-- The law holds in every state that the calls go through. -/
def Lifecycle (rs₀ : Recordset) (calls : List Method) : Prop :=
  ∀ before after events rs, calls = before ++ after →
    run ripemd160 rs₀ before = .ok (events, rs) → Lawful ripemd160 events rs

/-- A transport failure is next on the stream. -/
def Failing (rs : Recordset) : Prop := ∃ text rest, rs.stream = some (.error text :: rest)

/-- No call of `next` is made while a transport failure is next on the stream. -/
def Unbroken (rs₀ : Recordset) (calls : List Method) : Prop :=
  ∀ before after events rs, calls = before ++ .next :: after →
    run ripemd160 rs₀ before = .ok (events, rs) → ¬ rs.Failing

end Law

/-! ## One call -/

section Step

variable {ripemd160} {rs rs' : Recordset} {e : Event}

/-- Only the end of the stream sets the variable `close`. -/
theorem answer_item {item : StreamItem} {a : Answer} (h : answer ripemd160 (some item) = .ok a) :
    a.close = false := by
  unfold answer at h
  split at h
  · contradiction
  · cases h
    rfl
  · split at h
    · cases h
      rfl
    · obtain ⟨pid, -, h⟩ := Fallible.bind_eq_ok.1 h
      cases h
      rfl
  · cases h
    rfl
  · cases h
    rfl

/-- A call of `next` that reads an item leaves the rest of the stream. -/
theorem next_item {item : StreamItem} {rest : List StreamItem} {outcome : Outcome}
    (hstream : rs.stream = some (item :: rest)) (h : next ripemd160 rs = .ok (outcome, rs')) :
    rs'.stream = some rest := by
  rw [next, hstream] at h
  obtain ⟨a, ha, h⟩ := Fallible.bind_eq_ok.1 h
  have hclose : a.close = false := answer_item ha
  simp only [hclose, Bool.false_eq_true, if_false, List.tail_cons] at h
  -- The filter changes when a partition was returned.
  cases hpid : a.pid with
  | none =>
    rw [hpid] at h
    cases h
    rfl
  | some pid =>
    rw [hpid] at h
    obtain ⟨p, -, h⟩ := Fallible.bind_eq_ok.1 h
    cases h
    rfl

theorem next_ended (hstream : rs.stream = some []) :
    next ripemd160 rs = .ok (.nothing, rs.close) := by
  rw [next, hstream]
  rfl

theorem next_of_closed (hstream : rs.stream = none) : next ripemd160 rs = .ok (.nothing, rs) := by
  rw [next, hstream]

theorem reads_of_closed (hstream : rs.stream = none) : rs.reads = none := by
  rw [reads, hstream]
  rfl

theorem getActive_eq_false : rs.getActive = false ↔ rs.stream = none := by
  rw [getActive, Option.isSome_eq_false_iff, Option.isNone_iff_eq_none]

/-- A transport failure is thrown, and the recordset keeps its stream. -/
theorem next_failing (h : rs.Failing) :
    ∃ text rest, rs.reads = some (some (.error text)) ∧
      next ripemd160 rs = .ok (.throws (.new text), { rs with stream := some rest }) := by
  obtain ⟨text, rest, hstream⟩ := h
  refine ⟨text, rest, ?_, ?_⟩
  · rw [reads, hstream]
    rfl
  · rw [next, hstream]
    rfl

/-- One call, unless it is a `next` that meets a transport failure: the recordset
    stays active iff the call does not end it. -/
theorem getActive_step {call : Method} (hcall : call = .next → ¬ rs.Failing)
    (h : step ripemd160 rs call = .ok (e, rs')) :
    rs'.getActive = true ↔ rs.getActive = true ∧ ¬ e.Ends := by
  cases call with
  | next =>
    obtain ⟨⟨outcome, rs₁⟩, hnext, h⟩ := Fallible.bind_eq_ok.1 h
    cases h
    rcases hstream : rs.stream with _ | _ | ⟨item, rest⟩
    · rw [next_of_closed hstream] at hnext
      cases hnext
      simp [getActive, hstream]
    · rw [next_ended hstream] at hnext
      cases hnext
      simp [getActive, close, reads, hstream, Event.Ends]
    · have hrest := next_item hstream hnext
      cases item with
      | error text => exact absurd ⟨text, rest, hstream⟩ (hcall rfl)
      | ok resp => simp [getActive, reads, hstream, hrest, Event.Ends]
  | close =>
    cases h
    simp [getActive, close, Event.Ends]
  | getActive =>
    cases h
    simp [Event.Ends]

/-- A stream that a call leaves is what is left of the stream before it. -/
theorem stream_suffix_step {call : Method} (h : step ripemd160 rs call = .ok (e, rs'))
    {items : List StreamItem} (hitems : rs'.stream = some items) :
    ∃ items₀, rs.stream = some items₀ ∧ items <:+ items₀ := by
  cases call with
  | next =>
    obtain ⟨⟨outcome, rs₁⟩, hnext, h⟩ := Fallible.bind_eq_ok.1 h
    cases h
    rcases hstream : rs.stream with _ | _ | ⟨item, rest⟩
    · rw [next_of_closed hstream] at hnext
      cases hnext
      rw [hstream] at hitems
      cases hitems
    · rw [next_ended hstream] at hnext
      cases hnext
      cases hitems
    · rw [next_item hstream hnext, Option.some.injEq] at hitems
      exact ⟨_, rfl, hitems ▸ List.suffix_cons item rest⟩
  | close =>
    cases h
    cases hitems
  | getActive =>
    cases h
    exact ⟨items, hitems, List.suffix_rfl⟩

end Step

/-! ## Runs -/

section Lifecycle

variable {ripemd160} {rs₀ : Recordset} {calls : List Method}

theorem Unbroken.cons {call : Method} (h : Unbroken ripemd160 rs₀ (call :: calls)) :
    (call = .next → ¬ rs₀.Failing) ∧
      ∀ e rs₁, step ripemd160 rs₀ call = .ok (e, rs₁) → Unbroken ripemd160 rs₁ calls := by
  constructor
  · rintro rfl
    exact h [] calls [] rs₀ rfl rfl
  · intro e rs₁ hstep before after events rs hcalls hrun
    refine h (call :: before) after (e :: events) rs (by rw [hcalls]; rfl) ?_
    exact (Run.run_cons_eq_ok _).2 ⟨e, rs₁, events, hstep, hrun, rfl⟩

/-- An unbroken run: the recordset is active at the end iff it was at the
    beginning and no event ended it. -/
theorem getActive_run (h : Unbroken ripemd160 rs₀ calls) {events : List Event} {rs : Recordset}
    (hrun : run ripemd160 rs₀ calls = .ok (events, rs)) :
    rs.getActive = true ↔ rs₀.getActive = true ∧ ∀ e ∈ events, ¬ e.Ends := by
  induction calls generalizing rs₀ events with
  | nil =>
    cases hrun
    simp
  | cons call calls ih =>
    obtain ⟨e, rs₁, events', hstep, hrun', rfl⟩ := (Run.run_cons_eq_ok _).1 hrun
    rw [ih (h.cons.2 e rs₁ hstep) hrun', getActive_step h.cons.1 hstep, List.forall_mem_cons,
      and_assoc]

/-- Calls read a stream from its front on. -/
theorem stream_suffix {events : List Event} {rs : Recordset} {items : List StreamItem}
    (hrun : run ripemd160 rs₀ calls = .ok (events, rs)) (hitems : rs.stream = some items) :
    ∃ items₀, rs₀.stream = some items₀ ∧ items <:+ items₀ := by
  induction calls generalizing rs₀ events with
  | nil =>
    cases hrun
    exact ⟨items, hitems, List.suffix_rfl⟩
  | cons call calls ih =>
    obtain ⟨e, rs₁, events', hstep, hrun', rfl⟩ := (Run.run_cons_eq_ok _).1 hrun
    obtain ⟨items₁, hitems₁, hsuffix⟩ := ih hrun'
    obtain ⟨items₀, hitems₀, hsuffix₀⟩ := stream_suffix_step hstep hitems₁
    exact ⟨items₀, hitems₀, hsuffix.trans hsuffix₀⟩

/-- On a stream without a transport failure no run meets one. -/
theorem unbroken_of_stream {stream : List StreamItem} {p : Proto.PartitionFilter}
    (h : ∀ text, .error text ∉ stream) : Unbroken ripemd160 ⟨some stream, p⟩ calls := by
  rintro before after events rs - hrun ⟨text, rest, hstream⟩
  obtain ⟨items₀, hitems₀, hsuffix⟩ := stream_suffix hrun hstream
  cases hitems₀
  exact h text (hsuffix.subset List.mem_cons_self)

/-- A recordset that is inactive when it is over is silent too. -/
theorem lawful_of_active {events : List Event} {rs : Recordset}
    (h : rs.getActive = true ↔ ∀ e ∈ events, ¬ e.Ends) : Lawful ripemd160 events rs where
  active := h
  silent := by
    rintro ⟨e, he, hends⟩
    have hactive : ¬ rs.getActive = true := fun hactive => h.1 hactive e he hends
    have hstream : rs.stream = none := getActive_eq_false.1 (Bool.eq_false_of_not_eq_true hactive)
    exact ⟨reads_of_closed hstream, next_of_closed hstream⟩

/-- After a transport failure the law is broken: the failure was read, and the
    recordset is active. -/
theorem not_lawful_of_failing {events : List Event} {rs : Recordset} (h : rs.Failing) :
    ∃ e rs', step ripemd160 rs .next = .ok (e, rs') ∧ ¬ Lawful ripemd160 (events ++ [e]) rs' := by
  obtain ⟨text, rest, hreads, hnext⟩ := @next_failing ripemd160 rs h
  refine ⟨_, _, by rw [step, hnext]; rfl, ?_⟩
  intro hlawful
  have hactive := hlawful.active.1 rfl
  refine hactive (.next rs.reads (.throws (.new text))) (by simp) ?_
  rw [hreads]
  trivial

/-- **Main theorem.** A program calls the methods of a recordset in any order. In
    every state it goes through, the recordset is active iff it has not been closed
    and no call of `next` has read the end of the stream or a transport failure,
    and is silent otherwise, iff no call of `next` is made while a transport
    failure is next on the stream. -/
theorem lifecycle_iff (ripemd160 : List UInt8 → Digest) (stream : List StreamItem)
    (p : Proto.PartitionFilter) (calls : List Method) :
    Lifecycle ripemd160 ⟨some stream, p⟩ calls ↔ Unbroken ripemd160 ⟨some stream, p⟩ calls := by
  constructor
  · intro h before after events rs hcalls hrun hfailing
    obtain ⟨e, rs', hstep, hnot⟩ := @not_lawful_of_failing ripemd160 events rs hfailing
    refine hnot (h (before ++ [.next]) after _ _ (by rw [hcalls, List.append_assoc]; rfl) ?_)
    have hnext : Run.run (step ripemd160) rs [.next] = .ok ([e], rs') :=
      (Run.run_cons_eq_ok _).2 ⟨e, rs', [], hstep, rfl, rfl⟩
    rw [run] at hrun ⊢
    rw [Run.run_append, hrun, Fallible.ok_bind, hnext]
    rfl
  · intro h before after events rs hcalls hrun
    have hbefore : Unbroken ripemd160 ⟨some stream, p⟩ before := by
      intro before' after' events' rs' hbefore' hrun'
      exact h before' (after' ++ after) events' rs' (by rw [hcalls, hbefore']; simp) hrun'
    refine lawful_of_active ?_
    rw [getActive_run hbefore hrun]
    simp [getActive]

/-- The connection breaks on the first read: the recordset is still active, and
    the next call of `next` reads the stream again. -/
theorem failure_keeps_active :
    (∃ rs, run (fun _ => List.Vector.replicate 20 0)
        ⟨some [.error "transport error"], PartitionFilter.all⟩ [.next, .getActive, .next] =
      .ok ([.next (some (some (.error "transport error"))) (.throws (.new "transport error")),
        .active true, .next (some none) .nothing], rs)) ∧
      ¬ Lifecycle (fun _ => List.Vector.replicate 20 0)
        ⟨some [.error "transport error"], PartitionFilter.all⟩ [.next, .getActive, .next] := by
  refine ⟨⟨_, rfl⟩, ?_⟩
  intro h
  have hlawful := h [.next] [.getActive, .next] _ _ rfl rfl
  exact hlawful.active.1 rfl _ List.mem_cons_self trivial

end Lifecycle

end Recordset

end AerospikePhp
