import AerospikePhp.Lib.Linearize
import AerospikePhp.Store.Program

/-!
# Many programs over one cluster

The worker processes of a web server share a connection manager. Each of them sends a request
and waits for the response (`src/lib.rs`: every method of `Client` holds the lock of its
connection meanwhile), and the connection manager serves the requests of all of them at a time,
each in a goroutine (`main.go` lines 109–143). The Go client performs the call of a request at
one point of time. When a connection breaks, the program is told so, and the request may have
been performed, or may be performed later, or never.

Results:
* `concurrent_store`: the programs together use one store, as if the commands were issued one
  by one in an order that keeps commands apart that do not overlap.
* `concurrent_read_your_writes`, `concurrent_deleted_not_found`: a program reads what another
  one has written before, or has deleted, unless a third one writes the record at the time.
-/

namespace AerospikePhp

open Linearize Records

variable {lib : KeyClient} {σ ν : Type}

/-! ## Requests -/

/-- What becomes of a command when its request is performed: what its program will see, and the
    state of the cluster after it. -/
def storeServe (S : Aero.ValueString) (cluster : Aero.Cluster σ) (statusText : Panic → String)
    (s : σ) (c : (k : SingleKind) × StoreCommand lib k) : Except Panic (Answered lib) × σ :=
  ((c.2.command.call (Server.kvs lib.newKey S (cluster.client s) statusText)).map
      fun res => ⟨c.1, c.2, res⟩,
    match c.2.command.goCall lib.newKey S with
    | .ok call => cluster.after call s
    | .error _ => s)

/-- The cluster and the commands of all programs. -/
abbrev SharedStore (lib : KeyClient) (σ ν : Type) :=
  Shared σ ν ((k : SingleKind) × StoreCommand lib k) (Except Panic (Answered lib))

/-- The commands as they are issued, performed and answered, or given up. -/
abbrev StoreEvent (lib : KeyClient) (ν : Type) :=
  Event ν ((k : SingleKind) × StoreCommand lib k)

/-- The command of the name `n` was performed, with this answer. -/
def Performed (w : SharedStore lib σ ν) (n : ν) (a : Answered lib) : Prop :=
  ∃ waiting, w.calls n = some ⟨⟨a.kind, a.cmd⟩, some (.ok a), waiting⟩

theorem Performed.unique {w : SharedStore lib σ ν} {n : ν} {a b : Answered lib}
    (ha : Performed w n a) (hb : Performed w n b) : a = b := by
  obtain ⟨_, ha⟩ := ha
  obtain ⟨_, hb⟩ := hb
  have heq := Option.some.inj (ha.symm.trans hb)
  exact Except.ok.inj (Option.some.inj (congrArg Call.answer heq))

/-- A command that was performed, as the log has it. -/
def Answered.logged (e : ν × Answered lib) :
    ν × ((k : SingleKind) × StoreCommand lib k) × Except Panic (Answered lib) :=
  (e.1, ⟨e.2.kind, e.2.cmd⟩, .ok e.2)

section Serve

variable {S : Aero.ValueString} {cluster : Aero.Cluster σ} {statusText : Panic → String}
  {table : σ → Table Place String Aero.Value}

theorem storeServe_of_step {s s' : σ} {c : (k : SingleKind) × StoreCommand lib k}
    {a : Answered lib} (h : storeStep S cluster statusText s c = .ok (a, s')) :
    storeServe S cluster statusText s c = (.ok a, s') := by
  obtain ⟨res, hres, h⟩ := Fallible.bind_eq_ok.1 h
  cases h
  unfold storeServe
  rw [hres]
  rfl

/-! ## The commands one by one -/

variable (S statusText) in
/-- Performed one by one, the commands are answered, and the answers are explained. -/
theorem played_explained (hkeeps : cluster.Keeps table) {s : σ} {t : Store}
    (ht : table s = t.map Arg.toAero) (cs : List ((k : SingleKind) × StoreCommand lib k)) :
    ∃ as t', (play (storeServe S cluster statusText) s cs).1 = as.map .ok ∧
      as.map (fun a => (⟨a.kind, a.cmd⟩ : (k : SingleKind) × StoreCommand lib k)) = cs ∧
      table (play (storeServe S cluster statusText) s cs).2 = t'.map Arg.toAero ∧
      ExplainedRun S t as t' := by
  induction cs generalizing s t with
  | nil => exact ⟨[], t, rfl, rfl, ht, .nil⟩
  | cons c cs ih =>
    have hexplained : ∃ res s' t', storeStep S cluster statusText s c = .ok (⟨c.1, c.2, res⟩, s') ∧
        table s' = t'.map Arg.toAero ∧ Explained S t ⟨c.1, c.2, res⟩ t' :=
      step_explained hkeeps ht c
    obtain ⟨res, s₁, t₁, hstep, ht₁, hexplained⟩ := hexplained
    obtain ⟨as, t', hanswers, hcmds, ht', hexplaineds⟩ := ih ht₁
    have hserve := storeServe_of_step hstep
    refine ⟨⟨c.1, c.2, res⟩ :: as, t', ?_, ?_, ?_, .cons hexplained hexplaineds⟩
    · rw [play, hserve, hanswers]
      rfl
    · rw [List.map_cons, hcmds]
    · rw [play, hserve]
      exact ht'

/-- A log is that of answers, if its inputs and outputs are. -/
theorem exists_logged :
    ∀ {log : List (ν × ((k : SingleKind) × StoreCommand lib k) × Except Panic (Answered lib))}
      {as : List (Answered lib)},
      as.map (fun a => (⟨a.kind, a.cmd⟩ : (k : SingleKind) × StoreCommand lib k)) =
        log.map (fun e => e.2.1) →
      log.map (fun e => e.2.2) = as.map .ok →
      ∃ as' : List (ν × Answered lib), as'.map Answered.logged = log ∧ as'.map Prod.snd = as
  | [], [], _, _ => ⟨[], rfl, rfl⟩
  | ⟨n, c, o⟩ :: log, a :: as, hinputs, houtputs => by
    simp only [List.map_cons, List.cons.injEq] at hinputs houtputs
    obtain ⟨as', hlog, has⟩ := exists_logged hinputs.2 houtputs.2
    refine ⟨(n, a) :: as', ?_, by rw [List.map_cons, has]⟩
    rw [List.map_cons, hlog, ← hinputs.1, houtputs.1]
    rfl
  | [], _ :: _, h, _ => by cases h
  | _ :: _, [], h, _ => by cases h

theorem logged_injective : Function.Injective (@Answered.logged lib ν) := by
  rintro ⟨n, a⟩ ⟨m, b⟩ h
  obtain ⟨hn, h⟩ := Prod.mk.inj h
  obtain ⟨-, h⟩ := Prod.mk.inj h
  cases hn
  cases h
  rfl

variable [DecidableEq ν]

/-- A run of programs is linearized by answers that are explained. -/
theorem exists_explained (hkeeps : cluster.Keeps table) {s : σ} {t : Store}
    (ht : table s = t.map Arg.toAero) {es : List (StoreEvent lib ν)} {w : SharedStore lib σ ν}
    (hrun : Transition.run (Shared.step (storeServe S cluster statusText)) (Shared.start s) es =
      some w) :
    ∃ (as : List (ν × Answered lib)) (t' : Store),
      Linearized (storeServe S cluster statusText) s es w (as.map Answered.logged) ∧
      table w.object = t'.map Arg.toAero ∧ ExplainedRun S t (as.map Prod.snd) t' := by
  obtain ⟨log, hlog⟩ := exists_linearized hrun
  obtain ⟨as, t', hanswers, hcmds, ht', hexplained⟩ :=
    played_explained S statusText hkeeps ht (log.map fun e => e.2.1)
  rw [hlog.played] at hanswers ht'
  obtain ⟨as', rfl, rfl⟩ := exists_logged hcmds hanswers
  exact ⟨as', t', hlog, ht', hexplained⟩

/-- **Main theorem.** Whatever programs do at the same time over a cluster that keeps records,
    and whichever requests they lose: every request that was performed has an answer, and the
    answers, in the order in which the requests were performed, are explained one by one by a
    single store. A command that is issued after another one was answered comes after it. -/
theorem concurrent_store (hkeeps : cluster.Keeps table) {s : σ} {t : Store}
    (ht : table s = t.map Arg.toAero) {es : List (StoreEvent lib ν)} {w : SharedStore lib σ ν}
    (hrun : Transition.run (Shared.step (storeServe S cluster statusText)) (Shared.start s) es =
      some w) :
    ∃ (as : List (ν × Answered lib)) (t' : Store),
      as.map Prod.fst = performed es ∧ (performed es).Nodup ∧
      (∀ n a, (n, a) ∈ as ↔ Performed w n a) ∧
      (∀ n c o waiting, w.calls n = some ⟨c, some o, waiting⟩ → ∃ a, Performed w n a) ∧
      (∀ n m, Precedes es n m → m ∈ performed es → Before (performed es) n m) ∧
      table w.object = t'.map Arg.toAero ∧ ExplainedRun S t (as.map Prod.snd) t' := by
  obtain ⟨as, t', hlog, ht', hexplained⟩ := exists_explained hkeeps ht hrun
  have hmem : ∀ n a, (n, a) ∈ as ↔ Performed w n a := by
    intro n a
    rw [← List.mem_map_of_injective logged_injective]
    exact hlog.mem n ⟨a.kind, a.cmd⟩ (.ok a)
  have hnames : as.map Prod.fst = performed es := by
    rw [← hlog.names, List.map_map]
    rfl
  refine ⟨as, t', hnames, hlog.nodup, hmem, ?_,
    fun n m hprec hm => hprec.performed hrun hm, ht', hexplained⟩
  intro n c o waiting hcall
  have hperformed : n ∈ performed es := hlog.mem_performed.2 ⟨c, o, waiting, hcall⟩
  rw [← hnames, List.mem_map] at hperformed
  obtain ⟨⟨m, a⟩, ha, rfl⟩ := hperformed
  exact ⟨a, (hmem m a).1 ha⟩

/-! ## Commands that do not overlap -/

/-- The answers of two commands, one issued after the other was answered, are explained by one
    store, which no answer in between changes at a place that no overlapping command writes. -/
theorem explained_between (hkeeps : cluster.Keeps table) {s : σ} {t : Store}
    (ht : table s = t.map Arg.toAero) {es : List (StoreEvent lib ν)} {w : SharedStore lib σ ν}
    (hrun : Transition.run (Shared.step (storeServe S cluster statusText)) (Shared.start s) es =
      some w) {n m : ν} {a b : Answered lib} (hn : Performed w n a) (hm : Performed w m b)
    (hprec : Precedes es n m) {p : Place}
    (hothers : ∀ k c, Performed w k c → c.cmd.Writes p → k ≠ n →
      Precedes es k n ∨ Precedes es m k) :
    ∃ before between after t', ExplainedRun S t (before ++ a :: (between ++ b :: after)) t' ∧
      ∀ c ∈ between, ¬ c.cmd.Writes p := by
  obtain ⟨as, t', hlog, -, hexplained⟩ := exists_explained hkeeps ht hrun
  have hn' : Answered.logged (n, a) ∈ as.map Answered.logged := (hlog.mem _ _ _).2 hn
  have hm' : Answered.logged (m, b) ∈ as.map Answered.logged := (hlog.mem _ _ _).2 hm
  obtain ⟨l₁, l₂, l₃, hsplit, hbetween⟩ := hlog.exists_between hrun hn' hm' hprec
  obtain ⟨as₁, rest₁, rfl, -, hrest₁⟩ := List.map_eq_append_iff.1 hsplit
  obtain ⟨e, rest₂, rfl, he, hrest₂⟩ := List.map_eq_cons_iff.1 hrest₁
  obtain ⟨as₂, rest₃, rfl, hl₂, hrest₃⟩ := List.map_eq_append_iff.1 hrest₂
  obtain ⟨e', as₃, rfl, he', -⟩ := List.map_eq_cons_iff.1 hrest₃
  cases logged_injective he
  cases logged_injective he'
  subst hl₂
  rw [List.map_append, List.map_cons, List.map_append, List.map_cons] at hexplained
  refine ⟨_, _, _, t', hexplained, ?_⟩
  intro c hc hwrites
  obtain ⟨⟨k, c'⟩, hk, rfl⟩ := List.mem_map.1 hc
  obtain ⟨hne, hnotBefore, hnotAfter⟩ := hbetween _ (List.mem_map_of_mem hk)
  have hmem : (k, c') ∈ as₁ ++ (n, a) :: (as₂ ++ (m, b) :: as₃) := by simp [hk]
  have hperformed : Performed w k c' := (hlog.mem _ _ _).1 (List.mem_map_of_mem hmem)
  rcases hothers k c' hperformed hwrites hne with hbefore | hafter
  · exact hnotBefore hbefore
  · exact hnotAfter hafter

/-- A record that a program deleted is not found by a get that is issued after the delete was
    answered, unless a command that writes the record is performed at the time. -/
theorem concurrent_deleted_not_found (hkeeps : cluster.Keeps table) {s : σ} {t : Store}
    (ht : table s = t.map Arg.toAero) {es : List (StoreEvent lib ν)} {w : SharedStore lib σ ν}
    (hrun : Transition.run (Shared.step (storeServe S cluster statusText)) (Shared.start s) es =
      some w) {n m : ν} {policy : Proto.WritePolicy} {policy' : Proto.ReadPolicy}
    {key key' : ProgramKey lib} {names : Option (List String)}
    {res : CallResult SingleKind.flag.Php} {res' : CallResult SingleKind.record.Php} {b : Bool}
    {o : Option Proto.Record}
    (hdelete : Performed w n ⟨.flag, .delete policy key, res⟩) (hres : res.Returns b)
    (hget : Performed w m ⟨.record, .get policy' key' names, res'⟩) (hres' : res'.Returns o)
    (hprec : Precedes es n m)
    (hothers : ∀ k c, Performed w k c → c.cmd.Writes key.place → k ≠ n →
      Precedes es k n ∨ Precedes es m k)
    (hplace : key'.place = key.place) : o = none := by
  obtain ⟨before, between, after, t', hexplained, hbetween⟩ :=
    explained_between hkeeps ht hrun hdelete hget hprec hothers
  exact hexplained.misses_deleted hres hbetween hres' hplace

end Serve

/-! ## Programs and a counter -/

/-- A command in memory. -/
def counterServe : Memory → (k : SingleKind) × StoreCommand (KeyClient.ofHash digestOfOne) k →
    Except Panic (Answered (KeyClient.ofHash digestOfOne)) × Memory :=
  storeServe .strings Memory.cluster fun _ => ""

/-- What is performed of a run has a name in it. -/
theorem mem_of_performed {es : List (StoreEvent (KeyClient.ofHash digestOfOne) Nat)}
    {w : SharedStore (KeyClient.ofHash digestOfOne) Memory Nat}
    (hrun : Transition.run (Shared.step counterServe) (Shared.start fun _ => none) es = some w)
    {k : Nat} {c : Answered (KeyClient.ofHash digestOfOne)} (h : Performed w k c) :
    k ∈ performed es := by
  obtain ⟨waiting, hcall⟩ := h
  obtain ⟨log, hlog⟩ := exists_linearized hrun
  exact hlog.mem_performed.2 ⟨_, _, waiting, hcall⟩

/-- One program puts the counter, another one reads it, and a third one loses a delete. -/
def readEvents : List (StoreEvent (KeyClient.ofHash digestOfOne) Nat) :=
  [.invoke 0 ⟨_, putCounter⟩, .perform 0, .answer 0, .invoke 1 ⟨_, getCounter⟩,
    .invoke 2 ⟨_, deleteCounter⟩, .giveUp 2, .perform 1, .answer 1]

theorem readEvents_run :
    ∃ w res' o, Transition.run (Shared.step counterServe) (Shared.start fun _ => none) readEvents =
        some w ∧ Performed w 0 ⟨_, putCounter, ⟨[], .ok ()⟩⟩ ∧
      Performed w 1 ⟨_, getCounter, res'⟩ ∧ res'.Returns o :=
  ⟨_, _, _, rfl, ⟨false, rfl⟩, ⟨false, rfl⟩, rfl, rfl⟩

/-- Their answers are explained. -/
theorem concurrent_store_counter :
    ∃ w, ∃ as : List (Nat × Answered (KeyClient.ofHash digestOfOne)), ∃ t' : Store,
      Transition.run (Shared.step counterServe) (Shared.start fun _ => none) readEvents =
        some w ∧ as.map Prod.fst = performed readEvents ∧
      (∀ n a, (n, a) ∈ as ↔ Performed w n a) ∧ Memory.table w.object = t'.map Arg.toAero ∧
      ExplainedRun .strings (fun _ => none) (as.map Prod.snd) t' := by
  obtain ⟨w, -, -, hrun, -⟩ := readEvents_run
  obtain ⟨as, t', hnames, -, hmem, -, -, ht', hexplained⟩ :=
    concurrent_store (t := fun _ => none) Memory.keeps rfl hrun
  exact ⟨w, as, t', hrun, hnames, hmem, ht', hexplained⟩

/-- One program puts the counter, another one deletes it, and a third one reads it. -/
def deleteEvents : List (StoreEvent (KeyClient.ofHash digestOfOne) Nat) :=
  [.invoke 0 ⟨_, putCounter⟩, .perform 0, .answer 0, .invoke 1 ⟨_, deleteCounter⟩, .perform 1,
    .answer 1, .invoke 2 ⟨_, getCounter⟩, .perform 2]

theorem deleteEvents_run :
    ∃ w res' o, Transition.run (Shared.step counterServe) (Shared.start fun _ => none)
        deleteEvents = some w ∧ Performed w 1 ⟨_, deleteCounter, ⟨[], .ok true⟩⟩ ∧
      Performed w 2 ⟨_, getCounter, res'⟩ ∧ res'.Returns o :=
  ⟨_, _, _, rfl, ⟨false, rfl⟩, ⟨true, rfl⟩, rfl, rfl⟩

/-- The counter is not found. -/
theorem concurrent_deleted_not_found_counter :
    ∃ w res', Transition.run (Shared.step counterServe) (Shared.start fun _ => none)
        deleteEvents = some w ∧ Performed w 2 ⟨_, getCounter, res'⟩ ∧ res'.Returns none := by
  obtain ⟨w, res', o, hrun, hdelete, hget, hres'⟩ := deleteEvents_run
  have hprec : Precedes deleteEvents 1 2 :=
    ⟨deleteEvents.take 6, deleteEvents.drop 6, rfl, by simp [deleteEvents], ⟨_, getCounter⟩,
      by simp [deleteEvents]⟩
  have hothers : ∀ k c, Performed w k c → c.cmd.Writes counterKey.place → k ≠ 1 →
      Precedes deleteEvents k 1 ∨ Precedes deleteEvents 2 k := by
    intro k c hk hwrites hne
    have hmem : k ∈ [0, 1, 2] := mem_of_performed hrun hk
    simp only [List.mem_cons, List.not_mem_nil, or_false] at hmem
    rcases hmem with rfl | rfl | rfl
    · exact .inl ⟨deleteEvents.take 3, deleteEvents.drop 3, rfl, by simp [deleteEvents],
        ⟨_, deleteCounter⟩, by simp [deleteEvents]⟩
    · exact absurd rfl hne
    · rw [hk.unique hget] at hwrites
      exact absurd hwrites id
  have hnone : o = none :=
    concurrent_deleted_not_found (t := fun _ => none) Memory.keeps rfl hrun hdelete ⟨rfl, rfl⟩
      hget hres' hprec hothers rfl
  rw [hnone] at hres'
  exact ⟨w, res', hrun, hget, hres'⟩

end AerospikePhp
