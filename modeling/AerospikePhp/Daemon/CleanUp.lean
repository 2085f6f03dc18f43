import AerospikePhp.Daemon.Sockets

/-!
# What a signal leaves

On a signal, `cleanUp` removes the sockets of all clusters and the process exits
(`main.go` lines 61–67 and 77–87). The goroutines of the clusters go on meanwhile. One that binds
its socket after `cleanUp` has passed it leaves a file, and one that fails ends the process before
`cleanUp` is through.

Results:
* `cleansUp_iff`: the states in which a signal leaves no socket, in whichever order the
  goroutines and `cleanUp` go on, and whoever of them ends the process.
-/

namespace AerospikePhp.Daemon

open Config Transition

variable {Authority KeyPair File : Type}

/-- A goroutine that is past `net.Listen`, after which nothing ends the process. -/
def Phase.isPast : Phase Authority KeyPair → Bool
  | serving _ | closed | ended => true
  | starting | connected _ => false

namespace Setup

variable {setup : Setup Authority KeyPair File} {d d' : State Authority KeyPair File} {e : Event}

/-- Every goroutine is past `net.Listen`. -/
def Settled (d : State Authority KeyPair File) : Prop :=
  ∀ (i : ℕ) (phase : Phase Authority KeyPair), d.phases[i]? = some phase → phase.isPast = true

/-- Cluster `i` has yet to bind its socket, and nothing of its own stops it. -/
def CanListen (setup : Setup Authority KeyPair File) (d : State Authority KeyPair File) (i : ℕ) :
    Prop :=
  (∃ cp, d.phases[i]? = some (.connected cp)) ∨
    d.phases[i]? = some .starting ∧ ∃ cp, setup.policyAt i = some (.ok cp)

/-- No socket is there, and none will be. -/
def Bare (setup : Setup Authority KeyPair File) (d : State Authority KeyPair File) : Prop :=
  ∀ i file, setup.fileAt i = some file → file ∉ d.files ∧ ¬ setup.CanListen d i

variable [DecidableEq File]

/-- A signal in the state `d`, all removals permitted, leaves none of the sockets when the
    process has ended. -/
def CleansUp (setup : Setup Authority KeyPair File) (d : State Authority KeyPair File) : Prop :=
  ∀ order es d', (∀ e ∈ es, e ≠ Event.remove false) →
    run setup.step d (.signal order :: es) = some d' → d'.status = .exited →
    ∀ i file, setup.fileAt i = some file → file ∉ d'.files

/-! ## Every goroutine is past `net.Listen` -/

/-- What holds from the signal on when every goroutine is past `net.Listen`: the files of sockets
    that are still there are ahead of `cleanUp`. -/
structure Cleaning (setup : Setup Authority KeyPair File) (d : State Authority KeyPair File) :
    Prop where
  notRunning : d.status ≠ .running
  settled : Settled d
  ahead : ∀ i file, setup.fileAt i = some file → file ∈ d.files →
    ∃ sockets socket, d.status = .cleaning sockets ∧ setup.socketAt i = some socket ∧
      socket ∈ sockets

namespace Cleaning

omit [DecidableEq File] in
theorem not_isPast (h : Cleaning setup d) {i : ℕ} {phase : Phase Authority KeyPair}
    (hphase : d.phases[i]? = some phase) (hpast : phase.isPast = false) : False := by
  have htrue := h.settled i phase hphase
  rw [hpast] at htrue
  cases htrue

omit [DecidableEq File] in
/-- A goroutine goes on, and no file is made. -/
theorem setPhase (h : Cleaning setup d) {i : ℕ} {phase phase₀ : Phase Authority KeyPair}
    {files : Finset File} (hphase : d.phases[i]? = some phase₀) (hpast : phase.isPast = true)
    (hfiles : ∀ file ∈ files, file ∈ d.files) :
    Cleaning setup { d.setPhase i phase with files := files } := by
  refine ⟨h.notRunning, ?_, ?_⟩
  · intro j phase' hj
    rcases phase_setPhase hphase hj with ⟨-, rfl⟩ | ⟨-, hj⟩
    · exact hpast
    · exact h.settled j phase' hj
  · intro j file hfile hmem
    exact h.ahead j file hfile (hfiles file hmem)

theorem step (h : Cleaning setup d) (he : e ≠ .remove false) (hstep : setup.step d e = some d') :
    Cleaning setup d' := by
  cases step_iff.1 hstep with
  | connected _ hphase _ => exact (h.not_isPast hphase rfl).elim
  | refused _ hphase _ _ => exact (h.not_isPast hphase rfl).elim
  | listens _ hphase _ => exact (h.not_isPast hphase rfl).elim
  | fails _ hphase _ => exact (h.not_isPast hphase rfl).elim
  | closes _ hserving =>
    obtain ⟨cp, hphase⟩ := hserving
    exact h.setPhase hphase rfl fun file hfile => (mem_unlink.1 hfile).1
  | ends _ hphase => exact h.setPhase hphase rfl fun file hfile => (mem_unlink.1 hfile).1
  | signal hrunning => exact absurd hrunning h.notRunning
  | @removed socket rest hstatus =>
    refine ⟨by simp, h.settled, ?_⟩
    intro i file hfile hmem
    obtain ⟨hmem, hne⟩ := mem_unlink.1 hmem
    obtain ⟨sockets, socket', hcleaning, hsocket', hahead⟩ := h.ahead i file hfile hmem
    rw [hstatus] at hcleaning
    cases hcleaning
    refine ⟨rest, socket', rfl, hsocket', ?_⟩
    rcases List.mem_cons.1 hahead with rfl | hahead
    · have hpath := pathAt_of_fileAt hfile
      rw [pathAt, hsocket'] at hpath
      exact absurd hpath hne
    · exact hahead
  | remains => exact absurd rfl he
  | exit hstatus =>
    refine ⟨by simp [State.exit], h.settled, ?_⟩
    intro i file hfile hmem
    obtain ⟨sockets, socket, hcleaning, -, hahead⟩ := h.ahead i file hfile hmem
    rw [hstatus] at hcleaning
    cases hcleaning
    simp at hahead

end Cleaning

theorem cleansUp_of_settled (hsettled : Settled d) : setup.CleansUp d := by
  intro order es d' hes hrun hexited i file hfile hmem
  obtain ⟨d₁, hsignal, hrun⟩ := (run_cons_eq_some _).1 hrun
  have hstart : Cleaning setup d₁ := by
    cases step_iff.1 hsignal with
    | signal _ hperm =>
      refine ⟨by simp, hsettled, ?_⟩
      intro j file' hfile' _
      obtain ⟨socket, hsocket, -⟩ := Option.bind_eq_some_iff.1 (fileAt_eq_some.1 hfile')
      obtain ⟨cluster, hcluster, heq⟩ := exists_conf hsocket
      refine ⟨order, socket, rfl, hsocket, hperm.mem_iff.2 ?_⟩
      exact List.mem_map.2 ⟨cluster, List.mem_of_getElem? hcluster, heq⟩
  have hend : Cleaning setup d' :=
    run_invariant setup.step (fun _ _ _ he hs hstep => hs.step he hstep) hes hstart hrun
  obtain ⟨sockets, -, hcleaning, -⟩ := hend.ahead i file hfile hmem
  rw [hexited] at hcleaning
  cases hcleaning

/-! ## No socket is there -/

omit [DecidableEq File] in
/-- A goroutine that goes on makes no other able to bind. -/
theorem canListen_of_setPhase {i j : ℕ} {phase phase₀ : Phase Authority KeyPair}
    (h : d.phases[i]? = some phase₀) (hj : setup.CanListen (d.setPhase i phase) j) :
    j = i ∧ ((∃ cp, phase = .connected cp) ∨ phase = .starting) ∨ setup.CanListen d j := by
  rcases hj with ⟨cp, hj⟩ | ⟨hj, hpolicy⟩
  · rcases phase_setPhase h hj with ⟨hji, heq⟩ | ⟨-, hj⟩
    · exact .inl ⟨hji, .inl ⟨cp, heq.symm⟩⟩
    · exact .inr (.inl ⟨cp, hj⟩)
  · rcases phase_setPhase h hj with ⟨hji, heq⟩ | ⟨-, hj⟩
    · exact .inl ⟨hji, .inr heq.symm⟩
    · exact .inr (.inr ⟨hj, hpolicy⟩)

namespace Bare

omit [DecidableEq File] in
/-- A goroutine goes on past `net.Listen`, and no file is made that a cluster binds. -/
theorem setPhase (h : Bare setup d) {i : ℕ} {phase phase₀ : Phase Authority KeyPair}
    {files : Finset File} (hphase : d.phases[i]? = some phase₀) (hpast : phase.isPast = true)
    (hfiles : ∀ file ∈ files, setup.fileAt i = some file ∧ setup.CanListen d i ∨ file ∈ d.files) :
    Bare setup { d.setPhase i phase with files := files } := by
  intro j file hfile
  constructor
  · intro hmem
    rcases hfiles file hmem with ⟨hi, hlisten⟩ | hmem
    · exact (h i file hi).2 hlisten
    · exact (h j file hfile).1 hmem
  · intro hj
    rcases canListen_of_setPhase hphase hj with ⟨-, ⟨cp, rfl⟩ | rfl⟩ | hj
    · cases hpast
    · cases hpast
    · exact (h j file hfile).2 hj

theorem step (h : Bare setup d) (hstep : setup.step d e = some d') : Bare setup d' := by
  cases step_iff.1 hstep with
  | @connected i cp _ hphase hpolicy =>
    intro j file hfile
    refine ⟨(h j file hfile).1, ?_⟩
    intro hj
    rcases canListen_of_setPhase hphase hj with ⟨rfl, -⟩ | hj
    · exact (h j file hfile).2 (.inr ⟨hphase, cp, hpolicy⟩)
    · exact (h j file hfile).2 hj
  | refused => exact h
  | @listens i cp _ hphase _ =>
    apply h.setPhase hphase rfl
    intro file hmem
    rcases mem_link.1 hmem with hfile | hmem
    · exact .inl ⟨hfile, .inl ⟨cp, hphase⟩⟩
    · exact .inr hmem
  | fails => exact h
  | closes _ hserving =>
    obtain ⟨cp, hphase⟩ := hserving
    exact h.setPhase hphase rfl fun file hmem => .inr (mem_unlink.1 hmem).1
  | ends _ hphase => exact h.setPhase hphase rfl fun file hmem => .inr (mem_unlink.1 hmem).1
  | signal => exact h
  | removed =>
    intro j file hfile
    refine ⟨?_, (h j file hfile).2⟩
    intro hmem
    exact (h j file hfile).1 (mem_unlink.1 hmem).1
  | remains => exact h
  | exit => exact h

end Bare

theorem cleansUp_of_bare (h : Bare setup d) : setup.CleansUp d := by
  intro order es d' _ hrun _ i file hfile
  have hend : Bare setup d' :=
    run_invariant (K := fun _ => True) setup.step (fun _ _ _ _ hs hstep => hs.step hstep)
      (fun _ _ => trivial) h hrun
  exact (hend i file hfile).1

/-! ## A goroutine that fails, and one that binds too late -/

/-- A goroutine that is not past `net.Listen` can end the process. -/
theorem exists_failure {i : ℕ} {phase : Phase Authority KeyPair} (hexited : d.status ≠ .exited)
    (hpolicy : ∃ policy, setup.policyAt i = some policy) (hphase : d.phases[i]? = some phase)
    (hpast : phase.isPast = false) :
    ∃ e, e ≠ Event.remove false ∧ setup.step d e = some d.exit := by
  cases phase with
  | starting =>
    obtain ⟨policy, hpolicy⟩ := hpolicy
    exact ⟨.connect i false, by simp, step_iff.2 (.refused hexited hphase hpolicy (.inr rfl))⟩
  | connected cp => exact ⟨.listen i false, by simp, step_iff.2 (.fails hexited hphase (.inl rfl))⟩
  | serving cp => cases hpast
  | closed => cases hpast
  | ended => cases hpast

/-- The files when `cleanUp` has gone through the sockets. -/
def unlinkAll (setup : Setup Authority KeyPair File) (sockets : List String)
    (files : Finset File) : Finset File :=
  sockets.foldl (fun files socket => unlink (setup.fileOf socket) files) files

theorem mem_unlinkAll {sockets : List String} {files : Finset File} {file : File} :
    file ∈ setup.unlinkAll sockets files ↔
      file ∈ files ∧ ∀ socket ∈ sockets, setup.fileOf socket ≠ some file := by
  unfold unlinkAll
  induction sockets generalizing files with
  | nil => simp
  | cons socket rest ih =>
    rw [List.foldl_cons, ih, mem_unlink]
    simp [and_assoc]

/-- `cleanUp` without an interruption. -/
theorem run_removes {sockets : List String} (hstatus : d.status = .cleaning sockets) :
    run setup.step d (List.replicate sockets.length (.remove true)) =
      some { d with files := setup.unlinkAll sockets d.files, status := .cleaning [] } := by
  induction sockets generalizing d with
  | nil =>
    rw [← hstatus]
    rfl
  | cons socket rest ih =>
    rw [List.length_cons, List.replicate_succ, run_cons_eq_some]
    exact ⟨_, step_iff.2 (.removed hstatus), ih rfl⟩

/-- From a state in which a cluster can bind a file, it does. -/
theorem exists_listen {i : ℕ} {file : File} (hexited : d.status ≠ .exited)
    (hfile : setup.fileAt i = some file) (hfree : file ∉ d.files) (hi : setup.CanListen d i) :
    ∃ es d', (∀ e ∈ es, e ≠ Event.remove false) ∧ run setup.step d es = some d' ∧
      d'.status = d.status ∧ file ∈ d'.files := by
  have hlisten : ∀ (d : State Authority KeyPair File) (cp : ClientPolicy Authority KeyPair),
      d.status ≠ .exited → file ∉ d.files → d.phases[i]? = some (.connected cp) →
      ∃ d', setup.step d (.listen i true) = some d' ∧ d'.status = d.status ∧ file ∈ d'.files := by
    intro d cp hexited hfree hphase
    refine ⟨_, step_iff.2 (.listens hexited hphase ?_), rfl, mem_link.2 (.inl hfile)⟩
    intro address haddress
    rw [fileAt_eq_some.1 hfile] at haddress
    cases haddress
    exact hfree
  rcases hi with ⟨cp, hphase⟩ | ⟨hphase, cp, hcp⟩
  · obtain ⟨d', hd', hrest⟩ := hlisten d cp hexited hfree hphase
    exact ⟨[.listen i true], d', by simp, (run_cons_eq_some _).2 ⟨d', hd', rfl⟩, hrest⟩
  · have hconnect := step_iff.2 (.connected hexited hphase hcp)
    obtain ⟨d', hd', hrest⟩ := hlisten (d.setPhase i (.connected cp)) cp hexited hfree
      (getElem?_setPhase_self hphase)
    refine ⟨[.connect i true, .listen i true], d', by simp, ?_, hrest⟩
    simp only [run_cons_eq_some]
    exact ⟨_, hconnect, d', hd', rfl⟩

/-- A socket that is there is left if a goroutine can still fail. -/
theorem not_mem_of_cleansUp (hd : d.status = .running) (h : setup.CleansUp d) {i j : ℕ}
    {phase : Phase Authority KeyPair} {file : File}
    (hpolicy : ∃ policy, setup.policyAt i = some policy) (hphase : d.phases[i]? = some phase)
    (hpast : phase.isPast = false) (hfile : setup.fileAt j = some file) : file ∉ d.files := by
  let d₁ : State Authority KeyPair File := { d with status := .cleaning setup.sockets }
  obtain ⟨e, he, hfails⟩ := exists_failure (d := d₁) (by simp [d₁]) hpolicy hphase hpast
  have hsignal : setup.step d (.signal setup.sockets) = some d₁ :=
    step_iff.2 (.signal hd (List.Perm.refl _))
  have hwhole : run setup.step d [.signal setup.sockets, e] = some d₁.exit := by
    simp only [run_cons_eq_some]
    exact ⟨d₁, hsignal, d₁.exit, hfails, rfl⟩
  exact h setup.sockets [e] d₁.exit (by simpa using he) hwhole rfl j file hfile

/-- A cluster that can bind after `cleanUp` leaves its socket. -/
theorem not_canListen_of_cleansUp (hd : d.status = .running) (h : setup.CleansUp d) {i : ℕ}
    {file : File} (hfile : setup.fileAt i = some file) : ¬ setup.CanListen d i := by
  intro hi
  obtain ⟨socket, hsocket, hpath⟩ := Option.bind_eq_some_iff.1 (pathAt_of_fileAt hfile)
  obtain ⟨cluster, hcluster, heq⟩ := exists_conf hsocket
  have hmem : socket ∈ setup.sockets :=
    List.mem_map.2 ⟨cluster, List.mem_of_getElem? hcluster, heq⟩
  let d₁ : State Authority KeyPair File := { d with status := .cleaning setup.sockets }
  let d₂ : State Authority KeyPair File :=
    { d₁ with files := setup.unlinkAll setup.sockets d.files, status := .cleaning [] }
  have hfree : file ∉ d₂.files := by
    intro hleft
    exact (mem_unlinkAll.1 hleft).2 socket hmem hpath
  obtain ⟨es, d₃, hes, hrun, hstatus, hbound⟩ :=
    exists_listen (d := d₂) (by simp [d₂]) hfile hfree hi
  have hsignal : setup.step d (.signal setup.sockets) = some d₁ :=
    step_iff.2 (.signal hd (List.Perm.refl _))
  have hexit : setup.step d₃ .exit = some d₃.exit := step_iff.2 (.exit hstatus)
  have hrest : run setup.step d₁ (List.replicate setup.sockets.length (.remove true) ++ es ++
      [.exit]) = some d₃.exit := by
    refine (run_concat_eq_some _).2 ⟨d₃, ?_, hexit⟩
    exact (run_append_eq_some _).2 ⟨d₂, run_removes rfl, hrun⟩
  refine h setup.sockets _ d₃.exit ?_ ((run_cons_eq_some _).2 ⟨d₁, hsignal, hrest⟩) rfl i file
    hfile hbound
  intro e he
  simp only [List.mem_append, List.mem_singleton] at he
  rcases he with (he | he) | rfl
  · rw [List.eq_of_mem_replicate he]
    simp
  · exact hes e he
  · simp

theorem length_step (hstep : setup.step d e = some d') : d'.phases.length = d.phases.length := by
  cases step_iff.1 hstep <;> simp [State.setPhase, State.exit]

/-- There is a goroutine for each cluster. -/
theorem length_run {files₀ : Finset File} {es : List Event}
    (hrun : run setup.step (setup.init files₀) es = some d) :
    d.phases.length = setup.conf.length := by
  refine run_invariant (I := fun d => d.phases.length = setup.conf.length) (K := fun _ => True)
    setup.step ?_ (fun _ _ => trivial) (by simp [init]) hrun
  intro d e d' _ hlength hstep
  exact (length_step hstep).trans hlength

/-- In a process that runs, a signal leaves no socket exactly when every goroutine is past
    `net.Listen`, or no socket is there and no cluster that has a file can still bind it. -/
theorem cleansUp_iff {files₀ : Finset File} {es : List Event}
    (hrun : run setup.step (setup.init files₀) es = some d) (hd : d.status = .running) :
    setup.CleansUp d ↔ Settled d ∨ Bare setup d := by
  have hlength := length_run hrun
  constructor
  · intro h
    by_cases hsettled : Settled d
    · exact .inl hsettled
    · right
      obtain ⟨i, phase, hphase, hpast⟩ :
          ∃ (i : ℕ) (phase : Phase Authority KeyPair),
            d.phases[i]? = some phase ∧ phase.isPast = false := by
        simpa [Settled] using hsettled
      have hi : i < setup.conf.length := hlength ▸ (List.getElem?_eq_some_iff.1 hphase).1
      intro j file hfile
      have hpolicy := policyAt_eq (List.getElem?_eq_getElem hi)
      exact ⟨not_mem_of_cleansUp hd h ⟨_, hpolicy⟩ hphase hpast hfile,
        not_canListen_of_cleansUp hd h hfile⟩
  · intro h
    rcases h with h | h
    · exact cleansUp_of_settled h
    · exact cleansUp_of_bare h

end Setup

/-- A signal right after the start can leave the socket. -/
theorem cleansUp_iff_start :
    ∃ ac, readSection bareMachine bareParsers [("socket", .string "/tmp/asld.sock")] = .ok ac ∧
      ¬ (oneCluster ac).CleansUp ((oneCluster ac).init ∅) := by
  refine ⟨_, rfl, ?_⟩
  intro h
  rcases (Setup.cleansUp_iff (run_nil _ _) rfl).1 h with hsettled | hbare
  · cases hsettled 0 .starting rfl
  · exact (hbare 0 "/tmp/asld.sock" rfl).2 (.inr ⟨rfl, _, rfl⟩)

end AerospikePhp.Daemon
