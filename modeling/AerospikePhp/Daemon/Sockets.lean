import AerospikePhp.Config.Tls
import AerospikePhp.Daemon.Basic

/-!
# Sockets of a process without a signal

A cluster binds its socket before it serves. When `Serve` returns, the listener has removed the
file of its address, and the deferred call removes what the path of the socket then names
(`main.go` lines 109–143): the file of another cluster, if that has bound it in between. A fatal
exit removes nothing.

Results:
* `one_server_iff`: the setups in which a socket file is always there from the start, or that of
  one cluster that serves.
* `never_dies_iff`: the setups that no order of the goroutines brings down.
* `not_served_again`: a file on which a process served when it ended is never served on again,
  by any later processes.
-/

namespace AerospikePhp.Daemon

open Config Transition

variable {Authority KeyPair File : Type}

/-! ## Kinds of events -/

namespace Event

def isSignal : Event → Bool
  | signal _ => true
  | _ => false

/-- A step of a goroutine in which nothing outside stands in the way. -/
def isPermitted : Event → Bool
  | connect _ accepted => accepted
  | listen _ permitted => permitted
  | serveEnds _ | deferred _ => true
  | signal _ | remove _ | exit => false

theorem isSignal_of_isPermitted {e : Event} (h : e.isPermitted = true) : e.isSignal = false := by
  cases e <;> simp_all [isPermitted, isSignal]

end Event

namespace Setup

variable {setup : Setup Authority KeyPair File} {d : State Authority KeyPair File}

/-! ## Who serves -/

theorem phase_unique {i : ℕ} {phase phase' : Phase Authority KeyPair}
    (h : d.phases[i]? = some phase) (h' : d.phases[i]? = some phase') : phase = phase' :=
  Option.some.inj (h.symm.trans h')

theorem getElem?_setPhase_self {i : ℕ} {phase phase₀ : Phase Authority KeyPair}
    (h : d.phases[i]? = some phase₀) : (d.setPhase i phase).phases[i]? = some phase := by
  have hi : i < d.phases.length := (List.getElem?_eq_some_iff.1 h).1
  simp [State.setPhase, hi]

theorem getElem?_setPhase_ne {i j : ℕ} {phase : Phase Authority KeyPair} (hij : i ≠ j) :
    (d.setPhase i phase).phases[j]? = d.phases[j]? := by
  simp [State.setPhase, List.getElem?_set_ne hij]

/-- A goroutine that goes on to a phase changes no other. -/
theorem phase_setPhase {i j : ℕ} {phase phase₀ phase' : Phase Authority KeyPair}
    (h : d.phases[i]? = some phase₀) (hj : (d.setPhase i phase).phases[j]? = some phase') :
    j = i ∧ phase' = phase ∨ j ≠ i ∧ d.phases[j]? = some phase' := by
  by_cases hji : j = i
  · subst hji
    rw [getElem?_setPhase_self h] at hj
    exact .inl ⟨rfl, (Option.some.inj hj).symm⟩
  · rw [getElem?_setPhase_ne (Ne.symm hji)] at hj
    exact .inr ⟨hji, hj⟩

theorem init_phases {files₀ : Finset File} {i : ℕ} {phase : Phase Authority KeyPair}
    (h : (setup.init files₀).phases[i]? = some phase) : phase = .starting := by
  have hmem : phase ∈ List.replicate setup.conf.length Phase.starting := List.mem_of_getElem? h
  exact List.eq_of_mem_replicate hmem

theorem not_serves_init {files₀ : Finset File} {i : ℕ} {address : Address File} :
    ¬ setup.Serves (setup.init files₀) i address := by
  intro h
  obtain ⟨cp, hphase⟩ := h.1
  cases init_phases hphase

/-- Nobody but a goroutine that goes on to serve begins to serve. -/
theorem serves_of_setPhase {i j : ℕ} {address : Address File}
    {phase phase₀ : Phase Authority KeyPair} (h : d.phases[i]? = some phase₀)
    (hj : setup.Serves (d.setPhase i phase) j address) :
    j = i ∧ (∃ cp, phase = .serving cp) ∨ j ≠ i ∧ setup.Serves d j address := by
  obtain ⟨⟨cp, hserving⟩, haddress⟩ := hj
  rcases phase_setPhase h hserving with ⟨rfl, heq⟩ | ⟨hji, hserving⟩
  · exact .inl ⟨rfl, cp, heq.symm⟩
  · exact .inr ⟨hji, ⟨cp, hserving⟩, haddress⟩

/-- A goroutine goes on to serve, or the others do. -/
theorem serves_setPhase_ne {i j : ℕ} {address : Address File} {phase : Phase Authority KeyPair}
    (hij : i ≠ j) (hj : setup.Serves d j address) :
    setup.Serves (d.setPhase i phase) j address := by
  obtain ⟨⟨cp, hserving⟩, haddress⟩ := hj
  exact ⟨⟨cp, (getElem?_setPhase_ne hij).trans hserving⟩, haddress⟩

theorem not_serves_of_phase {i : ℕ} {phase : Phase Authority KeyPair} {address : Address File}
    (h : d.phases[i]? = some phase) (hphase : ∀ cp, phase ≠ .serving cp) :
    ¬ setup.Serves d i address := by
  intro hi
  obtain ⟨cp, hserving⟩ := hi.1
  exact hphase cp (phase_unique h hserving)

/-! ## Every file has a reason -/

/-- No signal has come, and each file was there at the start or is that of a cluster that
    serves. -/
structure Accounted (setup : Setup Authority KeyPair File) (files₀ : Finset File)
    (d : State Authority KeyPair File) : Prop where
  notCleaning : ∀ sockets, d.status ≠ .cleaning sockets
  accounted : ∀ file ∈ d.files, file ∈ files₀ ∨ ∃ i, setup.Serves d i (.file file)

namespace Accounted

variable {files₀ : Finset File} {d' : State Authority KeyPair File} {e : Event}

theorem init (files₀ : Finset File) : Accounted setup files₀ (setup.init files₀) where
  notCleaning := by simp [Setup.init]
  accounted := fun _ hfile => .inl hfile

theorem exit (h : Accounted setup files₀ d) : Accounted setup files₀ d.exit where
  notCleaning := by simp [State.exit]
  accounted := h.accounted

/-- A goroutine goes on, and each file that is new is one on which it serves; it serves on no
    file that stays. -/
theorem setPhase (h : Accounted setup files₀ d) {i : ℕ} {phase : Phase Authority KeyPair}
    {files : Finset File}
    (hfiles : ∀ file ∈ files, setup.Serves (d.setPhase i phase) i (.file file) ∨
      file ∈ d.files ∧ ¬ setup.Serves d i (.file file)) :
    Accounted setup files₀ { d.setPhase i phase with files := files } := by
  refine ⟨h.notCleaning, ?_⟩
  intro file hfile
  rcases hfiles file hfile with hi | ⟨hold, hi⟩
  · exact .inr ⟨i, hi⟩
  · rcases h.accounted file hold with h₀ | ⟨j, hj⟩
    · exact .inl h₀
    · have hij : i ≠ j := by
        rintro rfl
        exact hi hj
      exact .inr ⟨j, serves_setPhase_ne hij hj⟩

variable [DecidableEq File]

theorem step (h : Accounted setup files₀ d) (he : e.isSignal = false)
    (hstep : setup.step d e = some d') : Accounted setup files₀ d' := by
  cases step_iff.1 hstep with
  | connected _ hphase _ =>
    apply h.setPhase
    intro file hfile
    exact .inr ⟨hfile, not_serves_of_phase hphase (by simp)⟩
  | refused => exact h.exit
  | listens _ hphase _ =>
    apply h.setPhase
    intro file hfile
    rcases mem_link.1 hfile with hbound | hfile
    · exact .inl ⟨⟨_, getElem?_setPhase_self hphase⟩, fileAt_eq_some.1 hbound⟩
    · exact .inr ⟨hfile, not_serves_of_phase hphase (by simp)⟩
  | fails => exact h.exit
  | closes =>
    apply h.setPhase
    intro file hfile
    obtain ⟨hfile, hother⟩ := mem_unlink.1 hfile
    refine .inr ⟨hfile, ?_⟩
    intro hi
    exact hother (fileAt_eq_some.2 hi.2)
  | ends _ hphase =>
    apply h.setPhase
    intro file hfile
    exact .inr ⟨(mem_unlink.1 hfile).1, not_serves_of_phase hphase (by simp)⟩
  | signal => cases he
  | removed hstatus => exact absurd hstatus (h.notCleaning _)
  | remains hstatus => exact absurd hstatus (h.notCleaning _)
  | exit hstatus => exact absurd hstatus (h.notCleaning _)

end Accounted

variable [DecidableEq File] {files₀ : Finset File} {es : List Event}

theorem accounted_run (hes : ∀ e ∈ es, e.isSignal = false)
    (h : run setup.step (setup.init files₀) es = some d) : Accounted setup files₀ d :=
  run_invariant setup.step (fun _ _ _ he hs hstep => hs.step he hstep) hes
    (Accounted.init files₀) h

/-! ## Clusters that keep apart -/

omit [DecidableEq File] in
variable (setup) in
/-- Cluster `i` can get to serve: it has a client policy, and the file that it binds was not there
    at the start. -/
def CanServe (files₀ : Finset File) (i : ℕ) : Prop :=
  (∃ cp, setup.policyAt i = some (.ok cp)) ∧ ∀ file, setup.fileAt i = some file → file ∉ files₀

omit [DecidableEq File] in
variable (setup) in
/-- The path of the socket of a cluster that can serve names no file of the start, and none that
    another such cluster binds. -/
def Apart (files₀ : Finset File) : Prop :=
  ∀ i file, setup.CanServe files₀ i → setup.pathAt i = some file →
    file ∉ files₀ ∧ ∀ j, setup.CanServe files₀ j → setup.fileAt j = some file → j = i

/-- What holds in every run without a signal of clusters that keep apart: the files of the start
    and those of the clusters that serve stay, and only clusters that can serve have a listener. -/
structure Tidy (setup : Setup Authority KeyPair File) (files₀ : Finset File)
    (d : State Authority KeyPair File) : Prop where
  notCleaning : ∀ sockets, d.status ≠ .cleaning sockets
  built : ∀ i cp, d.phases[i]? = some (.connected cp) → ∃ cp, setup.policyAt i = some (.ok cp)
  canServe : ∀ i, d.IsServing i ∨ d.phases[i]? = some .closed → setup.CanServe files₀ i
  stays : ∀ file ∈ files₀, file ∈ d.files
  served : ∀ i file, setup.Serves d i (.file file) → file ∈ d.files

namespace Tidy

variable {d' : State Authority KeyPair File} {e : Event}

omit [DecidableEq File] in
theorem init (files₀ : Finset File) : Tidy setup files₀ (setup.init files₀) where
  notCleaning := by simp [Setup.init]
  built := by
    intro i cp hphase
    cases init_phases hphase
  canServe := by
    intro i hphase
    rcases hphase with ⟨cp, hphase⟩ | hphase <;> cases init_phases hphase
  stays := fun _ hfile => hfile
  served := fun _ _ h => absurd h not_serves_init

omit [DecidableEq File] in
theorem exit (h : Tidy setup files₀ d) : Tidy setup files₀ d.exit where
  notCleaning := by simp [State.exit]
  built := h.built
  canServe := h.canServe
  stays := h.stays
  served := h.served

omit [DecidableEq File] in
/-- A goroutine goes on as it may, and the files are left of which the invariant speaks. -/
theorem setPhase (h : Tidy setup files₀ d) {i : ℕ} {phase phase₀ : Phase Authority KeyPair}
    {files : Finset File} (hphase : d.phases[i]? = some phase₀)
    (hbuilt : ∀ cp, phase = .connected cp → ∃ cp, setup.policyAt i = some (.ok cp))
    (hcanServe : (∃ cp, phase = .serving cp) ∨ phase = .closed → setup.CanServe files₀ i)
    (hstays : ∀ file ∈ files₀, file ∈ files)
    (hserved : ∀ j file, setup.Serves (d.setPhase i phase) j (.file file) → file ∈ files) :
    Tidy setup files₀ { d.setPhase i phase with files := files } := by
  refine ⟨h.notCleaning, ?_, ?_, hstays, hserved⟩
  · intro j cp hj
    rcases phase_setPhase hphase hj with ⟨rfl, heq⟩ | ⟨-, hj⟩
    · exact hbuilt cp heq.symm
    · exact h.built j cp hj
  · intro j hj
    rcases hj with ⟨cp, hj⟩ | hj
    · rcases phase_setPhase hphase hj with ⟨rfl, heq⟩ | ⟨-, hj⟩
      · exact hcanServe (.inl ⟨cp, heq.symm⟩)
      · exact h.canServe j (.inl ⟨cp, hj⟩)
    · rcases phase_setPhase hphase hj with ⟨rfl, heq⟩ | ⟨-, hj⟩
      · exact hcanServe (.inr heq.symm)
      · exact h.canServe j (.inr hj)

omit [DecidableEq File] in
/-- No two clusters serve on one file. -/
theorem once (h : Tidy setup files₀ d) (hapart : setup.Apart files₀) {i j : ℕ} {file : File}
    (hi : setup.Serves d i (.file file)) (hj : setup.Serves d j (.file file)) : j = i := by
  have hfile := fileAt_eq_some.2 hi.2
  have hpart := hapart i file (h.canServe i (.inl hi.1)) (pathAt_of_fileAt hfile)
  exact hpart.2 j (h.canServe j (.inl hj.1)) (fileAt_eq_some.2 hj.2)

theorem step (h : Tidy setup files₀ d) (hapart : setup.Apart files₀) (he : e.isSignal = false)
    (hstep : setup.step d e = some d') : Tidy setup files₀ d' := by
  cases step_iff.1 hstep with
  | @connected i cp _ hphase hpolicy =>
    refine h.setPhase hphase (fun _ _ => ⟨cp, hpolicy⟩) (by simp) h.stays ?_
    intro j file hj
    rcases serves_of_setPhase hphase hj with ⟨-, cp', heq⟩ | ⟨-, hj⟩
    · cases heq
    · exact h.served j file hj
  | refused => exact h.exit
  | @listens i cp _ hphase hfree =>
    refine h.setPhase hphase (by simp) ?_ ?_ ?_
    · intro _
      refine ⟨h.built i cp hphase, ?_⟩
      intro file hfile h₀
      exact hfree _ (fileAt_eq_some.1 hfile) (h.stays file h₀)
    · intro file h₀
      exact mem_link.2 (.inr (h.stays file h₀))
    · intro j file hj
      rcases serves_of_setPhase hphase hj with ⟨rfl, -⟩ | ⟨-, hold⟩
      · exact mem_link.2 (.inl (fileAt_eq_some.2 hj.2))
      · exact mem_link.2 (.inr (h.served j file hold))
  | fails => exact h.exit
  | @closes i _ hserving =>
    obtain ⟨cp, hphase⟩ := hserving
    have hcan : setup.CanServe files₀ i := h.canServe i (.inl ⟨cp, hphase⟩)
    refine h.setPhase hphase (by simp) (fun _ => hcan) ?_ ?_
    · intro file h₀
      refine mem_unlink.2 ⟨h.stays file h₀, ?_⟩
      intro hfile
      exact hcan.2 file hfile h₀
    · intro j file hj
      rcases serves_of_setPhase hphase hj with ⟨-, cp', heq⟩ | ⟨hji, hold⟩
      · cases heq
      · refine mem_unlink.2 ⟨h.served j file hold, ?_⟩
        intro hfile
        exact hji (h.once hapart ⟨⟨cp, hphase⟩, fileAt_eq_some.1 hfile⟩ hold)
  | @ends i _ hphase =>
    have hcan : setup.CanServe files₀ i := h.canServe i (.inr hphase)
    refine h.setPhase hphase (by simp) (by simp) ?_ ?_
    · intro file h₀
      refine mem_unlink.2 ⟨h.stays file h₀, ?_⟩
      intro hpath
      exact (hapart i file hcan hpath).1 h₀
    · intro j file hj
      rcases serves_of_setPhase hphase hj with ⟨-, cp', heq⟩ | ⟨hji, hold⟩
      · cases heq
      · refine mem_unlink.2 ⟨h.served j file hold, ?_⟩
        intro hpath
        have hcanj : setup.CanServe files₀ j := h.canServe j (.inl hold.1)
        exact hji ((hapart i file hcan hpath).2 j hcanj (fileAt_eq_some.2 hold.2))
  | signal => cases he
  | removed hstatus => exact absurd hstatus (h.notCleaning _)
  | remains hstatus => exact absurd hstatus (h.notCleaning _)
  | exit hstatus => exact absurd hstatus (h.notCleaning _)

end Tidy

theorem tidy_run (hapart : setup.Apart files₀) (hes : ∀ e ∈ es, e.isSignal = false)
    (h : run setup.step (setup.init files₀) es = some d) : Tidy setup files₀ d :=
  run_invariant setup.step (fun _ _ _ he hs hstep => hs.step hapart he hstep) hes
    (Tidy.init files₀) h

/-- A file is there exactly when it was there at the start or one cluster serves on it, never
    both. -/
def OneServer (setup : Setup Authority KeyPair File) (files₀ : Finset File)
    (d : State Authority KeyPair File) : Prop :=
  ∀ file, file ∈ d.files ↔ Xor (file ∈ files₀) (∃! i, setup.Serves d i (.file file))

theorem one_server_of_apart (hapart : setup.Apart files₀) (hes : ∀ e ∈ es, e.isSignal = false)
    (h : run setup.step (setup.init files₀) es = some d) : setup.OneServer files₀ d := by
  intro file
  have htidy := tidy_run hapart hes h
  have hunique : (∃! i, setup.Serves d i (.file file)) ↔ ∃ i, setup.Serves d i (.file file) := by
    constructor
    · intro hone
      exact hone.exists
    · intro hsome
      obtain ⟨i, hi⟩ := hsome
      exact ⟨i, hi, fun j hj => htidy.once hapart hi hj⟩
  have hnotBoth : ¬(file ∈ files₀ ∧ ∃ i, setup.Serves d i (.file file)) := by
    intro hboth
    obtain ⟨h₀, i, hi⟩ := hboth
    exact (htidy.canServe i (.inl hi.1)).2 file (fileAt_eq_some.2 hi.2) h₀
  rw [hunique, xor_iff_or_and_not_and]
  constructor
  · intro hfile
    exact ⟨(accounted_run hes h).accounted file hfile, hnotBoth⟩
  · intro hcase
    rcases hcase.1 with h₀ | ⟨i, hi⟩
    · exact htidy.stays file h₀
    · exact htidy.served i file hi

/-! ## Runs of a cluster -/

omit [DecidableEq File] in
theorem phase_init (files₀ : Finset File) {i : ℕ}
    {policy : Except String (ClientPolicy Authority KeyPair)}
    (h : setup.policyAt i = some policy) : (setup.init files₀).phases[i]? = some .starting := by
  obtain ⟨cluster, hcluster, -⟩ := Option.map_eq_some_iff.1 h
  have hi : i < setup.conf.length := (List.getElem?_eq_some_iff.1 hcluster).1
  show (List.replicate setup.conf.length Phase.starting)[i]? = _
  simp [hi]

theorem step_connect {i : ℕ} {cp : ClientPolicy Authority KeyPair} (hd : d.status = .running)
    (hphase : d.phases[i]? = some .starting) (hpolicy : setup.policyAt i = some (.ok cp)) :
    setup.step d (.connect i true) = some (d.setPhase i (.connected cp)) := by
  apply step_iff.2
  exact .connected (by simp [hd]) hphase hpolicy

/-- The state `d'` follows on `d` by the goroutine of cluster `i` alone, which is in a phase. -/
structure GoesOn (d : State Authority KeyPair File) (i : ℕ) (phase : Phase Authority KeyPair)
    (d' : State Authority KeyPair File) : Prop where
  running : d'.status = .running
  phase : d'.phases[i]? = some phase
  others : ∀ j, i ≠ j → d'.phases[j]? = d.phases[j]?

omit [DecidableEq File] in
theorem goesOn_setPhase (hd : d.status = .running) {i : ℕ} {phase₀ : Phase Authority KeyPair}
    (hphase : d.phases[i]? = some phase₀) (phase : Phase Authority KeyPair) (files : Finset File) :
    GoesOn d i phase { d.setPhase i phase with files := files } :=
  ⟨hd, getElem?_setPhase_self hphase, fun _ hij => getElem?_setPhase_ne hij⟩

omit [DecidableEq File] in
theorem GoesOn.trans {d₁ d₂ : State Authority KeyPair File} {i : ℕ}
    {phase₁ phase₂ : Phase Authority KeyPair} (h₁ : GoesOn d i phase₁ d₁)
    (h₂ : GoesOn d₁ i phase₂ d₂) : GoesOn d i phase₂ d₂ :=
  ⟨h₂.running, h₂.phase, fun j hij => (h₂.others j hij).trans (h₁.others j hij)⟩

/-- A cluster of which the address is free comes up. -/
theorem comes_up (hd : d.status = .running) {i : ℕ} {cp : ClientPolicy Authority KeyPair}
    (hphase : d.phases[i]? = some .starting) (hpolicy : setup.policyAt i = some (.ok cp))
    (hfree : ∀ address, setup.addressAt i = some address → ¬ setup.InUse d address) :
    ∃ d', run setup.step d [.connect i true, .listen i true] = some d' ∧
      GoesOn d i (.serving cp) d' ∧ d'.files = link (setup.fileAt i) d.files := by
  have hgoesOn := goesOn_setPhase hd hphase (.connected cp) d.files
  let d₁ := d.setPhase i (.connected cp)
  let d₂ : State Authority KeyPair File :=
    { d₁.setPhase i (.serving cp) with files := link (setup.fileAt i) d.files }
  have hlisten : setup.step d₁ (.listen i true) = some d₂ := by
    refine step_iff.2 (.listens (by simp [d₁, State.setPhase, hd]) hgoesOn.phase ?_)
    intro address haddress hinUse
    apply hfree address haddress
    cases address with
    | file file => exact hinUse
    | abstract name =>
      obtain ⟨j, hj⟩ := hinUse
      rcases serves_of_setPhase hphase hj with ⟨-, cp', heq⟩ | ⟨-, hj⟩
      · cases heq
      · exact ⟨j, hj⟩
  refine ⟨d₂, ?_, hgoesOn.trans (goesOn_setPhase (d := d₁) hd hgoesOn.phase _ _), rfl⟩
  simp only [run_cons_eq_some]
  exact ⟨d₁, step_connect hd hphase hpolicy, d₂, hlisten, rfl⟩

/-- A cluster that finds its address in use ends the process. -/
theorem comes_down (hd : d.status = .running) {i : ℕ} {cp : ClientPolicy Authority KeyPair}
    (hphase : d.phases[i]? = some .starting) (hpolicy : setup.policyAt i = some (.ok cp))
    {address : Address File} (haddress : setup.addressAt i = some address)
    (hinUse : setup.InUse d address) :
    ∃ d', run setup.step d [.connect i true, .listen i true] = some d' ∧ d'.status = .exited := by
  let d₁ := d.setPhase i (.connected cp)
  have hstill : setup.InUse d₁ address := by
    cases address with
    | file file => exact hinUse
    | abstract name =>
      obtain ⟨j, hj⟩ := hinUse
      have hij : i ≠ j := by
        rintro rfl
        exact not_serves_of_phase hphase (by simp) hj
      exact ⟨j, serves_setPhase_ne hij hj⟩
  refine ⟨d₁.exit, ?_, rfl⟩
  simp only [run_cons_eq_some]
  refine ⟨d₁, step_connect hd hphase hpolicy, d₁.exit, ?_, rfl⟩
  exact step_iff.2 (.fails (by simp [d₁, State.setPhase, hd]) (getElem?_setPhase_self hphase)
    (.inr ⟨address, haddress, hstill⟩))

omit [DecidableEq File] in
/-- At the start nothing but a file of the start is in use. -/
theorem free_init {i : ℕ} (hfree : ∀ file, setup.fileAt i = some file → file ∉ files₀)
    {address : Address File} (haddress : setup.addressAt i = some address) :
    ¬ setup.InUse (setup.init files₀) address := by
  cases address with
  | file file => exact hfree file (fileAt_eq_some.2 haddress)
  | abstract name =>
    intro h
    obtain ⟨j, hj⟩ := h
    exact not_serves_init hj

/-- A cluster that can serve comes up, and closes its listener again. -/
theorem comes_and_closes {i : ℕ} (hcan : setup.CanServe files₀ i) :
    ∃ d, run setup.step (setup.init files₀) [.connect i true, .listen i true, .serveEnds i] =
        some d ∧ GoesOn (setup.init files₀) i .closed d ∧ d.files = files₀ := by
  obtain ⟨⟨cp, hcp⟩, hfree⟩ := hcan
  obtain ⟨d₁, hrun, hgoesOn, hfiles⟩ :=
    comes_up rfl (phase_init files₀ hcp) hcp fun _ haddress => free_init hfree haddress
  let d₂ : State Authority KeyPair File :=
    { d₁.setPhase i .closed with files := unlink (setup.fileAt i) d₁.files }
  have hcloses : setup.step d₁ (.serveEnds i) = some d₂ :=
    step_iff.2 (.closes (by simp [hgoesOn.running]) ⟨cp, hgoesOn.phase⟩)
  have hwhole : run setup.step (setup.init files₀)
      ([.connect i true, .listen i true] ++ [.serveEnds i]) = some d₂ :=
    (run_concat_eq_some _).2 ⟨d₁, hrun, hcloses⟩
  refine ⟨d₂, hwhole, hgoesOn.trans (goesOn_setPhase hgoesOn.running hgoesOn.phase _ _), ?_⟩
  · ext file
    show file ∈ unlink (setup.fileAt i) d₁.files ↔ _
    rw [mem_unlink, hfiles, mem_link]
    constructor
    · intro h
      exact h.1.resolve_left h.2
    · intro h₀
      exact ⟨.inr h₀, fun hfile => hfree file hfile h₀⟩

omit [DecidableEq File] in
/-- Only a goroutine that has gone on serves. -/
theorem eq_of_serves {d₁ d₂ : State Authority KeyPair File} {i j k : ℕ}
    {phase phase' : Phase Authority KeyPair} {address : Address File}
    (h₁ : GoesOn (setup.init files₀) i phase d₁) (h₂ : GoesOn d₁ j phase' d₂)
    (hk : setup.Serves d₂ k address) : k = i ∨ k = j := by
  by_contra hne
  obtain ⟨hki, hkj⟩ := not_or.1 hne
  obtain ⟨cp, hphase⟩ := hk.1
  rw [h₂.others k (Ne.symm hkj), h₁.others k (Ne.symm hki)] at hphase
  cases init_phases hphase

/-- The clusters keep apart if in every run without a signal each file has one server. -/
theorem apart_of_one_server (h : ∀ es d, (∀ e ∈ es, Event.isSignal e = false) →
    run setup.step (setup.init files₀) es = some d → setup.OneServer files₀ d) :
    setup.Apart files₀ := by
  intro i file hcan hpath
  obtain ⟨d₁, hrun, hgoesOn, hfiles⟩ := comes_and_closes hcan
  have hends : ∀ {d : State Authority KeyPair File}, d.status = .running →
      d.phases[i]? = some .closed → setup.step d (.deferred i) =
        some { d.setPhase i .ended with files := unlink (setup.pathAt i) d.files } :=
    fun hd hphase => step_iff.2 (.ends (by simp [hd]) hphase)
  have hgone : ∀ files : Finset File, file ∉ unlink (setup.pathAt i) files := by
    intro files hmem
    exact (mem_unlink.1 hmem).2 hpath
  constructor
  · intro h₀
    have hwhole := (run_concat_eq_some _).2 ⟨d₁, hrun, hends hgoesOn.running hgoesOn.phase⟩
    have hone := h _ _ (by simp [Event.isSignal]) hwhole file
    refine hgone d₁.files (hone.2 (.inl ⟨h₀, ?_⟩))
    intro hserved
    obtain ⟨k, hk, -⟩ := hserved
    have hended := goesOn_setPhase hgoesOn.running hgoesOn.phase .ended
      (unlink (setup.pathAt i) d₁.files)
    obtain rfl : k = i := by simpa using eq_of_serves hgoesOn hended hk
    exact not_serves_of_phase hended.phase (by simp) hk
  · intro j hcanj hfile
    by_contra hji
    obtain ⟨⟨cp, hcp⟩, hfree⟩ := hcanj
    have hphase : d₁.phases[j]? = some .starting :=
      (hgoesOn.others j (Ne.symm hji)).trans (phase_init files₀ hcp)
    have haddress := fileAt_eq_some.1 hfile
    obtain ⟨d₂, hrun', hup, -⟩ := comes_up hgoesOn.running hphase hcp (by
      intro address haddress'
      obtain rfl : Address.file file = address := Option.some.inj (haddress.symm.trans haddress')
      show file ∉ d₁.files
      rw [hfiles]
      exact hfree file hfile)
    have hclosed : d₂.phases[i]? = some .closed := (hup.others i hji).trans hgoesOn.phase
    have hwhole := (run_concat_eq_some _).2
      ⟨d₂, (run_append_eq_some _).2 ⟨d₁, hrun, hrun'⟩, hends hup.running hclosed⟩
    have hone := h _ _ (by simp [Event.isSignal]) hwhole file
    have hserves : setup.Serves d₂ j (.file file) := ⟨⟨cp, hup.phase⟩, haddress⟩
    refine hgone d₂.files (hone.2 (.inr ⟨⟨j, ?_, ?_⟩, hfree file hfile⟩))
    · exact serves_setPhase_ne (Ne.symm hji) hserves
    · intro k hk
      rcases serves_of_setPhase hclosed hk with ⟨-, cp', heq⟩ | ⟨hki, hk⟩
      · cases heq
      · exact (eq_of_serves hgoesOn hup hk).resolve_left hki

/-- In every run without a signal a file is there exactly when it was there at the start or one
    cluster serves on it, iff the clusters that can serve keep apart. -/
theorem one_server_iff (setup : Setup Authority KeyPair File) (files₀ : Finset File) :
    (∀ es d, (∀ e ∈ es, Event.isSignal e = false) →
      run setup.step (setup.init files₀) es = some d → setup.OneServer files₀ d) ↔
    setup.Apart files₀ := by
  constructor
  · exact apart_of_one_server
  · intro hapart es d hes hrun
    exact one_server_of_apart hapart hes hrun

/-! ## Setups that come up -/

/-- Each cluster has a client policy, and an address of its own, of which there is no file yet. -/
structure Launchable (setup : Setup Authority KeyPair File) (files₀ : Finset File) : Prop where
  built : ∀ i policy, setup.policyAt i = some policy → policy.isOk
  own : ∀ i j address, setup.addressAt i = some address → setup.addressAt j = some address → i = j
  free : ∀ i file, setup.fileAt i = some file → file ∉ files₀

/-- A permitted step of a launchable setup does not end the process. -/
theorem running_step (hlaunch : setup.Launchable files₀) {d' : State Authority KeyPair File}
    {e : Event} (he : e.isPermitted = true) (haccounted : setup.Accounted files₀ d)
    (hrunning : d.status = .running) (hstep : setup.step d e = some d') :
    d'.status = .running := by
  cases step_iff.1 hstep with
  | connected => exact hrunning
  | @refused i accepted policy _ _ hpolicy hrefused =>
    have haccepted : accepted = true := he
    have hbuilt : policy.isOk = true := hlaunch.built i policy hpolicy
    rw [haccepted, hbuilt] at hrefused
    simp at hrefused
  | listens => exact hrunning
  | @fails i permitted cp _ hphase htaken =>
    have hpermitted : permitted = true := he
    rw [hpermitted] at htaken
    obtain ⟨address, haddress, hinUse⟩ :
        ∃ address, setup.addressAt i = some address ∧ setup.InUse d address := by
      simpa using htaken
    have hidle : ∀ j, ¬ setup.Serves d j address := by
      intro j hj
      obtain rfl : j = i := hlaunch.own j i address hj.2 haddress
      exact not_serves_of_phase hphase (by simp) hj
    cases address with
    | file file =>
      rcases haccounted.accounted file hinUse with h₀ | ⟨j, hj⟩
      · exact absurd h₀ (hlaunch.free i file (fileAt_eq_some.2 haddress))
      · exact absurd hj (hidle j)
    | abstract name =>
      obtain ⟨j, hj⟩ := hinUse
      exact absurd hj (hidle j)
  | closes => exact hrunning
  | ends => exact hrunning
  | signal => cases he
  | removed => cases he
  | remains => cases he
  | exit => cases he

omit [DecidableEq File] in
theorem exists_policy (hbuilt : ∀ i policy, setup.policyAt i = some policy → policy.isOk) {i : ℕ}
    {address : Address File} (h : setup.addressAt i = some address) :
    ∃ cp, setup.policyAt i = some (.ok cp) := by
  obtain ⟨cluster, hcluster⟩ := exists_conf_of_address h
  have hpolicy := policyAt_eq hcluster
  obtain ⟨cp, hcp⟩ := Fallible.isOk_iff.1 (hbuilt i _ hpolicy)
  exact ⟨cp, by rw [hpolicy, hcp]⟩

theorem dies_of_failure {i : ℕ} {policy : Except String (ClientPolicy Authority KeyPair)}
    (hpolicy : setup.policyAt i = some policy) (hfails : policy.isOk = false) :
    ∃ d, run setup.step (setup.init files₀) [.connect i true] = some d ∧ d.status = .exited := by
  refine ⟨(setup.init files₀).exit, ?_, rfl⟩
  rw [run_cons_eq_some]
  exact ⟨_, step_iff.2 (.refused (by simp [init]) (phase_init files₀ hpolicy) hpolicy
    (.inl hfails)), rfl⟩

/-- A file that is left over ends the process when its cluster gets to bind it. -/
theorem dies_of_leftover (hbuilt : ∀ i policy, setup.policyAt i = some policy → policy.isOk)
    {i : ℕ} {file : File} (hfile : setup.fileAt i = some file) (hmem : file ∈ files₀) :
    ∃ d, run setup.step (setup.init files₀) [.connect i true, .listen i true] = some d ∧
      d.status = .exited := by
  have haddress := fileAt_eq_some.1 hfile
  obtain ⟨cp, hcp⟩ := exists_policy hbuilt haddress
  exact comes_down rfl (phase_init files₀ hcp) hcp haddress hmem

/-- Of two clusters with one address, the second that gets to bind it ends the process. -/
theorem dies_of_shared (hbuilt : ∀ i policy, setup.policyAt i = some policy → policy.isOk)
    (hfree : ∀ i file, setup.fileAt i = some file → file ∉ files₀) {i j : ℕ}
    {address : Address File} (hi : setup.addressAt i = some address)
    (hj : setup.addressAt j = some address) (hij : i ≠ j) :
    ∃ d, run setup.step (setup.init files₀)
        ([.connect i true, .listen i true] ++ [.connect j true, .listen j true]) = some d ∧
      d.status = .exited := by
  obtain ⟨cp, hcp⟩ := exists_policy hbuilt hi
  obtain ⟨cp', hcp'⟩ := exists_policy hbuilt hj
  obtain ⟨d₁, hrun, hup, hfiles⟩ :=
    comes_up rfl (phase_init files₀ hcp) hcp fun _ haddress => free_init (hfree i) haddress
  have hphase : d₁.phases[j]? = some .starting := (hup.others j hij).trans (phase_init files₀ hcp')
  have hinUse : setup.InUse d₁ address := by
    cases address with
    | file file =>
      show file ∈ d₁.files
      rw [hfiles]
      exact mem_link.2 (.inl (fileAt_eq_some.2 hi))
    | abstract name => exact ⟨i, ⟨cp, hup.phase⟩, hi⟩
  obtain ⟨d₂, hrun', hexited⟩ := comes_down hup.running hphase hcp' hj hinUse
  exact ⟨d₂, (run_append_eq_some _).2 ⟨d₁, hrun, hrun'⟩, hexited⟩

/-- The setups that no order of permitted steps brings down. -/
theorem never_dies_iff (setup : Setup Authority KeyPair File) (files₀ : Finset File) :
    (∀ es d, (∀ e ∈ es, Event.isPermitted e = true) →
      run setup.step (setup.init files₀) es = some d → d.status = .running) ↔
    setup.Launchable files₀ := by
  constructor
  · intro h
    have hdies : ∀ es, (∀ e ∈ es, Event.isPermitted e = true) →
        ¬ ∃ d, run setup.step (setup.init files₀) es = some d ∧ d.status = .exited := by
      intro es hes hexited
      obtain ⟨d, hrun, hstatus⟩ := hexited
      have hrunning := h es d hes hrun
      rw [hstatus] at hrunning
      cases hrunning
    have hbuilt : ∀ i policy, setup.policyAt i = some policy → policy.isOk := by
      intro i policy hpolicy
      by_contra hfails
      exact hdies _ (by simp [Event.isPermitted]) (dies_of_failure hpolicy (by simpa using hfails))
    have hfree : ∀ i file, setup.fileAt i = some file → file ∉ files₀ := by
      intro i file hfile hmem
      exact hdies _ (by simp [Event.isPermitted]) (dies_of_leftover hbuilt hfile hmem)
    refine ⟨hbuilt, ?_, hfree⟩
    intro i j address hi hj
    by_contra hij
    exact hdies _ (by simp [Event.isPermitted]) (dies_of_shared hbuilt hfree hi hj hij)
  · intro hlaunch es d hes hrun
    have hinv := run_invariant (I := fun d => setup.Accounted files₀ d ∧ d.status = .running)
      setup.step ?_ hes ⟨Accounted.init files₀, rfl⟩ hrun
    · exact hinv.2
    · intro d e d' he hd hstep
      exact ⟨hd.1.step (Event.isSignal_of_isPermitted he) hstep,
        running_step hlaunch he hd.1 hd.2 hstep⟩

/-! ## One process after another -/

/-- A process of its own setup, started on the files that are there, and what it leaves however
    it ends. -/
def generation (files : Finset File) (process : Setup Authority KeyPair File × List Event) :
    Option (Finset File) :=
  (run process.1.step (process.1.init files) process.2).map State.files

/-- A file is there, and no cluster has a listener on it. -/
structure LeftOver (setup : Setup Authority KeyPair File) (file : File)
    (d : State Authority KeyPair File) : Prop where
  notCleaning : ∀ sockets, d.status ≠ .cleaning sockets
  left : file ∈ d.files
  unbound : ∀ i, d.IsServing i ∨ d.phases[i]? = some .closed → setup.fileAt i ≠ some file

namespace LeftOver

variable {d' : State Authority KeyPair File} {e : Event} {file : File}

omit [DecidableEq File] in
theorem init (hfile : file ∈ files₀) : LeftOver setup file (setup.init files₀) where
  notCleaning := by simp [Setup.init]
  left := hfile
  unbound := by
    intro i hphase
    rcases hphase with ⟨cp, hphase⟩ | hphase <;> cases init_phases hphase

omit [DecidableEq File] in
theorem exit (h : LeftOver setup file d) : LeftOver setup file d.exit where
  notCleaning := by simp [State.exit]
  left := h.left
  unbound := h.unbound

omit [DecidableEq File] in
theorem setPhase (h : LeftOver setup file d) {i : ℕ} {phase phase₀ : Phase Authority KeyPair}
    {files : Finset File} (hphase : d.phases[i]? = some phase₀) (hleft : file ∈ files)
    (hunbound : (∃ cp, phase = .serving cp) ∨ phase = .closed → setup.fileAt i ≠ some file) :
    LeftOver setup file { d.setPhase i phase with files := files } := by
  refine ⟨h.notCleaning, hleft, ?_⟩
  intro j hj
  rcases hj with ⟨cp, hj⟩ | hj
  · rcases phase_setPhase hphase hj with ⟨rfl, heq⟩ | ⟨-, hj⟩
    · exact hunbound (.inl ⟨cp, heq.symm⟩)
    · exact h.unbound j (.inl ⟨cp, hj⟩)
  · rcases phase_setPhase hphase hj with ⟨rfl, heq⟩ | ⟨-, hj⟩
    · exact hunbound (.inr heq.symm)
    · exact h.unbound j (.inr hj)

/-- The file stays unless a path of which it is the file is no address. -/
theorem step (h : LeftOver setup file d)
    (hpaths : ∀ i, setup.pathAt i = some file → setup.fileAt i = some file)
    (he : e.isSignal = false) (hstep : setup.step d e = some d') : LeftOver setup file d' := by
  cases step_iff.1 hstep with
  | connected _ hphase _ => exact h.setPhase hphase h.left (by simp)
  | refused => exact h.exit
  | @listens i cp _ hphase hfree =>
    refine h.setPhase hphase (mem_link.2 (.inr h.left)) ?_
    intro _ hfile
    exact hfree _ (fileAt_eq_some.1 hfile) h.left
  | fails => exact h.exit
  | @closes i _ hserving =>
    obtain ⟨cp, hphase⟩ := hserving
    have hunbound := h.unbound i (.inl ⟨cp, hphase⟩)
    exact h.setPhase hphase (mem_unlink.2 ⟨h.left, hunbound⟩) fun _ => hunbound
  | @ends i _ hphase =>
    refine h.setPhase hphase (mem_unlink.2 ⟨h.left, ?_⟩) (by simp)
    intro hpath
    exact h.unbound i (.inr hphase) (hpaths i hpath)
  | signal => cases he
  | removed hstatus => exact absurd hstatus (h.notCleaning _)
  | remains hstatus => exact absurd hstatus (h.notCleaning _)
  | exit hstatus => exact absurd hstatus (h.notCleaning _)

end LeftOver

/-- A file that is there when a process starts stays, and no cluster serves on it. -/
theorem stays {file : File} (hpaths : ∀ i, setup.pathAt i = some file → setup.fileAt i = some file)
    (hfile : file ∈ files₀) (hes : ∀ e ∈ es, e.isSignal = false)
    (h : run setup.step (setup.init files₀) es = some d) :
    file ∈ d.files ∧ ∀ i, ¬ setup.Serves d i (.file file) := by
  have hleft : LeftOver setup file d :=
    run_invariant setup.step (fun _ _ _ he hs hstep => hs.step hpaths he hstep) hes
      (LeftOver.init hfile) h
  refine ⟨hleft.left, ?_⟩
  intro i hi
  exact hleft.unbound i (.inl hi.1) (fileAt_eq_some.2 hi.2)

/-- A file on which a process of clusters that keep apart served when it ended is never served on
    again: not in any state of any process that comes later, as long as none of them gets a signal
    or has an abstract name that is the path of the file. -/
theorem not_served_again {setup' : Setup Authority KeyPair File}
    {d' : State Authority KeyPair File} {es' : List Event} {files : Finset File} {i : ℕ}
    {file : File} {processes : List (Setup Authority KeyPair File × List Event)}
    (hapart : setup.Apart files₀) (hes : ∀ e ∈ es, e.isSignal = false)
    (h : run setup.step (setup.init files₀) es = some d)
    (hserved : setup.Serves d i (.file file))
    (hprocesses : ∀ process ∈ processes, (∀ e ∈ process.2, Event.isSignal e = false) ∧
      ∀ j, process.1.pathAt j = some file → process.1.fileAt j = some file)
    (hgenerations : run generation d.files processes = some files)
    (hes' : ∀ e ∈ es', e.isSignal = false)
    (hpaths : ∀ j, setup'.pathAt j = some file → setup'.fileAt j = some file)
    (h' : run setup'.step (setup'.init files) es' = some d') (j : ℕ) :
    ¬ setup'.Serves d' j (.file file) := by
  have hleft : file ∈ d.files := (tidy_run hapart hes h).served i file hserved
  have hstill : file ∈ files := by
    refine run_invariant (I := fun files => file ∈ files) generation ?_ hprocesses hleft
      hgenerations
    intro files₁ process files₂ hprocess hmem hstep
    obtain ⟨d₁, hd₁, rfl⟩ := Option.map_eq_some_iff.1 hstep
    exact (stays hprocess.2 hmem hprocess.1 hd₁).1
  exact (stays hpaths hstill hes' h').2 j

end Setup

/-- A process with one cluster, where a file is known by its name. -/
def oneCluster (ac : AerospikeConfig) : Setup Unit Unit String where
  crypto := bareCrypto
  clientPolicy := defaultPolicy
  fileOf := some
  conf := [("cluster_local", ac)]

theorem not_served_again_restart :
    ∃ ac d files d', readSection bareMachine bareParsers [("socket", .string "/tmp/asld.sock")] =
        .ok ac ∧
      run (oneCluster ac).step ((oneCluster ac).init ∅) [.connect 0 true, .listen 0 true] =
        some d ∧
      (oneCluster ac).Serves d 0 (.file "/tmp/asld.sock") ∧
      run Setup.generation d.files [(oneCluster ac, [.connect 0 true, .listen 0 true])] =
        some files ∧
      run (oneCluster ac).step ((oneCluster ac).init files) [.connect 0 true, .listen 0 true] =
        some d' ∧
      ¬ (oneCluster ac).Serves d' 0 (.file "/tmp/asld.sock") := by
  have hread : ∃ ac, readSection bareMachine bareParsers [("socket", .string "/tmp/asld.sock")] =
      .ok ac ∧ (oneCluster ac).fileAt 0 = some "/tmp/asld.sock" ∧
      (∀ j, (oneCluster ac).pathAt j = some "/tmp/asld.sock" →
        (oneCluster ac).fileAt j = some "/tmp/asld.sock") ∧
      ∀ i policy, (oneCluster ac).policyAt i = some policy → i = 0 ∧ policy.isOk := by
    refine ⟨_, rfl, rfl, ?_, ?_⟩
    · intro j hpath
      cases j with
      | zero => rfl
      | succ j => cases hpath
    · intro i policy hpolicy
      cases i with
      | zero => cases hpolicy; exact ⟨rfl, rfl⟩
      | succ i => cases hpolicy
  obtain ⟨ac, hac, hfile, hpaths, hpolicies⟩ := hread
  have hbuilt : ∀ i policy, (oneCluster ac).policyAt i = some policy → policy.isOk :=
    fun i policy hpolicy => (hpolicies i policy hpolicy).2
  have hapart : (oneCluster ac).Apart ∅ := by
    intro i file hcan _
    refine ⟨Finset.notMem_empty file, ?_⟩
    intro j hcanj _
    obtain ⟨⟨cp, hcp⟩, -⟩ := hcan
    obtain ⟨⟨cp', hcp'⟩, -⟩ := hcanj
    rw [(hpolicies i _ hcp).1, (hpolicies j _ hcp').1]
  have haddress := Setup.fileAt_eq_some.1 hfile
  obtain ⟨cp, hcp⟩ := Setup.exists_policy hbuilt haddress
  obtain ⟨d, hrun, hup, -⟩ := Setup.comes_up rfl (Setup.phase_init ∅ hcp) hcp
    fun _ haddress => Setup.free_init (by simp) haddress
  have hserves : (oneCluster ac).Serves d 0 (.file "/tmp/asld.sock") := ⟨⟨cp, hup.phase⟩, haddress⟩
  have hleft := (Setup.tidy_run hapart (by decide) hrun).served 0 _ hserves
  obtain ⟨d₁, hrun₁, -⟩ := Setup.dies_of_leftover hbuilt hfile hleft
  have hstill := (Setup.stays hpaths hleft (by decide) hrun₁).1
  obtain ⟨d₂, hrun₂, -⟩ := Setup.dies_of_leftover hbuilt hfile hstill
  have hgeneration : run Setup.generation d.files
      [(oneCluster ac, [.connect 0 true, .listen 0 true])] = some d₁.files := by
    rw [run_cons_eq_some]
    exact ⟨d₁.files, by simp [Setup.generation, hrun₁], rfl⟩
  refine ⟨ac, d, d₁.files, d₂, hac, hrun, hserves, hgeneration, hrun₂, ?_⟩
  exact Setup.not_served_again hapart (by decide) hrun hserves
    (by simpa [Event.isSignal] using hpaths) hgeneration (by decide) hpaths hrun₂ 0

end AerospikePhp.Daemon
