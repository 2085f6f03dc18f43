import AerospikePhp.Daemon.Sockets

/-!
# From the configuration file to the clusters

`main` reads the file and starts a goroutine for each section (`main.go` lines 54–71). The
goroutines run side by side, and each has the configuration that it was started with.

Results:
* `built_run`: in every run, the client policy of each goroutine is that of its own cluster.
* `own_section`: in every run of a process started on a file, each goroutine has the settings and
  the socket of its own section.
-/

namespace AerospikePhp.Daemon

open Config Transition

variable {Authority KeyPair File : Type}

/-- `main`, up to the goroutines. -/
def main (machine : Machine) (parsers : Parsers) (crypto : Crypto Authority KeyPair)
    (clientPolicy : ClientPolicy Authority KeyPair) (fileOf : String → Option File)
    (configFile : String) : Except Failure (Setup Authority KeyPair File) := do
  let conf ← read machine parsers configFile
  return { crypto, clientPolicy, fileOf, conf }

/-- The client policy with which a goroutine goes on. -/
def Phase.policy : Phase Authority KeyPair → Option (ClientPolicy Authority KeyPair)
  | connected cp | serving cp => some cp
  | starting | closed | ended => none

namespace Setup

variable [DecidableEq File] {setup : Setup Authority KeyPair File}
  {d d' : State Authority KeyPair File} {e : Event}

/-- Each goroutine has the client policy of its own cluster. -/
def Built (setup : Setup Authority KeyPair File) (d : State Authority KeyPair File) : Prop :=
  ∀ i phase cp, d.phases[i]? = some phase → phase.policy = some cp →
    setup.policyAt i = some (.ok cp)

omit [DecidableEq File] in
theorem Built.setPhase (h : Built setup d) {i : ℕ} {phase phase₀ : Phase Authority KeyPair}
    (hi : d.phases[i]? = some phase₀)
    (hphase : ∀ cp, phase.policy = some cp → setup.policyAt i = some (.ok cp)) :
    Built setup (d.setPhase i phase) := by
  intro j phase' cp hj hcp
  rcases phase_setPhase hi hj with ⟨rfl, rfl⟩ | ⟨-, hj⟩
  · exact hphase cp hcp
  · exact h j phase' cp hj hcp

theorem Built.step (h : Built setup d) (hstep : setup.step d e = some d') : Built setup d' := by
  cases step_iff.1 hstep with
  | connected _ hphase hpolicy =>
    apply h.setPhase hphase
    intro cp hcp
    cases hcp
    exact hpolicy
  | refused => exact h
  | @listens i cp _ hphase _ =>
    show Built setup (d.setPhase i (.serving cp))
    apply h.setPhase hphase
    intro cp' hcp
    cases hcp
    exact h i _ cp hphase rfl
  | fails => exact h
  | @closes i _ hserving =>
    obtain ⟨cp, hphase⟩ := hserving
    show Built setup (d.setPhase i .closed)
    apply h.setPhase hphase
    intro cp' hcp
    cases hcp
  | @ends i _ hphase =>
    show Built setup (d.setPhase i .ended)
    apply h.setPhase hphase
    intro cp' hcp
    cases hcp
  | signal => exact h
  | removed => exact h
  | remains => exact h
  | exit => exact h

theorem built_run {files₀ : Finset File} {es : List Event}
    (hrun : run setup.step (setup.init files₀) es = some d) : Built setup d := by
  refine run_invariant (K := fun _ => True) setup.step (fun _ _ _ _ hs hstep => hs.step hstep)
    (fun _ _ => trivial) ?_ hrun
  intro i phase cp hi hcp
  rw [init_phases hi] at hcp
  cases hcp

end Setup

/-! ## The sections of the file -/

/-- A client policy and a socket are those of a section. A setting that is present has its value
    in the policy, and one that is absent is zero there; for the queue size of connections, zero
    and absent stand for the size that the daemon falls back on. -/
structure OfSection (machine : Machine) (parsers : Parsers) (crypto : Crypto Authority KeyPair)
    (clientPolicy : ClientPolicy Authority KeyPair) (valMap : Section) (socket : String)
    (cp : ClientPolicy Authority KeyPair) : Prop where
  socket : setting valMap "socket" "" asString = .ok socket
  built : ∃ ac, readSection machine parsers valMap = .ok ac ∧
    launchPolicy crypto clientPolicy ac = .ok cp
  present : ∀ (s : ConnectionSetting) v, valMap.lookup s.key = some v →
    (s = .connectionQueueSize → v ≠ .integer 0) → s.set parsers v = .ok (s.get cp)
  absent : ∀ s : ConnectionSetting, s ≠ .connectionQueueSize → valMap.lookup s.key = none →
    s.get cp = s.zero
  queue : valMap.lookup "connection-queue-size" = some (.integer 0) ∨
    valMap.lookup "connection-queue-size" = none → cp.connectionQueueSize = fallbackQueueSize

theorem ofSection {machine : Machine} {parsers : Parsers} {crypto : Crypto Authority KeyPair}
    {clientPolicy : ClientPolicy Authority KeyPair} {valMap : Section} {ac : AerospikeConfig}
    {cp : ClientPolicy Authority KeyPair} (hread : readSection machine parsers valMap = .ok ac)
    (hbuilt : launchPolicy crypto clientPolicy ac = .ok cp) :
    OfSection machine parsers crypto clientPolicy valMap ac.socket cp := by
  obtain ⟨f, hf, rfl⟩ := readSection_eq_ok.1 hread
  refine ⟨hf.socket, ⟨_, hread, hbuilt⟩, ?_, ?_, ?_⟩
  · intro s v hv hqueue
    by_cases hs : s = .connectionQueueSize
    · subst hs
      exact (queueSize_of_present hread hbuilt hv).2 (hqueue rfl)
    · exact set_eq_get hread hbuilt hs hv
  · intro s hs hnone
    rw [(get_of_launchPolicy hbuilt).1 s hs]
    exact zero_of_absent hread hnone
  · intro hzero
    rcases hzero with hzero | hnone
    · exact queueSize_of_zero hread hbuilt hzero
    · exact queueSize_of_absent hread hbuilt hnone

/-- In every run of a process that is started on a file, with any interleaving of the goroutines,
    the goroutine of the `i`th section has the client policy of that section, and its socket. -/
theorem own_section {machine : Machine} {parsers : Parsers} {crypto : Crypto Authority KeyPair}
    {clientPolicy : ClientPolicy Authority KeyPair} {fileOf : String → Option File}
    [DecidableEq File] {configFile : String} {setup : Setup Authority KeyPair File}
    {files₀ : Finset File} {es : List Event} {d : State Authority KeyPair File} {i : ℕ}
    {phase : Phase Authority KeyPair} {cp : ClientPolicy Authority KeyPair}
    (hmain : main machine parsers crypto clientPolicy fileOf configFile = .ok setup)
    (hrun : run setup.step (setup.init files₀) es = some d)
    (hphase : d.phases[i]? = some phase) (hcp : phase.policy = some cp) :
    ∃ doc cfg name valMap socket, machine.readFile configFile = .ok doc ∧
      parsers.unmarshal doc = .ok cfg ∧ cfg[i]? = some (name, valMap) ∧
      setup.socketAt i = some socket ∧
      OfSection machine parsers crypto clientPolicy valMap socket cp := by
  obtain ⟨conf, hread, hsetup⟩ := Fallible.bind_eq_ok.1 hmain
  obtain rfl : ({ crypto, clientPolicy, fileOf, conf } : Setup Authority KeyPair File) = setup :=
    Except.ok.inj hsetup
  obtain ⟨⟨name, ac⟩, hcluster, hbuilt⟩ :=
    Option.map_eq_some_iff.1 (Setup.built_run hrun i phase cp hphase hcp)
  obtain ⟨doc, hdoc, h⟩ := Fallible.bind_eq_ok.1 hread
  obtain ⟨cfg, hcfg, h⟩ := Fallible.bind_eq_ok.1 h
  have hi : i < cfg.length := by
    rw [← Fallible.mapM_length h]
    exact (List.getElem?_eq_some_iff.1 hcluster).1
  obtain ⟨⟨name', valMap⟩, hsection⟩ : ∃ x, cfg[i]? = some x :=
    ⟨cfg[i], List.getElem?_eq_getElem hi⟩
  obtain ⟨y, hy, hsectionRead⟩ := Fallible.mapM_getElem? h hsection
  have hcluster' : conf[i]? = some (name, ac) := hcluster
  rw [hcluster'] at hy
  cases hy
  obtain ⟨ac', hac, heq⟩ := Fallible.bind_eq_ok.1 hsectionRead
  cases heq
  refine ⟨doc, cfg, name, valMap, ac.socket, Fallible.mapError_eq_ok.1 hdoc,
    Fallible.mapError_eq_ok.1 hcfg, hsection, ?_, ofSection hac hbuilt⟩
  simp [Setup.socketAt, hcluster']

/-- A machine with one file. -/
def fileMachine : Machine := { bareMachine with readFile := fun _ => .ok [] }

/-- Parsers of a file with one section. -/
def sectionParsers : Parsers :=
  { bareParsers with
    unmarshal := fun _ => .ok [("cluster_local", [("max-error-rate", .integer 5)])] }

theorem own_section_local :
    ∃ (setup : Setup Unit Unit String) (d : State Unit Unit String)
      (cp : ClientPolicy Unit Unit) (cfg : List (String × Section)) (name : String)
      (valMap : Section) (socket : String),
      main fileMachine sectionParsers bareCrypto defaultPolicy some "asld.toml" = .ok setup ∧
      run setup.step (setup.init ∅) [.connect 0 true] = some d ∧
      d.phases[0]? = some (.connected cp) ∧ sectionParsers.unmarshal [] = .ok cfg ∧
      cfg[0]? = some (name, valMap) ∧
      OfSection fileMachine sectionParsers bareCrypto defaultPolicy valMap socket cp := by
  have hup : ∃ (setup : Setup Unit Unit String) (d : State Unit Unit String)
      (cp : ClientPolicy Unit Unit),
      main fileMachine sectionParsers bareCrypto defaultPolicy some "asld.toml" = .ok setup ∧
      run setup.step (setup.init ∅) [.connect 0 true] = some d ∧
      d.phases[0]? = some (.connected cp) := ⟨_, _, _, rfl, rfl, rfl⟩
  obtain ⟨setup, d, cp, hmain, hrun, hphase⟩ := hup
  obtain ⟨doc, cfg, name, valMap, socket, hdoc, hcfg, hsection, -, h⟩ :=
    own_section hmain hrun hphase rfl
  cases hdoc
  exact ⟨setup, d, cp, cfg, name, valMap, socket, hmain, hrun, hphase, hcfg, hsection, h⟩

end AerospikePhp.Daemon
