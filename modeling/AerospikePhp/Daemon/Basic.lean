import AerospikePhp.Config.Launch
import AerospikePhp.Lib.Transition
import Mathlib.Data.Finset.Erase
import Mathlib.Data.Finset.Insert

/-!
# The connection manager as a process

`main` (`main.go` lines 35–75) reads the configuration and starts one goroutine for each
cluster, and one that waits for a signal. A goroutine of a cluster (`launchServer`, lines
89–146) makes its client, binds its socket and serves; whatever fails ends the process
with `log.Fatalln`, which runs no deferred call. When `Serve` returns, it has closed its
listener, and the deferred `os.Remove` comes after that. The signal removes the sockets of
all clusters (`cleanUp`, lines 77–87) and ends the process. The goroutines take their
steps in any order.

`net.Listen` fails when the address of the socket is in use. The address is a file, which
is there from then on, until the listener is closed or somebody removes it; of a name that
begins with `@` it is a name of the abstract namespace, in use as long as the listener is
open; an empty name gets an address of its own. `os.Remove` takes every name as the path
of a file. Which file a path stands for is a parameter, and so are the cryptographic
libraries and the default policy of the Go client. Other programs leave the files alone.

Results:
* `step_iff`: what each step does, and when it can happen.
-/

namespace AerospikePhp.Daemon

open Config

/-! ## The process -/

/-- How far the goroutine of a cluster is. It is `closed` between the end of `Serve` and the
    deferred `os.Remove`. -/
inductive Phase (Authority KeyPair : Type) where
  | starting
  | connected (cp : ClientPolicy Authority KeyPair)
  | serving (cp : ClientPolicy Authority KeyPair)
  | closed
  | ended

/-- Whether the process runs, removes the sockets that are left of a list, or has ended. -/
inductive Status where
  | running
  | cleaning (sockets : List String)
  | exited
deriving DecidableEq

/-- What a listener is bound to. -/
inductive Address (File : Type) where
  | abstract (name : String)
  | file (file : File)
deriving DecidableEq

/-- What a process is started with: the clusters that `Read` returned, and the libraries. No
    file has the empty path. -/
structure Setup (Authority KeyPair File : Type) where
  crypto : Crypto Authority KeyPair
  clientPolicy : ClientPolicy Authority KeyPair
  fileOf : String → Option File
  conf : List (String × AerospikeConfig)

/-- The files, the goroutines in the order of the clusters, and the status. -/
structure State (Authority KeyPair File : Type) where
  files : Finset File
  phases : List (Phase Authority KeyPair)
  status : Status

/-- A step of a goroutine, with the answer of what it calls: `NewClientWithPolicyAndHost`
    accepts, `Listen` or `Remove` is permitted. `serveEnds` is a `Serve` that returns, and
    `deferred` the call that was deferred. A signal comes with the order in which `cleanUp` goes
    through the clusters. -/
inductive Event where
  | connect (i : ℕ) (accepted : Bool)
  | listen (i : ℕ) (permitted : Bool)
  | serveEnds (i : ℕ)
  | deferred (i : ℕ)
  | signal (order : List String)
  | remove (permitted : Bool)
  | exit

variable {Authority KeyPair File : Type}

def Phase.isServing : Phase Authority KeyPair → Bool
  | serving _ => true
  | starting | connected _ | closed | ended => false

namespace State

/-- `os.Exit`. -/
def exit (d : State Authority KeyPair File) : State Authority KeyPair File :=
  { d with status := .exited }

def setPhase (d : State Authority KeyPair File) (i : ℕ) (phase : Phase Authority KeyPair) :
    State Authority KeyPair File :=
  { d with phases := d.phases.set i phase }

end State

section Files

variable [DecidableEq File]

/-- The files when one is made, if there is one to make. -/
def link : Option File → Finset File → Finset File
  | some file, files => insert file files
  | none, files => files

/-- The files when one is removed, if there is one to remove. -/
def unlink : Option File → Finset File → Finset File
  | some file, files => files.erase file
  | none, files => files

theorem mem_link {made : Option File} {files : Finset File} {file : File} :
    file ∈ link made files ↔ made = some file ∨ file ∈ files := by
  cases made with
  | none => simp [link]
  | some f => simp [link, eq_comm]

theorem mem_unlink {gone : Option File} {files : Finset File} {file : File} :
    file ∈ unlink gone files ↔ file ∈ files ∧ gone ≠ some file := by
  cases gone with
  | none => simp [unlink]
  | some f =>
    unfold unlink
    rw [Finset.mem_erase]
    simp only [ne_eq, Option.some.injEq]
    constructor
    · intro h
      exact ⟨h.2, fun heq => h.1 heq.symm⟩
    · intro h
      exact ⟨fun heq => h.2 heq.symm, h.1⟩

end Files

namespace Setup

variable (setup : Setup Authority KeyPair File)

/-- The process when `main` has started the goroutines. -/
def init (files : Finset File) : State Authority KeyPair File where
  files := files
  phases := List.replicate setup.conf.length .starting
  status := .running

/-- The sockets that `cleanUp` removes. -/
def sockets : List String := setup.conf.map fun cluster => cluster.2.socket

/-- The address that `net.Listen` binds, if it is one that another listener can ask for. -/
def addressOf (socket : String) : Option (Address File) :=
  if socket.toList.head? = some '@' then some (.abstract socket)
  else (setup.fileOf socket).map .file

def socketAt (i : ℕ) : Option String := setup.conf[i]?.map fun cluster => cluster.2.socket

def addressAt (i : ℕ) : Option (Address File) := (setup.socketAt i).bind setup.addressOf

/-- The file of the path that is the socket of cluster `i`. -/
def pathAt (i : ℕ) : Option File := (setup.socketAt i).bind setup.fileOf

/-- The file that cluster `i` binds. -/
def fileAt (i : ℕ) : Option File :=
  match setup.addressAt i with
  | some (.file file) => some file
  | _ => none

variable [DecidableEq File]

/-- There is a file of the address, or a cluster listens on the abstract name. -/
def taken (d : State Authority KeyPair File) : Address File → Bool
  | .file file => decide (file ∈ d.files)
  | .abstract name => (List.range setup.conf.length).any fun i =>
      d.phases[i]?.any Phase.isServing && decide (setup.addressAt i = some (.abstract name))

/-- Nothing is in the way of the socket of cluster `i`. -/
def free (d : State Authority KeyPair File) (i : ℕ) : Bool :=
  (setup.addressAt i).all fun address => !setup.taken d address

/-- One step. Nothing happens in a process that has ended. -/
def step (d : State Authority KeyPair File) (e : Event) : Option (State Authority KeyPair File) :=
  if d.status = .exited then none
  else match e with
  | .connect i accepted =>
    match d.phases[i]?, setup.conf[i]? with
    | some .starting, some (_, ac) =>
      match launchPolicy setup.crypto setup.clientPolicy ac with
      | .error _ => some d.exit
      | .ok cp => some (if accepted then d.setPhase i (.connected cp) else d.exit)
    | _, _ => none
  | .listen i permitted =>
    match d.phases[i]? with
    | some (.connected cp) =>
      if permitted && setup.free d i then
        some { d.setPhase i (.serving cp) with files := link (setup.fileAt i) d.files }
      else some d.exit
    | _ => none
  | .serveEnds i =>
    match d.phases[i]? with
    | some (.serving _) =>
      some { d.setPhase i .closed with files := unlink (setup.fileAt i) d.files }
    | _ => none
  | .deferred i =>
    match d.phases[i]? with
    | some .closed => some { d.setPhase i .ended with files := unlink (setup.pathAt i) d.files }
    | _ => none
  | .signal order =>
    if d.status = .running ∧ order.Perm setup.sockets then some { d with status := .cleaning order }
    else none
  | .remove permitted =>
    match d.status with
    | .cleaning (socket :: rest) =>
      some { d with
        files := if permitted then unlink (setup.fileOf socket) d.files else d.files
        status := .cleaning rest }
    | _ => none
  | .exit => if d.status = .cleaning [] then some d.exit else none

end Setup

/-! ## What a step does -/

namespace State

/-- The goroutine of cluster `i` serves. -/
def IsServing (d : State Authority KeyPair File) (i : ℕ) : Prop :=
  ∃ cp, d.phases[i]? = some (.serving cp)

end State

namespace Setup

variable (setup : Setup Authority KeyPair File)

/-- The client policy that `launchServer` makes for cluster `i`. -/
def policyAt (i : ℕ) : Option (Except String (ClientPolicy Authority KeyPair)) :=
  setup.conf[i]?.map fun cluster => launchPolicy setup.crypto setup.clientPolicy cluster.2

/-- Cluster `i` serves on the address. -/
def Serves (d : State Authority KeyPair File) (i : ℕ) (address : Address File) : Prop :=
  d.IsServing i ∧ setup.addressAt i = some address

/-- `net.Listen` fails at the address. -/
def InUse (d : State Authority KeyPair File) : Address File → Prop
  | .file file => file ∈ d.files
  | .abstract name => ∃ i, setup.Serves d i (.abstract name)

section Addresses

variable {setup}

theorem policyAt_eq {i : ℕ} {cluster : String × AerospikeConfig}
    (h : setup.conf[i]? = some cluster) :
    setup.policyAt i = some (launchPolicy setup.crypto setup.clientPolicy cluster.2) := by
  simp [policyAt, h]

theorem fileAt_eq_some {i : ℕ} {file : File} :
    setup.fileAt i = some file ↔ setup.addressAt i = some (.file file) := by
  unfold fileAt
  split
  · rename_i file' h
    simp [h]
  · rename_i h
    constructor
    · intro hnone
      cases hnone
    · intro hfile
      exact absurd hfile (h file)

/-- A file that is bound is the one of the path. -/
theorem pathAt_of_fileAt {i : ℕ} {file : File} (h : setup.fileAt i = some file) :
    setup.pathAt i = some file := by
  obtain ⟨socket, hsocket, haddress⟩ := Option.bind_eq_some_iff.1 (fileAt_eq_some.1 h)
  unfold addressOf at haddress
  split_ifs at haddress
  · cases haddress
  · obtain ⟨file', hfile, heq⟩ := Option.map_eq_some_iff.1 haddress
    cases heq
    exact Option.bind_eq_some_iff.2 ⟨socket, hsocket, hfile⟩

theorem exists_conf {i : ℕ} {socket : String} (h : setup.socketAt i = some socket) :
    ∃ cluster, setup.conf[i]? = some cluster ∧ cluster.2.socket = socket :=
  Option.map_eq_some_iff.1 h

theorem exists_conf_of_address {i : ℕ} {address : Address File}
    (h : setup.addressAt i = some address) : ∃ cluster, setup.conf[i]? = some cluster := by
  obtain ⟨socket, hsocket, -⟩ := Option.bind_eq_some_iff.1 h
  obtain ⟨cluster, hcluster, -⟩ := exists_conf hsocket
  exact ⟨cluster, hcluster⟩

theorem any_isServing {d : State Authority KeyPair File} {i : ℕ} :
    d.phases[i]?.any Phase.isServing = true ↔ d.IsServing i := by
  unfold State.IsServing
  cases d.phases[i]? with
  | none => simp
  | some phase => cases phase <;> simp [Phase.isServing]

theorem taken_iff [DecidableEq File] {d : State Authority KeyPair File} {address : Address File} :
    setup.taken d address = true ↔ setup.InUse d address := by
  cases address with
  | file file => exact decide_eq_true_iff
  | abstract name =>
    simp only [taken, List.any_eq_true, List.mem_range, Bool.and_eq_true, any_isServing,
      decide_eq_true_eq]
    constructor
    · intro h
      obtain ⟨i, -, hserving, haddress⟩ := h
      exact ⟨i, hserving, haddress⟩
    · intro h
      obtain ⟨i, hserving, haddress⟩ := h
      obtain ⟨cluster, hcluster⟩ := exists_conf_of_address haddress
      exact ⟨i, (List.getElem?_eq_some_iff.1 hcluster).1, hserving, haddress⟩

theorem free_iff [DecidableEq File] {d : State Authority KeyPair File} {i : ℕ} :
    setup.free d i = true ↔
      ∀ address, setup.addressAt i = some address → ¬ setup.InUse d address := by
  unfold free
  cases setup.addressAt i with
  | none => simp
  | some address => simp [← taken_iff]

end Addresses

variable [DecidableEq File]

/-- The steps, each with the state that it needs. -/
inductive Step (d : State Authority KeyPair File) : Event → State Authority KeyPair File → Prop
  | connected {i : ℕ} {cp : ClientPolicy Authority KeyPair} :
      d.status ≠ .exited → d.phases[i]? = some .starting → setup.policyAt i = some (.ok cp) →
      Step d (.connect i true) (d.setPhase i (.connected cp))
  | refused {i : ℕ} {accepted : Bool} {policy : Except String (ClientPolicy Authority KeyPair)} :
      d.status ≠ .exited → d.phases[i]? = some .starting → setup.policyAt i = some policy →
      policy.isOk = false ∨ accepted = false →
      Step d (.connect i accepted) d.exit
  | listens {i : ℕ} {cp : ClientPolicy Authority KeyPair} :
      d.status ≠ .exited → d.phases[i]? = some (.connected cp) →
      (∀ address, setup.addressAt i = some address → ¬ setup.InUse d address) →
      Step d (.listen i true) { d.setPhase i (.serving cp) with
        files := link (setup.fileAt i) d.files }
  | fails {i : ℕ} {permitted : Bool} {cp : ClientPolicy Authority KeyPair} :
      d.status ≠ .exited → d.phases[i]? = some (.connected cp) →
      permitted = false ∨ (∃ address, setup.addressAt i = some address ∧ setup.InUse d address) →
      Step d (.listen i permitted) d.exit
  | closes {i : ℕ} :
      d.status ≠ .exited → d.IsServing i →
      Step d (.serveEnds i) { d.setPhase i .closed with
        files := unlink (setup.fileAt i) d.files }
  | ends {i : ℕ} :
      d.status ≠ .exited → d.phases[i]? = some .closed →
      Step d (.deferred i) { d.setPhase i .ended with
        files := unlink (setup.pathAt i) d.files }
  | signal {order : List String} :
      d.status = .running → order.Perm setup.sockets →
      Step d (.signal order) { d with status := .cleaning order }
  | removed {socket : String} {rest : List String} :
      d.status = .cleaning (socket :: rest) →
      Step d (.remove true) { d with
        files := unlink (setup.fileOf socket) d.files
        status := .cleaning rest }
  | remains {socket : String} {rest : List String} :
      d.status = .cleaning (socket :: rest) →
      Step d (.remove false) { d with status := .cleaning rest }
  | exit : d.status = .cleaning [] → Step d .exit d.exit

variable {setup} {d d' : State Authority KeyPair File} {e : Event}

/-- When `net.Listen` fails: something outside is in the way, or the address is in use. -/
theorem not_free_iff {permitted : Bool} {i : ℕ} :
    ¬ (permitted && setup.free d i) = true ↔
      permitted = false ∨ ∃ address, setup.addressAt i = some address ∧ setup.InUse d address := by
  rw [Bool.and_eq_true, not_and_or, Bool.not_eq_true, free_iff]
  push Not
  rfl

theorem step_of_eq_some (h : setup.step d e = some d') : setup.Step d e d' := by
  unfold step at h
  by_cases hexited : d.status = .exited
  · simp [hexited] at h
  rw [if_neg hexited] at h
  cases e with
  | connect i accepted =>
    dsimp only at h
    split at h
    · rename_i name ac hphase hconf
      split at h
      · rename_i message hpolicy
        cases h
        exact .refused hexited hphase ((policyAt_eq hconf).trans (congrArg some hpolicy))
          (.inl rfl)
      · rename_i cp hpolicy
        have hpolicy' := (policyAt_eq hconf).trans (congrArg some hpolicy)
        cases accepted with
        | true => cases h; exact .connected hexited hphase hpolicy'
        | false => cases h; exact .refused hexited hphase hpolicy' (.inr rfl)
    · cases h
  | listen i permitted =>
    dsimp only at h
    split at h
    · rename_i cp hphase
      split_ifs at h with hfree
      · rw [Bool.and_eq_true, free_iff] at hfree
        obtain ⟨rfl, hfree⟩ := hfree
        cases h
        exact .listens hexited hphase hfree
      · cases h
        exact .fails hexited hphase (not_free_iff.1 hfree)
    · cases h
  | serveEnds i =>
    dsimp only at h
    split at h
    · rename_i cp hphase
      cases h
      exact .closes hexited ⟨cp, hphase⟩
    · cases h
  | deferred i =>
    dsimp only at h
    split at h
    · rename_i hphase
      cases h
      exact .ends hexited hphase
    · cases h
  | signal order =>
    dsimp only at h
    split_ifs at h with hready
    cases h
    exact .signal hready.1 hready.2
  | remove permitted =>
    dsimp only at h
    split at h
    · rename_i socket rest hstatus
      cases permitted with
      | true => cases h; exact .removed hstatus
      | false => cases h; exact .remains hstatus
    · cases h
  | exit =>
    dsimp only at h
    split_ifs at h with hready
    cases h
    exact .exit hready

theorem Step.eq_some (h : setup.Step d e d') : setup.step d e = some d' := by
  unfold step
  cases h with
  | connected hexited hphase hpolicy =>
    obtain ⟨cluster, hconf, hbuilt⟩ := Option.map_eq_some_iff.1 hpolicy
    simp [hexited, hphase, hconf, hbuilt]
  | @refused i accepted policy hexited hphase hpolicy hrefused =>
    obtain ⟨cluster, hconf, hbuilt⟩ := Option.map_eq_some_iff.1 hpolicy
    cases policy with
    | error message => simp [hexited, hphase, hconf, hbuilt]
    | ok cp =>
      have haccepted : accepted = false := by simpa [Except.isOk, Except.toBool] using hrefused
      simp [hexited, hphase, hconf, hbuilt, haccepted]
  | listens hexited hphase hfree =>
    simp [hexited, hphase, free_iff.2 hfree]
  | fails hexited hphase htaken =>
    simp only [hexited, hphase, if_false, if_neg (not_free_iff.2 htaken)]
  | closes hexited hserving =>
    obtain ⟨cp, hphase⟩ := hserving
    simp [hexited, hphase]
  | ends hexited hphase => simp [hexited, hphase]
  | signal hrunning hperm => simp [hrunning, hperm]
  | removed hstatus => simp [hstatus]
  | remains hstatus => simp [hstatus]
  | exit hstatus => simp [hstatus]

/-- The steps of the process are those. -/
theorem step_iff : setup.step d e = some d' ↔ setup.Step d e d' :=
  ⟨step_of_eq_some, Step.eq_some⟩

end Setup

end AerospikePhp.Daemon
