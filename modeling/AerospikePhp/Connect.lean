import AerospikePhp.Lib.Fallible
import AerospikePhp.Value.Basic
import Mathlib.Data.List.Induction
import Mathlib.Logic.Function.Basic

/-!
# Connections

A process keeps the clients that it made, by the name of the socket (`src/lib.rs` lines
9726–9763, 12141–12160). `Client::connect` returns the client that is there. Otherwise it
connects, asks the connection manager for its version, and keeps the client if the
version is its own.

The crate `version_compare` is a parameter, and so is what comes of each attempt to
connect. A client object of PHP can always be made.

Results:
* `Attempt.verified_eq_ok_iff`: an attempt makes a client iff it connects and the version
  that is reported compares equal.
* `cacheInvariant`: after any calls, the client kept for a socket is the one that the
  first such attempt for it made, and every later call returns it; a call that fails
  keeps nothing.
-/

namespace AerospikePhp

/-- `Cmp`. -/
inductive Cmp where
  | eq
  | ne
  | lt
  | le
  | ge
  | gt
deriving DecidableEq

/-- The versions of the crate `version_compare`. -/
structure VersionCompare where
  Version : Type
  parse : String → Option Version
  compare : Version → Version → Cmp
  toText : Version → String

/-- What comes of an attempt to connect: an error, or a client, whose request for the
    version may fail. -/
inductive Attempt (G : Type) where
  | refused (error : String)
  | connected (client : G) (version : Except String String)

/-- How `connect` ends without a client. -/
inductive ConnectFailure where
  | error (text : String)
  | panic (panic : Panic)

/-- A call of `connect`. -/
structure ConnectCall (G : Type) where
  socket : String
  attempt : Attempt G

/-- `Client`. -/
structure Client (G : Type) where
  client : G
  socket : String

/-- `CLIENTS`. -/
abbrev Clients (G : Type) := String → Option G

/-- `Option::unwrap`. -/
def unwrap {α : Type} : Option α → Except ConnectFailure α
  | some a => .ok a
  | none => .error (.panic .unwrapNone)

theorem unwrap_eq_ok {α : Type} {o : Option α} {a : α} : unwrap o = .ok a ↔ o = some a := by
  cases o with
  | none => exact iff_of_false nofun nofun
  | some a' => rw [unwrap, Except.ok.injEq, Option.some.injEq]

section Connect

variable {G : Type} (V : VersionCompare) (VERSION : String)

/-- `persist_client` (lines 12141–12146). -/
def persistClient (key : String) (c : G) (clients : Clients G) : Clients G :=
  Function.update clients key (some c)

/-- `get_persisted_client` (lines 12148–12160). -/
def getPersistedClient (key : String) (clients : Clients G) : Option (Client G) := do
  let grpcClient ← clients key
  return { client := grpcClient, socket := key }

/-- Lines 9737–9754: the client of an attempt, if its version is the right one. -/
def Attempt.verified : Attempt G → Except ConnectFailure G
  | refused error => .error (.error error)
  | connected _ (.error error) => .error (.error error)
  | connected c (.ok version) => do
    let vClient ← unwrap (V.parse VERSION)
    let vServer ← unwrap (V.parse version)
    if V.compare vServer vClient ≠ .eq then
      .error (.error ("Rust Client version `" ++ V.toText vClient ++
        "` does not match the connection manager version `" ++ V.toText vServer ++ "`"))
    else
      .ok c

/-- `Client::connect` (lines 9726–9763), and the clients that are kept after it. -/
def connect (call : ConnectCall G) (clients : Clients G) :
    Except ConnectFailure (Client G) × Clients G :=
  match getPersistedClient call.socket clients with
  | some c => (.ok c, clients)
  | none =>
    match call.attempt.verified V VERSION with
    | .error e => (.error e, clients)
    | .ok c =>
      let clients := persistClient call.socket c clients
      match getPersistedClient call.socket clients with
      | some c => (.ok c, clients)
      | none => (.error (.error "Error connecting to the database"), clients)

/-- The clients that are kept after the calls, in order. -/
def clientsAfter (calls : List (ConnectCall G)) : Clients G :=
  calls.foldl (fun clients call => (connect V VERSION call clients).2) fun _ => none

/-! ## The attempts that succeed -/

/-- The attempt made the client, whose version was reported, and the reported text and
    that of the extension are versions that compare equal. -/
def Attempt.Succeeds (attempt : Attempt G) (c : G) : Prop :=
  ∃ version vServer vClient, attempt = .connected c (.ok version) ∧
    V.parse version = some vServer ∧ V.parse VERSION = some vClient ∧
    V.compare vServer vClient = .eq

variable {V VERSION} in
theorem Attempt.verified_eq_ok_iff {attempt : Attempt G} {c : G} :
    attempt.verified V VERSION = .ok c ↔ attempt.Succeeds V VERSION c := by
  constructor
  · intro h
    rcases attempt with error | ⟨c', error | version⟩
    · cases h
    · cases h
    · obtain ⟨vClient, hclient, h⟩ := Fallible.bind_eq_ok.1 h
      obtain ⟨vServer, hserver, h⟩ := Fallible.bind_eq_ok.1 h
      split_ifs at h with hne
      cases h
      exact ⟨version, vServer, vClient, rfl, unwrap_eq_ok.1 hserver, unwrap_eq_ok.1 hclient,
        not_not.1 hne⟩
  · rintro ⟨version, vServer, vClient, rfl, hserver, hclient, heq⟩
    rw [verified, unwrap_eq_ok.2 hclient, Fallible.ok_bind, unwrap_eq_ok.2 hserver,
      Fallible.ok_bind]
    exact if_neg (not_not.2 heq)

/-! ## One call -/

variable {V VERSION} {call : ConnectCall G} {clients : Clients G} {c : G}

theorem connect_of_kept (h : clients call.socket = some c) :
    connect V VERSION call clients = (.ok ⟨c, call.socket⟩, clients) := by
  simp [connect, getPersistedClient, h]

theorem connect_of_error {e : ConnectFailure} (h : clients call.socket = none)
    (hverified : call.attempt.verified V VERSION = .error e) :
    connect V VERSION call clients = (.error e, clients) := by
  simp [connect, getPersistedClient, h, hverified]

theorem connect_of_verified (h : clients call.socket = none)
    (hverified : call.attempt.verified V VERSION = .ok c) :
    connect V VERSION call clients =
      (.ok ⟨c, call.socket⟩, persistClient call.socket c clients) := by
  simp [connect, getPersistedClient, persistClient, h, hverified]

/-- What one call does: it returns the client that is kept, keeps the one it makes, or
    fails. -/
theorem connect_cases (V : VersionCompare) (VERSION : String) (call : ConnectCall G)
    (clients : Clients G) :
    (∃ c, clients call.socket = some c ∧
      connect V VERSION call clients = (.ok ⟨c, call.socket⟩, clients)) ∨
    (∃ c, clients call.socket = none ∧ call.attempt.verified V VERSION = .ok c ∧
      connect V VERSION call clients =
        (.ok ⟨c, call.socket⟩, persistClient call.socket c clients)) ∨
    ∃ e, clients call.socket = none ∧ connect V VERSION call clients = (.error e, clients) := by
  cases hkept : clients call.socket with
  | some c => exact .inl ⟨c, rfl, connect_of_kept hkept⟩
  | none =>
    cases hverified : call.attempt.verified V VERSION with
    | ok c => exact .inr (.inl ⟨c, rfl, rfl, connect_of_verified hkept hverified⟩)
    | error e => exact .inr (.inr ⟨e, rfl, connect_of_error hkept hverified⟩)

/-- A client that is kept stays. -/
theorem connect_keeps {socket : String} (h : clients socket = some c) :
    (connect V VERSION call clients).2 socket = some c := by
  obtain ⟨c', -, hcall⟩ | ⟨c', hnone, -, hcall⟩ | ⟨e, -, hcall⟩ :=
    connect_cases V VERSION call clients
  · rw [hcall]
    exact h
  · rw [hcall]
    have hne : socket ≠ call.socket := by
      rintro rfl
      rw [h] at hnone
      cases hnone
    exact (Function.update_of_ne hne ..).trans h
  · rw [hcall]
    exact h

/-- A new client is kept only for the socket of the call, by a call that made it. -/
theorem made_of_new {socket : String} (hnone : clients socket = none)
    (h : (connect V VERSION call clients).2 socket = some c) :
    call.socket = socket ∧ call.attempt.verified V VERSION = .ok c := by
  obtain ⟨c', -, hcall⟩ | ⟨c', -, hverified, hcall⟩ | ⟨e, -, hcall⟩ :=
    connect_cases V VERSION call clients
  · rw [hcall] at h
    cases hnone.symm.trans h
  · rw [hcall] at h
    by_cases hsocket : socket = call.socket
    · subst hsocket
      cases (Function.update_self ..).symm.trans h
      exact ⟨rfl, hverified⟩
    · cases (hnone.symm.trans (Function.update_of_ne hsocket ..).symm).trans h
  · rw [hcall] at h
    cases hnone.symm.trans h

/-! ## Runs of calls -/

theorem clientsAfter_append (before after : List (ConnectCall G)) :
    clientsAfter V VERSION (before ++ after) =
      after.foldl (fun clients call => (connect V VERSION call clients).2)
        (clientsAfter V VERSION before) :=
  List.foldl_append ..

theorem clientsAfter_concat (before : List (ConnectCall G)) (call : ConnectCall G) :
    clientsAfter V VERSION (before ++ [call]) =
      (connect V VERSION call (clientsAfter V VERSION before)).2 :=
  clientsAfter_append before [call]

theorem clientsAfter_keeps {before : List (ConnectCall G)} {socket : String}
    (h : clientsAfter V VERSION before socket = some c) (after : List (ConnectCall G)) :
    clientsAfter V VERSION (before ++ after) socket = some c := by
  rw [clientsAfter_append]
  generalize clientsAfter V VERSION before = clients at h
  induction after generalizing clients with
  | nil => exact h
  | cons call after ih => exact ih _ (connect_keeps h)

theorem kept_of_verified (hverified : call.attempt.verified V VERSION = .ok c) :
    ∃ c', (connect V VERSION call clients).2 call.socket = some c' := by
  cases hkept : clients call.socket with
  | some c' => exact ⟨c', connect_keeps hkept⟩
  | none =>
    rw [connect_of_verified hkept hverified]
    exact ⟨c, Function.update_self ..⟩

variable (V VERSION)

/-- The client is the one made by the first attempt for the socket that succeeds. -/
def FirstSuccess (calls : List (ConnectCall G)) (socket : String) (c : G) : Prop :=
  ∃ before call after, calls = before ++ call :: after ∧ call.socket = socket ∧
    call.attempt.Succeeds V VERSION c ∧
    ∀ earlier ∈ before, earlier.socket = socket → ∀ c', ¬ earlier.attempt.Succeeds V VERSION c'

/-- The clients kept after the calls are those of the first successes, and each is
    returned by every call that comes next for its socket. Where there was none, a call
    returns the client that its attempt makes, or fails; a call that fails changes
    nothing. -/
structure CacheInvariant (calls : List (ConnectCall G)) : Prop where
  kept : ∀ socket c, clientsAfter V VERSION calls socket = some c ↔
    FirstSuccess V VERSION calls socket c
  returned : ∀ (call : ConnectCall G) c, FirstSuccess V VERSION calls call.socket c →
    (connect V VERSION call (clientsAfter V VERSION calls)).1 = .ok ⟨c, call.socket⟩
  made : ∀ (call : ConnectCall G) c, (∀ c', ¬ FirstSuccess V VERSION calls call.socket c') →
    call.attempt.Succeeds V VERSION c →
    (connect V VERSION call (clientsAfter V VERSION calls)).1 = .ok ⟨c, call.socket⟩
  failed : ∀ call : ConnectCall G, (∀ c', ¬ FirstSuccess V VERSION calls call.socket c') →
    (∀ c, ¬ call.attempt.Succeeds V VERSION c) →
    (∃ e, (connect V VERSION call (clientsAfter V VERSION calls)).1 = .error e) ∧
      (connect V VERSION call (clientsAfter V VERSION calls)).2 = clientsAfter V VERSION calls

variable {V VERSION}

theorem firstSuccess_of_kept {calls : List (ConnectCall G)} {socket : String}
    (h : clientsAfter V VERSION calls socket = some c) :
    FirstSuccess V VERSION calls socket c := by
  induction calls using List.reverseRecOn with
  | nil => cases h
  | append_singleton calls call ih =>
    cases hkept : clientsAfter V VERSION calls socket with
    | some c' =>
      have hc := clientsAfter_keeps hkept [call]
      rw [h, Option.some.injEq] at hc
      subst hc
      obtain ⟨before, first, after, rfl, hfirst⟩ := ih hkept
      exact ⟨before, first, after ++ [call], by simp, hfirst⟩
    | none =>
      rw [clientsAfter_concat] at h
      obtain ⟨rfl, hverified⟩ := made_of_new hkept h
      refine ⟨calls, call, [], rfl, rfl, Attempt.verified_eq_ok_iff.1 hverified, ?_⟩
      -- an earlier success would have kept a client
      intro earlier hmem hsocket c' hsucceeds
      obtain ⟨pre, post, rfl⟩ := List.append_of_mem hmem
      have hverified' := Attempt.verified_eq_ok_iff.2 hsucceeds
      obtain ⟨c'', hnew⟩ : ∃ c'', clientsAfter V VERSION (pre ++ [earlier]) earlier.socket =
          some c'' := by
        rw [clientsAfter_concat]
        exact kept_of_verified hverified'
      have hafter := clientsAfter_keeps hnew post
      rw [List.append_assoc, List.singleton_append, hsocket, hkept] at hafter
      cases hafter

theorem kept_of_firstSuccess {calls : List (ConnectCall G)} {socket : String}
    (h : FirstSuccess V VERSION calls socket c) :
    clientsAfter V VERSION calls socket = some c := by
  obtain ⟨before, call, after, rfl, rfl, hsucceeds, hfirst⟩ := h
  have hnone : clientsAfter V VERSION before call.socket = none := by
    cases hkept : clientsAfter V VERSION before call.socket with
    | none => rfl
    | some c' =>
      obtain ⟨pre, earlier, post, rfl, hsocket, hearlier, -⟩ := firstSuccess_of_kept hkept
      exact absurd hearlier (hfirst earlier (by simp) hsocket c')
  have hcall : clientsAfter V VERSION (before ++ [call]) = _ := clientsAfter_concat before call
  rw [connect_of_verified hnone (Attempt.verified_eq_ok_iff.2 hsucceeds)] at hcall
  have hkept : clientsAfter V VERSION (before ++ [call]) call.socket = some c :=
    (congrFun hcall _).trans (Function.update_self ..)
  have hafter := clientsAfter_keeps hkept after
  rw [List.append_assoc] at hafter
  exact hafter

theorem not_kept_of_not_firstSuccess {calls : List (ConnectCall G)} {socket : String}
    (h : ∀ c', ¬ FirstSuccess V VERSION calls socket c') :
    clientsAfter V VERSION calls socket = none := by
  cases hkept : clientsAfter V VERSION calls socket with
  | none => rfl
  | some c => exact absurd (firstSuccess_of_kept hkept) (h c)

end Connect

/-- **Main theorem.** The invariant holds after any calls. -/
theorem cacheInvariant {G : Type} (V : VersionCompare) (VERSION : String)
    (calls : List (ConnectCall G)) : CacheInvariant V VERSION calls := by
  refine ⟨fun socket c => ⟨firstSuccess_of_kept, kept_of_firstSuccess⟩, ?_, ?_, ?_⟩
  · intro call c h
    rw [connect_of_kept (kept_of_firstSuccess h)]
  · intro call c hnone hsucceeds
    rw [connect_of_verified (not_kept_of_not_firstSuccess hnone)
      (Attempt.verified_eq_ok_iff.2 hsucceeds)]
  · intro call hnone hfails
    have hnot := not_kept_of_not_firstSuccess hnone
    cases hverified : call.attempt.verified V VERSION with
    | ok c => exact absurd (Attempt.verified_eq_ok_iff.1 hverified) (hfails c)
    | error e =>
      rw [connect_of_error hnot hverified]
      exact ⟨⟨e, rfl⟩, rfl⟩

end AerospikePhp
