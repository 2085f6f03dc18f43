import AerospikePhp.Command.Outcome
import AerospikePhp.Lib.Records
import AerospikePhp.Value.Cycle

/-!
# A cluster that keeps records

The Go client has a state, that of the cluster: a call is answered, and changes it. A cluster
keeps records when a table of them accounts for its answers: a write that succeeds is in the
table, one that fails is not, unless it is in doubt, and reads answer with what is in the table.
Nothing else writes to it, and nothing in it expires.

A record is at a place: its namespace and the digest of its key.

Results:
* `SingleCommand.call_of_error`, `SingleCommand.call_of_ok`: a command of a program fails before
  a call of the Go client is made, or it reports the outcome of this call.
* `ProgramKey.place_of_toKey`: the place of a key is where the Go client looks for its record.
-/

namespace AerospikePhp

open Records

/-! ## The whole call -/

namespace SingleCommand

/-- What a program sees of the outcome of the call of the Go client. -/
def report (statusText : Panic → String) :
    {k : SingleKind} → SingleCommand k → Except Aero.CallError k.Go →
      Except Panic (CallResult k.Php)
  | _, get _ _ _, outcome | _, getHeader _ _, outcome =>
    Client.matchSingle (recovered statusText (Server.singleResponse outcome))
  | _, existsKey _ _, outcome => Client.matchExists (.ok (Server.existsResponse outcome))
  | _, put _ _ _, outcome | _, add _ _ _, outcome | _, append _ _ _, outcome
  | _, prepend _ _ _, outcome | _, touch _ _, outcome =>
    .ok (Client.matchError (.ok (Server.errorResponse outcome)))
  | _, delete _ _, outcome => .ok (Client.matchDelete (.ok (Server.deleteResponse outcome)))

variable {newKey : String → String → Aero.Value → Option Aero.Key} {S : Aero.ValueString}
  {client : Aero.SingleClient} {statusText : Panic → String}

/-- A command whose policy or key cannot be converted fails with a status. -/
theorem call_of_error {k : SingleKind} {cmd : SingleCommand k} {p : Panic}
    (h : cmd.goCall newKey S = .error p) :
    cmd.call (Server.kvs newKey S client statusText) = .ok ⟨[], .error (statusText p)⟩ := by
  cases cmd with
  | get policy key bins =>
    have hserver : Server.get newKey S client ⟨some policy, some key, bins.getD []⟩ = .error p :=
      Fallible.both_eq_error h
    simp only [call, Client.get, Server.kvs, hserver]
    rfl
  | getHeader policy key =>
    have hserver : Server.getHeader newKey S client ⟨some policy, some key⟩ = .error p :=
      Fallible.both_eq_error h
    simp only [call, Client.getHeader, Server.kvs, hserver]
    rfl
  | existsKey policy key =>
    have hserver : Server.existsKey newKey S client ⟨some policy, some key⟩ = .error p :=
      Fallible.both_eq_error h
    simp only [call, Client.existsKey, Server.kvs, hserver]
    rfl
  | put policy key bins =>
    simp only [goCall, toBins_toProto, Fallible.ok_bind] at h
    have hserver : Server.put newKey S client ⟨some policy, some key, bins.map Bin.toProto⟩ =
        .error p := Fallible.both_eq_error h
    simp only [call, Client.put, Server.kvs, hserver]
    rfl
  | add policy key bins =>
    simp only [goCall, toBins_toProto, Fallible.ok_bind] at h
    have hserver : Server.add newKey S client ⟨some policy, some key, bins.map Bin.toProto⟩ =
        .error p := Fallible.both_eq_error h
    simp only [call, Client.add, Server.kvs, hserver]
    rfl
  | append policy key bins =>
    simp only [goCall, toBins_toProto, Fallible.ok_bind] at h
    have hserver : Server.append newKey S client ⟨some policy, some key, bins.map Bin.toProto⟩ =
        .error p := Fallible.both_eq_error h
    simp only [call, Client.append, Server.kvs, hserver]
    rfl
  | prepend policy key bins =>
    simp only [goCall, toBins_toProto, Fallible.ok_bind] at h
    have hserver : Server.prepend newKey S client ⟨some policy, some key, bins.map Bin.toProto⟩ =
        .error p := Fallible.both_eq_error h
    simp only [call, Client.prepend, Server.kvs, hserver]
    rfl
  | delete policy key =>
    have hserver : Server.delete newKey S client ⟨some policy, some key⟩ = .error p :=
      Fallible.both_eq_error h
    simp only [call, Client.delete, Server.kvs, hserver]
    rfl
  | touch policy key =>
    have hserver : Server.touch newKey S client ⟨some policy, some key⟩ = .error p :=
      Fallible.both_eq_error h
    simp only [call, Client.touch, Server.kvs, hserver]
    rfl

theorem toCallResult_sending {ρ α : Type} (request : ρ) (x : Except Panic (CallResult α)) :
    (x.map (Called.sending request)).map Called.toCallResult = x := by
  cases x with
  | error p => rfl
  | ok res => rfl

/-- A command for which a call is made reports its outcome. -/
theorem call_of_ok {k : SingleKind} {cmd : SingleCommand k} {c : Aero.SingleCall k}
    (h : cmd.goCall newKey S = .ok c) :
    (cmd.call (Server.kvs newKey S client statusText)) =
      cmd.report statusText (client.run c) := by
  cases cmd with
  | get policy key | getHeader policy key | existsKey policy key =>
    obtain ⟨apolicy, hpolicy, h⟩ := Fallible.bind_eq_ok.1 h
    obtain ⟨akey, hkey, h⟩ := Fallible.bind_eq_ok.1 h
    cases h
    simp only [call, Client.get, Client.getHeader, Client.existsKey, Server.kvs, Server.get,
      Server.getHeader, Server.existsKey, hpolicy, hkey, Fallible.ok_bind]
    exact toCallResult_sending _ _
  | delete policy key | touch policy key =>
    obtain ⟨apolicy, hpolicy, h⟩ := Fallible.bind_eq_ok.1 h
    obtain ⟨akey, hkey, h⟩ := Fallible.bind_eq_ok.1 h
    cases h
    simp only [call, Client.delete, Client.touch, Server.kvs, Server.delete, Server.touch,
      hpolicy, hkey, Fallible.ok_bind]
    rfl
  | put policy key bins | add policy key bins | append policy key bins
  | prepend policy key bins =>
    obtain ⟨apolicy, hpolicy, h⟩ := Fallible.bind_eq_ok.1 h
    obtain ⟨akey, hkey, h⟩ := Fallible.bind_eq_ok.1 h
    obtain ⟨abins, hbins, h⟩ := Fallible.bind_eq_ok.1 h
    cases h
    simp only [call, Client.put, Client.add, Client.append, Client.prepend, Server.kvs,
      Server.put, Server.add, Server.append, Server.prepend, hpolicy, hkey, hbins,
      Fallible.ok_bind]
    rfl

end SingleCommand

/-! ## Places -/

/-- Where a record is: its namespace and its digest. -/
abbrev Place := String × List UInt8

/-- Where the Go client looks for the record of a key. -/
def Aero.Key.place (key : Aero.Key) : Place := (key.ns, key.digest.toList)

section Place

variable {lib : KeyClient}

/-- Where the record of a key is for a program: at the digest that the extension computes. -/
def ProgramKey.place (key : ProgramKey lib) : Place :=
  (key.key.ns.getD "",
    (Key.getDigestBytes lib.ripemd160 key.key).toOption.getD [])

/-- The Go client looks for it there. -/
theorem ProgramKey.place_of_toKey {key : ProgramKey lib} {akey : Option Aero.Key}
    (h : toKey lib.newKey (some key.key) = .ok akey) :
    ∃ k, akey = some k ∧ k.place = key.place ∧
      ∃ k', fromKey (some k) = .ok (some k') ∧ key.key.SameAs lib.ripemd160 k' := by
  obtain ⟨ns, set, u, rfl, hsame⟩ := ProgramKey.toKey_eq_ok h
  refine ⟨_, rfl, ?_, _, ReceivedKey.fromKey_toAero _, hsame⟩
  have hdigest := hsame.digest
  rw [ReceivedKey.getDigestBytes_toProto] at hdigest
  unfold ProgramKey.place
  rw [← hdigest, ← hsame.ns]
  rfl

end Place

/-! ## Clusters -/

/-- The Go client of a cluster: how calls end in a state, and the state after a call. -/
structure Aero.Cluster (σ : Type) where
  client : σ → Aero.SingleClient
  after : {k : SingleKind} → Aero.SingleCall k → σ → σ

/-- `REPLACE` and `REPLACE_ONLY`: the other bins of the record go. -/
def Aero.WritePolicy.replaces (policy : Aero.WritePolicy) : Bool :=
  policy.recordExistsAction == 2 || policy.recordExistsAction == 3

/-- What a write of a bin does: a null takes the bin away. -/
def Aero.Bin.write (bin : Aero.Bin) : String × Option Aero.Value :=
  (bin.name, match bin.value with
    | .null => none
    | v => some v)

/-- The bins of a record that is read are these. -/
def Aero.Record.Holds (r : Aero.Record) (fields : Fields String Aero.Value) : Prop :=
  ∃ l : List (String × Aero.Value), (l.map Prod.fst).Nodup ∧
    (∀ name, fields name = l.lookup name) ∧
    List.Forall₂ (fun e bin => bin.1 = e.1 ∧ e.2.ReadAs bin.2) l r.bins

/-- A read of the record that is there, or is not there. -/
def Aero.Read (fields? : Option (Fields String Aero.Value)) (key : Aero.Key)
    (shown : Fields String Aero.Value → Fields String Aero.Value) :
    Except Aero.CallError Aero.Record → Prop
  | .ok r => ∃ fields, fields? = some fields ∧ r.key = some key ∧ r.Holds (shown fields)
  | .error e => e.resultCode = ResultCode.keyNotFoundError ∧ e.inDoubt = false → fields? = none

/-- A write that succeeded is in the table, one that failed is not, unless it is in doubt. -/
def Aero.Wrote {α : Type} (before written after : Table Place String Aero.Value) :
    Except Aero.CallError α → Prop
  | .ok _ => after = written
  | .error e => after = before ∨ e.inDoubt = true ∧ after = written

variable {σ : Type}

/-- The cluster keeps the records of the table. -/
structure Aero.Cluster.Keeps (cluster : Aero.Cluster σ)
    (table : σ → Table Place String Aero.Value) : Prop where
  get : ∀ policy key names s,
    table (cluster.after (.get policy (some key) names) s) = table s ∧
      Aero.Read (table s key.place) key (Fields.select names)
        ((cluster.client s).run (.get policy (some key) names))
  getHeader : ∀ policy key s,
    table (cluster.after (.getHeader policy (some key)) s) = table s ∧
      Aero.Read (table s key.place) key (fun _ => Fields.empty)
        ((cluster.client s).run (.getHeader policy (some key)))
  existsKey : ∀ policy key s,
    table (cluster.after (.existsKey policy (some key)) s) = table s ∧
      ∀ b, (cluster.client s).run (.existsKey policy (some key)) = .ok b →
        b = (table s key.place).isSome
  putBins : ∀ policy key bins s,
    Aero.Wrote (table s)
      ((table s).write key.place policy.replaces (bins.map Aero.Bin.write))
      (table (cluster.after (.putBins (some policy) (some key) bins) s))
      ((cluster.client s).run (.putBins (some policy) (some key) bins))
  delete : ∀ policy key s,
    Aero.Wrote (table s) ((table s).remove key.place)
      (table (cluster.after (.delete policy (some key)) s))
      ((cluster.client s).run (.delete policy (some key)))
  touch : ∀ policy key s,
    table (cluster.after (.touch policy (some key)) s) = table s ∧
      ((cluster.client s).run (.touch policy (some key)) = .ok () → (table s key.place).isSome)

end AerospikePhp
