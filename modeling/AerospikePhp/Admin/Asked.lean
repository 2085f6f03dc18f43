import AerospikePhp.Admin.Privileges
import AerospikePhp.Policy.Limits

/-!
# Administration by a Go program

What a command asks for, in the terms of the Go client: a call with its arguments, with a policy
that has its timeouts in nanoseconds, and with privileges of its codes and scopes.

Results:
* `AdminCommand.goCall_eq_asked`: a command makes that call if its privileges have codes that the
  daemon knows, its timeout fits in 32 bits as nanoseconds, and its policy has no filter.
* `admin_run`: over any run of such commands, the cluster goes through the states of a Go program
  that makes the calls itself, and each call is reported iff nothing that it returns is missing.
-/

namespace AerospikePhp

/-! ## Policies -/

/-- A duration of so many milliseconds. -/
def ofMillis (ms : ℤ) : Int64 := Int64.ofInt (ms * millisecond)

namespace Proto

/-- A policy without a filter, with the fields of the message. -/
def ReadPolicy.asked (p : ReadPolicy) : Aero.BasePolicy where
  filterExpression := none
  readModeAP := p.readModeAP.toInt64
  readModeSC := p.readModeSC.toInt64
  totalTimeout := ofMillis p.totalTimeout.toNat
  socketTimeout := ofMillis p.socketTimeout.toNat
  maxRetries := Int64.ofNat p.maxRetries.toNat
  sleepBetweenRetries := ofMillis p.sleepBetweenRetries.toInt
  sleepMultiplier := p.sleepMultiplier
  exitFastOnExhaustedConnectionPool := p.exitFastOnExhaustedConnectionPool
  sendKey := p.sendKey
  useCompression := p.useCompression
  replicaPolicy := p.replicaPolicy.toInt64
  readTouchTTLPercent := p.readTouchTTLPercent

/-- A policy of a write holds that of a read. -/
def WritePolicy.asked (p : WritePolicy) : Aero.WritePolicy where
  basePolicy := (p.policy.getD .default).asked
  recordExistsAction := p.recordExistsAction.toInt64
  generationPolicy := p.generationPolicy.toInt64
  commitLevel := p.commitLevel.toInt64
  generation := p.generation
  expiration := p.expiration
  respondPerEachOp := p.respondPerEachOp
  durableDelete := p.durableDelete

def AdminPolicy.asked (p : AdminPolicy) : Aero.AdminPolicy where
  timeout := ofMillis p.timeout.toNat

def InfoPolicy.asked (p : InfoPolicy) : Aero.InfoPolicy where
  timeout := ofMillis p.timeout.toNat

/-- There is no filter; the policy of a program always holds that of a read. -/
def WritePolicy.Unfiltered (p : WritePolicy) : Prop :=
  ∃ q, p.policy = some q ∧ q.filterExpression = none

/-- A privilege with the code and the scope of the message. -/
def Privilege.asked (p : Privilege) : Aero.Privilege where
  code := p.name
  ns := p.ns
  setName := p.setName

end Proto

/-! ## Products -/

theorem mul_eq_ofMillis (n : UInt64) :
    (n * UInt64.ofNat millisecond).toInt64 = ofMillis n.toNat := by
  calc (n * UInt64.ofNat millisecond).toInt64
      = (UInt64.ofNat (n.toNat * millisecond)).toInt64 := by
        rw [UInt64.ofNat_mul, UInt64.ofNat_toNat]
    _ = Int64.ofNat (n.toNat * millisecond) := UInt64.toInt64_ofNat'
    _ = ofMillis n.toNat := by rw [← Int64.ofInt_eq_ofNat, Int.natCast_mul, ofMillis]

theorem mul_eq_ofMillis_int (n : Int64) : n * Int64.ofNat millisecond = ofMillis n.toInt := by
  rw [ofMillis, Int64.ofInt_mul, Int64.ofInt_toInt, Int64.ofInt_eq_ofNat]

theorem toDuration32_eq_ofMillis {n : UInt32} (h : n.toNat ≤ 4294) :
    toDuration32 n = ofMillis n.toNat := by
  have hrange : Representable ((n.toNat : ℤ) * millisecond) := by
    unfold Representable millisecond
    omega
  rw [← Int64.toInt_inj, (keptMillis_toDuration32 n).2 h hrange]
  exact (Int64.toInt_ofInt_of_le hrange.1 hrange.2).symm

theorem maxRetries_eq_ofNat (n : UInt32) : n.toUInt64.toInt64 = Int64.ofNat n.toNat := by
  rw [← Int64.toInt_inj, toInt_of_uint32, Int64.toInt_ofNat_of_lt]
  exact Nat.lt_trans n.toNat_lt (by decide)

section Policies

variable {S : Aero.ValueString}

theorem toReadPolicy_eq_asked {p : Proto.ReadPolicy} (h : p.filterExpression = none) :
    toReadPolicy S (some p) = .ok (some p.asked) := by
  simp only [toReadPolicy, Proto.ReadPolicy.asked, h, mul_eq_ofMillis, mul_eq_ofMillis_int,
    maxRetries_eq_ofNat]
  rfl

theorem toWritePolicy_eq_asked {p : Proto.WritePolicy} (h : p.Unfiltered) :
    toWritePolicy S (some p) = .ok (some p.asked) := by
  obtain ⟨q, hq, hfilter⟩ := h
  simp only [toWritePolicy, Proto.WritePolicy.asked, hq, toReadPolicy_eq_asked hfilter]
  rfl

theorem toAdminPolicy_eq_asked {p : Proto.AdminPolicy} (h : p.timeout.toNat ≤ 4294) :
    toAdminPolicy (some p) = some p.asked := by
  simp only [toAdminPolicy, Proto.AdminPolicy.asked, toDuration32_eq_ofMillis h]

theorem toInfoPolicy_eq_asked {p : Proto.InfoPolicy} (h : p.timeout.toNat ≤ 4294) :
    toInfoPolicy (some p) = some p.asked := by
  simp only [toInfoPolicy, Proto.InfoPolicy.asked, toDuration32_eq_ofMillis h]

end Policies

theorem toPrivileges_eq_asked {ps : List Proto.Privilege} (h : ∀ p ∈ ps, p.name ∈ privilegeCodes) :
    toPrivileges ps = .ok (ps.map Proto.Privilege.asked) := by
  unfold toPrivileges
  rw [Fallible.mapM_eq_ok_iff, List.forall₂_map_right_iff, List.forall₂_same]
  intro p hp
  exact if_pos (h p hp)

/-! ## Commands -/

namespace AdminCommand

variable {σ : Type} (client : Aero.AdminClient σ)

/-- The call that a Go program makes in place of the command. -/
def asked : {k : AdminKind} → AdminCommand k → σ → Except Aero.CallError k.Go × σ
  | _, dropIndex policy ns setName indexName =>
    client.act (.dropIndex (some policy.asked) ns setName indexName) id
  | _, truncate policy ns setName beforeNanos =>
    client.act (.truncate (some policy.asked) ns setName (beforeNanos.map Aero.Time.mk)) id
  | _, registerUdf policy udfBody packageName _ =>
    client.act (.registerUDF (some policy.asked) udfBody packageName .LUA) id
  | _, dropUdf policy packageName => client.act (.removeUDF (some policy.asked) packageName) id
  | _, listUdf policy => client.act (.listUDF (some policy.asked)) id
  | _, createUser policy user password roles =>
    client.act (.createUser (some policy.asked) user password roles) id
  | _, dropUser policy user => client.act (.dropUser (some policy.asked) user) id
  | _, changePassword policy user password =>
    client.act (.changePassword (some policy.asked) user password) id
  | _, grantRoles policy user roles => client.act (.grantRoles (some policy.asked) user roles) id
  | _, revokeRoles policy user roles =>
    client.act (.revokeRoles (some policy.asked) user roles) id
  | _, queryUsers policy (some user) =>
    client.act (.queryUser (some policy.asked) user) fun u => [u]
  | _, queryUsers policy none => client.act (.queryUsers (some policy.asked)) fun us => us.map some
  | _, queryRoles policy (some roleName) =>
    client.act (.queryRole (some policy.asked) roleName) fun r => [r]
  | _, queryRoles policy none => client.act (.queryRoles (some policy.asked)) fun rs => rs.map some
  | _, createRole policy roleName privileges allowlist readQuota writeQuota =>
    client.act (.createRole (some policy.asked) roleName (privileges.map Proto.Privilege.asked)
      allowlist readQuota writeQuota) id
  | _, dropRole policy roleName => client.act (.dropRole (some policy.asked) roleName) id
  | _, grantPrivileges policy roleName privileges =>
    client.act (.grantPrivileges (some policy.asked) roleName
      (privileges.map Proto.Privilege.asked)) id
  | _, revokePrivileges policy roleName privileges =>
    client.act (.revokePrivileges (some policy.asked) roleName
      (privileges.map Proto.Privilege.asked)) id
  | _, setAllowlist policy roleName allowlist =>
    client.act (.setWhitelist (some policy.asked) roleName allowlist) id
  | _, setQuotas policy roleName readQuota writeQuota =>
    client.act (.setQuotas (some policy.asked) roleName readQuota writeQuota) id

/-- The policy reaches the Go client as it is: there is no filter, and the timeout of an
    administration or info policy fits in 32 bits as nanoseconds. -/
def PolicyKept : {k : AdminKind} → AdminCommand k → Prop
  | _, dropIndex policy _ _ _ | _, registerUdf policy _ _ _ | _, dropUdf policy _ =>
    policy.Unfiltered
  | _, listUdf policy => policy.filterExpression = none
  | _, truncate policy _ _ _ => policy.timeout.toNat ≤ 4294
  | _, createUser policy _ _ _ | _, dropUser policy _ | _, changePassword policy _ _
  | _, grantRoles policy _ _ | _, revokeRoles policy _ _ | _, queryUsers policy _
  | _, queryRoles policy _ | _, createRole policy _ _ _ _ _ | _, dropRole policy _
  | _, grantPrivileges policy _ _ | _, revokePrivileges policy _ _ | _, setAllowlist policy _ _
  | _, setQuotas policy _ _ _ => policy.timeout.toNat ≤ 4294

/-- The policy and the privileges reach the Go client as they are. -/
structure Kept {k : AdminKind} (cmd : AdminCommand k) : Prop where
  policy : cmd.PolicyKept
  privileges : ∀ p ∈ cmd.privileges, p.name ∈ privilegeCodes

variable {S : Aero.ValueString} {client}

theorem goCall_eq_asked {k : AdminKind} {cmd : AdminCommand k} (h : cmd.Kept) :
    cmd.goCall S client = .ok (cmd.asked client) := by
  obtain ⟨hpolicy, hprivileges⟩ := h
  cases cmd with
  | dropIndex | registerUdf | dropUdf =>
    simp only [goCall, toWritePolicy_eq_asked hpolicy]
    rfl
  | listUdf =>
    simp only [goCall, toReadPolicy_eq_asked hpolicy]
    rfl
  | truncate =>
    simp only [goCall, toInfoPolicy_eq_asked hpolicy]
    rfl
  | createUser | dropUser | changePassword | grantRoles | revokeRoles | dropRole | setAllowlist
  | setQuotas =>
    simp only [goCall, toAdminPolicy_eq_asked hpolicy]
    rfl
  | queryUsers policy user =>
    cases user with
    | none => simp only [goCall, toAdminPolicy_eq_asked hpolicy, asked]
    | some user => simp only [goCall, toAdminPolicy_eq_asked hpolicy, asked]
  | queryRoles policy roleName =>
    cases roleName with
    | none => simp only [goCall, toAdminPolicy_eq_asked hpolicy, asked]
    | some roleName => simp only [goCall, toAdminPolicy_eq_asked hpolicy, asked]
  | createRole policy roleName privileges =>
    have hps : toPrivileges privileges = .ok _ := toPrivileges_eq_asked hprivileges
    simp only [goCall, toAdminPolicy_eq_asked hpolicy, hps]
    rfl
  | grantPrivileges policy roleName privileges =>
    have hps : toPrivileges privileges = .ok _ := toPrivileges_eq_asked hprivileges
    simp only [goCall, toAdminPolicy_eq_asked hpolicy, hps]
    rfl
  | revokePrivileges policy roleName privileges =>
    have hps : toPrivileges privileges = .ok _ := toPrivileges_eq_asked hprivileges
    simp only [goCall, toAdminPolicy_eq_asked hpolicy, hps]
    rfl

end AdminCommand

/-! ## Runs -/

section Runs

variable {σ : Type} (S : Aero.ValueString) (client : Aero.AdminClient σ)
  (statusText : Panic → String)

/-- The state after what a Go program does in place of a command. -/
def askedNext (s : σ) (c : SomeAdmin) : σ := (c.2.asked client s).2

/-- The program is told how the call that it asked for ended. -/
def AdminReported (s : σ) (c : SomeAdmin) : Prop :=
  c.1.Reported (c.2.asked client s).1 (c.2.call S client statusText s).1

/-- Nothing is missing from what the call returns. -/
def AdminPresent (s : σ) (c : SomeAdmin) : Prop := c.1.Present (c.2.asked client s).1

theorem adminNext_eq_asked (s : σ) (c : SomeAdmin) (h : c.2.Kept) :
    adminNext S client statusText s c = askedNext client s c := by
  rw [adminNext_eq]
  unfold goNext askedNext
  rw [AdminCommand.goCall_eq_asked h]

theorem adminReported_iff (s : σ) (c : SomeAdmin) (h : c.2.Kept) :
    AdminReported S client statusText s c ↔ AdminPresent client s c := by
  unfold AdminReported AdminPresent
  rw [AdminCommand.call_eq, AdminCommand.goCall_eq_asked h]
  exact reported_report_iff statusText _

/-- **Main theorem.** Over any run of commands that are kept, the cluster goes through the states of
    a Go program that makes the calls itself, and all commands are reported iff nothing is missing
    from what any of them returns. -/
theorem admin_run (s : σ) {cmds : List SomeAdmin} (hkept : ∀ c ∈ cmds, c.2.Kept) :
    Session.after (adminNext S client statusText) s cmds =
        Session.after (askedNext client) s cmds ∧
      (Session.Along (adminNext S client statusText) (AdminReported S client statusText) s cmds ↔
        Session.Along (askedNext client) (AdminPresent client) s cmds) :=
  ⟨Session.after_congr (adminNext_eq_asked S client statusText) s hkept,
    Session.along_iff (adminNext_eq_asked S client statusText)
      (adminReported_iff S client statusText) s hkept⟩

end Runs

/-- A cluster with one role, of which the state is its privileges. -/
def grantingClient : Aero.AdminClient (List Aero.Privilege) where
  exec := fun {r} call s => match r, call with
    | .done, .grantPrivileges _ _ privileges => (.ok (), s ++ privileges)
    | .roles, .queryRoles _ => (.ok [⟨"reader", s, [], 0, 0⟩], s)
    | _, _ => (.error refusal, s)

/-- A privilege is granted, and the role is queried. -/
def grantAndQuery : List SomeAdmin :=
  [⟨.done, .grantPrivileges AdminPolicy.default "reader" [⟨"read", "test", ""⟩]⟩,
    ⟨.roles, .queryRoles AdminPolicy.default none⟩]

theorem admin_run_grant :
    Session.after (adminNext .strings grantingClient fun _ => "") [] grantAndQuery =
        [⟨"read", "test", ""⟩] ∧
      Session.Along (adminNext .strings grantingClient fun _ => "")
        (AdminReported .strings grantingClient fun _ => "") [] grantAndQuery := by
  have htimeout : AdminPolicy.default.timeout.toNat ≤ 4294 := by decide
  have hkept : ∀ c ∈ grantAndQuery, c.2.Kept := by
    intro c hc
    simp only [grantAndQuery, List.mem_cons, List.not_mem_nil, or_false] at hc
    rcases hc with rfl | rfl
    · refine ⟨htimeout, ?_⟩
      intro p hp
      cases List.mem_singleton.1 hp
      decide
    · exact ⟨htimeout, fun p hp => absurd hp (by simp [AdminCommand.privileges])⟩
  have hpresent : (none : Option Aero.Role) ∉ [some ⟨"reader", [⟨"read", "test", ""⟩], [], 0, 0⟩] :=
    by simp
  have hrun := admin_run .strings grantingClient (fun _ => "") [] hkept
  exact ⟨hrun.1, hrun.2.2 ⟨trivial, hpresent, trivial⟩⟩

end AerospikePhp
