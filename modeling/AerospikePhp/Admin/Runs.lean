import AerospikePhp.Admin.Server
import AerospikePhp.Command.Outcome
import AerospikePhp.Lib.Transition

/-!
# Administration calls

Behind a call there is one call of the Go client, with the arguments that the daemon makes of
those of the program. It is not made when the daemon cannot convert the arguments, and it is made,
but not reported, when the daemon cannot convert what it returned.

Results:
* `AdminCommand.call_eq`: what a call does.
* `reported_report_iff`: the outcome of the call of the Go client is reported iff nothing that it
  returns is missing.
* `adminNext_eq`: the cluster goes on as the call of the Go client does.
-/

namespace AerospikePhp

open Handler

/-! ## The call of the Go client -/

/-- The value that a handler has before it is converted. -/
abbrev AdminKind.Go : AdminKind → Type
  | done => Unit
  | users => List (Option Aero.UserRoles)
  | roles => List (Option Aero.Role)
  | udfs => List Aero.UDF

/-- The conversion of the value. -/
def AdminKind.send : (k : AdminKind) → k.Go → Except Panic k.Message
  | done => fun _ => .ok ()
  | users => fromUserRoles
  | roles => fromRoles
  | udfs => fromUDFs

variable {σ : Type}

/-- A call of the Go client, with its value as a handler has it. -/
def Aero.AdminClient.act {α : Type} (client : Aero.AdminClient σ) {r : Aero.AdminResult}
    (call : Aero.AdminCall r) (value : r.Value → α) (s : σ) : Except Aero.CallError α × σ :=
  ((client.exec call s).1.map value, (client.exec call s).2)

namespace AdminCommand

section GoCall

variable (S : Aero.ValueString) (client : Aero.AdminClient σ)

/-- The call of the Go client that the daemon makes for the command. -/
def goCall : {k : AdminKind} → AdminCommand k → Except Panic (σ → Except Aero.CallError k.Go × σ)
  | _, dropIndex policy ns setName indexName => do
    let policy ← toWritePolicy S (some policy)
    return client.act (.dropIndex policy ns setName indexName) id
  | _, truncate policy ns setName beforeNanos =>
    .ok (client.act (.truncate (toInfoPolicy (some policy)) ns setName (toTime beforeNanos)) id)
  | _, registerUdf policy udfBody packageName _ => do
    let policy ← toWritePolicy S (some policy)
    return client.act (.registerUDF policy udfBody packageName .LUA) id
  | _, dropUdf policy packageName => do
    let policy ← toWritePolicy S (some policy)
    return client.act (.removeUDF policy packageName) id
  | _, listUdf policy => do
    let policy ← toReadPolicy S (some policy)
    return client.act (.listUDF policy) id
  | _, createUser policy user password roles =>
    .ok (client.act (.createUser (toAdminPolicy (some policy)) user password roles) id)
  | _, dropUser policy user =>
    .ok (client.act (.dropUser (toAdminPolicy (some policy)) user) id)
  | _, changePassword policy user password =>
    .ok (client.act (.changePassword (toAdminPolicy (some policy)) user password) id)
  | _, grantRoles policy user roles =>
    .ok (client.act (.grantRoles (toAdminPolicy (some policy)) user roles) id)
  | _, revokeRoles policy user roles =>
    .ok (client.act (.revokeRoles (toAdminPolicy (some policy)) user roles) id)
  | _, queryUsers policy (some user) =>
    .ok (client.act (.queryUser (toAdminPolicy (some policy)) user) fun u => [u])
  | _, queryUsers policy none =>
    .ok (client.act (.queryUsers (toAdminPolicy (some policy))) fun us => us.map some)
  | _, queryRoles policy (some roleName) =>
    .ok (client.act (.queryRole (toAdminPolicy (some policy)) roleName) fun r => [r])
  | _, queryRoles policy none =>
    .ok (client.act (.queryRoles (toAdminPolicy (some policy))) fun rs => rs.map some)
  | _, createRole policy roleName privileges allowlist readQuota writeQuota => do
    let privileges ← toPrivileges privileges
    return client.act (.createRole (toAdminPolicy (some policy)) roleName privileges allowlist
      readQuota writeQuota) id
  | _, dropRole policy roleName =>
    .ok (client.act (.dropRole (toAdminPolicy (some policy)) roleName) id)
  | _, grantPrivileges policy roleName privileges => do
    let privileges ← toPrivileges privileges
    return client.act (.grantPrivileges (toAdminPolicy (some policy)) roleName privileges) id
  | _, revokePrivileges policy roleName privileges => do
    let privileges ← toPrivileges privileges
    return client.act (.revokePrivileges (toAdminPolicy (some policy)) roleName privileges) id
  | _, setAllowlist policy roleName allowlist =>
    .ok (client.act (.setWhitelist (toAdminPolicy (some policy)) roleName allowlist) id)
  | _, setQuotas policy roleName readQuota writeQuota =>
    .ok (client.act (.setQuotas (toAdminPolicy (some policy)) roleName readQuota writeQuota) id)

end GoCall

end AdminCommand

/-- What the program sees of the outcome of the Go call. -/
def AdminKind.report (statusText : Panic → String) (k : AdminKind) :
    Except Aero.CallError k.Go → CallResult k.Message
  | .error e => { thrown := [.ofError ⟨e.resultCode, e.inDoubt⟩], result := .ok k.empty }
  | .ok v => { thrown := [], result := recovered statusText (k.send v) }

section Call

variable {S : Aero.ValueString} {client : Aero.AdminClient σ} {statusText : Panic → String}

theorem matchAdmin_value {k : AdminKind} {α : Type} {fromGo : α → Except Panic k.Message}
    {value : α → k.Go} (hsend : ∀ a, fromGo a = k.send (value a))
    (outcome : Except Aero.CallError α) :
    Client.matchAdmin (recovered statusText (Server.valueResponse outcome fromGo)) =
      k.report statusText (outcome.map value) := by
  cases outcome with
  | error e => rfl
  | ok a =>
    show Client.matchAdmin (recovered statusText (do return { error := none, value := ← fromGo a }))
      = { thrown := [], result := recovered statusText (k.send (value a)) }
    rw [hsend]
    cases k.send (value a) with
    | error p => rfl
    | ok m => rfl

theorem doneResponse_eq (outcome : Except Aero.CallError Unit) :
    .ok (Server.doneResponse outcome) =
      Server.valueResponse (k := .done) outcome fun u => AdminKind.send .done u := by
  cases outcome with
  | error e => rfl
  | ok u => rfl

/-- What a program sees of a request, and the state after it. -/
def seen (statusText : Panic → String) {k : AdminKind}
    (answered : Except Panic (Proto.AdminResponse k) × σ) : CallResult k.Message × σ :=
  (Client.matchAdmin (recovered statusText answered.1), answered.2)

/-- A handler that answers a call with what it returns. -/
theorem seen_value {k : AdminKind} {r : Aero.AdminResult} (call : Aero.AdminCall r)
    {fromGo : r.Value → Except Panic k.Message} {v : r.Value → k.Go}
    (hsend : ∀ a, fromGo a = k.send (v a)) (s : σ) :
    seen statusText (Server.valueResponse (client.exec call s).1 fromGo, (client.exec call s).2) =
      (k.report statusText (client.act call v s).1, (client.act call v s).2) := by
  unfold seen
  rw [matchAdmin_value hsend]
  rfl

/-- A handler that answers a call with its error. -/
theorem seen_done (call : Aero.AdminCall .done) (s : σ) :
    seen statusText (.ok (Server.doneResponse (client.exec call s).1), (client.exec call s).2) =
      (AdminKind.report statusText .done (client.act call id s).1, (client.act call id s).2) := by
  rw [doneResponse_eq]
  exact seen_value call (fun _ => rfl) s

/-- **The whole call.** A command is refused before a call of the Go client is made, or makes the
    call and reports its outcome. -/
theorem AdminCommand.call_eq {k : AdminKind} (cmd : AdminCommand k) (s : σ) :
    cmd.call S client statusText s = match cmd.goCall S client with
      | .error p => ({ thrown := [], result := .error (statusText p) }, s)
      | .ok act => (k.report statusText (act s).1, (act s).2) := by
  show seen statusText (Handler.run (Server.admin S client cmd.request) s) = _
  cases cmd with
  | createUser | dropUser | changePassword | grantRoles | revokeRoles | dropRole | setAllowlist
  | setQuotas | truncate => exact seen_done _ s
  | dropIndex policy =>
    simp only [request, Server.admin, Server.dropIndex, goCall, Handler.run_convert_bind]
    cases toWritePolicy S (some policy) with
    | error p => rfl
    | ok policy => exact seen_done _ s
  | registerUdf policy udfBody packageName language =>
    have hlanguage : toLanguage (language.getD .lua).number = .ok .LUA := by
      cases language with
      | none => rfl
      | some language => cases language; rfl
    simp only [request, Server.admin, Server.registerUDF, goCall, Handler.run_convert_bind,
      hlanguage]
    cases toWritePolicy S (some policy) with
    | error p => rfl
    | ok policy => exact seen_done _ s
  | dropUdf policy =>
    simp only [request, Server.admin, Server.dropUDF, goCall, Handler.run_convert_bind]
    cases toWritePolicy S (some policy) with
    | error p => rfl
    | ok policy => exact seen_done _ s
  | listUdf policy =>
    simp only [request, Server.admin, Server.listUDF, goCall, Handler.run_convert_bind]
    cases toReadPolicy S (some policy) with
    | error p => rfl
    | ok policy =>
      exact seen_value (k := .udfs) (v := id) (.listUDF policy) (fun _ => rfl) s
  | queryUsers policy user =>
    cases user with
    | none =>
      exact seen_value (k := .users) (v := fun us => us.map some) (.queryUsers _) (fun _ => rfl) s
    | some user =>
      exact seen_value (k := .users) (v := fun u => [u]) (.queryUser _ user) (fun _ => rfl) s
  | queryRoles policy roleName =>
    cases roleName with
    | none =>
      exact seen_value (k := .roles) (v := fun rs => rs.map some) (.queryRoles _) (fun _ => rfl) s
    | some roleName =>
      exact seen_value (k := .roles) (v := fun r => [r]) (.queryRole _ roleName) (fun _ => rfl) s
  | createRole policy roleName privileges =>
    simp only [request, Server.admin, Server.createRole, goCall, Handler.run_convert_bind]
    cases toPrivileges privileges with
    | error p => rfl
    | ok privileges => exact seen_done _ s
  | grantPrivileges policy roleName privileges =>
    simp only [request, Server.admin, Server.grantPrivileges, goCall, Handler.run_convert_bind]
    cases toPrivileges privileges with
    | error p => rfl
    | ok privileges => exact seen_done _ s
  | revokePrivileges policy roleName privileges =>
    simp only [request, Server.admin, Server.revokePrivileges, goCall, Handler.run_convert_bind]
    cases toPrivileges privileges with
    | error p => rfl
    | ok privileges => exact seen_done _ s

end Call

/-! ## What the program is told -/

/-- A user with its own data; the numbers of the Go client are shown as their 64 bits. -/
structure UserShown (u : Option Aero.UserRoles) (m : Proto.UserRole) : Prop where
  present : ∃ u', u = some u' ∧ m.user = u'.user ∧ m.roles = u'.roles ∧
    m.readInfo.map UInt64.toInt64 = u'.readInfo ∧ m.writeInfo.map UInt64.toInt64 = u'.writeInfo ∧
    m.connsInUse.toInt64 = u'.connsInUse

/-- A privilege with its own code and scope. -/
structure PrivilegeShown (p : Aero.Privilege) (m : Proto.Privilege) : Prop where
  name : m.name = p.code
  ns : m.ns = p.ns
  setName : m.setName = p.setName

/-- A role with its own data, its privileges in order. -/
structure RoleShown (r : Option Aero.Role) (m : Proto.Role) : Prop where
  present : ∃ r', r = some r' ∧ m.name = r'.name ∧
    List.Forall₂ PrivilegeShown r'.privileges m.privileges ∧ m.allowlist = r'.whitelist ∧
    m.readQuota = r'.readQuota ∧ m.writeQuota = r'.writeQuota

/-- A module with its own data, of which the language can be read. -/
structure UdfShown (udf : Aero.UDF) (m : Proto.UdfMeta) : Prop where
  packageName : m.packageName = udf.filename
  hash : m.hash = udf.hash
  language : udf.language = .LUA ∧ UdfLanguage.ofNumber m.language = .ok .lua

/-- What the method returns shows the value of the Go client, in order. -/
def AdminKind.Shows : (k : AdminKind) → k.Go → k.Message → Prop
  | done, _, _ => True
  | users, us, ms => List.Forall₂ UserShown us ms
  | roles, rs, ms => List.Forall₂ RoleShown rs ms
  | udfs, us, ms => List.Forall₂ UdfShown us ms

/-- The program is told how the call of the Go client ended. -/
def AdminKind.Reported (k : AdminKind) (outcome : Except Aero.CallError k.Go)
    (res : CallResult k.Message) : Prop :=
  match outcome with
  | .ok v => ∃ m, res.Returns m ∧ k.Shows v m
  | .error e => res.Throws e

/-- Nothing that was returned is missing: no user or role is nil, and the modules are in Lua. -/
def AdminKind.Present (k : AdminKind) (outcome : Except Aero.CallError k.Go) : Prop :=
  match k, outcome with
  | done, _ => True
  | users, .ok us => none ∉ us
  | roles, .ok rs => none ∉ rs
  | udfs, .ok us => ∀ udf ∈ us, udf.language = .LUA
  | _, .error _ => True

theorem convIntList_shown (l : List Int64) : (convIntList l).map UInt64.toInt64 = l := by
  simp [convIntList, Function.comp_def]

theorem fromUserRole_shown (u : Aero.UserRoles) :
    ∃ m, fromUserRole (some u) = .ok m ∧ UserShown (some u) m :=
  ⟨_, rfl, u, rfl, rfl, rfl, convIntList_shown _, convIntList_shown _,
    Int64.toInt64_toUInt64 _⟩

theorem fromPrivilege_shown (ps : List Aero.Privilege) :
    List.Forall₂ PrivilegeShown ps (fromPrivileges ps) := by
  unfold fromPrivileges
  induction ps with
  | nil => exact .nil
  | cons p ps ih => exact .cons ⟨rfl, rfl, rfl⟩ ih

theorem fromRole_shown (r : Aero.Role) : ∃ m, fromRole (some r) = .ok m ∧ RoleShown (some r) m :=
  ⟨_, rfl, r, rfl, rfl, fromPrivilege_shown _, rfl, rfl, rfl⟩

theorem fromUDF_shown {udf : Aero.UDF} (h : udf.language = .LUA) :
    ∃ m, fromUDF udf = .ok m ∧ UdfShown udf m := by
  refine ⟨{ packageName := udf.filename, hash := udf.hash, language := 0 }, ?_, rfl, rfl, h, rfl⟩
  unfold fromUDF
  rw [h]
  rfl

theorem send_shown {k : AdminKind} {v : k.Go} (h : k.Present (.ok v)) :
    ∃ m, k.send v = .ok m ∧ k.Shows v m := by
  cases k with
  | done => exact ⟨(), rfl, trivial⟩
  | users =>
    apply Fallible.exists_mapM_eq_ok
    intro u hu
    cases u with
    | none => exact absurd hu h
    | some u => exact fromUserRole_shown u
  | roles =>
    apply Fallible.exists_mapM_eq_ok
    intro r hr
    cases r with
    | none => exact absurd hr h
    | some r => exact fromRole_shown r
  | udfs =>
    apply Fallible.exists_mapM_eq_ok
    intro udf hudf
    exact fromUDF_shown (h udf hudf)

theorem forall_of_forall₂ {α β : Type} {R : α → β → Prop} {P : α → Prop} {xs : List α}
    {ys : List β} (h : List.Forall₂ R xs ys) (hP : ∀ a b, R a b → P a) : ∀ a ∈ xs, P a :=
  ((List.forall₂_and_left xs ys).1 (h.imp fun a b hab => ⟨hP a b hab, hab⟩)).1

theorem present_of_shows {k : AdminKind} {v : k.Go} {m : k.Message} (h : k.Shows v m) :
    k.Present (.ok v) := by
  cases k with
  | done => trivial
  | users =>
    have hall : ∀ u ∈ v, u ≠ none := by
      refine forall_of_forall₂ (R := UserShown) h ?_
      intro u m' hm' hnone
      obtain ⟨u', hu', -⟩ := hm'.present
      rw [hnone] at hu'
      cases hu'
    exact fun hnone => hall none hnone rfl
  | roles =>
    have hall : ∀ r ∈ v, r ≠ none := by
      refine forall_of_forall₂ (R := RoleShown) h ?_
      intro r m' hm' hnone
      obtain ⟨r', hr', -⟩ := hm'.present
      rw [hnone] at hr'
      cases hr'
    exact fun hnone => hall none hnone rfl
  | udfs => exact forall_of_forall₂ (R := UdfShown) h fun _ _ hm' => hm'.language.1

/-- The outcome of a call that is made is reported iff nothing that it returned is missing. -/
theorem reported_report_iff (statusText : Panic → String) {k : AdminKind}
    (outcome : Except Aero.CallError k.Go) :
    k.Reported outcome (k.report statusText outcome) ↔ k.Present outcome := by
  cases outcome with
  | error e =>
    refine iff_of_true ⟨_, rfl, rfl, rfl⟩ ?_
    cases k <;> trivial
  | ok v =>
    constructor
    · intro h
      obtain ⟨m, -, hshows⟩ := h
      exact present_of_shows hshows
    · intro h
      obtain ⟨m, hsend, hshows⟩ := send_shown h
      refine ⟨m, ⟨rfl, ?_⟩, hshows⟩
      show recovered statusText (k.send v) = .ok m
      rw [hsend]
      rfl

/-! ## Runs -/

/-- A command of some kind. -/
abbrev SomeAdmin := (k : AdminKind) × AdminCommand k

section Runs

variable (S : Aero.ValueString) (client : Aero.AdminClient σ) (statusText : Panic → String)

/-- The state after a command of the program. -/
def adminNext (s : σ) (c : SomeAdmin) : σ := (c.2.call S client statusText s).2

/-- The state after the call of the Go client. -/
def goNext (s : σ) (c : SomeAdmin) : σ :=
  match c.2.goCall S client with
  | .ok act => (act s).2
  | .error _ => s

theorem adminNext_eq (s : σ) (c : SomeAdmin) :
    adminNext S client statusText s c = goNext S client s c := by
  unfold adminNext goNext
  rw [AdminCommand.call_eq]
  cases c.2.goCall S client with
  | error p => rfl
  | ok act => rfl

end Runs

end AerospikePhp
