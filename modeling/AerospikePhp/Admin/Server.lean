import AerospikePhp.Admin.Basic
import AerospikePhp.Lib.Handler
import AerospikePhp.Command.Server

/-!
# Administration in the daemon

Each handler (`kvs.go` lines 185–238 and 251–366) converts the policy and the arguments of the
request, makes one call of the Go client, and sends the error that it returns, or the value
(lines 520–656). The Go client has a state: what a call changes stays changed when the handler
panics on the answer.

A privilege is known by its name, one of ten; another one makes `toPrivilege` panic. A pointer
that is nil makes `fromUserRole` and `fromRole` panic: it stands for a user or a role that was
asked for by name and is not there.
-/

namespace AerospikePhp

/-! ## The Go client -/

namespace Aero

/-- A `Privilege` of the Go client, with its code as a string. -/
structure Privilege where
  code : String
  ns : String
  setName : String
deriving DecidableEq

/-- A `Role` of the Go client. -/
structure Role where
  name : String
  privileges : List Privilege
  whitelist : List String
  readQuota : UInt32
  writeQuota : UInt32
deriving DecidableEq

/-- A `UserRoles` of the Go client. -/
structure UserRoles where
  user : String
  roles : List String
  readInfo : List Int64
  writeInfo : List Int64
  connsInUse : Int64
deriving DecidableEq

/-- A `Language` of the Go client. -/
inductive Language where
  | LUA
  | other (name : String)
deriving DecidableEq

/-- A `UDF` of the Go client. -/
structure UDF where
  filename : String
  hash : String
  language : Language
deriving DecidableEq

/-- `time.Unix(0, nanos)`. -/
structure Time where
  nanos : Int64
deriving DecidableEq

/-- What a call of the Go client returns. -/
inductive AdminResult where
  | done
  | user
  | users
  | role
  | roles
  | udfs

/-- The value without an error; a pointer may be nil. -/
abbrev AdminResult.Value : AdminResult → Type
  | done => Unit
  | user => Option UserRoles
  | users => List UserRoles
  | role => Option Role
  | roles => List Role
  | udfs => List UDF

/-- A call of the Go client. -/
inductive AdminCall : AdminResult → Type where
  | dropIndex (policy : Option WritePolicy) (ns setName indexName : String) : AdminCall .done
  | truncate (policy : Option InfoPolicy) (ns setName : String) (beforeLastUpdate : Option Time) :
      AdminCall .done
  | registerUDF (policy : Option WritePolicy) (udfBody serverPath : String)
      (language : Language) : AdminCall .done
  | removeUDF (policy : Option WritePolicy) (udfName : String) : AdminCall .done
  | listUDF (policy : Option BasePolicy) : AdminCall .udfs
  | createUser (policy : Option AdminPolicy) (user password : String) (roles : List String) :
      AdminCall .done
  | dropUser (policy : Option AdminPolicy) (user : String) : AdminCall .done
  | changePassword (policy : Option AdminPolicy) (user password : String) : AdminCall .done
  | grantRoles (policy : Option AdminPolicy) (user : String) (roles : List String) :
      AdminCall .done
  | revokeRoles (policy : Option AdminPolicy) (user : String) (roles : List String) :
      AdminCall .done
  | queryUser (policy : Option AdminPolicy) (user : String) : AdminCall .user
  | queryUsers (policy : Option AdminPolicy) : AdminCall .users
  | queryRole (policy : Option AdminPolicy) (role : String) : AdminCall .role
  | queryRoles (policy : Option AdminPolicy) : AdminCall .roles
  | createRole (policy : Option AdminPolicy) (roleName : String) (privileges : List Privilege)
      (whitelist : List String) (readQuota writeQuota : UInt32) : AdminCall .done
  | dropRole (policy : Option AdminPolicy) (roleName : String) : AdminCall .done
  | grantPrivileges (policy : Option AdminPolicy) (roleName : String)
      (privileges : List Privilege) : AdminCall .done
  | revokePrivileges (policy : Option AdminPolicy) (roleName : String)
      (privileges : List Privilege) : AdminCall .done
  | setWhitelist (policy : Option AdminPolicy) (roleName : String) (whitelist : List String) :
      AdminCall .done
  | setQuotas (policy : Option AdminPolicy) (roleName : String) (readQuota writeQuota : UInt32) :
      AdminCall .done

/-- The Go client and the cluster behind it: how each call ends, and what it changes. -/
structure AdminClient (σ : Type) where
  exec : {r : AdminResult} → AdminCall r → σ → Except CallError r.Value × σ

end Aero

/-! ## Conversions -/

/-- The codes that `toPrivilege` switches over. -/
def privilegeCodes : List String :=
  ["user-admin", "sys-admin", "data-admin", "udf-admin", "sindex-admin", "read-write-udf",
    "read-write", "read", "write", "truncate"]

/-- `toPrivilege` (lines 528–552). -/
def toPrivilege (p : Proto.Privilege) : Except Panic Aero.Privilege :=
  if p.name ∈ privilegeCodes then .ok { code := p.name, ns := p.ns, setName := p.setName }
  else .error .unreachable

/-- `toPrivileges` (lines 520–526). -/
def toPrivileges (ps : List Proto.Privilege) : Except Panic (List Aero.Privilege) :=
  ps.mapM toPrivilege

/-- `fromPrivilege` (lines 562–568). -/
def fromPrivilege (p : Aero.Privilege) : Proto.Privilege where
  name := p.code
  ns := p.ns
  setName := p.setName

/-- `fromPrivileges` (lines 554–560). -/
def fromPrivileges (ps : List Aero.Privilege) : List Proto.Privilege := ps.map fromPrivilege

/-- `fromRole` (lines 578–586). -/
def fromRole : Option Aero.Role → Except Panic Proto.Role
  | some r => .ok
    { name := r.name
      privileges := fromPrivileges r.privileges
      allowlist := r.whitelist
      readQuota := r.readQuota
      writeQuota := r.writeQuota }
  | none => .error .nilDeref

/-- `fromRoles` (lines 570–576). -/
def fromRoles (rs : List (Option Aero.Role)) : Except Panic (List Proto.Role) := rs.mapM fromRole

/-- `convIntList[int, uint64]` (lines 592–598). -/
def convIntList (l : List Int64) : List UInt64 := l.map Int64.toUInt64

/-- `fromUserRole` (lines 608–616). -/
def fromUserRole : Option Aero.UserRoles → Except Panic Proto.UserRole
  | some u => .ok
    { user := u.user
      roles := u.roles
      readInfo := convIntList u.readInfo
      writeInfo := convIntList u.writeInfo
      connsInUse := u.connsInUse.toUInt64 }
  | none => .error .nilDeref

/-- `fromUserRoles` (lines 600–606). -/
def fromUserRoles (us : List (Option Aero.UserRoles)) : Except Panic (List Proto.UserRole) :=
  us.mapM fromUserRole

/-- `fromLanguage` (lines 634–640). -/
def fromLanguage : Aero.Language → Except Panic Int32
  | .LUA => .ok 0
  | .other _ => .error .unreachable

/-- `toLanguage` (lines 642–648). -/
def toLanguage : Int32 → Except Panic Aero.Language
  | 0 => .ok .LUA
  | _ => .error .unreachable

/-- `fromUDF` (lines 626–632). -/
def fromUDF (udf : Aero.UDF) : Except Panic Proto.UdfMeta := do
  return { packageName := udf.filename, hash := udf.hash, language := ← fromLanguage udf.language }

/-- `fromUDFs` (lines 618–624). -/
def fromUDFs (udfs : List Aero.UDF) : Except Panic (List Proto.UdfMeta) := udfs.mapM fromUDF

/-- `toTime` (lines 650–656). -/
def toTime (nanos : Option Int64) : Option Aero.Time := nanos.map Aero.Time.mk

/-! ## Handlers -/

namespace Server

open Handler

variable {σ : Type}

/-- A handler of the daemon. -/
abbrev AdminHandler (σ α : Type) := Handler σ Panic α

/-- The response of a handler whose call returns nothing but an error. -/
def doneResponse (outcome : Except Aero.CallError Unit) : Proto.AdminResponse .done :=
  match outcome with
  | .error e => { error := fromError (some e.toError), value := () }
  | .ok () => { error := none, value := () }

/-- The response of a handler whose call returns a value, which is converted unless there is an
    error. -/
def valueResponse {k : AdminKind} {α : Type} (outcome : Except Aero.CallError α)
    (fromGo : α → Except Panic k.Message) : Except Panic (Proto.AdminResponse k) :=
  match outcome with
  | .error e => .ok { error := fromError (some e.toError), value := k.empty }
  | .ok a => do return { error := none, value := ← fromGo a }

section Handlers

variable (S : Aero.ValueString) (client : Aero.AdminClient σ)

/-- `DropIndex` (lines 185–194). -/
def dropIndex (policy : Option Proto.WritePolicy) (ns setName indexName : String) :
    AdminHandler σ (Proto.AdminResponse .done) := do
  let policy ← convert (toWritePolicy S policy)
  let outcome ← perform (client.exec (.dropIndex policy ns setName indexName))
  return doneResponse outcome

/-- `Truncate` (lines 196–205). -/
def truncate (policy : Option Proto.InfoPolicy) (ns setName : String)
    (beforeNanos : Option Int64) : AdminHandler σ (Proto.AdminResponse .done) := do
  let outcome ← perform
    (client.exec (.truncate (toInfoPolicy policy) ns setName (toTime beforeNanos)))
  return doneResponse outcome

/-- `RegisterUDF` (lines 207–216). -/
def registerUDF (policy : Option Proto.WritePolicy) (udfBody packageName : String)
    (language : Int32) : AdminHandler σ (Proto.AdminResponse .done) := do
  let policy ← convert (toWritePolicy S policy)
  let language ← convert (toLanguage language)
  let outcome ← perform (client.exec (.registerUDF policy udfBody packageName language))
  return doneResponse outcome

/-- `DropUDF` (lines 218–227). -/
def dropUDF (policy : Option Proto.WritePolicy) (packageName : String) :
    AdminHandler σ (Proto.AdminResponse .done) := do
  let policy ← convert (toWritePolicy S policy)
  let outcome ← perform (client.exec (.removeUDF policy packageName))
  return doneResponse outcome

/-- `ListUDF` (lines 229–238). -/
def listUDF (policy : Option Proto.ReadPolicy) :
    AdminHandler σ (Proto.AdminResponse .udfs) := do
  let policy ← convert (toReadPolicy S policy)
  let outcome ← perform (client.exec (.listUDF policy))
  convert (valueResponse outcome fromUDFs)

/-- `CreateUser` (lines 251–256). -/
def createUser (policy : Option Proto.AdminPolicy) (user password : String)
    (roles : List String) : AdminHandler σ (Proto.AdminResponse .done) := do
  let outcome ← perform (client.exec (.createUser (toAdminPolicy policy) user password roles))
  return doneResponse outcome

/-- `DropUser` (lines 258–263). -/
def dropUser (policy : Option Proto.AdminPolicy) (user : String) :
    AdminHandler σ (Proto.AdminResponse .done) := do
  let outcome ← perform (client.exec (.dropUser (toAdminPolicy policy) user))
  return doneResponse outcome

/-- `ChangePassword` (lines 265–270). -/
def changePassword (policy : Option Proto.AdminPolicy) (user password : String) :
    AdminHandler σ (Proto.AdminResponse .done) := do
  let outcome ← perform (client.exec (.changePassword (toAdminPolicy policy) user password))
  return doneResponse outcome

/-- `GrantRoles` (lines 272–277). -/
def grantRoles (policy : Option Proto.AdminPolicy) (user : String) (roles : List String) :
    AdminHandler σ (Proto.AdminResponse .done) := do
  let outcome ← perform (client.exec (.grantRoles (toAdminPolicy policy) user roles))
  return doneResponse outcome

/-- `RevokeRoles` (lines 279–284). -/
def revokeRoles (policy : Option Proto.AdminPolicy) (user : String) (roles : List String) :
    AdminHandler σ (Proto.AdminResponse .done) := do
  let outcome ← perform (client.exec (.revokeRoles (toAdminPolicy policy) user roles))
  return doneResponse outcome

/-- `QueryUsers` (lines 286–304): one user is a list of one pointer. -/
def queryUsers (policy : Option Proto.AdminPolicy) (user : Option String) :
    AdminHandler σ (Proto.AdminResponse .users) := do
  match user with
  | some user =>
    let outcome ← perform (client.exec (.queryUser (toAdminPolicy policy) user))
    convert (valueResponse outcome fun u => fromUserRoles [u])
  | none =>
    let outcome ← perform (client.exec (.queryUsers (toAdminPolicy policy)))
    convert (valueResponse outcome fun us => fromUserRoles (us.map some))

/-- `QueryRoles` (lines 306–324). -/
def queryRoles (policy : Option Proto.AdminPolicy) (roleName : Option String) :
    AdminHandler σ (Proto.AdminResponse .roles) := do
  match roleName with
  | some roleName =>
    let outcome ← perform (client.exec (.queryRole (toAdminPolicy policy) roleName))
    convert (valueResponse outcome fun r => fromRoles [r])
  | none =>
    let outcome ← perform (client.exec (.queryRoles (toAdminPolicy policy)))
    convert (valueResponse outcome fun rs => fromRoles (rs.map some))

/-- `CreateRole` (lines 326–331). -/
def createRole (policy : Option Proto.AdminPolicy) (roleName : String)
    (privileges : List Proto.Privilege) (allowlist : List String)
    (readQuota writeQuota : UInt32) : AdminHandler σ (Proto.AdminResponse .done) := do
  let privileges ← convert (toPrivileges privileges)
  let outcome ← perform (client.exec
    (.createRole (toAdminPolicy policy) roleName privileges allowlist readQuota writeQuota))
  return doneResponse outcome

/-- `DropRole` (lines 333–338). -/
def dropRole (policy : Option Proto.AdminPolicy) (roleName : String) :
    AdminHandler σ (Proto.AdminResponse .done) := do
  let outcome ← perform (client.exec (.dropRole (toAdminPolicy policy) roleName))
  return doneResponse outcome

/-- `GrantPrivileges` (lines 340–345). -/
def grantPrivileges (policy : Option Proto.AdminPolicy) (roleName : String)
    (privileges : List Proto.Privilege) : AdminHandler σ (Proto.AdminResponse .done) := do
  let privileges ← convert (toPrivileges privileges)
  let outcome ← perform
    (client.exec (.grantPrivileges (toAdminPolicy policy) roleName privileges))
  return doneResponse outcome

/-- `RevokePrivileges` (lines 347–352). -/
def revokePrivileges (policy : Option Proto.AdminPolicy) (roleName : String)
    (privileges : List Proto.Privilege) : AdminHandler σ (Proto.AdminResponse .done) := do
  let privileges ← convert (toPrivileges privileges)
  let outcome ← perform
    (client.exec (.revokePrivileges (toAdminPolicy policy) roleName privileges))
  return doneResponse outcome

/-- `SetAllowlist` (lines 354–359). -/
def setAllowlist (policy : Option Proto.AdminPolicy) (roleName : String)
    (allowlist : List String) : AdminHandler σ (Proto.AdminResponse .done) := do
  let outcome ← perform (client.exec (.setWhitelist (toAdminPolicy policy) roleName allowlist))
  return doneResponse outcome

/-- `SetQuotas` (lines 361–366). -/
def setQuotas (policy : Option Proto.AdminPolicy) (roleName : String)
    (readQuota writeQuota : UInt32) : AdminHandler σ (Proto.AdminResponse .done) := do
  let outcome ← perform
    (client.exec (.setQuotas (toAdminPolicy policy) roleName readQuota writeQuota))
  return doneResponse outcome

/-- The service: each request goes to its handler. -/
def admin : {k : AdminKind} → Proto.AdminRequest k → AdminHandler σ (Proto.AdminResponse k)
  | _, .dropIndex policy ns setName indexName => dropIndex S client policy ns setName indexName
  | _, .truncate policy ns setName beforeNanos => truncate client policy ns setName beforeNanos
  | _, .registerUdf policy udfBody packageName language =>
    registerUDF S client policy udfBody packageName language
  | _, .dropUdf policy packageName => dropUDF S client policy packageName
  | _, .listUdf policy => listUDF S client policy
  | _, .createUser policy user password roles => createUser client policy user password roles
  | _, .dropUser policy user => dropUser client policy user
  | _, .changePassword policy user password => changePassword client policy user password
  | _, .grantRoles policy user roles => grantRoles client policy user roles
  | _, .revokeRoles policy user roles => revokeRoles client policy user roles
  | _, .queryUsers policy user => queryUsers client policy user
  | _, .queryRoles policy roleName => queryRoles client policy roleName
  | _, .createRole policy roleName privileges allowlist readQuota writeQuota =>
    createRole client policy roleName privileges allowlist readQuota writeQuota
  | _, .dropRole policy roleName => dropRole client policy roleName
  | _, .grantPrivileges policy roleName privileges =>
    grantPrivileges client policy roleName privileges
  | _, .revokePrivileges policy roleName privileges =>
    revokePrivileges client policy roleName privileges
  | _, .setAllowlist policy roleName allowlist => setAllowlist client policy roleName allowlist
  | _, .setQuotas policy roleName readQuota writeQuota =>
    setQuotas client policy roleName readQuota writeQuota

end Handlers

end Server

/-! ## The whole call -/

/-- A call of a method that administers, through the daemon: what the program sees, and the state
    of the cluster after it. -/
def AdminCommand.call {σ : Type} (S : Aero.ValueString) (client : Aero.AdminClient σ)
    (statusText : Panic → String) {k : AdminKind} (cmd : AdminCommand k) (s : σ) :
    CallResult k.Message × σ :=
  let answered := Handler.run (Server.admin S client cmd.request) s
  (Client.matchAdmin (recovered statusText answered.1), answered.2)

end AerospikePhp
