import AerospikePhp.Client
import AerospikePhp.Policy.Basic

/-!
# Administration in the extension

The methods of `Client` that administer users, roles, indexes, sets and modules
(`src/lib.rs` lines 10094–10116, 10239–10350 and 10404–10736). Each sends one request, and
throws the error of the answer, or returns what is in it.

A program has no constructor for a `Privilege` (lines 5628–5706): its static methods are names,
and the only privileges that it holds are those of the roles that `query_roles` returns.
-/

namespace AerospikePhp

/-! ## Messages -/

namespace Proto

/-- The `Privilege` message. -/
structure Privilege where
  name : String
  ns : String
  setName : String
deriving DecidableEq

/-- The `Role` message. -/
structure Role where
  name : String
  privileges : List Privilege
  allowlist : List String
  readQuota : UInt32
  writeQuota : UInt32
deriving DecidableEq

/-- The `UserRole` message. -/
structure UserRole where
  user : String
  roles : List String
  readInfo : List UInt64
  writeInfo : List UInt64
  connsInUse : UInt64
deriving DecidableEq

/-- The `UDFMeta` message. -/
structure UdfMeta where
  packageName : String
  hash : String
  language : Int32
deriving DecidableEq

end Proto

/-- What the answer to an administration request holds besides an error. -/
inductive AdminKind where
  | done
  | users
  | roles
  | udfs
deriving DecidableEq

/-- The value in the message, which is also what the method returns. -/
abbrev AdminKind.Message : AdminKind → Type
  | done => Unit
  | users => List Proto.UserRole
  | roles => List Proto.Role
  | udfs => List Proto.UdfMeta

/-- What the method returns after it has thrown an exception. -/
def AdminKind.empty : (k : AdminKind) → k.Message
  | done => ()
  | users | roles | udfs => ([] : List _)

namespace Proto

/-- The request messages of the administration, each with the answer that belongs to it. -/
inductive AdminRequest : AdminKind → Type where
  | dropIndex (policy : Option WritePolicy) (ns setName indexName : String) : AdminRequest .done
  | truncate (policy : Option InfoPolicy) (ns setName : String) (beforeNanos : Option Int64) :
      AdminRequest .done
  | registerUdf (policy : Option WritePolicy) (udfBody packageName : String) (language : Int32) :
      AdminRequest .done
  | dropUdf (policy : Option WritePolicy) (packageName : String) : AdminRequest .done
  | listUdf (policy : Option ReadPolicy) : AdminRequest .udfs
  | createUser (policy : Option AdminPolicy) (user password : String) (roles : List String) :
      AdminRequest .done
  | dropUser (policy : Option AdminPolicy) (user : String) : AdminRequest .done
  | changePassword (policy : Option AdminPolicy) (user password : String) : AdminRequest .done
  | grantRoles (policy : Option AdminPolicy) (user : String) (roles : List String) :
      AdminRequest .done
  | revokeRoles (policy : Option AdminPolicy) (user : String) (roles : List String) :
      AdminRequest .done
  | queryUsers (policy : Option AdminPolicy) (user : Option String) : AdminRequest .users
  | queryRoles (policy : Option AdminPolicy) (roleName : Option String) : AdminRequest .roles
  | createRole (policy : Option AdminPolicy) (roleName : String) (privileges : List Privilege)
      (allowlist : List String) (readQuota writeQuota : UInt32) : AdminRequest .done
  | dropRole (policy : Option AdminPolicy) (roleName : String) : AdminRequest .done
  | grantPrivileges (policy : Option AdminPolicy) (roleName : String)
      (privileges : List Privilege) : AdminRequest .done
  | revokePrivileges (policy : Option AdminPolicy) (roleName : String)
      (privileges : List Privilege) : AdminRequest .done
  | setAllowlist (policy : Option AdminPolicy) (roleName : String) (allowlist : List String) :
      AdminRequest .done
  | setQuotas (policy : Option AdminPolicy) (roleName : String) (readQuota writeQuota : UInt32) :
      AdminRequest .done

/-- The response messages: an error, and the value of their kind. -/
structure AdminResponse (k : AdminKind) where
  error : Option Proto.Error
  value : k.Message

end Proto

/-! ## The methods of `Client` -/

/-- `UdfLanguage` (`src/lib.rs` lines 5417–5465). -/
inductive UdfLanguage where
  | lua
deriving DecidableEq

/-- `impl From<UdfLanguage> for i32` (lines 5459–5465). -/
def UdfLanguage.number : UdfLanguage → Int32
  | lua => 0

/-- `impl From<i32> for UdfLanguage` (lines 5450–5457), as `get_language` of a `UdfMeta` calls
    it. -/
def UdfLanguage.ofNumber : Int32 → Except Panic UdfLanguage
  | 0 => .ok lua
  | _ => .error .unreachable

/-- A call of a method that administers, with its arguments. -/
inductive AdminCommand : AdminKind → Type where
  | dropIndex (policy : Proto.WritePolicy) (ns setName indexName : String) : AdminCommand .done
  | truncate (policy : Proto.InfoPolicy) (ns setName : String) (beforeNanos : Option Int64) :
      AdminCommand .done
  | registerUdf (policy : Proto.WritePolicy) (udfBody packageName : String)
      (language : Option UdfLanguage) : AdminCommand .done
  | dropUdf (policy : Proto.WritePolicy) (packageName : String) : AdminCommand .done
  | listUdf (policy : Proto.ReadPolicy) : AdminCommand .udfs
  | createUser (policy : Proto.AdminPolicy) (user password : String) (roles : List String) :
      AdminCommand .done
  | dropUser (policy : Proto.AdminPolicy) (user : String) : AdminCommand .done
  | changePassword (policy : Proto.AdminPolicy) (user password : String) : AdminCommand .done
  | grantRoles (policy : Proto.AdminPolicy) (user : String) (roles : List String) :
      AdminCommand .done
  | revokeRoles (policy : Proto.AdminPolicy) (user : String) (roles : List String) :
      AdminCommand .done
  | queryUsers (policy : Proto.AdminPolicy) (user : Option String) : AdminCommand .users
  | queryRoles (policy : Proto.AdminPolicy) (roleName : Option String) : AdminCommand .roles
  | createRole (policy : Proto.AdminPolicy) (roleName : String)
      (privileges : List Proto.Privilege) (allowlist : List String)
      (readQuota writeQuota : UInt32) : AdminCommand .done
  | dropRole (policy : Proto.AdminPolicy) (roleName : String) : AdminCommand .done
  | grantPrivileges (policy : Proto.AdminPolicy) (roleName : String)
      (privileges : List Proto.Privilege) : AdminCommand .done
  | revokePrivileges (policy : Proto.AdminPolicy) (roleName : String)
      (privileges : List Proto.Privilege) : AdminCommand .done
  | setAllowlist (policy : Proto.AdminPolicy) (roleName : String) (allowlist : List String) :
      AdminCommand .done
  | setQuotas (policy : Proto.AdminPolicy) (roleName : String) (readQuota writeQuota : UInt32) :
      AdminCommand .done

namespace AdminCommand

/-- The request that the method sends. -/
def request : {k : AdminKind} → AdminCommand k → Proto.AdminRequest k
  | _, dropIndex policy ns setName indexName => .dropIndex (some policy) ns setName indexName
  | _, truncate policy ns setName beforeNanos => .truncate (some policy) ns setName beforeNanos
  | _, registerUdf policy udfBody packageName language =>
    .registerUdf (some policy) udfBody packageName (language.getD .lua).number
  | _, dropUdf policy packageName => .dropUdf (some policy) packageName
  | _, listUdf policy => .listUdf (some policy)
  | _, createUser policy user password roles => .createUser (some policy) user password roles
  | _, dropUser policy user => .dropUser (some policy) user
  | _, changePassword policy user password => .changePassword (some policy) user password
  | _, grantRoles policy user roles => .grantRoles (some policy) user roles
  | _, revokeRoles policy user roles => .revokeRoles (some policy) user roles
  | _, queryUsers policy user => .queryUsers (some policy) user
  | _, queryRoles policy roleName => .queryRoles (some policy) roleName
  | _, createRole policy roleName privileges allowlist readQuota writeQuota =>
    .createRole (some policy) roleName privileges allowlist readQuota writeQuota
  | _, dropRole policy roleName => .dropRole (some policy) roleName
  | _, grantPrivileges policy roleName privileges =>
    .grantPrivileges (some policy) roleName privileges
  | _, revokePrivileges policy roleName privileges =>
    .revokePrivileges (some policy) roleName privileges
  | _, setAllowlist policy roleName allowlist => .setAllowlist (some policy) roleName allowlist
  | _, setQuotas policy roleName readQuota writeQuota =>
    .setQuotas (some policy) roleName readQuota writeQuota

/-- The privileges among the arguments. -/
def privileges : {k : AdminKind} → AdminCommand k → List Proto.Privilege
  | _, createRole _ _ privileges _ _ _ | _, grantPrivileges _ _ privileges
  | _, revokePrivileges _ _ privileges => privileges
  | _, _ => []

end AdminCommand

/-- The match on the answer: the error is thrown, and then the empty value is returned. -/
def Client.matchAdmin {k : AdminKind} :
    Except String (Proto.AdminResponse k) → CallResult k.Message
  | .error text => { thrown := [], result := .error text }
  | .ok { error := none, value := value } => { thrown := [], result := .ok value }
  | .ok { error := some pe, value := _ } => { thrown := [.ofError pe], result := .ok k.empty }

end AerospikePhp
