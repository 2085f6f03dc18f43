import AerospikePhp.Config.Host
import AerospikePhp.Config.Sources
import AerospikePhp.Config.TlsProtocols
import AerospikePhp.Lib.Fallible

/-!
# Reading the configuration

`config.Read` (`common/config/conf.go`) decodes the file of the connection manager and
reads each of its sections, one for a cluster, into `AerospikeFlags`, from which
`NewAerospikeConfig` (`common/flags/aerospike_flags.go`) makes the configuration of a
client.

The TOML library and `time.ParseDuration` are parameters.

Results:
* `readFlags_iff`: a section is read into flags iff each setting is read into its field.
* `read_section`: a configuration that `Read` returns is that of a section of the file.
-/

namespace AerospikePhp.Config

/-! ## Documents -/

/-- A value of a decoded document; a date or a time is its text. -/
inductive TomlValue where
  | string (s : String)
  | integer (i : Int64)
  | float (f : F64)
  | bool (b : Bool)
  | time (text : String)
  | array (a : List TomlValue)
  | table (t : List (String × TomlValue))

/-- A section: `map[string]any`. -/
abbrev Section := List (String × TomlValue)

/-- What the manager takes from the libraries: `toml.Unmarshal` into a map of sections,
    and `time.ParseDuration`, in nanoseconds. -/
structure Parsers where
  unmarshal : List UInt8 → Except String (List (String × Section))
  parseDuration : String → Except String Int64

/-! ## Settings -/

/-- `v.(string)`. -/
def asString : TomlValue → Except Failure String
  | .string s => .ok s
  | _ => .error (.panic .typeAssertion)

/-- `v.(bool)`. -/
def asBool : TomlValue → Except Failure Bool
  | .bool b => .ok b
  | _ => .error (.panic .typeAssertion)

/-- `int(v.(int64))`. -/
def asInt : TomlValue → Except Failure Int64
  | .integer i => .ok i
  | _ => .error (.panic .typeAssertion)

/-- `v.([]any)`, each element an integer. -/
def asInts : TomlValue → Except Failure (List Int64)
  | .array a => a.mapM asInt
  | _ => .error (.panic .typeAssertion)

/-- `if v, exists := valMap[key]; exists`: the field is set, or keeps its value. -/
def setting {α : Type} (valMap : Section) (key : String) (value : α)
    (set : TomlValue → Except Failure α) : Except Failure α :=
  match valMap.lookup key with
  | some v => set v
  | none => .ok value

/-- `AuthMode` of the Go client. -/
inductive Aero.AuthMode where
  | internal
  | external
  | pki
deriving DecidableEq

/-- `strings.ToUpper`, on the letters whose capital is an ASCII letter; no other letter
    becomes one. -/
def toUpper (c : Char) : Char :=
  if c = 'ı' then 'I' else if c = 'ſ' then 'S' else c.toUpper

/-- `AuthModeFlag.Set` (`authmode.go` lines 20–28). -/
def AuthModeFlag.set (val : String) : Except Failure Aero.AuthMode :=
  match String.ofList (val.toList.map toUpper) with
  | "INTERNAL" => .ok .internal
  | "EXTERNAL" => .ok .external
  | "PKI" => .ok .pki
  | _ => .error (.error "unrecognized auth mode")

section Setters

variable (machine : Machine) (parsers : Parsers)

/-- The seeds of a new flag after `seeds.Set(v.(string))`. -/
def setSeeds (v : TomlValue) : Except Failure HostTLSPortSliceFlag := do
  match HostTLSPortSliceFlag.new.set (← asString v) with
  | (seeds, none) => return seeds
  | (_, some err) => .error (.error err)

def setPassword (v : TomlValue) : Except Failure (List UInt8) := do
  PasswordFlag.set machine (← asString v)

def setAuth (v : TomlValue) : Except Failure Aero.AuthMode := do
  AuthModeFlag.set (← asString v)

def setProtocols (v : TomlValue) : Except Failure TLSProtocolsFlag := do
  match TLSProtocolsFlag.zero.set (← asString v) with
  | (flag, none) => return flag
  | (_, some err) => .error (.error err)

def setCert (v : TomlValue) : Except Failure (List UInt8) := do
  CertFlag.set machine (← asString v)

def setCertPath (v : TomlValue) : Except Failure (List (List UInt8)) := do
  CertPathFlag.set machine (← asString v)

def setDuration (v : TomlValue) : Except Failure Int64 := do
  (parsers.parseDuration (← asString v)).mapError .error

end Setters

/-! ## Sections -/

/-- `AerospikeFlags` (`aerospike_flags.go` lines 11–44). -/
structure AerospikeFlags where
  socket : String
  seeds : HostTLSPortSliceFlag
  defaultPort : Int64
  user : String
  password : List UInt8
  authMode : Aero.AuthMode
  tlsEnable : Bool
  tlsName : String
  tlsProtocols : TLSProtocolsFlag
  tlsRootCAFile : List UInt8
  tlsRootCAPath : List (List UInt8)
  tlsCertFile : List UInt8
  tlsKeyFile : List UInt8
  tlsKeyFilePass : List UInt8
  clusterName : String
  timeout : Int64
  idleTimeout : Int64
  loginTimeout : Int64
  connectionQueueSize : Int64
  minConnectionsPerNode : Int64
  maxErrorRate : Int64
  errorRateWindow : Int64
  limitConnectionsToQueueSize : Bool
  openingConnectionThreshold : Int64
  failIfNotConnected : Bool
  tendInterval : Int64
  useServicesAlternate : Bool
  rackAware : Bool
  rackIds : List Int64
  ignoreOtherSubnetAliases : Bool
  seedOnlyCluster : Bool

section Read

variable (machine : Machine) (parsers : Parsers)

/-- The body of the loop of `Read` (`conf.go` lines 25–217): the flags of a section. What
    is absent is as in `NewDefaultAerospikeFlags` (lines 46–52). -/
def readFlags (valMap : Section) : Except Failure AerospikeFlags := do
  let socket ← setting valMap "socket" "" asString
  let seeds ← setting valMap "host" .new setSeeds
  let defaultPort ← setting valMap "port" defaultPort asInt
  let user ← setting valMap "user" "" asString
  let password ← setting valMap "password" [] (setPassword machine)
  let authMode ← setting valMap "auth" .internal setAuth
  let tlsEnable ← setting valMap "tls-enable" false asBool
  let tlsName ← setting valMap "tls-name" "" asString
  let tlsProtocols ← setting valMap "tls-protocols" .default setProtocols
  let tlsRootCAFile ← setting valMap "tls-cafile" [] (setCert machine)
  let tlsRootCAPath ← setting valMap "tls-capath" [] (setCertPath machine)
  let tlsCertFile ← setting valMap "tls-certfile" [] (setCert machine)
  let tlsKeyFile ← setting valMap "tls-keyfile" [] (setCert machine)
  let tlsKeyFilePass ← setting valMap "tls-keyfile-password" [] (setPassword machine)
  let clusterName ← setting valMap "cluster-name" "" asString
  let timeout ← setting valMap "timeout" 0 (setDuration parsers)
  let idleTimeout ← setting valMap "idle-timeout" 0 (setDuration parsers)
  let loginTimeout ← setting valMap "login-timeout" 0 (setDuration parsers)
  let connectionQueueSize ← setting valMap "connection-queue-size" 0 asInt
  let minConnectionsPerNode ← setting valMap "min-connections-per-node" 0 asInt
  let maxErrorRate ← setting valMap "max-error-rate" 0 asInt
  let errorRateWindow ← setting valMap "error-rate-window" 0 asInt
  let limitConnectionsToQueueSize ← setting valMap "limit-connections-to-queue-size" false asBool
  let openingConnectionThreshold ← setting valMap "opening-connection-threshold" 0 asInt
  let failIfNotConnected ← setting valMap "fail-if-not-connected" false asBool
  let tendInterval ← setting valMap "tend-interval" 0 (setDuration parsers)
  let useServicesAlternate ← setting valMap "use-services-alternate" false asBool
  let rackAware ← setting valMap "rack-aware" false asBool
  let rackIds ← setting valMap "rack-ids" [] asInts
  let ignoreOtherSubnetAliases ← setting valMap "ignore-other-subnet-aliases" false asBool
  let seedOnlyCluster ← setting valMap "seed-only-cluster" false asBool
  return {
    socket, seeds, defaultPort, user, password, authMode, tlsEnable, tlsName, tlsProtocols,
    tlsRootCAFile, tlsRootCAPath, tlsCertFile, tlsKeyFile, tlsKeyFilePass, clusterName,
    timeout, idleTimeout, loginTimeout, connectionQueueSize, minConnectionsPerNode,
    maxErrorRate, errorRateWindow, limitConnectionsToQueueSize, openingConnectionThreshold,
    failIfNotConnected, tendInterval, useServicesAlternate, rackAware, rackIds,
    ignoreOtherSubnetAliases, seedOnlyCluster }

/-- Each setting of a section is read into its field. -/
structure ReadsTo (valMap : Section) (f : AerospikeFlags) : Prop where
  socket : setting valMap "socket" "" asString = .ok f.socket
  seeds : setting valMap "host" .new setSeeds = .ok f.seeds
  defaultPort : setting valMap "port" Config.defaultPort asInt = .ok f.defaultPort
  user : setting valMap "user" "" asString = .ok f.user
  password : setting valMap "password" [] (setPassword machine) = .ok f.password
  authMode : setting valMap "auth" .internal setAuth = .ok f.authMode
  tlsEnable : setting valMap "tls-enable" false asBool = .ok f.tlsEnable
  tlsName : setting valMap "tls-name" "" asString = .ok f.tlsName
  tlsProtocols : setting valMap "tls-protocols" .default setProtocols = .ok f.tlsProtocols
  tlsRootCAFile : setting valMap "tls-cafile" [] (setCert machine) = .ok f.tlsRootCAFile
  tlsRootCAPath : setting valMap "tls-capath" [] (setCertPath machine) = .ok f.tlsRootCAPath
  tlsCertFile : setting valMap "tls-certfile" [] (setCert machine) = .ok f.tlsCertFile
  tlsKeyFile : setting valMap "tls-keyfile" [] (setCert machine) = .ok f.tlsKeyFile
  tlsKeyFilePass :
    setting valMap "tls-keyfile-password" [] (setPassword machine) = .ok f.tlsKeyFilePass
  clusterName : setting valMap "cluster-name" "" asString = .ok f.clusterName
  timeout : setting valMap "timeout" 0 (setDuration parsers) = .ok f.timeout
  idleTimeout : setting valMap "idle-timeout" 0 (setDuration parsers) = .ok f.idleTimeout
  loginTimeout : setting valMap "login-timeout" 0 (setDuration parsers) = .ok f.loginTimeout
  connectionQueueSize :
    setting valMap "connection-queue-size" 0 asInt = .ok f.connectionQueueSize
  minConnectionsPerNode :
    setting valMap "min-connections-per-node" 0 asInt = .ok f.minConnectionsPerNode
  maxErrorRate : setting valMap "max-error-rate" 0 asInt = .ok f.maxErrorRate
  errorRateWindow : setting valMap "error-rate-window" 0 asInt = .ok f.errorRateWindow
  limitConnectionsToQueueSize :
    setting valMap "limit-connections-to-queue-size" false asBool =
      .ok f.limitConnectionsToQueueSize
  openingConnectionThreshold :
    setting valMap "opening-connection-threshold" 0 asInt = .ok f.openingConnectionThreshold
  failIfNotConnected :
    setting valMap "fail-if-not-connected" false asBool = .ok f.failIfNotConnected
  tendInterval : setting valMap "tend-interval" 0 (setDuration parsers) = .ok f.tendInterval
  useServicesAlternate :
    setting valMap "use-services-alternate" false asBool = .ok f.useServicesAlternate
  rackAware : setting valMap "rack-aware" false asBool = .ok f.rackAware
  rackIds : setting valMap "rack-ids" [] asInts = .ok f.rackIds
  ignoreOtherSubnetAliases :
    setting valMap "ignore-other-subnet-aliases" false asBool = .ok f.ignoreOtherSubnetAliases
  seedOnlyCluster : setting valMap "seed-only-cluster" false asBool = .ok f.seedOnlyCluster

/-- **Main theorem.** When a section is read, and into which flags. -/
theorem readFlags_iff {valMap : Section} {f : AerospikeFlags} :
    readFlags machine parsers valMap = .ok f ↔ ReadsTo machine parsers valMap f := by
  constructor
  · intro h
    unfold readFlags at h
    obtain ⟨_, socket, h⟩ := Fallible.bind_eq_ok.1 h
    obtain ⟨_, seeds, h⟩ := Fallible.bind_eq_ok.1 h
    obtain ⟨_, port, h⟩ := Fallible.bind_eq_ok.1 h
    obtain ⟨_, user, h⟩ := Fallible.bind_eq_ok.1 h
    obtain ⟨_, password, h⟩ := Fallible.bind_eq_ok.1 h
    obtain ⟨_, auth, h⟩ := Fallible.bind_eq_ok.1 h
    obtain ⟨_, enable, h⟩ := Fallible.bind_eq_ok.1 h
    obtain ⟨_, name, h⟩ := Fallible.bind_eq_ok.1 h
    obtain ⟨_, protocols, h⟩ := Fallible.bind_eq_ok.1 h
    obtain ⟨_, caFile, h⟩ := Fallible.bind_eq_ok.1 h
    obtain ⟨_, caPath, h⟩ := Fallible.bind_eq_ok.1 h
    obtain ⟨_, cert, h⟩ := Fallible.bind_eq_ok.1 h
    obtain ⟨_, key, h⟩ := Fallible.bind_eq_ok.1 h
    obtain ⟨_, pass, h⟩ := Fallible.bind_eq_ok.1 h
    obtain ⟨_, cluster, h⟩ := Fallible.bind_eq_ok.1 h
    obtain ⟨_, timeout, h⟩ := Fallible.bind_eq_ok.1 h
    obtain ⟨_, idle, h⟩ := Fallible.bind_eq_ok.1 h
    obtain ⟨_, login, h⟩ := Fallible.bind_eq_ok.1 h
    obtain ⟨_, queue, h⟩ := Fallible.bind_eq_ok.1 h
    obtain ⟨_, minimum, h⟩ := Fallible.bind_eq_ok.1 h
    obtain ⟨_, rate, h⟩ := Fallible.bind_eq_ok.1 h
    obtain ⟨_, window, h⟩ := Fallible.bind_eq_ok.1 h
    obtain ⟨_, limit, h⟩ := Fallible.bind_eq_ok.1 h
    obtain ⟨_, opening, h⟩ := Fallible.bind_eq_ok.1 h
    obtain ⟨_, fails, h⟩ := Fallible.bind_eq_ok.1 h
    obtain ⟨_, tend, h⟩ := Fallible.bind_eq_ok.1 h
    obtain ⟨_, services, h⟩ := Fallible.bind_eq_ok.1 h
    obtain ⟨_, rackAware, h⟩ := Fallible.bind_eq_ok.1 h
    obtain ⟨_, rackIds, h⟩ := Fallible.bind_eq_ok.1 h
    obtain ⟨_, subnet, h⟩ := Fallible.bind_eq_ok.1 h
    obtain ⟨_, seedOnly, h⟩ := Fallible.bind_eq_ok.1 h
    cases h
    exact ⟨socket, seeds, port, user, password, auth, enable, name, protocols, caFile, caPath,
      cert, key, pass, cluster, timeout, idle, login, queue, minimum, rate, window, limit,
      opening, fails, tend, services, rackAware, rackIds, subnet, seedOnly⟩
  · intro h
    simp only [readFlags, h.socket, h.seeds, h.defaultPort, h.user, h.password, h.authMode,
      h.tlsEnable, h.tlsName, h.tlsProtocols, h.tlsRootCAFile, h.tlsRootCAPath, h.tlsCertFile,
      h.tlsKeyFile, h.tlsKeyFilePass, h.clusterName, h.timeout, h.idleTimeout, h.loginTimeout,
      h.connectionQueueSize, h.minConnectionsPerNode, h.maxErrorRate, h.errorRateWindow,
      h.limitConnectionsToQueueSize, h.openingConnectionThreshold, h.failIfNotConnected,
      h.tendInterval, h.useServicesAlternate, h.rackAware, h.rackIds,
      h.ignoreOtherSubnetAliases, h.seedOnlyCluster, Fallible.ok_bind, Fallible.pure_eq_ok]

end Read

/-! ## The configuration of a client -/

/-- `AerospikeConfig` (`common/client/config.go` lines 15–46). -/
structure AerospikeConfig where
  socket : String
  seeds : List HostTLSPort
  user : String
  password : List UInt8
  authMode : Aero.AuthMode
  rootCA : List (List UInt8)
  cert : List UInt8
  key : List UInt8
  keyPass : List UInt8
  tlsProtocolsMinVersion : TLSProtocol
  tlsProtocolsMaxVersion : TLSProtocol
  clusterName : String
  timeout : Int64
  idleTimeout : Int64
  loginTimeout : Int64
  connectionQueueSize : Int64
  minConnectionsPerNode : Int64
  maxErrorRate : Int64
  errorRateWindow : Int64
  limitConnectionsToQueueSize : Bool
  openingConnectionThreshold : Int64
  failIfNotConnected : Bool
  tendInterval : Int64
  useServicesAlternate : Bool
  rackAware : Bool
  rackIds : List Int64
  ignoreOtherSubnetAliases : Bool
  seedOnlyCluster : Bool

namespace AerospikeFlags

/-- The body of the loop over the seeds (`aerospike_flags.go` lines 96–104). -/
def resolveSeed (af : AerospikeFlags) (elem : HostTLSPort) : HostTLSPort where
  host := elem.host
  port := if elem.port = 0 then af.defaultPort else elem.port
  tlsName := if elem.tlsName = "" ∧ af.tlsName ≠ "" then af.tlsName else elem.tlsName

/-- The CA data, in the order it is collected (lines 87–93). -/
def rootCA (af : AerospikeFlags) : List (List UInt8) :=
  (if af.tlsRootCAFile.length ≠ 0 then [af.tlsRootCAFile] else []) ++ af.tlsRootCAPath

/-- `NewAerospikeConfig` (lines 54–107). -/
def newAerospikeConfig (af : AerospikeFlags) : AerospikeConfig where
  socket := af.socket
  seeds := af.seeds.seeds.map af.resolveSeed
  user := af.user
  password := af.password
  authMode := af.authMode
  rootCA := if af.tlsEnable then af.rootCA else []
  cert := if af.tlsEnable then af.tlsCertFile else []
  key := if af.tlsEnable then af.tlsKeyFile else []
  keyPass := if af.tlsEnable then af.tlsKeyFilePass else []
  tlsProtocolsMinVersion := if af.tlsEnable then af.tlsProtocols.min else 0
  tlsProtocolsMaxVersion := if af.tlsEnable then af.tlsProtocols.max else 0
  clusterName := af.clusterName
  timeout := af.timeout
  idleTimeout := af.idleTimeout
  loginTimeout := af.loginTimeout
  connectionQueueSize := af.connectionQueueSize
  minConnectionsPerNode := af.minConnectionsPerNode
  maxErrorRate := af.maxErrorRate
  errorRateWindow := af.errorRateWindow
  limitConnectionsToQueueSize := af.limitConnectionsToQueueSize
  openingConnectionThreshold := af.openingConnectionThreshold
  failIfNotConnected := af.failIfNotConnected
  tendInterval := af.tendInterval
  useServicesAlternate := af.useServicesAlternate
  rackAware := af.rackAware
  rackIds := af.rackIds
  ignoreOtherSubnetAliases := af.ignoreOtherSubnetAliases
  seedOnlyCluster := af.seedOnlyCluster

/-- With TLS enabled, the TLS settings are taken over. -/
theorem newAerospikeConfig_of_tlsEnable {af : AerospikeFlags} (h : af.tlsEnable = true) :
    af.newAerospikeConfig.rootCA = af.rootCA ∧ af.newAerospikeConfig.cert = af.tlsCertFile ∧
      af.newAerospikeConfig.key = af.tlsKeyFile ∧
      af.newAerospikeConfig.keyPass = af.tlsKeyFilePass ∧
      af.newAerospikeConfig.tlsProtocolsMinVersion = af.tlsProtocols.min ∧
      af.newAerospikeConfig.tlsProtocolsMaxVersion = af.tlsProtocols.max := by
  simp [newAerospikeConfig, h]

end AerospikeFlags

section Read

variable (machine : Machine) (parsers : Parsers)

/-- What `Read` makes of a section. -/
def readSection (valMap : Section) : Except Failure AerospikeConfig := do
  return (← readFlags machine parsers valMap).newAerospikeConfig

/-- `Read` (`conf.go` lines 12–222); it stops at the first section that fails. -/
def read (configFile : String) : Except Failure (List (String × AerospikeConfig)) := do
  let doc ← (machine.readFile configFile).mapError .error
  let cfg ← (parsers.unmarshal doc).mapError .error
  cfg.mapM fun (name, valMap) => do return (name, ← readSection machine parsers valMap)

variable {machine parsers}

theorem readSection_eq_ok {valMap : Section} {conf : AerospikeConfig} :
    readSection machine parsers valMap = .ok conf ↔
      ∃ f, ReadsTo machine parsers valMap f ∧ f.newAerospikeConfig = conf := by
  simp [readSection, Fallible.bind_eq_ok, readFlags_iff]

/-- A configuration that `Read` returns is that of a section of the file. -/
theorem read_section {configFile : String} {res : List (String × AerospikeConfig)}
    (h : read machine parsers configFile = .ok res) {name : String} {conf : AerospikeConfig}
    (hconf : (name, conf) ∈ res) :
    ∃ doc cfg valMap, machine.readFile configFile = .ok doc ∧
      parsers.unmarshal doc = .ok cfg ∧ (name, valMap) ∈ cfg ∧
      readSection machine parsers valMap = .ok conf := by
  obtain ⟨doc, hdoc, h⟩ := Fallible.bind_eq_ok.1 h
  obtain ⟨cfg, hcfg, h⟩ := Fallible.bind_eq_ok.1 h
  obtain ⟨⟨name', valMap⟩, hmem, hread⟩ := Fallible.exists_of_mem_mapM h hconf
  obtain ⟨conf', hconf', heq⟩ := Fallible.bind_eq_ok.1 hread
  obtain ⟨rfl, rfl⟩ := Prod.mk.inj (Except.ok.inj heq)
  exact ⟨doc, cfg, valMap, Fallible.mapError_eq_ok.1 hdoc, Fallible.mapError_eq_ok.1 hcfg, hmem,
    hconf'⟩

end Read

end AerospikePhp.Config
