import AerospikePhp.Config.Read

/-!
# The client policy

`NewClientPolicy` (`common/client/config.go`) makes the policy of the Go client, with a
TLS configuration when there is something to put into it.

`crypto/tls`, `crypto/x509` and `encoding/pem` are parameters, and so is the default
policy of the Go client.

Results:
* `mem_loadCACerts`: the pool holds every certificate that is found in the CA data.
* `loadServerCertAndKey_eq_ok`: when a certificate and a key are accepted.
* `newTLSConfig_of_empty`, `newTLSConfig_of_pair`, `newTLSConfig_of_authorities`: the TLS
  configuration, by what it is made from.
* `newClientPolicy_eq_error`, `newClientPolicy_eq_ok`: building a policy fails iff building
  its TLS configuration does, and the policy has that configuration.
-/

namespace AerospikePhp.Config

/-! ## Libraries -/

/-- `pem.Block`. -/
structure PemBlock where
  type : String
  headers : List (String × String)
  bytes : List UInt8

/-- What is used of the cryptographic libraries, where `Authority` is an
    `x509.Certificate` and `KeyPair` a `tls.Certificate`. A pool is the list of its
    certificates. `appended` are the certificates that `AppendCertsFromPEM` finds in
    some data and adds; it finds none where there is no data. -/
structure Crypto (Authority KeyPair : Type) where
  systemCertPool : Option (List Authority)
  appended : List UInt8 → List Authority
  appended_nil : appended [] = []
  decode : List UInt8 → Option PemBlock
  encodeToMemory : PemBlock → Option (List UInt8)
  isEncryptedPEMBlock : PemBlock → Bool
  decryptPEMBlock : PemBlock → List UInt8 → Except String (List UInt8)
  x509KeyPair : List UInt8 → List UInt8 → Except String KeyPair

/-- The fields of `tls.Config` that are set. -/
structure TlsConfig (Authority KeyPair : Type) where
  certificates : List KeyPair
  rootCAs : List Authority
  insecureSkipVerify : Bool
  preferServerCipherSuites : Bool
  minVersion : UInt16
  maxVersion : UInt16

/-- The fields of the Go client's `ClientPolicy` that are set. -/
structure ClientPolicy (Authority KeyPair : Type) where
  user : String
  password : List UInt8
  authMode : Aero.AuthMode
  clusterName : String
  timeout : Int64
  idleTimeout : Int64
  loginTimeout : Int64
  connectionQueueSize : Int64
  minConnectionsPerNode : Int64
  maxErrorRate : Int64
  errorRateWindow : Int64
  limitConnectionsToQueueSize : Bool
  openingConnectionThreshold : Int64
  failIfNotConnected : Bool
  tendInterval : Int64
  useServicesAlternate : Bool
  rackAware : Bool
  rackIds : List Int64
  ignoreOtherSubnetAliases : Bool
  seedOnlyCluster : Bool
  tlsConfig : Option (TlsConfig Authority KeyPair)

section Policy

variable {Authority KeyPair : Type} (crypto : Crypto Authority KeyPair)

/-! ## TLS -/

/-- `loadCACerts` (lines 142–155). -/
def loadCACerts (certsBytes : List (List UInt8)) : List Authority :=
  certsBytes.foldl
    (fun certificates cert =>
      if cert.length > 0 then certificates ++ crypto.appended cert else certificates)
    (crypto.systemCertPool.getD [])

/-- The key block after the decryption (lines 170–179). -/
def unlock (keyBlock : PemBlock) (keyPassBytes : List UInt8) : Except String PemBlock :=
  if crypto.isEncryptedPEMBlock keyBlock then
    match crypto.decryptPEMBlock keyBlock keyPassBytes with
    | .ok bytes => .ok { keyBlock with bytes := bytes, headers := [] }
    | .error err => .error s!"failed to decrypt PEM Block: `{err}`"
  else .ok keyBlock

/-- `loadServerCertAndKey` (lines 160–196). -/
def loadServerCertAndKey (certFileBytes keyFileBytes keyPassBytes : List UInt8) :
    Except String (List KeyPair) :=
  match crypto.decode keyFileBytes with
  | none => .error "failed to decode PEM data for key or certificate"
  | some keyBlock => do
    let keyBlock ← unlock crypto keyBlock keyPassBytes
    match crypto.encodeToMemory keyBlock with
    | none => .error "failed to encode PEM data for key or certificate"
    | some keyPEM =>
      match crypto.x509KeyPair certFileBytes keyPEM with
      | .ok cert => return [cert]
      | .error err => .error s!"failed to add certificate and key to the pool: `{err}`"

/-- `newTLSConfig` (lines 108–138). -/
def newTLSConfig (ac : AerospikeConfig) :
    Except String (Option (TlsConfig Authority KeyPair)) := do
  if ac.rootCA.length = 0 ∧ ac.cert.length = 0 ∧ ac.key.length = 0 then
    return none
  let serverPool := loadCACerts crypto ac.rootCA
  let clientPool ←
    if ac.cert.length > 0 ∨ ac.key.length > 0 then
      (loadServerCertAndKey crypto ac.cert ac.key ac.keyPass).mapError fun err =>
        s!"failed to load client authentication certificate and key `{err}`"
    else .ok []
  return some {
    certificates := clientPool
    rootCAs := serverPool
    insecureSkipVerify := false
    preferServerCipherSuites := true
    minVersion := ac.tlsProtocolsMinVersion
    maxVersion := ac.tlsProtocolsMaxVersion }

/-! ## The policy -/

/-- `NewClientPolicy` (lines 57–90); `clientPolicy` is the default policy of the Go
    client. -/
def newClientPolicy (clientPolicy : ClientPolicy Authority KeyPair) (ac : AerospikeConfig) :
    Except String (ClientPolicy Authority KeyPair) := do
  let clientPolicy := {
    clientPolicy with
    user := ac.user
    password := ac.password
    authMode := ac.authMode
    clusterName := ac.clusterName
    timeout := ac.timeout
    idleTimeout := ac.idleTimeout
    loginTimeout := ac.loginTimeout
    connectionQueueSize := ac.connectionQueueSize
    minConnectionsPerNode := ac.minConnectionsPerNode
    maxErrorRate := ac.maxErrorRate
    errorRateWindow := ac.errorRateWindow
    limitConnectionsToQueueSize := ac.limitConnectionsToQueueSize
    openingConnectionThreshold := ac.openingConnectionThreshold
    failIfNotConnected := ac.failIfNotConnected
    tendInterval := ac.tendInterval
    useServicesAlternate := ac.useServicesAlternate
    rackAware := ac.rackAware
    rackIds := ac.rackIds
    ignoreOtherSubnetAliases := ac.ignoreOtherSubnetAliases
    seedOnlyCluster := ac.seedOnlyCluster }
  let tlsConfig ← newTLSConfig crypto ac
  return { clientPolicy with tlsConfig := tlsConfig }

/-! ## What is built -/

variable {crypto}

/-- The loop over the CA data adds to a pool the certificates found in the data. -/
theorem mem_foldl_appended {certsBytes : List (List UInt8)} {pool : List Authority}
    {a : Authority} :
    a ∈ certsBytes.foldl
        (fun certificates cert =>
          if cert.length > 0 then certificates ++ crypto.appended cert else certificates) pool ↔
      a ∈ pool ∨ ∃ cert ∈ certsBytes, a ∈ crypto.appended cert := by
  induction certsBytes generalizing pool with
  | nil => simp
  | cons cert certs ih =>
    rw [List.foldl_cons, ih]
    cases cert with
    | nil => simp [crypto.appended_nil]
    | cons b cert => simp [or_assoc]

theorem mem_loadCACerts {certsBytes : List (List UInt8)} {a : Authority} :
    a ∈ loadCACerts crypto certsBytes ↔
      a ∈ crypto.systemCertPool.getD [] ∨ ∃ cert ∈ certsBytes, a ∈ crypto.appended cert :=
  mem_foldl_appended

/-- The pair that a certificate and its key are, the key being decrypted if need be. -/
def IsPair (crypto : Crypto Authority KeyPair) (cert key pass : List UInt8) (pair : KeyPair) :
    Prop :=
  ∃ keyBlock unlocked keyPEM, crypto.decode key = some keyBlock ∧
    unlock crypto keyBlock pass = .ok unlocked ∧ crypto.encodeToMemory unlocked = some keyPEM ∧
    crypto.x509KeyPair cert keyPEM = .ok pair

theorem loadServerCertAndKey_eq_ok {cert key pass : List UInt8} {pairs : List KeyPair} :
    loadServerCertAndKey crypto cert key pass = .ok pairs ↔
      ∃ pair, IsPair crypto cert key pass pair ∧ pairs = [pair] := by
  unfold loadServerCertAndKey IsPair
  constructor
  · intro h
    cases hdecode : crypto.decode key with
    | none => simp [hdecode] at h
    | some keyBlock =>
      rw [hdecode] at h
      obtain ⟨unlocked, hunlock, h⟩ := Fallible.bind_eq_ok.1 h
      cases hencode : crypto.encodeToMemory unlocked with
      | none => simp [hencode] at h
      | some keyPEM =>
        cases hpair : crypto.x509KeyPair cert keyPEM with
        | error err => simp [hencode, hpair] at h
        | ok pair =>
          simp only [hencode, hpair, Fallible.pure_eq_ok, Except.ok.injEq] at h
          exact ⟨pair, ⟨keyBlock, unlocked, keyPEM, rfl, hunlock, hencode, hpair⟩, h.symm⟩
  · rintro ⟨pair, ⟨keyBlock, unlocked, keyPEM, hdecode, hunlock, hencode, hpair⟩, rfl⟩
    simp only [hdecode, hunlock, Fallible.ok_bind, hencode, hpair, Fallible.pure_eq_ok]

section Client

variable {ac : AerospikeConfig}

/-- Nothing was configured: there is no TLS configuration, and no error. -/
theorem newTLSConfig_of_empty (h : ac.rootCA = [] ∧ ac.cert = [] ∧ ac.key = []) :
    newTLSConfig crypto ac = .ok none := by
  obtain ⟨hca, hcert, hkey⟩ := h
  simp [newTLSConfig, hca, hcert, hkey]

/-- The TLS configuration with the given certificates. -/
def AerospikeConfig.tlsConfig (crypto : Crypto Authority KeyPair) (ac : AerospikeConfig)
    (certificates : List KeyPair) : TlsConfig Authority KeyPair where
  certificates := certificates
  rootCAs := loadCACerts crypto ac.rootCA
  insecureSkipVerify := false
  preferServerCipherSuites := true
  minVersion := ac.tlsProtocolsMinVersion
  maxVersion := ac.tlsProtocolsMaxVersion

theorem newTLSConfig_of_pair (h : ac.cert ≠ [] ∨ ac.key ≠ []) :
    newTLSConfig crypto ac =
      ((loadServerCertAndKey crypto ac.cert ac.key ac.keyPass).mapError fun err =>
        s!"failed to load client authentication certificate and key `{err}`").map fun pairs =>
          some (ac.tlsConfig crypto pairs) := by
  have hempty : ¬ (ac.rootCA.length = 0 ∧ ac.cert.length = 0 ∧ ac.key.length = 0) := by
    simp only [List.length_eq_zero_iff]
    rintro ⟨-, hcert, hkey⟩
    exact h.elim (fun h => h hcert) fun h => h hkey
  have hpair : ac.cert.length > 0 ∨ ac.key.length > 0 := by
    simpa only [gt_iff_lt, List.length_pos_iff] using h
  unfold newTLSConfig
  rw [if_neg hempty, if_pos hpair]
  cases loadServerCertAndKey crypto ac.cert ac.key ac.keyPass with
  | error err => rfl
  | ok pairs => rfl

theorem newTLSConfig_of_authorities (h : ac.rootCA ≠ []) (hcert : ac.cert = [])
    (hkey : ac.key = []) : newTLSConfig crypto ac = .ok (some (ac.tlsConfig crypto [])) := by
  have hempty : ac.rootCA.length ≠ 0 := by
    rwa [Ne, List.length_eq_zero_iff]
  simp [newTLSConfig, hcert, hkey, hempty, AerospikeConfig.tlsConfig]

variable (clientPolicy : ClientPolicy Authority KeyPair)

theorem newClientPolicy_eq_error :
    (∃ err, newClientPolicy crypto clientPolicy ac = .error err) ↔
      ∃ err, newTLSConfig crypto ac = .error err := by
  unfold newClientPolicy
  cases newTLSConfig crypto ac with
  | error err => simp
  | ok tlsConfig => simp

theorem newClientPolicy_eq_ok (tlsConfig : Option (TlsConfig Authority KeyPair)) :
    (∃ built, newClientPolicy crypto clientPolicy ac = .ok built ∧ built.tlsConfig = tlsConfig) ↔
      newTLSConfig crypto ac = .ok tlsConfig := by
  unfold newClientPolicy
  cases newTLSConfig crypto ac with
  | error err => simp
  | ok tlsConfig' => simp

end Client

end Policy

/-! ## The hosts -/

/-- A `Host` of the Go client. -/
structure Aero.Host where
  name : String
  tlsName : String
  port : Int64
deriving DecidableEq

/-- `as.NewHost`. -/
def Aero.Host.new (name : String) (port : Int64) : Aero.Host := ⟨name, "", port⟩

/-- `NewHosts` (lines 92–106). -/
def AerospikeConfig.newHosts (ac : AerospikeConfig) : List Aero.Host :=
  ac.seeds.map fun seed =>
    let host := Aero.Host.new seed.host seed.port
    if seed.tlsName ≠ "" then { host with tlsName := seed.tlsName } else host

end AerospikePhp.Config
