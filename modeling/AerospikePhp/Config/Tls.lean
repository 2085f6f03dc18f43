import AerospikePhp.Config.Client

/-!
# Sections that enable TLS

`tls-enable` decides in `NewAerospikeConfig` whether the CA data, the certificate and
the key are taken over, but `newTLSConfig` does not see it: where all of them are empty
it returns no TLS configuration and no error, and the client of a section that enables
TLS talks in clear text. A CA file in which no certificate is found is skipped without
an error too.

Main results:
* `plaintext_iff`: when the policy of a configuration has no TLS configuration. It does not ask
  for `tls-enable`, and tells what to look for in a configuration that was read.
* `tlsHonoured_iff`: when a section that enables TLS gets what it configures, or fails.
-/

namespace AerospikePhp.Config

/-! ## What a section configures -/

/-- The TLS settings of a section, each present or absent. -/
structure TlsSettings where
  caFile : Option (List UInt8)
  caPath : Option (List (List UInt8))
  cert : Option (List UInt8)
  key : Option (List UInt8)
  keyPass : Option (List UInt8)
  protocols : Option TLSProtocolsFlag

/-- A setting that may be absent. -/
def optional {α : Type} (valMap : Section) (key : String) (set : TomlValue → Except Failure α) :
    Except Failure (Option α) :=
  match valMap.lookup key with
  | some v => (set v).map some
  | none => .ok none

theorem setting_eq_ok {α : Type} {valMap : Section} {key : String} {value : α}
    {set : TomlValue → Except Failure α} {a : α} :
    setting valMap key value set = .ok a ↔
      ∃ o, optional valMap key set = .ok o ∧ o.getD value = a := by
  unfold setting optional
  cases valMap.lookup key with
  | none => simp
  | some v => simp [Fallible.map_eq_ok]

/-- The TLS settings of a section, read by the flags. -/
def tlsSettings (machine : Machine) (valMap : Section) : Except Failure TlsSettings := do
  let protocols ← optional valMap "tls-protocols" setProtocols
  let caFile ← optional valMap "tls-cafile" (setCert machine)
  let caPath ← optional valMap "tls-capath" (setCertPath machine)
  let cert ← optional valMap "tls-certfile" (setCert machine)
  let key ← optional valMap "tls-keyfile" (setCert machine)
  let keyPass ← optional valMap "tls-keyfile-password" (setPassword machine)
  return { caFile, caPath, cert, key, keyPass, protocols }

namespace TlsSettings

variable (tls : TlsSettings)

/-- The CA data that is configured: of the file, and of each file of the directory. -/
def cas : List (List UInt8) := tls.caFile.toList ++ tls.caPath.getD []

/-- The bounds on the protocol that are configured, or the default ones. -/
def bounds : TLSProtocolsFlag := tls.protocols.getD .default

/-- There is data for a certificate or for a key. -/
def HasPair : Prop := tls.cert.getD [] ≠ [] ∨ tls.key.getD [] ≠ []

/-- A certificate or a key is configured. -/
def NamesPair : Prop := tls.cert.isSome ∨ tls.key.isSome

end TlsSettings

section Tls

variable {Authority KeyPair : Type} (crypto : Crypto Authority KeyPair)

/-- The pair that the certificate and the key of the settings are. -/
def TlsSettings.Accepts (tls : TlsSettings) (pair : KeyPair) : Prop :=
  IsPair crypto (tls.cert.getD []) (tls.key.getD []) (tls.keyPass.getD []) pair

/-- A TLS configuration has the bounds that are configured, and in it are every CA, the
    certificate and the key that are configured. -/
structure TlsConfig.Carries (tls : TlsSettings) (config : TlsConfig Authority KeyPair) : Prop where
  min : config.minVersion = tls.bounds.min
  max : config.maxVersion = tls.bounds.max
  authorities : ∀ ca ∈ tls.cas, crypto.appended ca ≠ [] ∧
    ∀ a ∈ crypto.appended ca, a ∈ config.rootCAs
  pair : tls.NamesPair → ∃ pair ∈ config.certificates, tls.Accepts crypto pair

/-- Building the policy fails, or the policy has a TLS configuration with what is
    configured. -/
def TlsHonoured (clientPolicy : ClientPolicy Authority KeyPair) (tls : TlsSettings)
    (conf : AerospikeConfig) : Prop :=
  (∃ err, newClientPolicy crypto clientPolicy conf = .error err) ∨
    ∃ built config, newClientPolicy crypto clientPolicy conf = .ok built ∧
      built.tlsConfig = some config ∧ config.Carries crypto tls

/-- There is data for a certificate or a key, and they are not accepted as a pair. -/
def TlsSettings.PairRefused (tls : TlsSettings) : Prop :=
  tls.HasPair ∧ ¬ ∃ pair, tls.Accepts crypto pair

/-- Something is configured; a certificate is found in all CA data, and there is data for
    the certificate or the key, if one of them is configured. -/
structure TlsSettings.Sufficient (tls : TlsSettings) : Prop where
  configured : tls.cas ≠ [] ∨ tls.NamesPair
  authorities : ∀ ca ∈ tls.cas, crypto.appended ca ≠ []
  pair : tls.NamesPair → tls.HasPair

/-! ## What a configuration takes over -/

/-- The TLS part of a configuration is that of the settings. -/
structure AerospikeConfig.Takes (conf : AerospikeConfig) (tls : TlsSettings) : Prop where
  cas_of_rootCA : ∀ ca ∈ conf.rootCA, ca ∈ tls.cas
  rootCA_of_cas : ∀ ca ∈ tls.cas, ca ≠ [] → ca ∈ conf.rootCA
  cert : conf.cert = tls.cert.getD []
  key : conf.key = tls.key.getD []
  keyPass : conf.keyPass = tls.keyPass.getD []
  min : conf.tlsProtocolsMinVersion = tls.bounds.min
  max : conf.tlsProtocolsMaxVersion = tls.bounds.max

theorem AerospikeFlags.mem_rootCA {af : AerospikeFlags} {ca : List UInt8} :
    ca ∈ af.rootCA ↔ ca = af.tlsRootCAFile ∧ ca ≠ [] ∨ ca ∈ af.tlsRootCAPath := by
  unfold rootCA
  by_cases h : af.tlsRootCAFile = []
  · simp only [h, List.length_nil, ne_eq, not_true_eq_false, if_false, List.nil_append]
    tauto
  · simp only [ne_eq, List.length_eq_zero_iff, h, not_false_eq_true, if_true,
      List.singleton_append, List.mem_cons]
    constructor
    · rintro (rfl | hca)
      · exact .inl ⟨rfl, h⟩
      · exact .inr hca
    · rintro (⟨rfl, -⟩ | hca)
      · exact .inl rfl
      · exact .inr hca

variable {machine : Machine} {parsers : Parsers} {valMap : Section} {conf : AerospikeConfig}

theorem takes_of_readSection (hread : readSection machine parsers valMap = .ok conf)
    (henable : valMap.lookup "tls-enable" = some (.bool true)) :
    ∃ tls, tlsSettings machine valMap = .ok tls ∧ conf.Takes tls := by
  obtain ⟨f, hf, rfl⟩ := readSection_eq_ok.1 hread
  have hflag : f.tlsEnable = true := by
    have h := hf.tlsEnable
    rw [setting, henable] at h
    exact (Except.ok.inj h).symm
  obtain ⟨protocols, hprotocols, eprotocols⟩ := setting_eq_ok.1 hf.tlsProtocols
  obtain ⟨caFile, hcaFile, ecaFile⟩ := setting_eq_ok.1 hf.tlsRootCAFile
  obtain ⟨caPath, hcaPath, ecaPath⟩ := setting_eq_ok.1 hf.tlsRootCAPath
  obtain ⟨cert, hcert, ecert⟩ := setting_eq_ok.1 hf.tlsCertFile
  obtain ⟨key, hkey, ekey⟩ := setting_eq_ok.1 hf.tlsKeyFile
  obtain ⟨keyPass, hkeyPass, ekeyPass⟩ := setting_eq_ok.1 hf.tlsKeyFilePass
  refine ⟨⟨caFile, caPath, cert, key, keyPass, protocols⟩, ?_, ?_⟩
  · simp [tlsSettings, hprotocols, hcaFile, hcaPath, hcert, hkey, hkeyPass]
  · obtain ⟨hca, hcert, hkey, hpass, hmin, hmax⟩ :=
      AerospikeFlags.newAerospikeConfig_of_tlsEnable hflag
    have hmem : ∀ ca, ca ∈ f.newAerospikeConfig.rootCA ↔
        ca = caFile.getD [] ∧ ca ≠ [] ∨ ca ∈ caPath.getD [] := by
      intro ca
      rw [hca, AerospikeFlags.mem_rootCA, ecaFile, ecaPath]
    refine ⟨?_, ?_, hcert.trans ecert.symm, hkey.trans ekey.symm, hpass.trans ekeyPass.symm,
      ?_, ?_⟩
    · intro ca hca
      rw [hmem] at hca
      rw [TlsSettings.cas, List.mem_append, Option.mem_toList]
      refine hca.imp_left ?_
      rintro ⟨rfl, hne⟩
      cases caFile with
      | none => exact absurd rfl hne
      | some ca => rfl
    · intro ca hca hne
      rw [TlsSettings.cas, List.mem_append, Option.mem_toList] at hca
      rw [hmem]
      refine hca.imp_left ?_
      rintro rfl
      exact ⟨rfl, hne⟩
    · rw [hmin, TlsSettings.bounds, eprotocols]
    · rw [hmax, TlsSettings.bounds, eprotocols]

/-! ## A section without certificates -/

/-- A machine without files and variables. -/
def bareMachine : Machine where
  getenv _ := []
  abs := id
  join dir name := dir ++ "/" ++ name
  readFile _ := .error "no such file or directory"
  readDir _ := .error "no such file or directory"

/-- Parsers for a section in which nothing is left to parse. -/
def bareParsers : Parsers where
  unmarshal _ := .error "toml: invalid character"
  parseDuration _ := .error "time: invalid duration"

/-- Libraries that find nothing in any data. -/
def bareCrypto : Crypto Unit Unit where
  systemCertPool := none
  appended _ := []
  appended_nil := rfl
  decode _ := none
  encodeToMemory _ := none
  isEncryptedPEMBlock _ := false
  decryptPEMBlock _ _ := .error "x509: no DEK-Info header in block"
  x509KeyPair _ _ := .error "tls: failed to find any PEM data in certificate input"

/-- The default policy of the Go client. -/
def defaultPolicy : ClientPolicy Unit Unit where
  user := ""
  password := []
  authMode := .internal
  clusterName := ""
  timeout := 30000000000
  idleTimeout := 0
  loginTimeout := 10000000000
  connectionQueueSize := 100
  minConnectionsPerNode := 0
  maxErrorRate := 100
  errorRateWindow := 1
  limitConnectionsToQueueSize := true
  openingConnectionThreshold := 0
  failIfNotConnected := true
  tendInterval := 1000000000
  useServicesAlternate := false
  rackAware := false
  rackIds := []
  ignoreOtherSubnetAliases := false
  seedOnlyCluster := false
  tlsConfig := none

/-- The section `cluster_tls` of `asld.toml.template`, without certificates and with the
    default host. -/
def bareSection : Section :=
  [("port", .integer 4333), ("tls-name", .string "tls-name"), ("tls-enable", .bool true)]

/-! ## What is honoured -/

variable {crypto} {clientPolicy : ClientPolicy Authority KeyPair} {tls : TlsSettings}

theorem tlsHonoured_iff_newTLSConfig :
    TlsHonoured crypto clientPolicy tls conf ↔
      (∃ err, newTLSConfig crypto conf = .error err) ∨
        ∃ config, newTLSConfig crypto conf = .ok (some config) ∧ config.Carries crypto tls := by
  unfold TlsHonoured
  rw [newClientPolicy_eq_error clientPolicy, exists_comm]
  refine or_congr_right (exists_congr fun config => ?_)
  rw [← newClientPolicy_eq_ok clientPolicy]
  simp only [exists_and_right, ← and_assoc]

theorem carries_iff (crypto : Crypto Authority KeyPair) (htakes : conf.Takes tls)
    (pairs : List KeyPair) :
    (conf.tlsConfig crypto pairs).Carries crypto tls ↔
      (∀ ca ∈ tls.cas, crypto.appended ca ≠ []) ∧
        (tls.NamesPair → ∃ pair ∈ pairs, tls.Accepts crypto pair) := by
  constructor
  · intro h
    exact ⟨fun ca hca => (h.authorities ca hca).1, h.pair⟩
  · rintro ⟨hcas, hpair⟩
    refine ⟨htakes.min, htakes.max, ?_, hpair⟩
    intro ca hca
    refine ⟨hcas ca hca, ?_⟩
    intro a ha
    -- data in which a certificate is found is not empty, so it is taken over
    have hne : ca ≠ [] := by
      rintro rfl
      exact hcas [] hca crypto.appended_nil
    exact mem_loadCACerts.2 (.inr ⟨ca, htakes.rootCA_of_cas ca hca hne, ha⟩)

theorem takes_hasPair (htakes : conf.Takes tls) : conf.cert ≠ [] ∨ conf.key ≠ [] ↔ tls.HasPair := by
  rw [htakes.cert, htakes.key, TlsSettings.HasPair]

/-- The pair that is loaded is the one that is configured. -/
theorem takes_loadServerCertAndKey (htakes : conf.Takes tls) {pairs : List KeyPair} :
    loadServerCertAndKey crypto conf.cert conf.key conf.keyPass = .ok pairs ↔
      ∃ pair, tls.Accepts crypto pair ∧ pairs = [pair] := by
  rw [loadServerCertAndKey_eq_ok, htakes.cert, htakes.key, htakes.keyPass]
  rfl

/-- A certificate and a key that are accepted as a pair. -/
theorem honoured_of_pair (htakes : conf.Takes tls) (hdata : tls.HasPair) {pair : KeyPair}
    (hpair : tls.Accepts crypto pair) :
    TlsHonoured crypto clientPolicy tls conf ↔ ∀ ca ∈ tls.cas, crypto.appended ca ≠ [] := by
  have hload := (takes_loadServerCertAndKey htakes).2 ⟨pair, hpair, rfl⟩
  have hconfig : newTLSConfig crypto conf = .ok (some (conf.tlsConfig crypto [pair])) := by
    rw [newTLSConfig_of_pair ((takes_hasPair htakes).2 hdata), hload]
    rfl
  rw [tlsHonoured_iff_newTLSConfig, hconfig]
  have hcarries := carries_iff crypto htakes [pair]
  constructor
  · rintro (⟨err, h⟩ | ⟨config, h, hcarry⟩)
    · cases h
    · cases h
      exact (hcarries.1 hcarry).1
  · intro h
    right
    refine ⟨_, rfl, hcarries.2 ⟨h, ?_⟩⟩
    intro _
    exact ⟨pair, List.mem_singleton_self pair, hpair⟩

/-- A certificate and a key that are not. -/
theorem honoured_of_pairRefused (htakes : conf.Takes tls) (h : tls.PairRefused crypto) :
    TlsHonoured crypto clientPolicy tls conf := by
  obtain ⟨hdata, hno⟩ := h
  rw [tlsHonoured_iff_newTLSConfig, newTLSConfig_of_pair ((takes_hasPair htakes).2 hdata)]
  left
  cases hload : loadServerCertAndKey crypto conf.cert conf.key conf.keyPass with
  | error err => exact ⟨_, rfl⟩
  | ok pairs =>
    obtain ⟨pair, hpair, -⟩ := (takes_loadServerCertAndKey htakes).1 hload
    exact absurd ⟨pair, hpair⟩ hno

/-- No data for a certificate or a key. -/
theorem honoured_of_noPair (htakes : conf.Takes tls) (h : ¬ tls.HasPair) :
    TlsHonoured crypto clientPolicy tls conf ↔
      conf.rootCA ≠ [] ∧ (∀ ca ∈ tls.cas, crypto.appended ca ≠ []) ∧ ¬ tls.NamesPair := by
  have hdata := h
  rw [← takes_hasPair htakes, not_or, not_not, not_not] at hdata
  rw [tlsHonoured_iff_newTLSConfig]
  by_cases hroot : conf.rootCA = []
  · rw [newTLSConfig_of_empty ⟨hroot, hdata⟩]
    simp [hroot]
  · rw [newTLSConfig_of_authorities hroot hdata.1 hdata.2]
    have hcarries := carries_iff crypto htakes []
    simp only [List.not_mem_nil, false_and, exists_false, imp_false] at hcarries
    simpa [hroot] using hcarries

theorem TlsSettings.namesPair_of_hasPair (h : tls.HasPair) : tls.NamesPair := by
  obtain ⟨caFile, caPath, cert, key, keyPass, protocols⟩ := tls
  cases cert with
  | some c => exact .inl rfl
  | none =>
    cases key with
    | some k => exact .inr rfl
    | none => exact absurd rfl (h.elim id id)

/-- Where a certificate is found in all CA data, there is CA data iff some is taken over. -/
theorem rootCA_ne_nil_iff (htakes : conf.Takes tls)
    (hcas : ∀ ca ∈ tls.cas, crypto.appended ca ≠ []) : conf.rootCA ≠ [] ↔ tls.cas ≠ [] := by
  constructor
  · intro h
    obtain ⟨ca, hca⟩ := List.exists_mem_of_ne_nil _ h
    exact List.ne_nil_of_mem (htakes.cas_of_rootCA ca hca)
  · intro h
    obtain ⟨ca, hca⟩ := List.exists_mem_of_ne_nil _ h
    have hne : ca ≠ [] := by
      rintro rfl
      exact hcas [] hca crypto.appended_nil
    exact List.ne_nil_of_mem (htakes.rootCA_of_cas ca hca hne)

theorem honoured_iff (htakes : conf.Takes tls) :
    TlsHonoured crypto clientPolicy tls conf ↔ tls.PairRefused crypto ∨ tls.Sufficient crypto := by
  by_cases hdata : tls.HasPair
  · by_cases hpair : ∃ pair, tls.Accepts crypto pair
    · have haccepted : ¬ tls.PairRefused crypto := fun h => h.2 hpair
      obtain ⟨pair, hpair⟩ := hpair
      rw [honoured_of_pair htakes hdata hpair, or_iff_right haccepted]
      constructor
      · intro h
        exact ⟨.inr (TlsSettings.namesPair_of_hasPair hdata), h, fun _ => hdata⟩
      · intro h
        exact h.authorities
    · have hrefused : tls.PairRefused crypto := ⟨hdata, hpair⟩
      exact iff_of_true (honoured_of_pairRefused htakes hrefused) (.inl hrefused)
  · have haccepted : ¬ tls.PairRefused crypto := fun h => hdata h.1
    rw [honoured_of_noPair htakes hdata, or_iff_right haccepted]
    constructor
    · rintro ⟨hroot, hcas, hno⟩
      exact ⟨.inl ((rootCA_ne_nil_iff htakes hcas).1 hroot), hcas, fun h => absurd h hno⟩
    · intro h
      have hno : ¬ tls.NamesPair := fun hnames => hdata (h.pair hnames)
      have hcas := h.configured.resolve_right hno
      exact ⟨(rootCA_ne_nil_iff htakes h.authorities).2 hcas, h.authorities, hno⟩

/-- **Main theorem.** A policy without a TLS configuration is built iff no data was taken
    over. -/
theorem plaintext_iff :
    (∃ built, newClientPolicy crypto clientPolicy conf = .ok built ∧ built.tlsConfig = none) ↔
      conf.rootCA = [] ∧ conf.cert = [] ∧ conf.key = [] := by
  rw [newClientPolicy_eq_ok]
  constructor
  · intro h
    by_contra hne
    by_cases hpair : conf.cert ≠ [] ∨ conf.key ≠ []
    · rw [newTLSConfig_of_pair hpair, Fallible.map_eq_ok] at h
      obtain ⟨pairs, -, h⟩ := h
      cases h
    · rw [not_or, not_not, not_not] at hpair
      have hroot : conf.rootCA ≠ [] := fun h => hne ⟨h, hpair⟩
      rw [newTLSConfig_of_authorities hroot hpair.1 hpair.2] at h
      cases h
  · intro h
    exact newTLSConfig_of_empty h

/-- **Main theorem.** A section that enables TLS gets a TLS configuration with what it
    configures, or no policy, iff its certificate and key are refused, or it configures
    something and none of that is without content. -/
theorem tlsHonoured_iff (clientPolicy : ClientPolicy Authority KeyPair)
    (hread : readSection machine parsers valMap = .ok conf)
    (henable : valMap.lookup "tls-enable" = some (.bool true)) :
    ∃ tls, tlsSettings machine valMap = .ok tls ∧
      (TlsHonoured crypto clientPolicy tls conf ↔
        tls.PairRefused crypto ∨ tls.Sufficient crypto) := by
  obtain ⟨tls, htls, htakes⟩ := takes_of_readSection hread henable
  exact ⟨tls, htls, honoured_iff htakes⟩

end Tls

/-- The section `cluster_tls` of `asld.toml.template`, with names of files. -/
def certSection : Section :=
  [("tls-name", .string "tls-name"), ("tls-enable", .bool true),
    ("tls-cafile", .string "/etc/aerospike/ca.pem"),
    ("tls-certfile", .string "/etc/aerospike/cert.pem"),
    ("tls-keyfile", .string "/etc/aerospike/key.pem")]

/-- A machine on which the content of every file is its name. -/
def certMachine : Machine := { bareMachine with readFile := fun path => .ok (utf8 path) }

/-- Libraries that find a certificate or a key in all data. -/
def certCrypto : Crypto Unit Unit :=
  { bareCrypto with
    appended := fun data => if data = [] then [] else [()]
    appended_nil := rfl
    decode := fun data => some { type := "RSA PRIVATE KEY", headers := [], bytes := data }
    encodeToMemory := fun block => some block.bytes
    x509KeyPair := fun _ _ => .ok () }

/-- The policy of this section has a TLS configuration with the CA, the certificate and the key. -/
theorem tlsHonoured_iff_certificate :
    certSection.lookup "tls-enable" = some (.bool true) ∧
      ∃ conf tls, readSection certMachine bareParsers certSection = .ok conf ∧
        tlsSettings certMachine certSection = .ok tls ∧
        ∃ built config, newClientPolicy certCrypto defaultPolicy conf = .ok built ∧
          built.tlsConfig = some config ∧ config.Carries certCrypto tls := by
  have hread : readSection certMachine bareParsers certSection = .ok _ := rfl
  obtain ⟨tls, htls, hiff⟩ : ∃ tls, tlsSettings certMachine certSection = .ok tls ∧
      (TlsHonoured certCrypto defaultPolicy tls _ ↔
        tls.PairRefused certCrypto ∨ tls.Sufficient certCrypto) :=
    tlsHonoured_iff defaultPolicy hread rfl
  refine ⟨rfl, _, tls, hread, htls, (hiff.2 (.inr ?_)).resolve_left ?_⟩
  · cases htls
    refine ⟨.inl (List.cons_ne_nil _ _), ?_, fun _ => .inl ?_⟩
    · intro ca hca
      obtain rfl := List.mem_singleton.1 hca
      decide
    · decide
  · rintro ⟨err, h⟩
    cases h

/-- TLS is enabled, and the policy has no TLS configuration. -/
theorem tlsEnable_ignored :
    ∃ conf built tls, readSection bareMachine bareParsers bareSection = .ok conf ∧
      newClientPolicy bareCrypto defaultPolicy conf = .ok built ∧ built.tlsConfig = none ∧
      tlsSettings bareMachine bareSection = .ok tls ∧
      ¬ TlsHonoured bareCrypto defaultPolicy tls conf := by
  refine ⟨_, _, _, rfl, rfl, rfl, rfl, ?_⟩
  rintro (⟨err, h⟩ | ⟨built, config, h, hconfig, -⟩)
  · cases h
  · cases h
    cases hconfig

end AerospikePhp.Config
