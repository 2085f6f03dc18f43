import AerospikePhp.Config.Tls

/-!
# Settings that are absent

Each connection setting of a section goes through `AerospikeFlags` and `AerospikeConfig`, which
hold zero where the section has nothing (`common/config/conf.go` lines 129–218,
`common/flags/aerospike_flags.go` lines 46–78), and is then written over the default policy of
the Go client (`common/client/config.go` lines 57–79). `launchServer` (`main.go` lines 89–97)
puts 32 in place of a queue size of zero.

Main results:
* `get_of_launchPolicy`: the value of each setting in the policy that a section leads to.
* `onlyConfigured_iff`: the sections of which only the settings that are present override the
  default policy.
-/

namespace AerospikePhp.Config

/-! ## Settings of the connection -/

/-- The settings of a section for the connections to a cluster. -/
inductive ConnectionSetting where
  | clusterName
  | timeout
  | idleTimeout
  | loginTimeout
  | connectionQueueSize
  | minConnectionsPerNode
  | maxErrorRate
  | errorRateWindow
  | limitConnectionsToQueueSize
  | openingConnectionThreshold
  | failIfNotConnected
  | tendInterval
  | useServicesAlternate
  | rackAware
  | rackIds
  | ignoreOtherSubnetAliases
  | seedOnlyCluster
deriving DecidableEq

namespace ConnectionSetting

/-- The key in the section. -/
def key : ConnectionSetting → String
  | clusterName => "cluster-name"
  | timeout => "timeout"
  | idleTimeout => "idle-timeout"
  | loginTimeout => "login-timeout"
  | connectionQueueSize => "connection-queue-size"
  | minConnectionsPerNode => "min-connections-per-node"
  | maxErrorRate => "max-error-rate"
  | errorRateWindow => "error-rate-window"
  | limitConnectionsToQueueSize => "limit-connections-to-queue-size"
  | openingConnectionThreshold => "opening-connection-threshold"
  | failIfNotConnected => "fail-if-not-connected"
  | tendInterval => "tend-interval"
  | useServicesAlternate => "use-services-alternate"
  | rackAware => "rack-aware"
  | rackIds => "rack-ids"
  | ignoreOtherSubnetAliases => "ignore-other-subnet-aliases"
  | seedOnlyCluster => "seed-only-cluster"

/-- The type of the value. -/
abbrev Value : ConnectionSetting → Type
  | clusterName => String
  | limitConnectionsToQueueSize | failIfNotConnected | useServicesAlternate | rackAware
  | ignoreOtherSubnetAliases | seedOnlyCluster => Bool
  | rackIds => List Int64
  | timeout | idleTimeout | loginTimeout | connectionQueueSize | minConnectionsPerNode
  | maxErrorRate | errorRateWindow | openingConnectionThreshold | tendInterval => Int64

/-- The zero value of Go. -/
def zero : (s : ConnectionSetting) → s.Value
  | clusterName => ""
  | limitConnectionsToQueueSize | failIfNotConnected | useServicesAlternate | rackAware
  | ignoreOtherSubnetAliases | seedOnlyCluster => false
  | rackIds => []
  | timeout | idleTimeout | loginTimeout | connectionQueueSize | minConnectionsPerNode
  | maxErrorRate | errorRateWindow | openingConnectionThreshold | tendInterval => (0 : Int64)

/-- How the value is read. -/
def set (parsers : Parsers) : (s : ConnectionSetting) → TomlValue → Except Failure s.Value
  | clusterName => asString
  | limitConnectionsToQueueSize | failIfNotConnected | useServicesAlternate | rackAware
  | ignoreOtherSubnetAliases | seedOnlyCluster => asBool
  | rackIds => asInts
  | timeout | idleTimeout | loginTimeout | tendInterval => setDuration parsers
  | connectionQueueSize | minConnectionsPerNode | maxErrorRate | errorRateWindow
  | openingConnectionThreshold => asInt

/-- The field of a configuration. -/
def ofConfig (ac : AerospikeConfig) : (s : ConnectionSetting) → s.Value
  | clusterName => ac.clusterName
  | timeout => ac.timeout
  | idleTimeout => ac.idleTimeout
  | loginTimeout => ac.loginTimeout
  | connectionQueueSize => ac.connectionQueueSize
  | minConnectionsPerNode => ac.minConnectionsPerNode
  | maxErrorRate => ac.maxErrorRate
  | errorRateWindow => ac.errorRateWindow
  | limitConnectionsToQueueSize => ac.limitConnectionsToQueueSize
  | openingConnectionThreshold => ac.openingConnectionThreshold
  | failIfNotConnected => ac.failIfNotConnected
  | tendInterval => ac.tendInterval
  | useServicesAlternate => ac.useServicesAlternate
  | rackAware => ac.rackAware
  | rackIds => ac.rackIds
  | ignoreOtherSubnetAliases => ac.ignoreOtherSubnetAliases
  | seedOnlyCluster => ac.seedOnlyCluster

/-- The field of a policy. -/
def get {Authority KeyPair : Type} (cp : ClientPolicy Authority KeyPair) :
    (s : ConnectionSetting) → s.Value
  | clusterName => cp.clusterName
  | timeout => cp.timeout
  | idleTimeout => cp.idleTimeout
  | loginTimeout => cp.loginTimeout
  | connectionQueueSize => cp.connectionQueueSize
  | minConnectionsPerNode => cp.minConnectionsPerNode
  | maxErrorRate => cp.maxErrorRate
  | errorRateWindow => cp.errorRateWindow
  | limitConnectionsToQueueSize => cp.limitConnectionsToQueueSize
  | openingConnectionThreshold => cp.openingConnectionThreshold
  | failIfNotConnected => cp.failIfNotConnected
  | tendInterval => cp.tendInterval
  | useServicesAlternate => cp.useServicesAlternate
  | rackAware => cp.rackAware
  | rackIds => cp.rackIds
  | ignoreOtherSubnetAliases => cp.ignoreOtherSubnetAliases
  | seedOnlyCluster => cp.seedOnlyCluster

end ConnectionSetting

/-! ## Launching a client -/

section Launch

variable {Authority KeyPair : Type} (crypto : Crypto Authority KeyPair)

/-- The queue size that `launchServer` falls back to (`main.go` line 96). -/
def fallbackQueueSize : Int64 := 32

/-- The client policy that `launchServer` makes (`main.go` lines 90–97). -/
def launchPolicy (clientPolicy : ClientPolicy Authority KeyPair) (ac : AerospikeConfig) :
    Except String (ClientPolicy Authority KeyPair) := do
  let cp ← newClientPolicy crypto clientPolicy ac
  if cp.connectionQueueSize = 0 then
    return { cp with connectionQueueSize := fallbackQueueSize }
  return cp

/-- What a setting is when it is absent: the fallback of the manager, or the default of the
    library. -/
def ConnectionSetting.absent (clientPolicy : ClientPolicy Authority KeyPair) :
    (s : ConnectionSetting) → s.Value
  | connectionQueueSize => fallbackQueueSize
  | s => s.get clientPolicy

variable {crypto} {clientPolicy built : ClientPolicy Authority KeyPair} {ac : AerospikeConfig}
  {machine : Machine} {parsers : Parsers} {valMap : Section}

theorem setting_of_readSection (hread : readSection machine parsers valMap = .ok ac)
    (s : ConnectionSetting) :
    setting valMap s.key s.zero (s.set parsers) = .ok (s.ofConfig ac) := by
  obtain ⟨f, hf, rfl⟩ := readSection_eq_ok.1 hread
  cases s with
  | clusterName => exact hf.clusterName
  | timeout => exact hf.timeout
  | idleTimeout => exact hf.idleTimeout
  | loginTimeout => exact hf.loginTimeout
  | connectionQueueSize => exact hf.connectionQueueSize
  | minConnectionsPerNode => exact hf.minConnectionsPerNode
  | maxErrorRate => exact hf.maxErrorRate
  | errorRateWindow => exact hf.errorRateWindow
  | limitConnectionsToQueueSize => exact hf.limitConnectionsToQueueSize
  | openingConnectionThreshold => exact hf.openingConnectionThreshold
  | failIfNotConnected => exact hf.failIfNotConnected
  | tendInterval => exact hf.tendInterval
  | useServicesAlternate => exact hf.useServicesAlternate
  | rackAware => exact hf.rackAware
  | rackIds => exact hf.rackIds
  | ignoreOtherSubnetAliases => exact hf.ignoreOtherSubnetAliases
  | seedOnlyCluster => exact hf.seedOnlyCluster

theorem get_of_newClientPolicy (hbuilt : newClientPolicy crypto clientPolicy ac = .ok built)
    (s : ConnectionSetting) : s.get built = s.ofConfig ac := by
  unfold newClientPolicy at hbuilt
  obtain ⟨tlsConfig, -, h⟩ := Fallible.bind_eq_ok.1 hbuilt
  cases h
  cases s <;> rfl

/-- A setting of the policy is that of the configuration, but for a queue size of zero. -/
theorem get_of_launchPolicy (hbuilt : launchPolicy crypto clientPolicy ac = .ok built) :
    (∀ s : ConnectionSetting, s ≠ .connectionQueueSize → s.get built = s.ofConfig ac) ∧
      built.connectionQueueSize =
        if ac.connectionQueueSize = 0 then fallbackQueueSize else ac.connectionQueueSize := by
  unfold launchPolicy at hbuilt
  obtain ⟨cp, hcp, h⟩ := Fallible.bind_eq_ok.1 hbuilt
  have hget := get_of_newClientPolicy hcp
  have hqueue : cp.connectionQueueSize = ac.connectionQueueSize := hget .connectionQueueSize
  rw [hqueue] at h
  split_ifs at h with hzero
  · cases h
    rw [if_pos hzero]
    refine ⟨?_, rfl⟩
    intro s hs
    rw [← hget]
    cases s <;> first | rfl | exact absurd rfl hs
  · cases h
    rw [if_neg hzero]
    exact ⟨fun s _ => hget s, hqueue⟩

/-! ## What overrides the default policy -/

/-- A setting that is present has its value in the policy, and one that is absent has its
    default. -/
structure OnlyConfigured (parsers : Parsers) (valMap : Section)
    (clientPolicy built : ClientPolicy Authority KeyPair) : Prop where
  present : ∀ (s : ConnectionSetting) v, valMap.lookup s.key = some v →
    s.set parsers v = .ok (s.get built)
  absent : ∀ s : ConnectionSetting, valMap.lookup s.key = none →
    s.get built = s.absent clientPolicy

/-- A setting other than the queue size is present, or zero in the default policy; the queue
    size is not set to zero. -/
structure ZeroIsDefault (valMap : Section) (clientPolicy : ClientPolicy Authority KeyPair) :
    Prop where
  absent : ∀ s : ConnectionSetting, s ≠ .connectionQueueSize → valMap.lookup s.key = none →
    s.get clientPolicy = s.zero
  queue : valMap.lookup "connection-queue-size" ≠ some (.integer 0)

theorem set_of_present (hread : readSection machine parsers valMap = .ok ac)
    {s : ConnectionSetting} {v : TomlValue} (hv : valMap.lookup s.key = some v) :
    s.set parsers v = .ok (s.ofConfig ac) := by
  have hsetting := setting_of_readSection hread s
  rwa [setting, hv] at hsetting

theorem zero_of_absent (hread : readSection machine parsers valMap = .ok ac)
    {s : ConnectionSetting} (hs : valMap.lookup s.key = none) : s.ofConfig ac = s.zero := by
  have hsetting := setting_of_readSection hread s
  rw [setting, hs] at hsetting
  exact (Except.ok.inj hsetting).symm

theorem absent_of_ne {s : ConnectionSetting} (hs : s ≠ .connectionQueueSize) :
    s.absent clientPolicy = s.get clientPolicy := by
  cases s <;> first | rfl | exact absurd rfl hs

/-- A queue size that is read as zero was set to zero. -/
theorem eq_zero_of_asInt {v : TomlValue} (h : asInt v = .ok 0) : v = .integer 0 := by
  cases v <;> cases h
  rfl

section Built

variable (hread : readSection machine parsers valMap = .ok ac)
  (hbuilt : launchPolicy crypto clientPolicy ac = .ok built)

include hread hbuilt

theorem set_eq_get {s : ConnectionSetting} (hs : s ≠ .connectionQueueSize) {v : TomlValue}
    (hv : valMap.lookup s.key = some v) : s.set parsers v = .ok (s.get built) := by
  rw [(get_of_launchPolicy hbuilt).1 s hs, set_of_present hread hv]

/-- A setting that is absent has its default in the policy iff that is zero. -/
theorem get_eq_absent_iff {s : ConnectionSetting} (hs : s ≠ .connectionQueueSize)
    (hnone : valMap.lookup s.key = none) :
    s.get built = s.absent clientPolicy ↔ s.get clientPolicy = s.zero := by
  rw [(get_of_launchPolicy hbuilt).1 s hs, zero_of_absent hread hnone, absent_of_ne hs, eq_comm]

/-- A queue size that is present is in the policy iff it is not zero. -/
theorem queueSize_of_present {v : TomlValue}
    (hv : valMap.lookup "connection-queue-size" = some v) :
    asInt v = .ok built.connectionQueueSize ↔ v ≠ .integer 0 := by
  have hset : asInt v = .ok ac.connectionQueueSize :=
    set_of_present hread (s := .connectionQueueSize) hv
  rw [(get_of_launchPolicy hbuilt).2]
  by_cases hzero : ac.connectionQueueSize = 0
  · rw [hzero] at hset
    have hv := eq_zero_of_asInt hset
    rw [if_pos hzero, hset]
    refine iff_of_false ?_ (not_not.2 hv)
    intro h
    exact absurd (Except.ok.inj h) (by decide)
  · rw [if_neg hzero]
    refine iff_of_true hset ?_
    rintro rfl
    exact hzero (Except.ok.inj hset).symm

theorem queueSize_of_zero (hzero : valMap.lookup "connection-queue-size" = some (.integer 0)) :
    built.connectionQueueSize = fallbackQueueSize := by
  have hset : asInt (.integer 0) = .ok ac.connectionQueueSize :=
    set_of_present hread (s := .connectionQueueSize) hzero
  rw [(get_of_launchPolicy hbuilt).2, if_pos (Except.ok.inj hset).symm]

theorem queueSize_of_absent (hnone : valMap.lookup "connection-queue-size" = none) :
    built.connectionQueueSize = fallbackQueueSize := by
  have hzero : ac.connectionQueueSize = 0 :=
    zero_of_absent hread (s := .connectionQueueSize) hnone
  rw [(get_of_launchPolicy hbuilt).2, if_pos hzero]

end Built

/-- **Main theorem.** Only the settings that are present override the default policy iff zero is
    the default of those that are absent. -/
theorem onlyConfigured_iff (hread : readSection machine parsers valMap = .ok ac)
    (hbuilt : launchPolicy crypto clientPolicy ac = .ok built) :
    OnlyConfigured parsers valMap clientPolicy built ↔ ZeroIsDefault valMap clientPolicy := by
  constructor
  · intro h
    refine ⟨?_, ?_⟩
    · intro s hs hnone
      exact (get_eq_absent_iff hread hbuilt hs hnone).1 (h.absent s hnone)
    · intro hzero
      have hpresent := h.present .connectionQueueSize _ hzero
      exact (queueSize_of_present hread hbuilt hzero).1 hpresent rfl
  · intro h
    refine ⟨?_, ?_⟩
    · intro s v hv
      by_cases hs : s = .connectionQueueSize
      · subst hs
        refine (queueSize_of_present hread hbuilt hv).2 ?_
        rintro rfl
        exact h.queue hv
      · exact set_eq_get hread hbuilt hs hv
    · intro s hnone
      by_cases hs : s = .connectionQueueSize
      · subst hs
        exact queueSize_of_absent hread hbuilt hnone
      · exact (get_eq_absent_iff hread hbuilt hs hnone).2 (h.absent s hs hnone)

end Launch

/-- A section that gives every setting of which the default is not zero. -/
def givenSection : Section :=
  [("timeout", .string "1s"), ("login-timeout", .string "1s"), ("max-error-rate", .integer 50),
    ("error-rate-window", .integer 2), ("limit-connections-to-queue-size", .bool true),
    ("fail-if-not-connected", .bool false), ("tend-interval", .string "1s")]

/-- Parsers for a section in which every duration is one second. -/
def secondParsers : Parsers := { bareParsers with parseDuration := fun _ => .ok 1000000000 }

theorem onlyConfigured_iff_given :
    ∃ ac built, readSection bareMachine secondParsers givenSection = .ok ac ∧
      launchPolicy bareCrypto defaultPolicy ac = .ok built ∧
      OnlyConfigured secondParsers givenSection defaultPolicy built := by
  have hread : readSection bareMachine secondParsers givenSection = .ok _ := rfl
  refine ⟨_, _, hread, rfl, (onlyConfigured_iff hread
    (show launchPolicy bareCrypto defaultPolicy _ = .ok _ from rfl)).2 ⟨?_, ?_⟩⟩
  · intro s hs hnone
    cases s <;> first | rfl | exact absurd rfl hs | cases hnone
  · intro h
    cases h

/-- A section without settings gets no timeout, no limit on errors, and no error when no node can
    be reached. -/
theorem absent_settings_are_zero :
    ∃ ac built, readSection bareMachine bareParsers [] = .ok ac ∧
      launchPolicy bareCrypto defaultPolicy ac = .ok built ∧
      built.timeout = 0 ∧ built.maxErrorRate = 0 ∧ built.failIfNotConnected = false ∧
      ¬ OnlyConfigured bareParsers [] defaultPolicy built := by
  refine ⟨_, _, rfl, rfl, rfl, rfl, rfl, ?_⟩
  intro h
  have htimeout : (0 : Int64) = 30000000000 := h.absent .timeout rfl
  exact absurd htimeout (by decide)

end AerospikePhp.Config
