import AerospikePhp.Config.HostPort
import AerospikePhp.Config.HostSeeds
import AerospikePhp.Config.Tls
import AerospikePhp.Lib.Split
import Mathlib.Data.List.TakeWhile

/-!
# From the seeds of a section to the hosts of the client

The seeds of a section are completed with its port and its TLS name by `NewAerospikeConfig`
(`common/flags/aerospike_flags.go` lines 96–104) and handed to the Go client by `NewHosts`
(`common/client/config.go` lines 92–106). A port of zero counts as none, and the seed of a
section without a host setting has a port of its own (`common/client/host.go` lines 21–27).

Main result:
* `newHosts_eq_resolved_iff`: the sections of which every seed gets the port and the TLS name
  that are configured for it.
-/

namespace AerospikePhp.Config

open Pattern

/-! ## What is configured -/

/-- A seed of a section, with the port that it was given, if any. -/
structure Seed where
  host : String
  port : Option Int64
  tlsName : String
deriving DecidableEq

/-- What stands after the last colon of a text. -/
def afterColon (v : List Char) : List Char := (v.reverse.takeWhile (· ≠ ':')).reverse

/-- The text of a seed gives its port. -/
def givesPort (v : List Char) : Bool :=
  v.contains ':' && !(afterColon v).isEmpty && (afterColon v).all Char.isDigit

/-- The seed that a text stands for. -/
def seedOf (v : String) : Option Seed :=
  (parseHostTLSPort v).toOption.map fun h =>
    { host := h.host, port := if givesPort v.toList then some h.port else none,
      tlsName := h.tlsName }

/-- The texts of the seeds of a section. -/
def seedTexts (valMap : Section) : Option (List String) :=
  match valMap.lookup "host" with
  | some (.string s) => some (HostTLSPortSliceFlag.splitComma s)
  | _ => none

/-- The seeds of a section: the local host where there is no host setting. -/
def configuredSeeds (valMap : Section) : Option (List Seed) :=
  match seedTexts valMap with
  | some texts => texts.mapM seedOf
  | none => some [⟨defaultIPv4, none, ""⟩]

/-- The port of a section, 3000 where there is none. -/
def configuredPort (valMap : Section) : Int64 :=
  match valMap.lookup "port" with
  | some (.integer i) => i
  | _ => defaultPort

/-- The TLS name of a section. -/
def configuredName (valMap : Section) : String :=
  match valMap.lookup "tls-name" with
  | some (.string s) => s
  | _ => ""

/-- The host that a seed of a section stands for. -/
def resolved (valMap : Section) (seed : Seed) : Aero.Host where
  name := seed.host
  tlsName := if seed.tlsName = "" then configuredName valMap else seed.tlsName
  port := seed.port.getD (configuredPort valMap)

/-- No seed is given a port of zero next to another port of the section, and a section without
    a host setting has no other port than 3000. -/
structure PortsDistinct (valMap : Section) : Prop where
  zero : ∀ seeds, configuredSeeds valMap = some seeds → ∀ seed ∈ seeds, seed.port = some 0 →
    configuredPort valMap = 0
  noHost : seedTexts valMap = none → configuredPort valMap = defaultPort

/-! ## One seed -/

theorem givesPort_iff {v : List Char} : givesPort v ↔ ∃ u p, v = u ++ ':' :: p ∧ IsPort p := by
  simp only [givesPort, Bool.and_eq_true, List.contains_iff_mem, Bool.not_eq_true',
    List.isEmpty_eq_false_iff, List.all_eq_true]
  constructor
  · rintro ⟨⟨hcolon, hne⟩, hdigits⟩
    cases hdrop : v.reverse.dropWhile (· ≠ ':') with
    | nil =>
      have hall := List.dropWhile_eq_nil_iff.1 hdrop ':' (List.mem_reverse.2 hcolon)
      simp at hall
    | cons c u =>
      obtain ⟨hc, hsplit⟩ := Split.of_dropWhile_eq_cons hdrop
      obtain rfl : c = ':' := by simpa using hc
      refine ⟨u.reverse, afterColon v, ?_, hne, hdigits⟩
      simpa [afterColon] using congrArg List.reverse hsplit
  · rintro ⟨u, p, rfl, hp⟩
    have hafter : afterColon (u ++ ':' :: p) = p := by
      have hport : ∀ c ∈ p.reverse, decide (c ≠ ':') = true := by
        intro c hc
        rw [decide_eq_true_eq]
        rintro rfl
        exact hp.not_colon (List.mem_reverse.1 hc)
      rw [afterColon, List.reverse_append, List.reverse_cons, List.append_assoc,
        List.singleton_append, Split.takeWhile_append_cons hport (by simp), List.reverse_reverse]
    rw [hafter]
    exact ⟨⟨by simp, hp.1⟩, hp.2⟩

/-- A seed whose text gives no port has port zero. -/
theorem port_of_not_givesPort {v : String} {h : HostTLSPort} (hv : parseHostTLSPort v = .ok h)
    (hport : givesPort v.toList = false) : h.port = 0 := by
  obtain ⟨m, hm, hread, -⟩ := parseHostTLSPort_eq_ok.1 hv
  unfold HostMatch.readPort at hread
  cases hp : m.port with
  | none =>
    simp only [hp, Except.ok.injEq] at hread
    exact hread.symm
  | some p =>
    obtain ⟨hpport, u, hu⟩ := text_of_port (matchHost_eq_some hm) hp
    have hgives := givesPort_iff.2 ⟨u, p, hu, hpport⟩
    rw [hport] at hgives
    cases hgives

/-- The host of the client that a seed of the flags becomes. -/
def AerospikeFlags.hostOf (af : AerospikeFlags) (h : HostTLSPort) : Aero.Host where
  name := h.host
  tlsName := if h.tlsName = "" then af.tlsName else h.tlsName
  port := if h.port = 0 then af.defaultPort else h.port

theorem newHosts_newAerospikeConfig (af : AerospikeFlags) :
    af.newAerospikeConfig.newHosts = af.seeds.seeds.map af.hostOf := by
  rw [AerospikeConfig.newHosts, AerospikeFlags.newAerospikeConfig, List.map_map]
  refine List.map_congr_left fun h _ => ?_
  simp only [Function.comp_apply, AerospikeFlags.resolveSeed, AerospikeFlags.hostOf, Aero.Host.new]
  by_cases hname : h.tlsName = ""
  · by_cases hdefault : af.tlsName = ""
    · simp [hname, hdefault]
    · simp [hname, hdefault]
  · simp [hname]

/-! ## The seeds of a section -/

section Resolve

variable {valMap : Section} {af : AerospikeFlags}

/-- A seed is resolved to the host that it stands for, unless it is given port zero. -/
theorem hostOf_eq_resolved_iff {v : String} {h : HostTLSPort} {seed : Seed}
    (hport : af.defaultPort = configuredPort valMap) (hname : af.tlsName = configuredName valMap)
    (hv : parseHostTLSPort v = .ok h) (hseed : seedOf v = some seed) :
    af.hostOf h = resolved valMap seed ↔ (seed.port = some 0 → configuredPort valMap = 0) := by
  rw [seedOf, hv, Fallible.toOption_ok, Option.map_some, Option.some.injEq] at hseed
  subst hseed
  simp only [AerospikeFlags.hostOf, resolved, hport, hname, Aero.Host.mk.injEq, true_and]
  by_cases hgives : givesPort v.toList = true
  · by_cases hzero : h.port = 0
    · simp [hgives, hzero]
    · simp [hgives, hzero]
  · have hnone : givesPort v.toList = false := Bool.not_eq_true _ ▸ hgives
    simp [hnone, port_of_not_givesPort hv hnone]

theorem exists_seeds {texts : List String} {hosts : List HostTLSPort}
    (hport : af.defaultPort = configuredPort valMap) (hname : af.tlsName = configuredName valMap)
    (hread : texts.mapM parseHostTLSPort = .ok hosts) :
    ∃ seeds, texts.mapM seedOf = some seeds ∧
      (hosts.map af.hostOf = seeds.map (resolved valMap) ↔
        ∀ seed ∈ seeds, seed.port = some 0 → configuredPort valMap = 0) := by
  have hrel := (Fallible.mapM_eq_ok_iff _ _ _).1 hread
  clear hread
  induction hrel with
  | nil => exact ⟨[], by simp⟩
  | @cons v h texts hosts hv hrest ih =>
    obtain ⟨seeds, hseeds, hiff⟩ := ih
    obtain ⟨seed, hseed⟩ : ∃ seed, seedOf v = some seed := by
      rw [seedOf, hv]
      exact ⟨_, rfl⟩
    refine ⟨seed :: seeds, by simp [hseed, hseeds], ?_⟩
    rw [List.map_cons, List.map_cons, List.cons.injEq, hiff, List.forall_mem_cons,
      hostOf_eq_resolved_iff hport hname hv hseed]

theorem configuredPort_eq {p : Int64}
    (h : setting valMap "port" defaultPort asInt = .ok p) : p = configuredPort valMap := by
  unfold setting at h
  unfold configuredPort
  cases hlookup : valMap.lookup "port" with
  | none =>
    rw [hlookup] at h
    exact (Except.ok.inj h).symm
  | some v =>
    rw [hlookup] at h
    cases v <;> cases h
    rfl

theorem configuredName_eq {name : String}
    (h : setting valMap "tls-name" "" asString = .ok name) : name = configuredName valMap := by
  unfold setting at h
  unfold configuredName
  cases hlookup : valMap.lookup "tls-name" with
  | none =>
    rw [hlookup] at h
    exact (Except.ok.inj h).symm
  | some v =>
    rw [hlookup] at h
    cases v <;> cases h
    rfl

/-- The seeds of a section are the default one, or those of its texts. -/
theorem seeds_of_setting {seeds : HostTLSPortSliceFlag}
    (h : setting valMap "host" .new setSeeds = .ok seeds) :
    (seedTexts valMap = none ∧ seeds = .new) ∨
      ∃ texts, seedTexts valMap = some texts ∧ texts.mapM parseHostTLSPort = .ok seeds.seeds := by
  unfold setting at h
  unfold seedTexts
  cases hlookup : valMap.lookup "host" with
  | none =>
    rw [hlookup] at h
    exact .inl ⟨rfl, (Except.ok.inj h).symm⟩
  | some v =>
    rw [hlookup] at h
    obtain ⟨s, hs, hset⟩ := Fallible.bind_eq_ok.1 h
    have hv : v = .string s := by
      cases v <;> cases hs
      rfl
    subst hv
    refine .inr ⟨_, rfl, ?_⟩
    rw [HostTLSPortSliceFlag.set_eq] at hset
    rw [← Fallible.toOption_eq_some, HostTLSPortSliceFlag.parsed_eq_mapM]
    cases herr : (HostTLSPortSliceFlag.parsed (HostTLSPortSliceFlag.splitComma s)).2 with
    | some err => simp [herr] at hset
    | none =>
      simp only [herr, Fallible.pure_eq_ok, Except.ok.injEq] at hset
      simp [← hset, HostTLSPortSliceFlag.new]

/-- The only seed of a section without a host setting is the local host, without a port. -/
theorem configuredSeeds_of_none (htexts : seedTexts valMap = none) :
    configuredSeeds valMap = some [⟨defaultIPv4, none, ""⟩] := by
  rw [configuredSeeds, htexts]

theorem portsDistinct_of_none (htexts : seedTexts valMap = none) :
    PortsDistinct valMap ↔ configuredPort valMap = defaultPort := by
  constructor
  · intro h
    exact h.noHost htexts
  · intro h
    refine ⟨?_, fun _ => h⟩
    intro seeds hseeds seed hseed hzero
    cases hseeds.symm.trans (configuredSeeds_of_none htexts)
    cases List.mem_singleton.1 hseed
    cases hzero

theorem portsDistinct_of_some {texts : List String} {seeds : List Seed}
    (htexts : seedTexts valMap = some texts) (hseeds : configuredSeeds valMap = some seeds) :
    PortsDistinct valMap ↔ ∀ seed ∈ seeds, seed.port = some 0 → configuredPort valMap = 0 := by
  constructor
  · intro h
    exact h.zero seeds hseeds
  · intro h
    refine ⟨?_, ?_⟩
    · intro seeds' hseeds'
      cases hseeds.symm.trans hseeds'
      exact h
    · intro hnone
      cases htexts.symm.trans hnone

/-- The default seed has a port, which takes the place of the configured one. -/
theorem hostOf_default_eq_resolved_iff (hname : af.tlsName = configuredName valMap) :
    af.hostOf .default = resolved valMap ⟨defaultIPv4, none, ""⟩ ↔
      configuredPort valMap = defaultPort := by
  have hdefault : defaultPort ≠ 0 := by decide
  simp [AerospikeFlags.hostOf, HostTLSPort.default, resolved, hname, hdefault, eq_comm]

variable {machine : Machine} {parsers : Parsers} {conf : AerospikeConfig}

/-- **Main theorem.** The hosts of the client are the seeds of the section, in order, each with
    its own port and TLS name or else those of the section, iff the ports are distinct. -/
theorem newHosts_eq_resolved_iff (hread : readSection machine parsers valMap = .ok conf) :
    ∃ seeds, configuredSeeds valMap = some seeds ∧
      (conf.newHosts = seeds.map (resolved valMap) ↔ PortsDistinct valMap) := by
  obtain ⟨af, haf, rfl⟩ := readSection_eq_ok.1 hread
  have hport := configuredPort_eq haf.defaultPort
  have hname := configuredName_eq haf.tlsName
  rw [newHosts_newAerospikeConfig]
  obtain ⟨htexts, hnew⟩ | ⟨texts, htexts, hmap⟩ := seeds_of_setting haf.seeds
  · refine ⟨_, configuredSeeds_of_none htexts, ?_⟩
    rw [portsDistinct_of_none htexts, ← hostOf_default_eq_resolved_iff hname, hnew,
      HostTLSPortSliceFlag.new, List.map_singleton, List.map_singleton, List.singleton_inj]
  · obtain ⟨seeds, hseeds, hiff⟩ := exists_seeds hport hname hmap
    have hconfigured : configuredSeeds valMap = some seeds := by
      rw [configuredSeeds, htexts]
      exact hseeds
    exact ⟨seeds, hconfigured, hiff.trans (portsDistinct_of_some htexts hconfigured).symm⟩

end Resolve

/-- Two seeds of a section with a port and a TLS name, of which the first has a port of its
    own. -/
theorem newHosts_eq_resolved_two :
    ∃ conf, readSection bareMachine bareParsers [("host", .string "db1:4000,db2"),
        ("port", .integer 3100), ("tls-name", .string "tls")] = .ok conf ∧
      conf.newHosts = [⟨"db1", "tls", 4000⟩, ⟨"db2", "tls", 3100⟩] := by
  have hok : (readSection bareMachine bareParsers [("host", .string "db1:4000,db2"),
      ("port", .integer 3100), ("tls-name", .string "tls")]).isOk = true := by
    decide +kernel
  obtain ⟨conf, hread⟩ := Fallible.isOk_iff.1 hok
  refine ⟨conf, hread, ?_⟩
  obtain ⟨seeds, hseeds, hiff⟩ := newHosts_eq_resolved_iff hread
  have hknown : configuredSeeds [("host", .string "db1:4000,db2"), ("port", .integer 3100),
      ("tls-name", .string "tls")] = some [⟨"db1", some 4000, ""⟩, ⟨"db2", none, ""⟩] := by
    decide +kernel
  cases hseeds.symm.trans hknown
  refine hiff.2 ⟨?_, ?_⟩
  · intro seeds hseeds
    cases hseeds.symm.trans hknown
    decide
  · intro hnone
    cases hnone

/-- The port of a section without a host setting is not used. -/
theorem port_without_host :
    ∃ conf seeds, readSection bareMachine bareParsers [("port", .integer 4000)] = .ok conf ∧
      conf.newHosts = [⟨"127.0.0.1", "", 3000⟩] ∧
      configuredSeeds [("port", .integer 4000)] = some seeds ∧
      seeds.map (resolved [("port", .integer 4000)]) = [⟨"127.0.0.1", "", 4000⟩] ∧
      conf.newHosts ≠ seeds.map (resolved [("port", .integer 4000)]) := by
  have hhosts : Option.map AerospikeConfig.newHosts
      (readSection bareMachine bareParsers [("port", .integer 4000)]).toOption =
        some [⟨"127.0.0.1", "", 3000⟩] := by
    decide +kernel
  rw [Option.map_eq_some_iff] at hhosts
  obtain ⟨conf, hread, hhosts⟩ := hhosts
  refine ⟨conf, _, Fallible.toOption_eq_some.1 hread, hhosts, rfl, rfl, ?_⟩
  rw [hhosts]
  decide

end AerospikePhp.Config
