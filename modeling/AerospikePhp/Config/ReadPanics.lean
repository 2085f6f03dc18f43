import AerospikePhp.Config.Secrets
import AerospikePhp.Config.Tls

/-!
# Configurations on which reading panics

`Read` (`common/config/conf.go` lines 25–217) takes each setting out of an untyped map by a
type assertion, and `decode64` asks for the last byte of data that may be empty. Both panic;
all other ways to refuse a setting return an error, which ends the reading.

Main results:
* `failure_readFlags`: the failure of a section is that of its first setting that fails.
* `Kind.failure_eq_panic`: the values on which reading a setting panics.
* `read_never_panics_iff`: the documents that are read without a panic.
-/

namespace AerospikePhp.Config

/-! ## Settings -/

/-- What the text of a setting is made into. -/
inductive TextUse where
  | plain
  | seeds
  | password
  | auth
  | protocols
  | cert
  | certPath
  | duration
deriving DecidableEq

/-- What a setting is asserted to be. -/
inductive Kind where
  | text (use : TextUse)
  | flag
  | number
  | numbers
deriving DecidableEq

/-- The settings of a section, in the order in which they are read. -/
def settings : List (String × Kind) :=
  [("socket", .text .plain), ("host", .text .seeds), ("port", .number), ("user", .text .plain),
    ("password", .text .password), ("auth", .text .auth), ("tls-enable", .flag),
    ("tls-name", .text .plain), ("tls-protocols", .text .protocols), ("tls-cafile", .text .cert),
    ("tls-capath", .text .certPath), ("tls-certfile", .text .cert), ("tls-keyfile", .text .cert),
    ("tls-keyfile-password", .text .password), ("cluster-name", .text .plain),
    ("timeout", .text .duration), ("idle-timeout", .text .duration),
    ("login-timeout", .text .duration), ("connection-queue-size", .number),
    ("min-connections-per-node", .number), ("max-error-rate", .number),
    ("error-rate-window", .number), ("limit-connections-to-queue-size", .flag),
    ("opening-connection-threshold", .number), ("fail-if-not-connected", .flag),
    ("tend-interval", .text .duration), ("use-services-alternate", .flag), ("rack-aware", .flag),
    ("rack-ids", .numbers), ("ignore-other-subnet-aliases", .flag), ("seed-only-cluster", .flag)]

/-- The settings that a section gives, in the order in which they are read. -/
def Section.given (valMap : Section) : List (Kind × TomlValue) :=
  settings.filterMap fun (key, kind) => (valMap.lookup key).map fun v => (kind, v)

/-- The settings that a document gives, section by section. -/
def given (cfg : List (String × Section)) : List (Kind × TomlValue) :=
  cfg.flatMap fun (_, valMap) => Section.given valMap

section Failures

variable (machine : Machine) (parsers : Parsers)

/-- How the text of a setting is refused. -/
def TextUse.failure : TextUse → String → Option Failure
  | .plain, _ => none
  | .seeds, s => (HostTLSPortSliceFlag.new.set s).2.map .error
  | .password, s => Fallible.failure (PasswordFlag.set machine s)
  | .auth, s => Fallible.failure (AuthModeFlag.set s)
  | .protocols, s => (TLSProtocolsFlag.zero.set s).2.map .error
  | .cert, s => Fallible.failure (CertFlag.set machine s)
  | .certPath, s => Fallible.failure (CertPathFlag.set machine s)
  | .duration, s => Fallible.failure ((parsers.parseDuration s).mapError Failure.error)

/-- How the value of a setting is refused. -/
def Kind.failure : Kind → TomlValue → Option Failure
  | .text use, v => (Fallible.failure (asString v)).or
      ((asString v).toOption.bind (use.failure machine parsers))
  | .flag, v => Fallible.failure (asBool v)
  | .number, v => Fallible.failure (asInt v)
  | .numbers, v => Fallible.failure (asInts v)

/-! ## What a setting is refused for -/

/-- A value has the type that the setting is asserted to have. -/
def Kind.HasType : Kind → TomlValue → Prop
  | .text _, v => ∃ s, v = .string s
  | .flag, v => ∃ b, v = .bool b
  | .number, v => ∃ i, v = .integer i
  | .numbers, v => ∃ a, v = .array a ∧ ∀ e ∈ a, ∃ i, e = .integer i

/-- A reference to base64 data that decodes to nothing. -/
def Reference.DecodesEmpty : Reference → Prop
  | .envB64 name => machine.getenv name ≠ [] ∧ Base64.decodeString (machine.getenv name) = some []
  | .b64 data => Base64.decodeString (utf8 data) = some []
  | _ => False

/-- A password or a certificate refers to base64 data that decodes to nothing. -/
def Kind.DecodesEmpty (kind : Kind) (v : TomlValue) : Prop :=
  ∃ s, v = .string s ∧ (kind = .text .password ∨ kind = .text .cert) ∧
    (reference s).DecodesEmpty machine

/-- A value of the wrong type, or one whose base64 data decodes to nothing. -/
def Kind.Breaks (kind : Kind) (v : TomlValue) : Prop :=
  ¬ kind.HasType v ∨ kind.DecodesEmpty machine v

/-- A text that is refused with an error. -/
def Kind.Refuses (kind : Kind) (v : TomlValue) : Prop :=
  ∃ use s err, kind = .text use ∧ v = .string s ∧
    use.failure machine parsers s = some (.error err)

/-- A setting that breaks comes after one that is refused with an error. -/
def RefusedFirst (values : List (Kind × TomlValue)) : Prop :=
  ∀ earlier kind v later, values = earlier ++ (kind, v) :: later → kind.Breaks machine v →
    ∃ r ∈ earlier, r.1.Refuses machine parsers r.2

end Failures

variable {machine : Machine} {parsers : Parsers}

/-! ## Texts -/

theorem fromEnv_ne_panic {name : String} {p : Panic} :
    fromEnv machine name ≠ .error (.panic p) := by
  unfold fromEnv
  split_ifs
  · simp
  · simp

theorem readFromFile_ne_panic {path : String} {p : Panic} :
    readFromFile machine path ≠ .error (.panic p) := by
  unfold readFromFile
  dsimp only
  cases machine.readFile (machine.abs path) with
  | error err => simp
  | ok data => simp

theorem readFromPath_ne_panic {path : String} {p : Panic} :
    readFromPath machine path ≠ .error (.panic p) := by
  unfold readFromPath
  dsimp only
  cases machine.readDir (machine.abs path) with
  | error err => simp
  | ok names =>
    intro h
    have hfail := Fallible.failure_eq_some.2 h
    rw [Fallible.failure_mapM, List.findSome?_eq_some_iff] at hfail
    obtain ⟨-, name, -, -, hname, -⟩ := hfail
    rw [Fallible.failure_mapError, Option.map_eq_some_iff] at hname
    obtain ⟨failure, hfailure, hwrap⟩ := hname
    cases failure with
    | error err => cases hwrap
    | panic p' => exact readFromFile_ne_panic (Fallible.failure_eq_some.1 hfailure)

theorem decode64_eq_panic {v : List UInt8} :
    (∃ p, decode64 v = .error (.panic p)) ↔ Base64.decodeString v = some [] := by
  cases hdecode : Base64.decodeString v with
  | none => simp [decode64_of_none hdecode]
  | some data =>
    cases data with
    | nil => simp [decode64_of_nil hdecode]
    | cons b data => simp [decode64_of_cons hdecode]

theorem flagFormatParser_eq_panic {val : String} {mode : FlagFormat} (hb64 : mode.b64 = true)
    (henvB64 : mode.envB64 = true) :
    (∃ p, flagFormatParser machine val mode = .error (.panic p)) ↔
      (reference val).DecodesEmpty machine := by
  rw [flagFormatParser_eq]
  cases reference val with
  | env name =>
    simp only [Reference.DecodesEmpty, iff_false, not_exists]
    by_cases henv : mode.env = true
    · simp [henv, fromEnv_ne_panic]
    · simp [henv]
  | envB64 name =>
    simp only [henvB64, if_true, Reference.DecodesEmpty]
    unfold fromEnv
    by_cases hname : machine.getenv name = []
    · simp [hname]
    · simp [hname, decode64_eq_panic]
  | b64 data =>
    simp only [hb64, if_true, Reference.DecodesEmpty]
    exact decode64_eq_panic
  | file path =>
    simp only [Reference.DecodesEmpty, iff_false, not_exists]
    by_cases hfile : mode.file = true
    · simp [hfile, readFromFile_ne_panic]
    · simp [hfile]
  | plain text => simp [Reference.DecodesEmpty]

theorem passwordFlag_eq_panic {val : String} :
    (∃ p, PasswordFlag.set machine val = .error (.panic p)) ↔
      (reference val).DecodesEmpty machine := by
  have hparse : (∃ p, flagFormatParser machine val
      { b64 := true, envB64 := true, file := true, env := true } = .error (.panic p)) ↔ _ :=
    flagFormatParser_eq_panic rfl rfl
  rw [← hparse]
  unfold PasswordFlag.set
  cases flagFormatParser machine val _ with
  | error failure => simp
  | ok result => simp

theorem certFlag_eq_panic {val : String} :
    (∃ p, CertFlag.set machine val = .error (.panic p)) ↔
      (reference val).DecodesEmpty machine := by
  have hparse : (∃ p, flagFormatParser machine val
      { b64 := true, envB64 := true, file := true } = .error (.panic p)) ↔ _ :=
    flagFormatParser_eq_panic rfl rfl
  rw [← hparse]
  unfold CertFlag.set
  cases flagFormatParser machine val _ with
  | error failure => simp
  | ok result =>
    simp only [Fallible.ok_bind]
    split_ifs
    · simp [readFromFile_ne_panic]
    · simp

theorem authModeFlag_ne_panic {val : String} {p : Panic} :
    AuthModeFlag.set val ≠ .error (.panic p) := by
  unfold AuthModeFlag.set
  split <;> simp

/-- The text of a setting panics iff it decodes to nothing. -/
theorem TextUse.failure_eq_panic {use : TextUse} {s : String} :
    (∃ p, use.failure machine parsers s = some (.panic p)) ↔
      (use = .password ∨ use = .cert) ∧ (reference s).DecodesEmpty machine := by
  cases use with
  | plain => simp [TextUse.failure]
  | seeds => simp [TextUse.failure]
  | password => simp [TextUse.failure, Fallible.failure_eq_some, passwordFlag_eq_panic]
  | auth => simp [TextUse.failure, Fallible.failure_eq_some, authModeFlag_ne_panic]
  | protocols => simp [TextUse.failure]
  | cert => simp [TextUse.failure, Fallible.failure_eq_some, certFlag_eq_panic]
  | certPath =>
    simp [TextUse.failure, Fallible.failure_eq_some, CertPathFlag.set, readFromPath_ne_panic]
  | duration => simp [TextUse.failure, Fallible.failure_mapError]

/-! ## Values -/

/-- Text that is taken out of a value, and then made into something. -/
theorem failure_asString_bind {α : Type} {v : TomlValue} {f : String → Except Failure α} :
    Fallible.failure (asString v >>= f) =
      (Fallible.failure (asString v)).or
        ((asString v).toOption.bind fun s => Fallible.failure (f s)) := by
  cases v <;> rfl

theorem failure_asString (v : TomlValue) :
    Fallible.failure (asString v) = (Kind.text .plain).failure machine parsers v := by
  cases v <;> rfl

theorem failure_setSeeds (v : TomlValue) :
    Fallible.failure (setSeeds v) = (Kind.text .seeds).failure machine parsers v := by
  rw [setSeeds, failure_asString_bind, Kind.failure]
  congr 2
  funext s
  rw [TextUse.failure]
  obtain ⟨slice, err⟩ := HostTLSPortSliceFlag.new.set s
  cases err with
  | none => rfl
  | some err => rfl

theorem failure_setProtocols (v : TomlValue) :
    Fallible.failure (setProtocols v) = (Kind.text .protocols).failure machine parsers v := by
  rw [setProtocols, failure_asString_bind, Kind.failure]
  congr 2
  funext s
  rw [TextUse.failure]
  obtain ⟨flag, err⟩ := TLSProtocolsFlag.zero.set s
  cases err with
  | none => rfl
  | some err => rfl

theorem failure_asInts {a : List TomlValue} (h : ∀ e ∈ a, ∃ i, e = .integer i) :
    Fallible.failure (a.mapM asInt) = none := by
  rw [Fallible.failure_mapM, List.findSome?_eq_none_iff]
  intro e he
  obtain ⟨i, rfl⟩ := h e he
  rfl

theorem failure_asInts_of_not {a : List TomlValue} (h : ¬ ∀ e ∈ a, ∃ i, e = .integer i) :
    Fallible.failure (a.mapM asInt) = some (.panic .typeAssertion) := by
  rw [Fallible.failure_mapM]
  cases hfind : a.findSome? fun e => Fallible.failure (asInt e) with
  | none =>
    rw [List.findSome?_eq_none_iff] at hfind
    refine absurd ?_ h
    intro e he
    have hnone := hfind e he
    cases e with
    | integer i => exact ⟨i, rfl⟩
    | _ => cases hnone
  | some failure =>
    obtain ⟨e, -, he⟩ := List.exists_of_findSome?_eq_some hfind
    cases e with
    | integer i => cases he
    | _ =>
      cases he
      rfl

/-- A value of the wrong type panics. -/
theorem Kind.failure_of_not_hasType {kind : Kind} {v : TomlValue} (h : ¬ kind.HasType v) :
    kind.failure machine parsers v = some (.panic .typeAssertion) := by
  cases kind with
  | text use =>
    cases v with
    | string s => exact absurd ⟨s, rfl⟩ h
    | _ => rfl
  | flag =>
    cases v with
    | bool b => exact absurd ⟨b, rfl⟩ h
    | _ => rfl
  | number =>
    cases v with
    | integer i => exact absurd ⟨i, rfl⟩ h
    | _ => rfl
  | numbers =>
    cases v with
    | array a =>
      refine failure_asInts_of_not ?_
      intro hall
      exact h ⟨a, rfl, hall⟩
    | _ => rfl

/-- A value of the right type is refused only for its text. -/
theorem Kind.failure_of_hasType (machine : Machine) (parsers : Parsers) {kind : Kind}
    {v : TomlValue} (h : kind.HasType v) :
    (∃ use s, kind = .text use ∧ v = .string s ∧
        kind.failure machine parsers v = use.failure machine parsers s) ∨
      ((∀ use, kind ≠ .text use) ∧ kind.failure machine parsers v = none) := by
  cases kind with
  | text use =>
    obtain ⟨s, rfl⟩ := h
    exact .inl ⟨use, s, rfl, rfl, rfl⟩
  | flag =>
    obtain ⟨b, rfl⟩ := h
    exact .inr ⟨by simp, rfl⟩
  | number =>
    obtain ⟨i, rfl⟩ := h
    exact .inr ⟨by simp, rfl⟩
  | numbers =>
    obtain ⟨a, rfl, ha⟩ := h
    exact .inr ⟨by simp, failure_asInts ha⟩

/-- A setting panics iff its value breaks it. -/
theorem Kind.failure_eq_panic (parsers : Parsers) {kind : Kind} {v : TomlValue} :
    (∃ p, kind.failure machine parsers v = some (.panic p)) ↔ kind.Breaks machine v := by
  by_cases htype : kind.HasType v
  · rw [Kind.Breaks, or_iff_right (not_not.2 htype), Kind.DecodesEmpty]
    obtain ⟨use, s, rfl, rfl, hfailure⟩ | ⟨hkind, hfailure⟩ :=
      Kind.failure_of_hasType machine parsers htype
    · rw [hfailure, TextUse.failure_eq_panic]
      simp
    · simp [hfailure, hkind]
  · rw [Kind.failure_of_not_hasType htype]
    exact iff_of_true ⟨_, rfl⟩ (.inl htype)

/-- A setting returns an error iff its value is refused. -/
theorem Kind.failure_eq_error {kind : Kind} {v : TomlValue} :
    (∃ err, kind.failure machine parsers v = some (.error err)) ↔
      kind.Refuses machine parsers v := by
  unfold Kind.Refuses
  by_cases htype : kind.HasType v
  · obtain ⟨use, s, rfl, rfl, hfailure⟩ | ⟨hkind, hfailure⟩ :=
      Kind.failure_of_hasType machine parsers htype
    · rw [hfailure]
      simp
    · simp [hfailure, hkind]
  · rw [Kind.failure_of_not_hasType htype]
    refine iff_of_false (by simp) ?_
    rintro ⟨use, s, err, rfl, rfl, -⟩
    exact htype ⟨s, rfl⟩

/-! ## Sections -/

theorem failure_setting_bind {α β : Type} {valMap : Section} {key : String} {kind : Kind}
    {value : α} {set : TomlValue → Except Failure α} {f : α → Except Failure β}
    {rest : List (String × Kind)}
    (hset : ∀ v, Fallible.failure (set v) = kind.failure machine parsers v)
    (h : ∀ a, Fallible.failure (f a) = rest.findSome? fun (key, kind) =>
      (valMap.lookup key).bind (kind.failure machine parsers)) :
    Fallible.failure (setting valMap key value set >>= f) =
      ((key, kind) :: rest).findSome? fun (key, kind) =>
        (valMap.lookup key).bind (kind.failure machine parsers) := by
  rw [Fallible.failure_bind h, List.findSome?_cons, setting]
  dsimp only
  cases hlookup : valMap.lookup key with
  | none => simp
  | some v =>
    simp only [Option.bind_some, hset]
    cases kind.failure machine parsers v with
    | none => rfl
    | some failure => rfl

/-- The failure of a section is that of its first setting that fails. -/
theorem failure_readFlags (valMap : Section) :
    Fallible.failure (readFlags machine parsers valMap) =
      settings.findSome? fun (key, kind) =>
        (valMap.lookup key).bind (kind.failure machine parsers) := by
  unfold readFlags settings
  refine failure_setting_bind failure_asString fun _ => ?_
  refine failure_setting_bind failure_setSeeds fun _ => ?_
  refine failure_setting_bind (fun _ => rfl) fun _ => ?_
  refine failure_setting_bind failure_asString fun _ => ?_
  refine failure_setting_bind (fun _ => failure_asString_bind) fun _ => ?_
  refine failure_setting_bind (fun _ => failure_asString_bind) fun _ => ?_
  refine failure_setting_bind (fun _ => rfl) fun _ => ?_
  refine failure_setting_bind failure_asString fun _ => ?_
  refine failure_setting_bind failure_setProtocols fun _ => ?_
  refine failure_setting_bind (fun _ => failure_asString_bind) fun _ => ?_
  refine failure_setting_bind (fun _ => failure_asString_bind) fun _ => ?_
  refine failure_setting_bind (fun _ => failure_asString_bind) fun _ => ?_
  refine failure_setting_bind (fun _ => failure_asString_bind) fun _ => ?_
  refine failure_setting_bind (fun _ => failure_asString_bind) fun _ => ?_
  refine failure_setting_bind failure_asString fun _ => ?_
  refine failure_setting_bind (fun _ => failure_asString_bind) fun _ => ?_
  refine failure_setting_bind (fun _ => failure_asString_bind) fun _ => ?_
  refine failure_setting_bind (fun _ => failure_asString_bind) fun _ => ?_
  refine failure_setting_bind (fun _ => rfl) fun _ => ?_
  refine failure_setting_bind (fun _ => rfl) fun _ => ?_
  refine failure_setting_bind (fun _ => rfl) fun _ => ?_
  refine failure_setting_bind (fun _ => rfl) fun _ => ?_
  refine failure_setting_bind (fun _ => rfl) fun _ => ?_
  refine failure_setting_bind (fun _ => rfl) fun _ => ?_
  refine failure_setting_bind (fun _ => rfl) fun _ => ?_
  refine failure_setting_bind (fun _ => failure_asString_bind) fun _ => ?_
  refine failure_setting_bind (fun _ => rfl) fun _ => ?_
  refine failure_setting_bind (fun _ => rfl) fun _ => ?_
  refine failure_setting_bind (fun _ => rfl) fun _ => ?_
  refine failure_setting_bind (fun _ => rfl) fun _ => ?_
  refine failure_setting_bind (fun _ => rfl) fun _ => ?_
  rfl

theorem failure_readSection (valMap : Section) :
    Fallible.failure (readSection machine parsers valMap) =
      (Section.given valMap).findSome? fun (kind, v) => kind.failure machine parsers v := by
  rw [readSection, Fallible.failure_bind_pure, failure_readFlags, Section.given,
    ← List.head?_filterMap, ← List.head?_filterMap, List.filterMap_filterMap]
  congr 2
  funext setting
  dsimp only
  cases valMap.lookup setting.1 with
  | none => rfl
  | some v => rfl

/-- The failure of a document is that of the first of its settings that fails. -/
theorem failure_read {configFile : String} {doc : List UInt8} {cfg : List (String × Section)}
    (hdoc : machine.readFile configFile = .ok doc) (hcfg : parsers.unmarshal doc = .ok cfg) :
    Fallible.failure (read machine parsers configFile) =
      (given cfg).findSome? fun (kind, v) => kind.failure machine parsers v := by
  have hread : read machine parsers configFile = cfg.mapM fun (name, valMap) => do
      return (name, ← readSection machine parsers valMap) := by
    simp only [read, hdoc, Except.mapError, Fallible.ok_bind, hcfg]
  rw [hread, Fallible.failure_mapM, given, ← List.head?_filterMap (l := cfg.flatMap _),
    List.filterMap_flatMap, List.head?_flatMap]
  congr 1
  funext ⟨name, valMap⟩
  rw [Fallible.failure_bind_pure, failure_readSection, List.head?_filterMap]

/-- Among settings, the first one that fails panics iff one that breaks does not come after one
    that is refused. -/
theorem findSome?_eq_panic {values : List (Kind × TomlValue)} :
    (∃ p, (values.findSome? fun (kind, v) => kind.failure machine parsers v) = some (.panic p)) ↔
      ¬ RefusedFirst machine parsers values := by
  constructor
  · rintro ⟨p, hp⟩ hfirst
    obtain ⟨earlier, ⟨kind, v⟩, later, hvalues, hfailure, hnone⟩ :=
      List.findSome?_eq_some_iff.1 hp
    have hbreaks := (Kind.failure_eq_panic parsers).1 ⟨p, hfailure⟩
    obtain ⟨r, hr, hrefuses⟩ := hfirst earlier kind v later hvalues hbreaks
    obtain ⟨err, herr⟩ := Kind.failure_eq_error.2 hrefuses
    cases herr.symm.trans (hnone r hr)
  · intro h
    unfold RefusedFirst at h
    push Not at h
    obtain ⟨earlier, kind, v, later, rfl, hbreaks, hnot⟩ := h
    obtain ⟨p, hp⟩ := (Kind.failure_eq_panic parsers).2 hbreaks
    rw [List.findSome?_append]
    cases hearlier : earlier.findSome? fun (kind, v) => kind.failure machine parsers v with
    | none => exact ⟨p, by simp [hp]⟩
    | some failure =>
      cases failure with
      | panic p' => exact ⟨p', rfl⟩
      | error err =>
        obtain ⟨r, hr, herr⟩ := List.exists_of_findSome?_eq_some hearlier
        exact absurd (Kind.failure_eq_error.1 ⟨err, herr⟩) (hnot r hr)

/-- **Main theorem.** A document is read without a panic iff every setting that breaks comes
    after one that is refused with an error. -/
theorem read_never_panics_iff (machine : Machine) (parsers : Parsers) (configFile : String) :
    (∀ p, read machine parsers configFile ≠ .error (.panic p)) ↔
      ∀ doc cfg, machine.readFile configFile = .ok doc → parsers.unmarshal doc = .ok cfg →
        RefusedFirst machine parsers (given cfg) := by
  have hiff {doc : List UInt8} {cfg : List (String × Section)}
      (hdoc : machine.readFile configFile = .ok doc) (hcfg : parsers.unmarshal doc = .ok cfg) :
      (∀ p, read machine parsers configFile ≠ .error (.panic p)) ↔
        RefusedFirst machine parsers (given cfg) := by
    rw [← not_not (a := RefusedFirst machine parsers (given cfg)), ← findSome?_eq_panic,
      ← failure_read hdoc hcfg, not_exists]
    simp only [Fallible.failure_eq_some, ne_eq]
  constructor
  · intro h doc cfg hdoc hcfg
    exact (hiff hdoc hcfg).1 h
  · intro h p hp
    cases hdoc : machine.readFile configFile with
    | error err => simp [read, hdoc, Except.mapError] at hp
    | ok doc =>
      cases hcfg : parsers.unmarshal doc with
      | error err => simp [read, hdoc, hcfg, Except.mapError] at hp
      | ok cfg => exact (hiff hdoc hcfg).2 (h doc cfg hdoc hcfg) p hp

/-- A machine with one file, in which the port of a cluster is a text. -/
def textPortMachine : Machine :=
  { bareMachine with readFile := fun _ => .ok (utf8 "[cluster]\nport = \"3000\"\n") }

/-- What that file is decoded to. -/
def textPortParsers : Parsers :=
  { bareParsers with unmarshal := fun _ => .ok [("cluster", [("port", .string "3000")])] }

/-- The text is asserted to be an integer. -/
theorem text_port_panics :
    read textPortMachine textPortParsers "asld.toml" = .error (.panic .typeAssertion) ∧
      ¬ ∀ machine parsers configFile p, read machine parsers configFile ≠ .error (.panic p) := by
  have hread : read textPortMachine textPortParsers "asld.toml" =
      .error (.panic .typeAssertion) := rfl
  exact ⟨hread, fun h => h _ _ _ _ hread⟩

end AerospikePhp.Config
