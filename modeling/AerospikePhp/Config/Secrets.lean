import AerospikePhp.Config.Sources
import AerospikePhp.Key.HashInput
import AerospikePhp.Lib.Fallible
import AerospikePhp.Lib.Split
import Mathlib.Data.List.TakeWhile

/-!
# Secrets and what refers to them

A password is given as it is, or by a reference to a variable of the environment, to base64
data, or to a file (`common/flags/password.go`, `parse.go` lines 44–87). `flagFormatParser`
returns an empty text for a string that is not a reference, and `fromEnv` takes a variable
that is set to an empty text for one that is not set.

Main results:
* `flagFormatParser_eq`: what is read of a string is what its reference stands for.
* `resolves_iff`: the strings that become the secret that they refer to, or an error.
-/

namespace AerospikePhp.Config

/-! ## References -/

/-- What a string of the configuration refers to. -/
inductive Reference where
  | env (name : String)
  | envB64 (name : String)
  | b64 (data : String)
  | file (path : String)
  | plain (text : String)
deriving DecidableEq

/-- The string that a reference is written as. -/
def Reference.text : Reference → String
  | .env name => "env" ++ ":" ++ name
  | .envB64 name => "env-b64" ++ ":" ++ name
  | .b64 data => "b64" ++ ":" ++ data
  | .file path => "file" ++ ":" ++ path
  | .plain text => text

/-- A string without one of the four prefixes stands for itself. -/
def reference (val : String) : Reference :=
  match splitColon val with
  | some ("env", name) => .env name
  | some ("env-b64", name) => .envB64 name
  | some ("b64", data) => .b64 data
  | some ("file", path) => .file path
  | _ => .plain val

theorem splitColon_eq_some {val sourceType name : String} :
    splitColon val = some (sourceType, name) ↔
      val = sourceType ++ ":" ++ name ∧ ':' ∉ sourceType.toList := by
  have hcolon : ":".toList = [':'] := by decide
  rw [← String.toList_inj, String.toList_append, String.toList_append, hcolon,
    List.append_assoc, List.singleton_append]
  unfold splitColon
  rw [List.span_eq_takeWhile_dropWhile]
  constructor
  · intro h
    cases hdrop : val.toList.dropWhile (· ≠ ':') with
    | nil =>
      rw [hdrop] at h
      cases h
    | cons c rest =>
      rw [hdrop] at h
      simp only [Option.some.injEq, Prod.mk.injEq] at h
      obtain ⟨rfl, rfl⟩ := h
      obtain ⟨hc, hsplit⟩ := Split.of_dropWhile_eq_cons hdrop
      obtain rfl : c = ':' := by simpa using hc
      refine ⟨by simpa using hsplit, ?_⟩
      rw [String.toList_ofList]
      intro hmem
      simpa using List.mem_takeWhile_imp hmem
  · rintro ⟨hval, hmem⟩
    have hrun : ∀ c ∈ sourceType.toList, decide (c ≠ ':') = true := by
      intro c hc
      rw [decide_eq_true_eq]
      rintro rfl
      exact hmem hc
    rw [hval, Split.takeWhile_append_cons hrun (by simp),
      Split.dropWhile_append_cons hrun (by simp)]
    simp

/-- A string is written as what it refers to. -/
theorem text_reference (val : String) : (reference val).text = val := by
  unfold reference
  cases hsplit : splitColon val with
  | none => rfl
  | some parts =>
    obtain ⟨sourceType, name⟩ := parts
    have hval := (splitColon_eq_some.1 hsplit).1
    split <;> simp_all [Reference.text]

/-- A string with one of the prefixes is a reference. -/
theorem reference_text {r : Reference} (h : ∀ text, r ≠ .plain text) : reference r.text = r := by
  have hsplit {sourceType name : String} (hmem : ':' ∉ sourceType.toList) :
      splitColon (sourceType ++ ":" ++ name) = some (sourceType, name) :=
    splitColon_eq_some.2 ⟨rfl, hmem⟩
  cases r with
  | env name =>
    rw [Reference.text, reference, hsplit (by decide)]
    rfl
  | envB64 name =>
    rw [Reference.text, reference, hsplit (by decide)]
    rfl
  | b64 data =>
    rw [Reference.text, reference, hsplit (by decide)]
    rfl
  | file path =>
    rw [Reference.text, reference, hsplit (by decide)]
    rfl
  | plain text => exact absurd rfl (h text)

/-- A reference has a prefix, so it is not empty. -/
theorem ne_empty_of_reference {val : String} (h : ∀ text, reference val ≠ .plain text) :
    val ≠ "" := by
  rw [← text_reference val]
  cases href : reference val with
  | plain text => exact absurd href (h text)
  | _ => simp [Reference.text]

section Parse

variable (machine : Machine)

/-- What `flagFormatParser` reads of a string is what its reference stands for. -/
theorem flagFormatParser_eq (val : String) (mode : FlagFormat) :
    flagFormatParser machine val mode =
      match reference val with
      | .env name =>
        if mode.env then fromEnv machine name
        else .error (.error "\"env:\" prefix not supported")
      | .envB64 name =>
        if mode.envB64 then fromEnv machine name >>= decode64
        else .error (.error "\"env-b64:\" prefix not supported")
      | .b64 data =>
        if mode.b64 then decode64 (utf8 data)
        else .error (.error "\"b64:\" prefix not supported")
      | .file path =>
        if mode.file then readFromFile machine path
        else .error (.error "\"file:\" prefix not supported")
      | .plain _ => .ok [] := by
  unfold flagFormatParser reference
  cases splitColon val with
  | none => rfl
  | some parts =>
    split <;> simp_all

end Parse

/-! ## Data without content -/

/-- Nothing is left of some data when a trailing newline is removed. -/
def Blank (data : List UInt8) : Prop := data = [] ∨ data = [10]

theorem trimNewLine_eq_nil {data : List UInt8} : trimNewLine data = [] ↔ Blank data := by
  unfold trimNewLine Blank
  by_cases hlast : data.getLast? = some 10
  · obtain ⟨start, rfl⟩ := List.getLast?_eq_some_iff.1 hlast
    rw [if_pos hlast, List.dropLast_concat]
    simp
  · rw [if_neg hlast]
    constructor
    · exact .inl
    · rintro (rfl | rfl)
      · rfl
      · exact absurd rfl hlast

/-- Base64 data that stands for nothing, or for a newline. -/
def DecodesToNothing (b64Val : List UInt8) : Prop :=
  ∃ data, Base64.decodeString b64Val = some data ∧ Blank data

theorem decode64_of_none {b64Val : List UInt8} (h : Base64.decodeString b64Val = none) :
    decode64 b64Val = .error (.error "illegal base64 data") := by
  rw [decode64, h]

/-- The last byte of no data is asked for. -/
theorem decode64_of_nil {b64Val : List UInt8} (h : Base64.decodeString b64Val = some []) :
    decode64 b64Val = .error (.panic .indexOutOfRange) := by
  rw [decode64, h]
  rfl

theorem decode64_of_cons {b64Val : List UInt8} {b : UInt8} {data : List UInt8}
    (h : Base64.decodeString b64Val = some (b :: data)) :
    decode64 b64Val = .ok (trimNewLine (b :: data)) := by
  rw [decode64, h, trimNewLine]
  simp only [List.getLast?_cons, Option.some.injEq]

/-! ## Secrets -/

section Secrets

variable (machine : Machine) (env : String → Option (List UInt8))

/-- A machine with the variables that are set; `os.Getenv` has an empty text for the others. -/
def Machine.within : Machine := { machine with getenv := fun name => (env name).getD [] }

/-- The secret that a reference stands for, if it can be had. -/
def secretOf : Reference → Option (List UInt8)
  | .env name => env name
  | .envB64 name => (env name).bind fun v => (Base64.decodeString v).map trimNewLine
  | .b64 data => (Base64.decodeString (utf8 data)).map trimNewLine
  | .file path => (machine.readFile (machine.abs path)).toOption.map trimNewLine
  | .plain text => some (utf8 text)

/-- What a reference stands for is there, and is empty. -/
def RefersToNothing : Reference → Prop
  | .env name => env name = some []
  | .envB64 name => ∃ v, env name = some v ∧ DecodesToNothing v
  | .b64 data => DecodesToNothing (utf8 data)
  | .file path => ∃ data, machine.readFile (machine.abs path) = .ok data ∧ Blank data
  | .plain _ => False

/-- The flag after a call, and the failure of the call; the flag is written last
    (`password.go` line 21). -/
def PasswordFlag.call (flag : List UInt8) (val : String) : List UInt8 × Option Failure :=
  match PasswordFlag.set machine val with
  | .ok result => (result, none)
  | .error failure => (flag, some failure)

/-- A call writes the secret to the flag, or returns an error where there is none. -/
structure Resolves (flag : List UInt8) (val : String) : Prop where
  found : ∀ secret, secretOf machine env (reference val) = some secret →
    PasswordFlag.call (machine.within env) flag val = (secret, none)
  missing : secretOf machine env (reference val) = none →
    ∃ err, PasswordFlag.call (machine.within env) flag val = (flag, some (.error err))

variable {machine env} {flag secret : List UInt8} {val : String}

/-- What the parser returns, with all of its prefixes supported. -/
def parsedSecret (machine : Machine) (val : String) : Except Failure (List UInt8) :=
  flagFormatParser machine val { b64 := true, envB64 := true, file := true, env := true }

theorem call_of_error {failure : Failure} (h : parsedSecret machine val = .error failure) :
    PasswordFlag.call machine flag val = (flag, some failure) := by
  unfold PasswordFlag.call PasswordFlag.set
  rw [← parsedSecret, h]
  rfl

theorem call_of_ok (h : parsedSecret machine val = .ok secret) :
    PasswordFlag.call machine flag val = (if secret = [] then utf8 val else secret, none) := by
  unfold PasswordFlag.call PasswordFlag.set
  rw [← parsedSecret, h]
  rfl

theorem resolves_of_none {err : String} (hsecret : secretOf machine env (reference val) = none)
    (hparse : parsedSecret (machine.within env) val = .error (.error err)) :
    Resolves machine env flag val := by
  refine ⟨?_, fun _ => ⟨err, call_of_error hparse⟩⟩
  intro secret hsome
  cases hsecret.symm.trans hsome

theorem not_resolves_of_error {failure : Failure}
    (hsecret : secretOf machine env (reference val) = some secret)
    (hparse : parsedSecret (machine.within env) val = .error failure) :
    ¬ Resolves machine env flag val := by
  intro h
  have hfound := h.found secret hsecret
  rw [call_of_error hparse] at hfound
  cases hfound

theorem resolves_iff_of_ok (hsecret : secretOf machine env (reference val) = some secret)
    (hparse : parsedSecret (machine.within env) val = .ok secret) (hval : val ≠ "") :
    Resolves machine env flag val ↔ secret ≠ [] := by
  constructor
  · rintro h rfl
    have hfound := h.found [] hsecret
    rw [call_of_ok hparse, if_pos rfl, Prod.mk.injEq] at hfound
    exact hval (utf8_injective hfound.1)
  · intro hne
    refine ⟨?_, ?_⟩
    · intro secret' hsome
      cases hsecret.symm.trans hsome
      rw [call_of_ok hparse, if_neg hne]
    · intro hnone
      cases hsecret.symm.trans hnone

/-- A reference to base64 data. -/
theorem resolves_iff_of_decode64 {v : List UInt8} (hval : val ≠ "")
    (hsecret : secretOf machine env (reference val) = (Base64.decodeString v).map trimNewLine)
    (hparse : parsedSecret (machine.within env) val = decode64 v) :
    Resolves machine env flag val ↔ ¬ DecodesToNothing v := by
  unfold DecodesToNothing
  cases hdecode : Base64.decodeString v with
  | none =>
    rw [hdecode] at hsecret
    rw [decode64_of_none hdecode] at hparse
    simpa using resolves_of_none hsecret hparse
  | some data =>
    rw [hdecode] at hsecret
    simp only [Option.some.injEq, exists_eq_left']
    cases data with
    | nil =>
      rw [decode64_of_nil hdecode] at hparse
      exact iff_of_false (not_resolves_of_error hsecret hparse) (not_not.2 (.inl rfl))
    | cons b data =>
      rw [decode64_of_cons hdecode] at hparse
      rw [resolves_iff_of_ok hsecret hparse hval, Ne, trimNewLine_eq_nil]

/-! ### By the kind of reference -/

theorem parsedSecret_eq (machine : Machine) (val : String) :
    parsedSecret machine val =
      match reference val with
      | .env name => fromEnv machine name
      | .envB64 name => fromEnv machine name >>= decode64
      | .b64 data => decode64 (utf8 data)
      | .file path => readFromFile machine path
      | .plain _ => .ok [] :=
  flagFormatParser_eq _ _ _

theorem fromEnv_within (name : String) :
    fromEnv (machine.within env) name =
      if (env name).getD [] = [] then .error (.error "environment variable not found")
      else .ok ((env name).getD []) :=
  rfl

variable {name data path text : String}

theorem resolves_env (href : reference val = .env name) :
    Resolves machine env flag val ↔ env name ≠ some [] := by
  have hval : val ≠ "" := ne_empty_of_reference (by simp [href])
  have hsecret : secretOf machine env (reference val) = env name := by rw [href, secretOf]
  have hparse := parsedSecret_eq (machine.within env) val
  rw [href] at hparse
  simp only [fromEnv_within] at hparse
  cases hname : env name with
  | none =>
    rw [hname] at hsecret hparse
    simpa using resolves_of_none hsecret hparse
  | some v =>
    rw [hname] at hsecret hparse
    by_cases hv : v = []
    · subst hv
      exact iff_of_false (not_resolves_of_error hsecret hparse) (not_not.2 rfl)
    · rw [Option.getD_some, if_neg hv] at hparse
      rw [resolves_iff_of_ok hsecret hparse hval, Ne, Ne, Option.some.injEq]

theorem resolves_envB64 (href : reference val = .envB64 name) :
    Resolves machine env flag val ↔ ¬ ∃ v, env name = some v ∧ DecodesToNothing v := by
  have hval : val ≠ "" := ne_empty_of_reference (by simp [href])
  have hsecret : secretOf machine env (reference val) =
      (env name).bind fun v => (Base64.decodeString v).map trimNewLine := by
    rw [href, secretOf]
  have hparse := parsedSecret_eq (machine.within env) val
  rw [href] at hparse
  simp only [fromEnv_within] at hparse
  cases hname : env name with
  | none =>
    rw [hname] at hsecret hparse
    simpa using resolves_of_none hsecret hparse
  | some v =>
    rw [hname, Option.bind_some] at hsecret
    rw [hname, Option.getD_some] at hparse
    simp only [Option.some.injEq, exists_eq_left']
    by_cases hv : v = []
    · -- an empty variable counts as none, and decodes to nothing
      subst hv
      exact iff_of_false (not_resolves_of_error hsecret hparse) (not_not.2 ⟨[], rfl, .inl rfl⟩)
    · rw [if_neg hv] at hparse
      exact resolves_iff_of_decode64 hval hsecret hparse

theorem resolves_b64 (href : reference val = .b64 data) :
    Resolves machine env flag val ↔ ¬ DecodesToNothing (utf8 data) := by
  have hsecret : secretOf machine env (reference val) =
      (Base64.decodeString (utf8 data)).map trimNewLine := by
    rw [href, secretOf]
  have hparse := parsedSecret_eq (machine.within env) val
  rw [href] at hparse
  exact resolves_iff_of_decode64 (ne_empty_of_reference (by simp [href])) hsecret hparse

theorem resolves_file (href : reference val = .file path) :
    Resolves machine env flag val ↔
      ¬ ∃ data, machine.readFile (machine.abs path) = .ok data ∧ Blank data := by
  have hval : val ≠ "" := ne_empty_of_reference (by simp [href])
  have hsecret : secretOf machine env (reference val) =
      (machine.readFile (machine.abs path)).toOption.map trimNewLine := by
    rw [href, secretOf]
  have hparse := parsedSecret_eq (machine.within env) val
  rw [href] at hparse
  simp only [readFromFile, Machine.within] at hparse
  cases hread : machine.readFile (machine.abs path) with
  | error err =>
    rw [hread] at hsecret hparse
    simpa using resolves_of_none hsecret hparse
  | ok data =>
    rw [hread] at hsecret hparse
    rw [resolves_iff_of_ok hsecret hparse hval, Ne, trimNewLine_eq_nil]
    simp

theorem resolves_plain (href : reference val = .plain text) : Resolves machine env flag val := by
  have htext : utf8 text = utf8 val := by rw [← text_reference val, href, Reference.text]
  have hparse := parsedSecret_eq (machine.within env) val
  rw [href] at hparse
  refine ⟨?_, ?_⟩
  · intro secret hsome
    rw [href, secretOf, Option.some.injEq] at hsome
    rw [call_of_ok hparse, if_pos rfl, ← htext, hsome]
  · intro hnone
    rw [href] at hnone
    cases hnone

/-- **Main theorem.** A string becomes the secret that it stands for, or an error where there is
    none, iff it does not refer to nothing. -/
theorem resolves_iff (machine : Machine) (env : String → Option (List UInt8)) (flag : List UInt8)
    (val : String) :
    Resolves machine env flag val ↔ ¬ RefersToNothing machine env (reference val) := by
  cases href : reference val with
  | env name => exact resolves_env href
  | envB64 name => exact resolves_envB64 href
  | b64 data => exact resolves_b64 href
  | file path => exact resolves_file href
  | plain text => exact iff_of_true (resolves_plain href) not_false

end Secrets

/-- A machine with one file, which holds a newline. -/
def newlineMachine : Machine where
  getenv _ := []
  abs := id
  join dir name := dir ++ "/" ++ name
  readFile path := if path = "/secret" then .ok [10] else .error "no such file or directory"
  readDir _ := .error "no such file or directory"

/-- The name of the file becomes the password. -/
theorem reference_as_secret :
    secretOf newlineMachine (fun _ => none) (reference "file:/secret") = some [] ∧
      PasswordFlag.call (newlineMachine.within fun _ => none) [] "file:/secret" =
        (utf8 "file:/secret", none) ∧
      ¬ ∀ machine env flag val, Resolves machine env flag val := by
  have href : reference "file:/secret" = .file "/secret" := by decide +kernel
  have hsecret : secretOf newlineMachine (fun _ => none) (reference "file:/secret") = some [] := by
    rw [href]
    rfl
  have hparse : parsedSecret (newlineMachine.within fun _ => none) "file:/secret" = .ok [] := by
    rw [parsedSecret_eq, href]
    rfl
  have hcall : PasswordFlag.call (newlineMachine.within fun _ => none) [] "file:/secret" = _ :=
    call_of_ok hparse
  rw [if_pos rfl] at hcall
  refine ⟨hsecret, hcall, ?_⟩
  intro h
  have hfound := (h newlineMachine (fun _ => none) [] "file:/secret").found [] hsecret
  rw [hcall, Prod.mk.injEq] at hfound
  have hempty : utf8 "file:/secret" = utf8 "" := hfound.1
  exact absurd (utf8_injective hempty) (by decide)

end AerospikePhp.Config
