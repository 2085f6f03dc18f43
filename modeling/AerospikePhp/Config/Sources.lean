import AerospikePhp.Key.Basic

/-!
# Where a setting comes from

A password or a certificate in the configuration of the connection manager is given
as it is, or by a variable of the environment, as base64 data, or by a file
(`common/flags`: `parse.go`, `utils.go`, `password.go`, `cert.go`).

A Go string that may hold any bytes is the list of them. A string of the
configuration itself is valid UTF-8.
-/

namespace AerospikePhp.Config

/-- How reading the configuration fails. -/
inductive Failure where
  | error (text : String)
  | panic (panic : Panic)
deriving DecidableEq

/-- What the manager asks of the machine it runs on: `os.Getenv`, `filepath.Abs`,
    `filepath.Join`, `os.ReadFile`, and the names that `ioutil.ReadDir` lists. An
    error is its text. -/
structure Machine where
  getenv : String → List UInt8
  abs : String → String
  join : String → String → String
  readFile : String → Except String (List UInt8)
  readDir : String → Except String (List String)

/-! ## Base64 -/

namespace Base64

/-- The number of a character of the standard alphabet. -/
def digit (c : UInt8) : Option UInt8 :=
  if 65 ≤ c ∧ c ≤ 90 then some (c - 65)
  else if 97 ≤ c ∧ c ≤ 122 then some (c - 71)
  else if 48 ≤ c ∧ c ≤ 57 then some (c + 4)
  else if c = 43 then some 62
  else if c = 47 then some 63
  else none

/-- The character `=`. -/
def padding : UInt8 := 61

/-- The quanta of four characters; only the last one may be padded. -/
def decodeQuanta : List UInt8 → Option (List UInt8)
  | [] => some []
  | a :: b :: c :: d :: s => do
    let a ← digit a
    let b ← digit b
    if c = padding ∧ d = padding ∧ s = [] then return [a <<< 2 ||| b >>> 4]
    let c ← digit c
    if d = padding ∧ s = [] then return [a <<< 2 ||| b >>> 4, b <<< 4 ||| c >>> 2]
    let d ← digit d
    let rest ← decodeQuanta s
    return (a <<< 2 ||| b >>> 4) :: (b <<< 4 ||| c >>> 2) :: (c <<< 6 ||| d) :: rest
  | _ => none

/-- `base64.StdEncoding.DecodeString`: line breaks are skipped. -/
def decodeString (s : List UInt8) : Option (List UInt8) :=
  decodeQuanta (s.filter fun c => c ≠ 10 && c ≠ 13)

end Base64

/-! ## `utils.go` -/

/-- `bytes.TrimSuffix(data, []byte("\n"))`. -/
def trimNewLine (data : List UInt8) : List UInt8 :=
  if data.getLast? = some 10 then data.dropLast else data

/-- `decode64` (lines 47–60). The last byte is asked for before it is known that there
    is one. The position in the text of the error is left out. -/
def decode64 (b64Val : List UInt8) : Except Failure (List UInt8) :=
  match Base64.decodeString b64Val with
  | none => .error (.error "illegal base64 data")
  | some byteVal =>
    match byteVal.getLast? with
    | none => .error (.panic .indexOutOfRange)
    | some b => .ok (if b = 10 then byteVal.dropLast else byteVal)

section Files

variable (machine : Machine)

/-- `readFromFile` (lines 63–76), which every caller asks to remove a trailing newline. -/
def readFromFile (filePath : String) : Except Failure (List UInt8) :=
  let filePath := machine.abs filePath
  match machine.readFile filePath with
  | .ok data => .ok (trimNewLine data)
  | .error err => .error (.error s!"failed to read from file `{filePath}`: `{err}`")

/-- The text of an error of `readFromFile`, wrapped once more. -/
def wrapReadError (name : String) : Failure → Failure
  | .error err => .error s!"failed to read from file `{name}`: `{err}`"
  | .panic p => .panic p

/-- `readFromPath` (lines 79–100): the content of every file in a directory. -/
def readFromPath (filePath : String) : Except Failure (List (List UInt8)) :=
  let filePath := machine.abs filePath
  match machine.readDir filePath with
  | .error err => .error (.error s!"failed to read from file `{filePath}`: `{err}`")
  | .ok names => names.mapM fun name =>
    (readFromFile machine (machine.join filePath name)).mapError (wrapReadError name)

end Files

/-! ## `parse.go` -/

/-- `flagFormat` (lines 9–16): the prefixes that a setting may have. -/
structure FlagFormat where
  env : Bool := false
  envB64 : Bool := false
  b64 : Bool := false
  file : Bool := false

/-- `strings.SplitN(val, ":", 2)`, when there are two parts. -/
def splitColon (val : String) : Option (String × String) :=
  match val.toList.span (· ≠ ':') with
  | (_, []) => none
  | (sourceType, _ :: name) => some (String.ofList sourceType, String.ofList name)

section Parse

variable (machine : Machine)

/-- `fromEnv` (lines 22–29): an empty variable counts as none. -/
def fromEnv (v : String) : Except Failure (List UInt8) :=
  if machine.getenv v = [] then .error (.error "environment variable not found")
  else .ok (machine.getenv v)

/-- `flagFormatParser` (lines 44–87): empty when there is no known prefix. -/
def flagFormatParser (val : String) (mode : FlagFormat) : Except Failure (List UInt8) :=
  match splitColon val with
  | none => .ok []
  | some ("env", name) =>
    if mode.env then fromEnv machine name
    else .error (.error "\"env:\" prefix not supported")
  | some ("env-b64", name) =>
    if mode.envB64 then do decode64 (← fromEnv machine name)
    else .error (.error "\"env-b64:\" prefix not supported")
  | some ("b64", name) =>
    if mode.b64 then decode64 (utf8 name)
    else .error (.error "\"b64:\" prefix not supported")
  | some ("file", name) =>
    if mode.file then readFromFile machine name
    else .error (.error "\"file:\" prefix not supported")
  | some _ => .ok []

/-! ## Passwords and certificates -/

/-- `PasswordFlag.Set` (`password.go` lines 10–24). -/
def PasswordFlag.set (val : String) : Except Failure (List UInt8) := do
  let result ← flagFormatParser machine val
    { b64 := true, envB64 := true, file := true, env := true }
  return if result = [] then utf8 val else result

/-- `CertFlag.Set` (`cert.go` lines 16–36): what has no known prefix is a file name. -/
def CertFlag.set (val : String) : Except Failure (List UInt8) := do
  let result ← flagFormatParser machine val { b64 := true, envB64 := true, file := true }
  if result = [] then readFromFile machine val else return result

/-- `CertPathFlag.Set` (lines 52–62). -/
def CertPathFlag.set (val : String) : Except Failure (List (List UInt8)) :=
  readFromPath machine val

end Parse

end AerospikePhp.Config
