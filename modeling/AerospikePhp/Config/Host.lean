import Mathlib.Algebra.Order.Ring.Nat

/-!
# Hosts

`parseHostTLSPort` and `HostTLSPortSliceFlag` (`common/flags/host.go`): the seeds of
a cluster, each written as `host[:tls-name][:port]`.

The regular expressions of Go match like Perl's. A pattern is a function that takes the
rest of the text and what comes after the pattern.
-/

namespace AerospikePhp.Config

/-- `DefaultPort` and `DefaultIPv4` (lines 12–15). -/
def defaultPort : Int64 := 3000

def defaultIPv4 : String := "127.0.0.1"

/-- `HostTLSPort` (`common/client/host.go` lines 8–12). -/
structure HostTLSPort where
  host : String
  tlsName : String
  port : Int64
deriving DecidableEq

/-- `NewDefaultHostTLSPort` (lines 21–27). -/
def HostTLSPort.default : HostTLSPort := ⟨defaultIPv4, "", defaultPort⟩

/-- `HostTLSPort.String` (lines 29–41). -/
def HostTLSPort.string (addr : HostTLSPort) : String :=
  let str := addr.host
  let str := if addr.tlsName ≠ "" then str ++ ":" ++ addr.tlsName else str
  if addr.port ≠ 0 then str ++ ":" ++ toString addr.port.toInt else str

/-! ## Patterns -/

namespace Pattern

variable {β : Type}

/-- `(p*)k`: as many characters as possible, but so many that the rest matches. -/
def many (p : Char → Bool) (k : List Char → Option β) : List Char → Option (List Char × β)
  | [] => (k []).map fun b => ([], b)
  | c :: s =>
    match if p c then many p k s else none with
    | some (m, b) => some (c :: m, b)
    | none => (k (c :: s)).map fun b => ([], b)

/-- `ck`. -/
def char (c : Char) (k : List Char → Option β) : List Char → Option β
  | [] => none
  | c' :: s => if c' = c then k s else none

/-- `$`. -/
def done : List Char → Option Unit
  | [] => some ()
  | _ => none

/-- `.` -/
def dot (c : Char) : Bool := c ≠ '\n'

/-- `[^:]`. -/
def noColon (c : Char) : Bool := c ≠ ':'

/-- `(?P<port>\d+)$`. -/
def port (s : List Char) : Option (List Char) :=
  if s ≠ [] ∧ s.all Char.isDigit then some s else none

/-- `:(?P<tlsName>.*):(?P<port>\d+)$`. -/
def namePort : List Char → Option (List Char × List Char) :=
  char ':' (many dot (char ':' port))

/-- `^\[(?P<host>.*)\]`, and what follows it. -/
def ipv6 (k : List Char → Option β) : List Char → Option (List Char × β) :=
  char '[' (many dot (char ']' k))

/-- `^(?P<host>[^:]*)`, and what follows it. -/
def ipv4 (k : List Char → Option β) : List Char → Option (List Char × β) := many noColon k

end Pattern

/-! ## One host -/

/-- The groups of a match; a group that the pattern does not have is empty. -/
structure HostMatch where
  host : List Char
  tlsName : List Char := []
  port : Option (List Char) := none

/-- The first pattern that matches (lines 35–56). -/
def matchHost (v : List Char) : Option HostMatch :=
  ((Pattern.ipv6 Pattern.namePort v).map fun m =>
    { host := m.1, tlsName := m.2.1, port := some m.2.2 }) <|>
  ((Pattern.ipv6 (Pattern.char ':' Pattern.port) v).map fun m =>
    { host := m.1, port := some m.2 }) <|>
  ((Pattern.ipv6 Pattern.done v).map fun m => { host := m.1 }) <|>
  ((Pattern.ipv4 Pattern.namePort v).map fun m =>
    { host := m.1, tlsName := m.2.1, port := some m.2.2 }) <|>
  ((Pattern.ipv4 (Pattern.char ':' Pattern.port) v).map fun m =>
    { host := m.1, port := some m.2 }) <|>
  ((Pattern.ipv4 Pattern.done v).map fun m => { host := m.1 })

/-- The number that digits are in a base, or what is wrong with the first digit that
    cannot be read. -/
def digitsValue (base : ℕ) (digits : List Char) : Except String ℕ :=
  digits.foldlM (fun n c =>
    let d := c.toNat - '0'.toNat
    if base ≤ d then .error "invalid syntax"
    else if 2 ^ 64 ≤ base * n + d then .error "value out of range"
    else .ok (base * n + d)) 0

/-- `strconv.ParseInt(match, 0, 0)` on digits: those after a leading zero are octal. -/
def parseInt (digits : List Char) : Except String Int64 :=
  let value := match digits with
    | '0' :: octal => digitsValue 8 octal
    | decimal => digitsValue 10 decimal
  let fail (err : String) : Except String Int64 :=
    .error ("strconv.ParseInt: parsing \"" ++ String.ofList digits ++ "\": " ++ err)
  match value with
  | .error err => fail err
  | .ok n => if n < 2 ^ 63 then .ok (Int64.ofNat n) else fail "value out of range"

/-- `parseHostTLSPort` (lines 34–95). -/
def parseHostTLSPort (v : String) : Except String HostTLSPort :=
  match matchHost v.toList with
  | none => .error "does not match any expected formats"
  | some ⟨host, tlsName, none⟩ => .ok ⟨String.ofList host, String.ofList tlsName, 0⟩
  | some ⟨host, tlsName, some port⟩ =>
    match parseInt port with
    | .ok port => .ok ⟨String.ofList host, String.ofList tlsName, port⟩
    | .error err => .error ("failed to parse port : " ++ err)

/-! ## Lists of hosts -/

/-- `HostTLSPortSliceFlag` (lines 20–23). -/
structure HostTLSPortSliceFlag where
  useDefault : Bool
  seeds : List HostTLSPort

namespace HostTLSPortSliceFlag

/-- `NewHostTLSPortSliceFlag` (lines 25–32). -/
def new : HostTLSPortSliceFlag := ⟨true, [.default]⟩

/-- `Append` for each string in turn: the flag as the call leaves it, and the error. -/
def appendAll (slice : HostTLSPortSliceFlag) : List String → HostTLSPortSliceFlag × Option String
  | [] => (slice, none)
  | val :: vals =>
    match parseHostTLSPort val with
    | .error err => (slice, some err)
    | .ok host => appendAll { slice with seeds := slice.seeds ++ [host] } vals

/-- `Replace` (lines 111–121). -/
def replace (slice : HostTLSPortSliceFlag) (vals : List String) :
    HostTLSPortSliceFlag × Option String :=
  { slice with seeds := [] }.appendAll vals

/-- `GetSlice` (lines 124–132). -/
def getSlice (slice : HostTLSPortSliceFlag) : List String := slice.seeds.map HostTLSPort.string

/-- `strings.Split(commaSepVal, ",")`. -/
def splitComma (commaSepVal : String) : List String :=
  (commaSepVal.toList.splitOnP (· = ',')).map String.ofList

/-- `HostTLSPortSliceFlag.Set` (lines 134–149). -/
def set (slice : HostTLSPortSliceFlag) (commaSepVal : String) :
    HostTLSPortSliceFlag × Option String :=
  if slice.useDefault then
    { slice with useDefault := false }.replace (splitComma commaSepVal)
  else slice.appendAll (splitComma commaSepVal)

end HostTLSPortSliceFlag

end AerospikePhp.Config
