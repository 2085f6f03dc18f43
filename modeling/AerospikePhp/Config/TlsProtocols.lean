import Mathlib.Data.Nat.Notation

/-!
# TLS protocols

`TLSProtocolsFlag` (`common/flags/tlsprotocol.go`): the lowest and the highest
version of a set of TLS versions that is written as a list of tokens.
-/

namespace AerospikePhp.Config

/-- `TLSProtocol` (`common/client/tls.go`): the number of a version in `crypto/tls`. -/
abbrev TLSProtocol := UInt16

def versionTLS10 : TLSProtocol := 0x0301
def versionTLS11 : TLSProtocol := 0x0302
def versionTLS12 : TLSProtocol := 0x0303
def versionTLS13 : TLSProtocol := 0x0304

/-- `TLSProtocolsFlag` (lines 15–18). -/
structure TLSProtocolsFlag where
  min : TLSProtocol
  max : TLSProtocol
deriving DecidableEq

namespace TLSProtocolsFlag

/-- `TLSProtocolsFlag{}`. -/
def zero : TLSProtocolsFlag := ⟨0, 0⟩

/-- `NewDefaultTLSProtocolsFlag` (lines 20–25). -/
def default : TLSProtocolsFlag := ⟨versionTLS12, versionTLS13⟩

/-! ## Sets of versions -/

def tlsV1 : UInt8 := 1
def tlsV1_1 : UInt8 := 2
def tlsV1_2 : UInt8 := 4
def tlsV1_3 : UInt8 := 8
def tlsAll : UInt8 := tlsV1 ||| tlsV1_1 ||| tlsV1_2 ||| tlsV1_3

/-- `protocolSlice` (lines 40–45), each version with its bit. -/
def protocolSlice : List (UInt8 × TLSProtocol) :=
  [(tlsV1, versionTLS10), (tlsV1_1, versionTLS11), (tlsV1_2, versionTLS12),
    (tlsV1_3, versionTLS13)]

/-- `unicode.IsSpace`. -/
def isSpace (c : Char) : Bool :=
  9 ≤ c.toNat && c.toNat ≤ 13 || c.toNat == 0x20 || c.toNat == 0x85 || c.toNat == 0xa0 ||
    c.toNat == 0x1680 || 0x2000 ≤ c.toNat && c.toNat ≤ 0x200a || c.toNat == 0x2028 ||
    c.toNat == 0x2029 || c.toNat == 0x202f || c.toNat == 0x205f || c.toNat == 0x3000

/-- `strings.Fields`. -/
def fields (val : String) : List String :=
  ((val.toList.splitOnP isSpace).filter (· ≠ [])).map String.ofList

/-- The sign of a token, and the token without it (lines 53–56). -/
def splitSign (tok : String) : Option Char × String :=
  match tok.toList with
  | '+' :: name => (some '+', String.ofList name)
  | '-' :: name => (some '-', String.ofList name)
  | _ => (none, tok)

/-- The versions that a name stands for (lines 58–73). -/
def versions (tok : String) : Except String UInt8 :=
  match tok with
  | "SSLv2" => .error "SSLv2 not supported (RFC 6176)"
  | "SSLv3" => .error "SSLv3 not supported"
  | "TLSv1" => .ok tlsV1
  | "TLSv1.1" => .ok tlsV1_1
  | "TLSv1.2" => .ok tlsV1_2
  | "TLSv1.3" => .ok tlsV1_3
  | "all" => .ok tlsAll
  | _ => .error ("unknown protocol version " ++ tok)

/-- The body of the loop over the tokens (lines 47–88). -/
def token (protocols : UInt8) (tok : String) : Except String UInt8 := do
  let (sign, tok) := splitSign tok
  let current ← versions tok
  match sign with
  | some '+' => return protocols ||| current
  | some _ => return protocols &&& ~~~current
  | none =>
    if protocols ≠ 0 then
      .error ("TLS protocol " ++ tok ++ " overrides already set parameters. " ++
        "Check if a +/- prefix is missing")
    else return current

/-- What a set of versions makes of the flag (lines 91–119), and the error: `min` and `max` stay
    as they were when the set is empty. -/
def select (flag : TLSProtocolsFlag) (protocols : UInt8) : TLSProtocolsFlag × Option String :=
  if protocols = tlsAll then (⟨versionTLS10, versionTLS13⟩, none)
  else if protocols &&& tlsV1 ≠ 0 ∧ protocols &&& tlsV1_2 ≠ 0 then
    (flag, some "you may only specify a range of protocols")
  else
    let lowest := protocolSlice.find? fun p => protocols &&& p.1 != 0
    let highest := protocolSlice.reverse.find? fun p => protocols &&& p.1 != 0
    (⟨(lowest.map Prod.snd).getD flag.min, (highest.map Prod.snd).getD flag.max⟩, none)

/-- `TLSProtocolsFlag.Set` (lines 27–119): the flag as the call leaves it, and the error. -/
def set (flag : TLSProtocolsFlag) (val : String) : TLSProtocolsFlag × Option String :=
  if val = "" then (default, none)
  else match (fields val).foldlM token 0 with
    | .ok protocols => flag.select protocols
    | .error err => (flag, some err)

end TLSProtocolsFlag

end AerospikePhp.Config
