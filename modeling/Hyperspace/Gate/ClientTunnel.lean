import Hyperspace.Foundations.Base64
import Hyperspace.Foundations.Hex
import Hyperspace.Foundations.Json

/-!
# Client tunnels on a gate

The gate agent's `clientTunnel`: how it is decoded, what `validate` and `validateSecret` accept,
and the arguments that its parameters become. The hash function is the parameter `sha256`.
-/

namespace Hyperspace.GateAgent

open Hyperspace.Foundations

/-- The parameters of an AmneziaWG interface. -/
structure AmneziaWGParameters where
  jc : Int
  jmin : Int
  jmax : Int
  s1 : Int
  s2 : Int
  s3 : Int
  s4 : Int
  h1 : String
  h2 : String
  h3 : String
  h4 : String
  contentPaddingAddition : String
  rekeyAfterTime : String
  rekeyTimeout : String
  keepaliveTimeout : String
  randomTrailers : String
  deriving DecidableEq

/-- What the config of a client says about its tunnel. -/
structure ClientTunnel where
  protocol : String
  version : String
  headerProtectionKeySHA256 : String
  parameters : AmneziaWGParameters
  deriving DecidableEq

/-! ### Decoding

What `json.Unmarshal` leaves in the structure: a field that is absent, or whose value does not fit
its type, stays zero. -/

def decodeText (object : Json) (name : String) : String :=
  match object.field? name with
  | some (.str s) => s
  | some .null | some (.bool _) | some (.num _) | some (.arr _) | some (.obj _) | none => ""

/-- An `int` has 64 bits. -/
def decodeInt (object : Json) (name : String) : Int :=
  match object.field? name with
  | some (.num n) => if n.den = 1 ∧ -2 ^ 63 ≤ n.num ∧ n.num < 2 ^ 63 then n.num else 0
  | some .null | some (.bool _) | some (.str _) | some (.arr _) | some (.obj _) | none => 0

def decodeParameters (object : Json) : AmneziaWGParameters where
  jc := decodeInt object "Jc"
  jmin := decodeInt object "Jmin"
  jmax := decodeInt object "Jmax"
  s1 := decodeInt object "S1"
  s2 := decodeInt object "S2"
  s3 := decodeInt object "S3"
  s4 := decodeInt object "S4"
  h1 := decodeText object "H1"
  h2 := decodeText object "H2"
  h3 := decodeText object "H3"
  h4 := decodeText object "H4"
  contentPaddingAddition := decodeText object "ContentPaddingAddition"
  rekeyAfterTime := decodeText object "RekeyAfterTime"
  rekeyTimeout := decodeText object "RekeyTimeout"
  keepaliveTimeout := decodeText object "KeepaliveTimeout"
  randomTrailers := decodeText object "RandomTrailers"

def decodeTunnel (object : Json) : ClientTunnel where
  protocol := decodeText object "protocol"
  version := decodeText object "version"
  headerProtectionKeySHA256 := decodeText object "headerProtectionKeySha256"
  parameters := decodeParameters (Json.asRecord (object.field? "parameters"))

/-! ### Numbers -/

/-- The value of a non-empty text of digits. -/
def digitsValue? (s : List Char) : Option Nat :=
  if s ≠ [] ∧ s.all Char.isDigit then some (Decimals.read s) else none

/-- `strconv.Atoi`; a number that does not fit 64 bits is an error. -/
def atoi (s : List Char) : Option Int :=
  match s with
  | '-' :: digits =>
    (digitsValue? digits).bind fun n => if n ≤ 2 ^ 63 then some (-(n : Int)) else none
  | '+' :: digits => (digitsValue? digits).bind fun n => if n < 2 ^ 63 then some (n : Int) else none
  | digits => (digitsValue? digits).bind fun n => if n < 2 ^ 63 then some (n : Int) else none

/-- `strconv.Itoa`. -/
def itoa (n : Int) : List Char :=
  if n < 0 then '-' :: Decimals.write n.natAbs else Decimals.write n.natAbs

/-! ### Validation -/

namespace AmneziaWGParameters

/-- One of the timing and padding ranges, `low-high`. -/
def isRange (value : String) (min max : Int) : Bool :=
  match value.toList.splitOn '-' with
  | [lowPart, highPart] =>
    match atoi lowPart, atoi highPart with
    | some low, some high =>
      !(low < min || high > max || low > high || itoa low ≠ lowPart || itoa high ≠ highPart)
    | none, _ | some _, none => false
  | _ => false

def validate (p : AmneziaWGParameters) : Option String :=
  if p.jc < 1 ∨ p.jc > 128 ∨ p.jmin < 1 ∨ p.jmax > 1280 ∨ p.jmin ≥ p.jmax then
    some "invalid AmneziaWG junk parameters"
  else if p.s1 < 12 ∨ p.s1 > 64 ∨ p.s1 ≠ p.s2 ∨ p.s1 ≠ p.s3 ∨ p.s1 ≠ p.s4 then
    some "AmneziaWG random trailers require equal prefixes between 12 and 64 bytes"
  else if p.h1 ≠ "1" ∨ p.h2 ≠ "2" ∨ p.h3 ≠ "3" ∨ p.h4 ≠ "4" ∨ p.randomTrailers ≠ "on" then
    some "invalid AmneziaWG header protection profile"
  else if isRange p.contentPaddingAddition 0 64 && isRange p.rekeyAfterTime 60 150 &&
      isRange p.rekeyTimeout 1 15 && isRange p.keepaliveTimeout 1 30 then none
  else some "invalid AmneziaWG timing/padding range"

def args (p : AmneziaWGParameters) : List String :=
  let itoa (n : Int) := String.ofList (itoa n)
  ["jc", itoa p.jc, "jmin", itoa p.jmin, "jmax", itoa p.jmax,
    "s1", itoa p.s1, "s2", itoa p.s2, "s3", itoa p.s3, "s4", itoa p.s4,
    "h1", p.h1, "h2", p.h2, "h3", p.h3, "h4", p.h4,
    "content-padding-addition", p.contentPaddingAddition,
    "rekey-after-time", p.rekeyAfterTime, "rekey-timeout", p.rekeyTimeout,
    "keepalive-timeout", p.keepaliveTimeout, "random-trailers", p.randomTrailers]

end AmneziaWGParameters

namespace ClientTunnel

def isAmneziaWG : Option ClientTunnel → Bool
  | none => false
  | some t => t.protocol = "amneziawg"

/-- The hexadecimal text of 32 bytes without upper-case digits. -/
def isFingerprint (text : List Char) : Bool :=
  match Hex.decode text with
  | none => false
  | some fingerprint => fingerprint.length = 32 && text.map Char.toLower = text

/-- `none` is no error; the tunnel is a pointer. -/
def validate : Option ClientTunnel → Option String
  | none => none
  | some t =>
    if t.protocol = "wireguard" then none
    else if !isAmneziaWG (some t) || t.version ≠ "3.1" then
      some "unsupported client tunnel protocol/version"
    else if !isFingerprint t.headerProtectionKeySHA256.toList then
      some "invalid AmneziaWG key fingerprint"
    else t.parameters.validate

def validateSecret (sha256 : List UInt8 → List UInt8) (t : Option ClientTunnel) (key : String) :
    Option String :=
  match validate t, t with
  | some error, _ => some error
  | none, none => none
  | none, some tunnel =>
    if !isAmneziaWG (some tunnel) then none
    else
      match Base64.decodeStrict key.toList with
      | none => some "missing or invalid AmneziaWG header protection key"
      | some decoded =>
        if decoded.length ≠ 32 ∨ Base64.encode decoded ≠ key.toList then
          some "missing or invalid AmneziaWG header protection key"
        else if Hex.encode (sha256 decoded) ≠ tunnel.headerProtectionKeySHA256.toList then
          some "AmneziaWG header protection key does not match plan"
        else none

end ClientTunnel

end Hyperspace.GateAgent
