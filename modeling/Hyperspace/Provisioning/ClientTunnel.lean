import Hyperspace.Foundations.Json
import Mathlib.Data.Nat.Digits.Defs

/-!
# Client tunnels

`readClientTunnel` and `validateHeaderProtectionKey`: what a stored or reported tunnel has to look
like. The SHA-256 fingerprint of a key is the parameter `keyFingerprint`.
-/

namespace Hyperspace.Provisioning

open Hyperspace.Foundations

structure AmneziaWGParameters where
  jc : Int
  jmin : Int
  jmax : Int
  s1 : Int
  s2 : Int
  s3 : Int
  s4 : Int
  h1 : String
  h2 : String
  h3 : String
  h4 : String
  contentPaddingAddition : String
  rekeyAfterTime : String
  rekeyTimeout : String
  keepaliveTimeout : String
  randomTrailers : String
  deriving DecidableEq

/-- The protocol of a client's tunnel, with what it needs. -/
inductive ClientTunnel where
  | wireguard
  | amneziawg (headerProtectionKeySha256 : String) (parameters : AmneziaWGParameters)
  deriving DecidableEq

/-! ### Reading a tunnel -/

/-- `/^[a-f0-9]{64}$/`. -/
def isKeyFingerprint (s : String) : Bool :=
  s.toList.length = 64 && s.toList.all fun c => c.isDigit || (97 ≤ c.toNat && c.toNat ≤ 102)

/-- An integer field within its bounds. -/
def readInteger (p : Json) (key : String) (min max : Int) : Except String Int :=
  match p.field? key with
  | some (.num n) =>
    if n.den = 1 ∧ min ≤ n.num ∧ n.num ≤ max then .ok n.num
    else .error s!"invalid AmneziaWG {key}"
  | some .null | some (.bool _) | some (.str _) | some (.arr _) | some (.obj _) | none =>
    .error s!"invalid AmneziaWG {key}"

/-- A text field with only one allowed value. -/
def readConstant (p : Json) (key expected : String) : Except String String :=
  match p.field? key with
  | some (.str s) => if s = expected then .ok s else .error s!"invalid AmneziaWG {key}"
  | some .null | some (.bool _) | some (.num _) | some (.arr _) | some (.obj _) | none =>
    .error s!"invalid AmneziaWG {key}"

/-- The number that a non-empty text of digits writes without superfluous zeros. -/
def canonicalNat? (digits : List Char) : Option Nat :=
  if digits ≠ [] ∧ digits.all Char.isDigit ∧ (digits.head? = some '0' → digits = ['0']) then
    some (digits.foldl (fun n c => 10 * n + (c.toNat - 48)) 0)
  else none

/-- A range `low-high` in canonical digits within its bounds. -/
def readRange (p : Json) (key : String) (min max : Nat) : Except String String :=
  match p.field? key with
  | some (.str v) =>
    let low := v.toList.takeWhile (· ≠ '-')
    let high := (v.toList.dropWhile (· ≠ '-')).drop 1
    match canonicalNat? low, canonicalNat? high with
    | some l, some h =>
      if min ≤ l ∧ h ≤ max ∧ l ≤ h then .ok v else .error s!"invalid AmneziaWG {key}"
    | some _, none | none, some _ | none, none => .error s!"invalid AmneziaWG {key}"
  | some .null | some (.bool _) | some (.num _) | some (.arr _) | some (.obj _) | none =>
    .error s!"invalid AmneziaWG {key}"

def readParameters (p : Json) : Except String AmneziaWGParameters := do
  let jc ← readInteger p "Jc" 1 128
  let jmin ← readInteger p "Jmin" 1 1280
  let jmax ← readInteger p "Jmax" 1 1280
  let s1 ← readInteger p "S1" 12 64
  let s2 ← readInteger p "S2" 12 64
  let s3 ← readInteger p "S3" 12 64
  let s4 ← readInteger p "S4" 12 64
  if jmax ≤ jmin then throw "invalid AmneziaWG junk size range"
  if s1 ≠ s2 ∨ s1 ≠ s3 ∨ s1 ≠ s4 then
    throw "AmneziaWG prefixes must match for random trailers"
  let h1 ← readConstant p "H1" "1"
  let h2 ← readConstant p "H2" "2"
  let h3 ← readConstant p "H3" "3"
  let h4 ← readConstant p "H4" "4"
  let randomTrailers ← readConstant p "RandomTrailers" "on"
  let contentPaddingAddition ← readRange p "ContentPaddingAddition" 0 64
  let rekeyAfterTime ← readRange p "RekeyAfterTime" 60 150
  let rekeyTimeout ← readRange p "RekeyTimeout" 1 15
  let keepaliveTimeout ← readRange p "KeepaliveTimeout" 1 30
  return {
    jc, jmin, jmax, s1, s2, s3, s4, h1, h2, h3, h4
    contentPaddingAddition := contentPaddingAddition
    rekeyAfterTime, rekeyTimeout, keepaliveTimeout, randomTrailers }

/-- An absent field belongs to a plan from before there was a choice of tunnels. -/
def readClientTunnel : Option Json → Except String ClientTunnel
  | none => .ok .wireguard
  | some (.obj fields) => do
    let tunnel := Json.obj fields
    let text (name : String) : Option String :=
      match tunnel.field? name with
      | some (.str s) => some s
      | some .null | some (.bool _) | some (.num _) | some (.arr _) | some (.obj _) | none => none
    if text "protocol" = some "wireguard" then return .wireguard
    if text "protocol" ≠ some "amneziawg" ∨ text "version" ≠ some "3.1" then
      throw "unsupported client tunnel protocol/version"
    match text "headerProtectionKeySha256" with
    | none => throw "invalid AmneziaWG key fingerprint"
    | some sha256 =>
      if !isKeyFingerprint sha256 then throw "invalid AmneziaWG key fingerprint"
      match tunnel.field? "parameters" with
      | some (.obj p) => return .amneziawg sha256 (← readParameters (.obj p))
      | some .null | some (.bool _) | some (.num _) | some (.str _) | some (.arr _) | none =>
        throw "missing AmneziaWG parameters"
  | some .null | some (.bool _) | some (.num _) | some (.str _) | some (.arr _) =>
    .error "invalid client tunnel"

/-! ### Header protection keys -/

/-- `/^[A-Za-z0-9+/]{43}=$/` of a text that encodes 32 bytes and no spare bits. -/
def isHeaderProtectionKey (s : String) : Bool :=
  let alphabet := "ABCDEFGHIJKLMNOPQRSTUVWXYZabcdefghijklmnopqrstuvwxyz0123456789+/".toList
  let chars := s.toList
  chars.length = 44 && chars.getLast? = some '=' && (chars.take 43).all (· ∈ alphabet) &&
    ((chars[42]?).elim false fun c => alphabet.idxOf c % 4 = 0)

def validateHeaderProtectionKey (keyFingerprint : String → String) (tunnel : ClientTunnel)
    (value : Option String) : Except String String :=
  match tunnel with
  | .wireguard => .ok ""
  | .amneziawg sha256 _ =>
    match value with
    | none => .error "missing or mismatched AmneziaWG header protection key"
    | some key =>
      if isHeaderProtectionKey key ∧ keyFingerprint key = sha256 then .ok key
      else .error "missing or mismatched AmneziaWG header protection key"

end Hyperspace.Provisioning
