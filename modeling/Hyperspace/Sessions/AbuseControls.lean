import Hyperspace.Foundations.Ipv4
import Hyperspace.Gate.Routing
import Hyperspace.Sessions.CreateBody

/-!
# Abuse controls

`validateSessionAbusePolicy`: which destinations a self-service session may have.
-/

namespace Hyperspace.Sessions

open Hyperspace.Foundations
open Hyperspace.Gate (Address Cidr)

/-- The environment's limits on sessions. -/
structure SessionAbuseControlConfig where
  maxActiveSessionsPerAccount : Nat
  maxSessionCreatesPerWindow : Nat
  sessionCreateWindowSeconds : Nat
  allowPrivateDestinations : Bool

def defaultSessionAbuseControlConfig : SessionAbuseControlConfig where
  maxActiveSessionsPerAccount := 5
  maxSessionCreatesPerWindow := 20
  sessionCreateWindowSeconds := 60 * 60
  allowPrivateDestinations := false

/-- A refusal and its text. -/
structure SessionAbuseControlError where
  error : String
  message : String
  deriving DecidableEq

/-- A block with the text it was parsed from. -/
structure Ipv4Cidr extends Cidr where
  text : String
  deriving DecidableEq

/-! ### Texts of ranges -/

def parseIpv4Address (value : List Char) : Option Address :=
  (Ipv4.parse value).map fun q =>
    (BitVec.ofNat 32 q.a <<< 24) + (BitVec.ofNat 32 q.b <<< 16) + (BitVec.ofNat 32 q.c <<< 8) +
      BitVec.ofNat 32 q.d

def parsePrefixLength (value : List Char) : Option (Fin 33) :=
  if h : Decimals.isDigits 1 2 value ∧ Decimals.read value < 33 then
    some ⟨Decimals.read value, h.2⟩
  else none

def parseIpv4Cidr (value : String) : Option Ipv4Cidr :=
  match (Json.trim value).toList.splitOn '/' with
  | [addressPart, prefixPart] => do
    let address ← parseIpv4Address addressPart
    let prefixLength ← parsePrefixLength prefixPart
    return {
      address, prefixLength
      text := String.ofList (addressPart ++ '/' :: Decimals.write prefixLength) }
  | _ => none

/-! ### Public addresses -/

/-- A built-in range; that it parses is checked where it is written. -/
def range (value : String) (h : (parseIpv4Cidr value).isSome := by decide +kernel) : Ipv4Cidr :=
  (parseIpv4Cidr value).get h

def nonGlobalIpv4Ranges : List Ipv4Cidr := [
  range "0.0.0.0/8",
  range "10.0.0.0/8",
  range "100.64.0.0/10",
  range "127.0.0.0/8",
  range "169.254.0.0/16",
  range "172.16.0.0/12",
  range "192.0.0.0/24",
  range "192.0.2.0/24",
  range "192.88.99.0/24",
  range "192.168.0.0/16",
  range "198.18.0.0/15",
  range "198.51.100.0/24",
  range "203.0.113.0/24",
  range "224.0.0.0/4",
  range "240.0.0.0/4"]

def prefixMask (prefixLength : Fin 33) : Address :=
  if prefixLength = 0 then 0 else 0xffffffff#32 <<< (32 - prefixLength.val)

def cidrContains (container candidate : Cidr) : Bool :=
  candidate.address &&& prefixMask container.prefixLength =
    container.address &&& prefixMask container.prefixLength

def isGlobalIpv4Cidr (cidr : Cidr) : Bool :=
  !nonGlobalIpv4Ranges.any fun blocked => cidrContains blocked.toCidr cidr

/-! ### The policy -/

def isFullTunnelDestination (destinations : List Ipv4Cidr) : Bool :=
  destinations.length = 1 &&
    destinations.head?.any fun d => d.address = 0 && d.prefixLength = 0

/-- What of the policy is about the destinations; `none` when they pass. -/
def validateDestinations (mode : SessionMode) (cidrs : List String)
    (config : SessionAbuseControlConfig) : Option SessionAbuseControlError :=
  match cidrs.mapM parseIpv4Cidr with
  | none => some ⟨"invalid_destination_cidr", "Destination must be a valid IPv4 CIDR."⟩
  | some destinationCidrs =>
    match mode with
    | .ipToIp =>
      if destinationCidrs.any fun d => d.prefixLength ≠ 32 then
        some ⟨"invalid_destination_cidr",
          "Self-service IP-to-IP configs can target only a single IPv4 /32 destination."⟩
      else if config.allowPrivateDestinations then none
      else (destinationCidrs.find? fun d => !isGlobalIpv4Cidr d.toCidr).map fun blocked =>
        ⟨"destination_not_allowed",
          "Destination " ++ blocked.text ++ " is not a public IPv4 /32 address."⟩
    | .fullTunnel =>
      if isFullTunnelDestination destinationCidrs then none
      else some ⟨"invalid_destination_cidr",
        "Full-tunnel configs must use the managed 0.0.0.0/0 destination."⟩

def validateSessionAbusePolicy (parsed : SessionCreateParsed) (config : SessionAbuseControlConfig) :
    Option SessionAbuseControlError :=
  match validateDestinations parsed.mode parsed.destinationCidrs config with
  | some error => some error
  | none =>
    match parsed.sourceCidr.filter (· ≠ "") with
    | none => none
    | some sourceCidr =>
      match parseIpv4Cidr sourceCidr with
      | none =>
        some ⟨"invalid_source_cidr", "Source restriction must be a valid IPv4 CIDR."⟩
      | some _ => none

/-! ### Masks -/

theorem getLsbD_prefixMask (prefixLength : Fin 33) (i : Nat) :
    (prefixMask prefixLength).getLsbD i = decide (i < 32 ∧ 32 - prefixLength.val ≤ i) := by
  unfold prefixMask
  split
  · rename_i h
    subst h
    simp
  · rw [show (0xffffffff#32 : Address) = BitVec.allOnes 32 from rfl, BitVec.getLsbD_shiftLeft,
      BitVec.getLsbD_allOnes, Bool.eq_iff_iff]
    simp
    omega

/-- Two addresses agree under the mask of a range when they agree in all but its free bits. -/
theorem and_prefixMask_eq_iff (a b : Address) (prefixLength : Fin 33) :
    a &&& prefixMask prefixLength = b &&& prefixMask prefixLength ↔
      a >>> (32 - prefixLength.val) = b >>> (32 - prefixLength.val) := by
  constructor
  · intro h
    apply BitVec.eq_of_getLsbD_eq
    intro i hi
    have hBit := congrArg (fun x => BitVec.getLsbD x (32 - prefixLength.val + i)) h
    simp only [BitVec.getLsbD_and, getLsbD_prefixMask, BitVec.getLsbD_ushiftRight] at hBit ⊢
    by_cases hIn : 32 - prefixLength.val + i < 32
    · simpa [hIn] using hBit
    · rw [BitVec.getLsbD_of_ge _ _ (by omega), BitVec.getLsbD_of_ge _ _ (by omega)]
  · intro h
    apply BitVec.eq_of_getLsbD_eq
    intro i hi
    simp only [BitVec.getLsbD_and, getLsbD_prefixMask]
    by_cases hIn : 32 - prefixLength.val ≤ i
    · have hBit := congrArg (fun x => BitVec.getLsbD x (i - (32 - prefixLength.val))) h
      simp only [BitVec.getLsbD_ushiftRight, Nat.add_sub_cancel' hIn] at hBit
      rw [hBit]
    · simp [hIn]

theorem cidrContains_iff (container candidate : Cidr) :
    cidrContains container candidate = true ↔ container.Contains candidate.address := by
  unfold cidrContains Cidr.Contains
  rw [decide_eq_true_iff]
  exact and_prefixMask_eq_iff _ _ _

/-- Outside every range that is not global. -/
def IsPublic (a : Address) : Prop := ∀ blocked ∈ nonGlobalIpv4Ranges, ¬ blocked.Contains a

theorem isGlobalIpv4Cidr_iff (cidr : Cidr) :
    isGlobalIpv4Cidr cidr = true ↔ IsPublic cidr.address := by
  simp [isGlobalIpv4Cidr, IsPublic, ← cidrContains_iff]

/-! ### Hosts as texts -/

def word (q : Ipv4) : Address := BitVec.ofNat 32 q.value

/-- `a.b.c.d/32`. -/
def hostText (q : Ipv4) : String := String.ofList (q.text ++ "/32".toList)

theorem parseIpv4Address_text (q : Ipv4) : parseIpv4Address q.text = some (word q) := by
  have ha := q.a.isLt
  have hb := q.b.isLt
  have hc := q.c.isLt
  have hd := q.d.isLt
  simp only [parseIpv4Address, Ipv4.parse_text, Option.map_some, Option.some.injEq,
    ← BitVec.toNat_inj, word, Ipv4.value, BitVec.toNat_add, BitVec.toNat_shiftLeft,
    BitVec.toNat_ofNat, Nat.shiftLeft_eq]
  omega

theorem trim_hostText (q : Ipv4) : Json.trim (hostText q) = hostText q := by
  apply Json.trim_eq_self
  intro c hc
  rw [hostText, String.toList_ofList, List.mem_append] at hc
  cases hc with
  | inl hc => exact Ipv4.isWhiteSpace_of_mem_text hc
  | inr hc =>
    have hList : "/32".toList = ['/', '3', '2'] := rfl
    rw [hList] at hc
    simp only [List.mem_cons, List.not_mem_nil, or_false] at hc
    rcases hc with rfl | rfl | rfl <;> rfl

theorem parseIpv4Cidr_hostText (q : Ipv4) :
    parseIpv4Cidr (hostText q) = some ⟨⟨word q, 32⟩, hostText q⟩ := by
  have hSlash : '/' ∉ q.text := Ipv4.not_mem_text (by decide) (by decide) q
  have hSplit : (q.text ++ "/32".toList).splitOn '/' = [q.text, "32".toList] := by
    rw [show "/32".toList = '/' :: "32".toList from rfl,
      List.splitOn_append_cons_self_of_not_mem hSlash]
    rfl
  have hPrefix : parsePrefixLength "32".toList = some 32 := by decide
  unfold parseIpv4Cidr
  rw [trim_hostText, hostText, String.toList_ofList, hSplit]
  simp only [parseIpv4Address_text, hPrefix]
  rfl

end Hyperspace.Sessions
