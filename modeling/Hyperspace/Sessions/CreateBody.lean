import Hyperspace.Foundations.Base64
import Hyperspace.Provisioning.Schema

/-!
# The body of a session request

`parseSessionCreateBody`: which bodies describe a session, and the session they describe.
-/

namespace Hyperspace.Sessions

open Hyperspace.Foundations
open Hyperspace.Provisioning (ClientProtocol)

inductive SessionMode where
  | ipToIp
  | fullTunnel
  deriving DecidableEq, Repr

/-- `spec` of a session. -/
structure SessionSpec where
  desiredState : String
  clientProtocol : ClientProtocol
  mode : SessionMode
  destinationCidrs : List String
  sourceCidr : Option String
  clientPublicKey : Option String
  ingressGateName : Option String
  egressGateName : Option String
  ingressGateId : Option String
  egressGateId : Option String
  pathPolicy : Json
  artifactPolicy : Json

/-- What `parseSessionCreateBody` accepts. -/
structure SessionCreateParsed where
  mode : SessionMode
  destinationCidrs : List String
  createRequestId : Option String
  sourceCidr : Option String
  clientPublicKey : Option String
  label : Option String
  spec : SessionSpec

/-- A refused body, with the text where there is one. -/
structure SessionCreateError where
  error : String
  message : Option String
  deriving DecidableEq

/-! ### Fields -/

/-- `value || undefined`. -/
def nonEmpty? (value : String) : Option String := if value = "" then none else some value

/-- The texts of an array without the white space around them; empty ones do not count. -/
def readStringArray (record : Json) (key : String) : List String :=
  match record.field? key with
  | some (.arr items) =>
    (items.filterMap fun
      | .str item => some (Json.trim item)
      | .null | .bool _ | .num _ | .arr _ | .obj _ => none).filter (· ≠ "")
  | some .null | some (.bool _) | some (.num _) | some (.str _) | some (.obj _) | none => []

/-- `none` is a protocol that there is not. -/
def readSessionClientProtocol : Option Json → Option ClientProtocol
  | none => some .wireguard
  | some (.str s) =>
    if s = "wireguard" then some .wireguard
    else if s = "amneziawg" then some .amneziawg
    else none
  | some .null | some (.bool _) | some (.num _) | some (.arr _) | some (.obj _) => none

def normalizeRequiredCidr (value : String) : String :=
  if '/' ∈ value.toList then value else value ++ "/32"

def normalizeOptionalCidr (value : String) : Option String :=
  (nonEmpty? value).map normalizeRequiredCidr

def ipToCidr (value : String) : String :=
  if value = "" then "" else if '/' ∈ value.toList then value else value ++ "/32"

def normalizeDestinationCidrs (body : Json) (mode : SessionMode) : List String :=
  let rawCidrs := readStringArray body "destinationCidrs"
  let targetIp := Json.readString body "targetIp"
  if rawCidrs ≠ [] then (rawCidrs.map normalizeRequiredCidr).filter (· ≠ "")
  else
    match mode with
    | .ipToIp => if targetIp ≠ "" then [ipToCidr targetIp] else []
    | .fullTunnel => ["0.0.0.0/0"]

/-! ### Keys and identifiers -/

/-- `/^[A-Za-z0-9+/]{42}[AEIMQUYcgkosw048]=$/`. -/
def isCanonicalKeyText (s : List Char) : Bool :=
  s.length = 44 && (s.take 42).all (· ∈ Base64.alphabet) &&
    ((s[42]?).elim false fun c => c ∈ "AEIMQUYcgkosw048".toList) && s[43]? = some '='

def isWireGuardPublicKey (value : String) : Bool :=
  let trimmed := (Json.trim value).toList
  isCanonicalKeyText trimmed &&
    (Base64.decode trimmed).length = 32 && !(Base64.decode trimmed).all (· = 0)

def isHexDigit (c : Char) : Bool :=
  c.isDigit || (97 ≤ c.toNat && c.toNat ≤ 102) || (65 ≤ c.toNat && c.toNat ≤ 70)

/-- `/^[0-9a-f]{8}-[0-9a-f]{4}-[1-8][0-9a-f]{3}-[89ab][0-9a-f]{3}-[0-9a-f]{12}$/i`. -/
def isUuid (value : String) : Bool :=
  let groups := value.toList.splitOn '-'
  groups.map List.length = [8, 4, 4, 4, 12] && groups.all (·.all isHexDigit) &&
    ((groups[2]?.bind List.head?).elim false fun c => c ∈ "12345678".toList) &&
    ((groups[3]?.bind List.head?).elim false fun c => c ∈ "89abAB".toList)

/-! ### The body -/

def readMode (body : Json) : Option SessionMode :=
  let mode := Json.readString body "mode"
  if mode = "IpToIp" then some .ipToIp
  else if mode = "FullTunnel" then some .fullTunnel
  else none

def parseSessionCreateBody (body : Json) : Except SessionCreateError SessionCreateParsed :=
  match readSessionClientProtocol (body.field? "clientProtocol"), readMode body with
  | none, _ => .error
    ⟨"invalid_client_protocol", some "Client protocol must be wireguard or amneziawg."⟩
  | some _, none => .error ⟨"invalid_mode", none⟩
  | some clientProtocol, some mode =>
    let destinationCidrs := normalizeDestinationCidrs body mode
    let sourceCidr := normalizeOptionalCidr
      ((nonEmpty? (Json.readString body "sourceCidr")).getD
        (ipToCidr (Json.readString body "sourceIp")))
    let clientPublicKey := nonEmpty? (Json.readString body "clientPublicKey")
    let label := nonEmpty? (Json.readString body "label")
    let createRequestId := (nonEmpty? (Json.readString body "paymentRequestId")).or
      (nonEmpty? (Json.readString body "requestId"))
    let ingressGateName := nonEmpty? (Json.readString body "ingressGateName")
    let egressGateName := nonEmpty? (Json.readString body "egressGateName")
    let ingressGateId := nonEmpty? (Json.readString body "ingressGateId")
    let egressGateId := nonEmpty? (Json.readString body "egressGateId")
    if destinationCidrs = [] then .error ⟨"destination_required", none⟩
    else if ingressGateName.isNone ∧ ingressGateId.isNone then
      .error ⟨"ingress_gate_required", none⟩
    else if egressGateName.isNone ∧ egressGateId.isNone then
      .error ⟨"egress_gate_required", none⟩
    else if (ingressGateName.isSome ∧ ingressGateName = egressGateName) ∨
        (ingressGateId.isSome ∧ ingressGateId = egressGateId) then
      .error ⟨"distinct_gates_required", some "Ingress and egress must be different gates."⟩
    else if clientPublicKey.any fun key => !isWireGuardPublicKey key then
      .error ⟨"invalid_client_public_key",
        some "Client public key must be a canonical 44-character WireGuard public key."⟩
    else if createRequestId.any fun id => !isUuid id then
      .error ⟨"invalid_create_request_id", some "Config creation request ID must be a UUID."⟩
    else .ok {
      mode, destinationCidrs, createRequestId, sourceCidr, clientPublicKey, label
      spec := {
        desiredState := "Active", clientProtocol, mode, destinationCidrs, sourceCidr
        clientPublicKey, ingressGateName, egressGateName, ingressGateId, egressGateId
        pathPolicy := Json.asRecord (body.field? "pathPolicy")
        artifactPolicy := Json.asRecord (body.field? "artifactPolicy") } }

/-! ### What a body asks for -/

theorem normalizeRequiredCidr_ne_empty {value : String} (h : value ≠ "") :
    normalizeRequiredCidr value ≠ "" := by
  unfold normalizeRequiredCidr
  split
  · exact h
  · intro hEmpty
    have hChars := congrArg String.toList hEmpty
    rw [String.toList_append] at hChars
    exact absurd (List.append_eq_nil_iff.1 hChars).2 (by decide)

theorem ne_empty_of_mem_readStringArray {record : Json} {key s : String}
    (h : s ∈ readStringArray record key) : s ≠ "" := by
  unfold readStringArray at h
  split at h
  · simpa using (List.mem_filter.1 h).2
  all_goals cases h

theorem length_normalizeDestinationCidrs {body : Json} {mode : SessionMode}
    (h : readStringArray body "destinationCidrs" ≠ []) :
    (normalizeDestinationCidrs body mode).length =
      (readStringArray body "destinationCidrs").length := by
  have hKept : ∀ s ∈ (readStringArray body "destinationCidrs").map normalizeRequiredCidr,
      decide (s ≠ "") = true := by
    intro s hs
    obtain ⟨raw, hRaw, rfl⟩ := List.mem_map.1 hs
    simpa using normalizeRequiredCidr_ne_empty (ne_empty_of_mem_readStringArray hRaw)
  unfold normalizeDestinationCidrs
  rw [if_pos h, List.filter_eq_self.2 hKept, List.length_map]

theorem length_normalizeDestinationCidrs_le {body : Json} {mode : SessionMode}
    (h : readStringArray body "destinationCidrs" = []) :
    (normalizeDestinationCidrs body mode).length ≤ 1 := by
  unfold normalizeDestinationCidrs
  rw [if_neg (by simp [h])]
  cases mode with
  | ipToIp =>
    dsimp only
    split <;> simp
  | fullTunnel => simp

/-- An accepted body names a mode, and the destinations are the ones of that mode. -/
theorem parseSessionCreateBody_ok {body : Json} {parsed : SessionCreateParsed}
    (h : parseSessionCreateBody body = .ok parsed) :
    readMode body = some parsed.mode ∧
      parsed.destinationCidrs = normalizeDestinationCidrs body parsed.mode ∧
      parsed.destinationCidrs ≠ [] := by
  unfold parseSessionCreateBody at h
  split at h
  · cases h
  · cases h
  · rename_i mode _ hMode
    dsimp only at h
    split at h
    · cases h
    split at h
    · cases h
    split at h
    · cases h
    split at h
    · cases h
    split at h
    · cases h
    split at h
    · cases h
    rename_i hSome _ _ _ _ _
    cases h
    exact ⟨hMode, rfl, hSome⟩

end Hyperspace.Sessions
