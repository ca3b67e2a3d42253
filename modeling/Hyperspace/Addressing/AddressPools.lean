import Hyperspace.Billing.Schema
import Hyperspace.Foundations.Ipv4
import Hyperspace.Foundations.Json

/-!
# Address pools

The address allocator on `address_pools` and `client_address_leases`: a session without an active
lease gets the first address that is free, pool by pool and from the stored offset of each.
-/

namespace Hyperspace.Addressing

open Hyperspace.Billing (SessionId)
open Hyperspace.Foundations

abbrev PoolId := Nat

/-- A value of the type `cidr`. Nothing keeps an IPv6 range out of a pool of family 4. -/
inductive StoredCidr where
  | ipv4 (address : Ipv4) (prefixLength : Fin 33)
  | ipv6 (address : List Char) (prefixLength : Nat) (hColon : ':' ∈ address)
    (hSlash : '/' ∉ address)

namespace StoredCidr

/-- `cidr::text`. -/
def text : StoredCidr → List Char
  | ipv4 address prefixLength => address.text ++ '/' :: Decimals.write prefixLength
  | ipv6 address prefixLength _ _ => address ++ '/' :: Decimals.write prefixLength

/-- The addresses that agree with the range in its first bits. -/
def Contains : StoredCidr → Ipv4 → Prop
  | ipv4 address prefixLength, a =>
    a.value / 2 ^ (32 - prefixLength.val) = address.value / 2 ^ (32 - prefixLength.val)
  | ipv6 _ _ _ _, _ => False

end StoredCidr

/-- A row of `address_pools`. -/
structure AddressPoolRow where
  id : PoolId
  cidr : StoredCidr
  nextOffset : Nat

/-- A row of `client_address_leases`. -/
structure ClientAddressLease where
  poolId : PoolId
  sessionId : SessionId
  clientAddress : Ipv4
  /-- `released_at IS NULL`. -/
  isActive : Bool
  deriving DecidableEq

/-- The two unique indexes, which are on active leases only. -/
def UniqueActive (leases : List ClientAddressLease) : Prop :=
  (leases.filter (·.isActive)).Pairwise fun l m =>
    l.clientAddress ≠ m.clientAddress ∧ l.sessionId ≠ m.sessionId

/-- The pools stand in the order of the allocator's query. -/
structure LeaseDb where
  pools : List AddressPoolRow
  leases : List ClientAddressLease
  unique : UniqueActive leases

/-! ### Ranges -/

/-- What `parseIpv4Cidr` makes of a pool: the block as numbers. -/
structure ParsedCidr where
  base : Nat
  prefixLength : Nat
  size : Nat
  deriving DecidableEq

def ipv4ToInt (value : List Char) : Option Nat :=
  (Ipv4.parse (Json.trim (String.ofList value)).toList).map Ipv4.value

/-- The address whose text is `[…].join(".")`; the cast to `inet` reads it back. -/
def intToIpv4 (value : Nat) : Ipv4 := Ipv4.ofValue value

/-- `Number` of a text of digits, which is all that stands behind the slash of a `cidr`. -/
def toNumber (digits : List Char) : Option Nat :=
  if digits.all Char.isDigit then some (Decimals.read digits) else none

def parseIpv4Cidr (cidr : List Char) : Option ParsedCidr :=
  match cidr.splitOn '/' with
  | address :: prefixRaw :: _ =>
    match toNumber prefixRaw, ipv4ToInt address with
    | some prefixLength, some base =>
      if 32 < prefixLength then none
      else
        let size := 2 ^ (32 - prefixLength)
        some ⟨base / size * size, prefixLength, size⟩
    | none, _ | some _, none => none
  | [_] | [] => none

/-- `client_address::text`. -/
def inetText (address : Ipv4) : String := String.ofList (address.text ++ "/32".toList)

def toClientAddressCidr (value : String) : String :=
  if '/' ∈ value.toList then value else value ++ "/32"

/-! ### Statements -/

namespace LeaseDb

/-- Some active lease is of this address. -/
def Leased (db : LeaseDb) (address : Ipv4) : Prop :=
  ∃ l ∈ db.leases, l.isActive = true ∧ l.clientAddress = address

instance {db : LeaseDb} {address : Ipv4} : Decidable (db.Leased address) :=
  inferInstanceAs (Decidable (∃ l ∈ db.leases, _))

/-- Some active lease is of this session. -/
def HasLease (db : LeaseDb) (sessionId : SessionId) : Prop :=
  ∃ l ∈ db.leases, l.isActive = true ∧ l.sessionId = sessionId

instance {db : LeaseDb} {sessionId : SessionId} : Decidable (db.HasLease sessionId) :=
  inferInstanceAs (Decidable (∃ l ∈ db.leases, _))

/-- The active leases of a session. -/
def activeLeases (db : LeaseDb) (sessionId : SessionId) : List ClientAddressLease :=
  db.leases.filter fun l => l.isActive && l.sessionId = sessionId

theorem unique_insert {db : LeaseDb} {poolId : PoolId} {sessionId : SessionId} {address : Ipv4}
    (h : ¬ db.Leased address ∧ ¬ db.HasLease sessionId) :
    UniqueActive (db.leases ++ [⟨poolId, sessionId, address, true⟩]) := by
  unfold UniqueActive
  rw [List.filter_append, List.pairwise_append]
  refine ⟨db.unique, List.pairwise_singleton _ _, ?_⟩
  intro l hl m hm
  obtain ⟨hMem, hActive⟩ := List.mem_filter.1 hl
  cases List.mem_singleton.1 (List.mem_filter.1 hm).1
  exact ⟨fun hAddress => h.1 ⟨l, hMem, hActive, hAddress⟩,
    fun hSession => h.2 ⟨l, hMem, hActive, hSession⟩⟩

variable (db : LeaseDb)

def findActiveClientAddressLease (sessionId : SessionId) : Option String :=
  (db.activeLeases sessionId).head?.map fun l => inetText l.clientAddress

/-- `ON CONFLICT DO NOTHING`: either unique index may refuse the row. -/
def tryInsertClientAddressLease (poolId : PoolId) (sessionId : SessionId)
    (clientAddress : Ipv4) : Option (String × LeaseDb) :=
  if h : ¬ db.Leased clientAddress ∧ ¬ db.HasLease sessionId then
    some (inetText clientAddress,
      { db with
        leases := db.leases ++ [⟨poolId, sessionId, clientAddress, true⟩]
        unique := unique_insert h })
  else none

def updateAddressPoolNextOffset (poolId : PoolId) (nextOffset : Nat) : LeaseDb :=
  { db with
    pools := db.pools.map fun pool =>
      if pool.id = poolId then { pool with nextOffset := nextOffset } else pool }

/-! ### The allocator -/

/-- The attempts on one pool that are left, from the given one on. -/
def tryOffsets (sessionId : SessionId) (poolId : PoolId) (parsed : ParsedCidr)
    (startOffset : Nat) : Nat → Nat → Option (String × LeaseDb)
  | 0, _ => none
  | remaining + 1, attempt =>
    let offset := (startOffset + attempt) % parsed.size
    match db.tryInsertClientAddressLease poolId sessionId (intToIpv4 (parsed.base + offset)) with
    | some (insertedAddress, db') =>
      some (toClientAddressCidr insertedAddress,
        db'.updateAddressPoolNextOffset poolId ((offset + 1) % parsed.size))
    | none => tryOffsets sessionId poolId parsed startOffset remaining (attempt + 1)

def tryPools (sessionId : SessionId) : List AddressPoolRow → Option (String × LeaseDb)
  | [] => none
  | pool :: rest =>
    match parseIpv4Cidr pool.cidr.text with
    | none => tryPools sessionId rest
    | some parsed =>
      let startOffset := pool.nextOffset % parsed.size
      match db.tryOffsets sessionId pool.id parsed startOffset parsed.size 0 with
      | some result => some result
      | none => tryPools sessionId rest

/-- `none` leaves everything as it is. -/
def ensureClientAddressLease (sessionId : SessionId) : Option (String × LeaseDb) :=
  match db.findActiveClientAddressLease sessionId with
  | some existingAddress => some (toClientAddressCidr existingAddress, db)
  | none => db.tryPools sessionId db.pools

end LeaseDb

end Hyperspace.Addressing
