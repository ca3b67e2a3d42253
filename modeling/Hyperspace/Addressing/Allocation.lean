import Hyperspace.Addressing.AddressPools

/-!
# The allocator is exact

The attempts on a pool go once round its range, so a session without a lease gets the first free
address among the candidates of all pools, and none only when every address of every pool is
leased.
-/

namespace Hyperspace.Addressing

open Hyperspace.Billing (SessionId)
open Hyperspace.Foundations

/-! ### Ranges -/

theorem toNumber_write (n : Nat) : toNumber (Decimals.write n) = some n := by
  have hAll : (Decimals.write n).all Char.isDigit = true :=
    List.all_eq_true.2 fun c hc => Decimals.isDigit_of_mem_write hc
  simp [toNumber, hAll]

theorem ipv4ToInt_text (q : Ipv4) : ipv4ToInt q.text = some q.value := by
  have hTrim : Json.trim (String.ofList q.text) = String.ofList q.text := by
    apply Json.trim_eq_self
    intro c hc
    rw [String.toList_ofList] at hc
    exact Ipv4.isWhiteSpace_of_mem_text hc
  unfold ipv4ToInt
  rw [hTrim, String.toList_ofList, Ipv4.parse_text]
  rfl

theorem parseIpv4Cidr_ipv4 (address : Ipv4) (prefixLength : Fin 33) :
    parseIpv4Cidr (StoredCidr.ipv4 address prefixLength).text =
      some ⟨address.value / 2 ^ (32 - prefixLength.val) * 2 ^ (32 - prefixLength.val),
        prefixLength, 2 ^ (32 - prefixLength.val)⟩ := by
  have hSlash : '/' ∉ address.text := Ipv4.not_mem_text (by decide) (by decide) address
  have hDigits : '/' ∉ Decimals.write prefixLength := Decimals.not_mem_write (by decide) _
  have hLe : ¬ 32 < prefixLength.val := by omega
  unfold parseIpv4Cidr StoredCidr.text
  dsimp only
  rw [List.splitOn_append_cons_self_of_not_mem hSlash, List.splitOn_eq_singleton hDigits]
  simp [toNumber_write, ipv4ToInt_text, hLe]

theorem ipv4ToInt_eq_none {address : List Char} (hColon : ':' ∈ address) :
    ipv4ToInt address = none := by
  unfold ipv4ToInt
  cases hParse : Ipv4.parse (Json.trim (String.ofList address)).toList with
  | none => rfl
  | some q =>
    have hMem : ':' ∈ (Json.trim (String.ofList address)).toList := by
      apply Json.mem_trim _ (by decide)
      rw [String.toList_ofList]
      exact hColon
    exact absurd (Ipv4.isDigit_or_dot_of_parse hParse ':' hMem) (by decide)

theorem parseIpv4Cidr_ipv6 {address : List Char} {prefixLength : Nat} (hColon : ':' ∈ address)
    (hSlash : '/' ∉ address) :
    parseIpv4Cidr (StoredCidr.ipv6 address prefixLength hColon hSlash).text = none := by
  have hDigits : '/' ∉ Decimals.write prefixLength := Decimals.not_mem_write (by decide) _
  unfold parseIpv4Cidr StoredCidr.text
  dsimp only
  rw [List.splitOn_append_cons_self_of_not_mem hSlash, List.splitOn_eq_singleton hDigits]
  simp [toNumber_write, ipv4ToInt_eq_none hColon]

/-! ### Candidates -/

/-- The address of an attempt on a range. -/
def ParsedCidr.attempt (parsed : ParsedCidr) (startOffset i : Nat) : Ipv4 :=
  intToIpv4 (parsed.base + (startOffset + i) % parsed.size)

/-- The addresses of a pool in the order of the attempts on it. -/
def AddressPoolRow.candidates (pool : AddressPoolRow) : List Ipv4 :=
  match parseIpv4Cidr pool.cidr.text with
  | none => []
  | some parsed =>
    (List.range' 0 parsed.size).map (parsed.attempt (pool.nextOffset % parsed.size))

theorem exists_wrapped_offset {start size offset : Nat} (h : offset < size) :
    ∃ i < size, (start % size + i) % size = offset := by
  have hStart : start % size < size := Nat.mod_lt _ (by omega)
  by_cases hBefore : start % size ≤ offset
  · refine ⟨offset - start % size, by omega, ?_⟩
    rw [Nat.add_sub_cancel' hBefore, Nat.mod_eq_of_lt h]
  · refine ⟨size - start % size + offset, by omega, ?_⟩
    rw [show start % size + (size - start % size + offset) = offset + size by omega,
      Nat.add_mod_right, Nat.mod_eq_of_lt h]

theorem block_lt {n k offset : Nat} (hk : k ≤ 32) (hn : n < 2 ^ 32) (hOffset : offset < 2 ^ k) :
    n / 2 ^ k * 2 ^ k + offset < 2 ^ 32 := by
  have hBlocks : 2 ^ k * 2 ^ (32 - k) = 2 ^ 32 := by
    rw [← Nat.pow_add, Nat.add_sub_cancel' hk]
  have hBlock : n / 2 ^ k < 2 ^ (32 - k) := Nat.div_lt_of_lt_mul (by omega)
  calc n / 2 ^ k * 2 ^ k + offset
      < (n / 2 ^ k + 1) * 2 ^ k := by rw [Nat.add_mul]; omega
    _ ≤ 2 ^ (32 - k) * 2 ^ k := Nat.mul_le_mul_right _ hBlock
    _ = 2 ^ 32 := by rw [Nat.mul_comm, hBlocks]

theorem mem_candidates {pool : AddressPoolRow} {a : Ipv4} :
    a ∈ pool.candidates ↔ pool.cidr.Contains a := by
  unfold AddressPoolRow.candidates
  cases hCidr : pool.cidr with
  | ipv6 address prefixLength hColon hSlash =>
    rw [parseIpv4Cidr_ipv6]
    simp [StoredCidr.Contains]
  | ipv4 address prefixLength =>
    rw [parseIpv4Cidr_ipv4]
    have hAddress := address.value_lt
    have hSize : 0 < 2 ^ (32 - prefixLength.val) := Nat.two_pow_pos _
    simp only [StoredCidr.Contains, List.mem_map, List.mem_range'_1, ParsedCidr.attempt, intToIpv4]
    constructor
    · rintro ⟨i, -, rfl⟩
      have hOffset := Nat.mod_lt (pool.nextOffset % 2 ^ (32 - prefixLength.val) + i) hSize
      rw [Ipv4.value_ofValue (block_lt (by omega) hAddress hOffset), Nat.mul_comm,
        Nat.mul_add_div hSize, Nat.div_eq_of_lt hOffset, Nat.add_zero]
    · intro hIn
      obtain ⟨i, hi, hWrapped⟩ :=
        @exists_wrapped_offset pool.nextOffset _ _ (Nat.mod_lt a.value hSize)
      refine ⟨i, by omega, ?_⟩
      rw [hWrapped, ← hIn, Nat.div_add_mod', Ipv4.ofValue_value]

/-! ### The search -/

namespace LeaseDb

variable {db : LeaseDb} {sessionId : SessionId}

/-- The session got a lease on an address of a pool, and no other lease has changed. -/
def Granted (db : LeaseDb) (sessionId : SessionId) (poolId : PoolId) (address : Ipv4)
    (result : String × LeaseDb) : Prop :=
  result.1 = inetText address ∧
    result.2.leases = db.leases ++ [⟨poolId, sessionId, address, true⟩]

theorem toClientAddressCidr_inetText (address : Ipv4) :
    toClientAddressCidr (inetText address) = inetText address := by
  have hSlash : '/' ∈ (inetText address).toList := by
    simp [inetText]
  unfold toClientAddressCidr
  rw [if_pos hSlash]

theorem tryInsert_of_leased {address : Ipv4} (h : db.Leased address) (poolId : PoolId) :
    db.tryInsertClientAddressLease poolId sessionId address = none := by
  unfold tryInsertClientAddressLease
  rw [dif_neg fun hFree => hFree.1 h]

theorem tryInsert_of_free {address : Ipv4} (hFree : ¬ db.Leased address)
    (hNone : ¬ db.HasLease sessionId) (poolId : PoolId) :
    ∃ db' : LeaseDb, db'.leases = db.leases ++ [⟨poolId, sessionId, address, true⟩] ∧
      db.tryInsertClientAddressLease poolId sessionId address = some (inetText address, db') := by
  unfold tryInsertClientAddressLease
  rw [dif_pos ⟨hFree, hNone⟩]
  exact ⟨_, rfl, rfl⟩

theorem tryOffsets_spec (hNone : ¬ db.HasLease sessionId) (poolId : PoolId) (parsed : ParsedCidr)
    (startOffset remaining attempt : Nat) :
    match ((List.range' attempt remaining).map (parsed.attempt startOffset)).find?
        (¬ db.Leased ·) with
    | none => db.tryOffsets sessionId poolId parsed startOffset remaining attempt = none
    | some address => ∃ result, db.Granted sessionId poolId address result ∧
        db.tryOffsets sessionId poolId parsed startOffset remaining attempt = some result := by
  induction remaining generalizing attempt with
  | zero => rfl
  | succ remaining ih =>
    have hAttempt : intToIpv4 (parsed.base + (startOffset + attempt) % parsed.size) =
        parsed.attempt startOffset attempt := rfl
    rw [List.range'_succ, List.map_cons, List.find?_cons]
    unfold tryOffsets
    simp only [hAttempt]
    by_cases hLeased : db.Leased (parsed.attempt startOffset attempt)
    · rw [tryInsert_of_leased hLeased]
      simpa [hLeased] using ih (attempt + 1)
    · obtain ⟨db', hLeases, hInserted⟩ := tryInsert_of_free hLeased hNone poolId
      simp only [hInserted, hLeased, not_false_eq_true, decide_true]
      exact ⟨_, ⟨toClientAddressCidr_inetText _, hLeases⟩, rfl⟩

/-- A search that found this address, if any, grants it from a pool that it is a candidate of. -/
def Grants (db : LeaseDb) (sessionId : SessionId) (pools : List AddressPoolRow) :
    Option Ipv4 → Option (String × LeaseDb) → Prop
  | none, result? => result? = none
  | some address, result? => ∃ pool ∈ pools, address ∈ pool.candidates ∧
      ∃ result, db.Granted sessionId pool.id address result ∧ result? = some result

theorem Grants.cons {pools : List AddressPoolRow} {found : Option Ipv4}
    {result? : Option (String × LeaseDb)} (h : db.Grants sessionId pools found result?)
    (pool : AddressPoolRow) : db.Grants sessionId (pool :: pools) found result? := by
  cases found with
  | none => exact h
  | some address =>
    obtain ⟨p, hp, hIn, hGranted⟩ := h
    exact ⟨p, List.mem_cons_of_mem _ hp, hIn, hGranted⟩

theorem tryPools_spec (hNone : ¬ db.HasLease sessionId) (pools : List AddressPoolRow) :
    db.Grants sessionId pools ((pools.flatMap (·.candidates)).find? (¬ db.Leased ·))
      (db.tryPools sessionId pools) := by
  induction pools with
  | nil => rfl
  | cons pool rest ih =>
    rw [List.flatMap_cons, List.find?_append]
    unfold tryPools
    cases hParse : parseIpv4Cidr pool.cidr.text with
    | none =>
      have hEmpty : pool.candidates = [] := by simp [AddressPoolRow.candidates, hParse]
      rw [hEmpty]
      exact ih.cons pool
    | some parsed =>
      have hSpec := tryOffsets_spec hNone pool.id parsed (pool.nextOffset % parsed.size)
        parsed.size 0
      have hCandidates : pool.candidates = (List.range' 0 parsed.size).map
          (parsed.attempt (pool.nextOffset % parsed.size)) := by
        simp [AddressPoolRow.candidates, hParse]
      rw [← hCandidates] at hSpec
      dsimp only
      cases hFirst : pool.candidates.find? (¬ db.Leased ·) with
      | some address =>
        rw [hFirst] at hSpec
        obtain ⟨result, hGranted, hTried⟩ := hSpec
        rw [hTried]
        exact ⟨pool, List.mem_cons_self, List.mem_of_find?_eq_some hFirst, result, hGranted, rfl⟩
      | none =>
        rw [hFirst] at hSpec
        rw [hSpec]
        exact ih.cons pool

/-! ### Active leases -/

theorem activeLeases_eq_nil_iff : db.activeLeases sessionId = [] ↔ ¬ db.HasLease sessionId := by
  simp [activeLeases, HasLease]

theorem activeLeases_of_hasLease (h : db.HasLease sessionId) :
    ∃ l, db.activeLeases sessionId = [l] := by
  have hApart : (db.activeLeases sessionId).Pairwise fun l m => l.sessionId ≠ m.sessionId := by
    have hOwn : db.activeLeases sessionId =
        (db.leases.filter (·.isActive)).filter (·.sessionId = sessionId) := by
      simp [activeLeases, List.filter_filter, Bool.and_comm]
    rw [hOwn]
    exact (db.unique.imp fun h => h.2).filter _
  have hSession : ∀ l ∈ db.activeLeases sessionId, l.sessionId = sessionId := by
    intro l hl
    simpa using (Bool.and_eq_true_iff.1 (List.mem_filter.1 hl).2).2
  cases hLeases : db.activeLeases sessionId with
  | nil => exact absurd h (activeLeases_eq_nil_iff.1 hLeases)
  | cons l rest =>
    cases rest with
    | nil => exact ⟨l, rfl⟩
    | cons m rest =>
      rw [hLeases] at hApart hSession
      have hNe := (List.pairwise_cons.1 hApart).1 m (by simp)
      exact absurd ((hSession l (by simp)).trans (hSession m (by simp)).symm) hNe

theorem ensure_of_hasLease (h : db.HasLease sessionId) :
    ∃ lease, db.activeLeases sessionId = [lease] ∧
      db.ensureClientAddressLease sessionId = some (inetText lease.clientAddress, db) := by
  obtain ⟨lease, hLease⟩ := activeLeases_of_hasLease h
  refine ⟨lease, hLease, ?_⟩
  simp [ensureClientAddressLease, findActiveClientAddressLease, hLease,
    toClientAddressCidr_inetText]

theorem ensure_of_not_hasLease (h : ¬ db.HasLease sessionId) :
    db.ensureClientAddressLease sessionId = db.tryPools sessionId db.pools := by
  simp [ensureClientAddressLease, findActiveClientAddressLease, activeLeases_eq_nil_iff.2 h]

theorem Granted.activeLeases {poolId : PoolId} {address : Ipv4} {result : String × LeaseDb}
    (h : db.Granted sessionId poolId address result) (hNone : ¬ db.HasLease sessionId) :
    result.2.activeLeases sessionId = [⟨poolId, sessionId, address, true⟩] := by
  unfold LeaseDb.activeLeases
  rw [h.2, List.filter_append]
  have hOld := activeLeases_eq_nil_iff.2 hNone
  unfold LeaseDb.activeLeases at hOld
  rw [hOld]
  simp

/-- A session without a lease gets one exactly when some pool has a free address. -/
theorem isSome_of_not_hasLease (h : ¬ db.HasLease sessionId) :
    (db.ensureClientAddressLease sessionId).isSome ↔
      ∃ pool ∈ db.pools, ∃ a, pool.cidr.Contains a ∧ ¬ db.Leased a := by
  have hSpec := tryPools_spec h db.pools
  rw [ensure_of_not_hasLease h]
  cases hFirst : (db.pools.flatMap (·.candidates)).find? (¬ db.Leased ·) with
  | none =>
    rw [hFirst] at hSpec
    have hAll := List.find?_eq_none.1 hFirst
    simp only [show db.tryPools sessionId db.pools = none from hSpec, Option.isSome_none,
      Bool.false_eq_true, false_iff]
    rintro ⟨pool, hPool, a, hIn, hFree⟩
    exact hAll a (List.mem_flatMap.2 ⟨pool, hPool, mem_candidates.2 hIn⟩) (by simpa using hFree)
  | some address =>
    rw [hFirst] at hSpec
    obtain ⟨pool, hPool, hIn, result, -, hTried⟩ := hSpec
    have hFree : ¬ db.Leased address := by simpa using List.find?_some hFirst
    rw [hTried]
    exact ⟨fun _ => ⟨pool, hPool, address, mem_candidates.1 hIn, hFree⟩, fun _ => rfl⟩

theorem granted_of_not_hasLease (h : ¬ db.HasLease sessionId) {result : String × LeaseDb}
    (hResult : db.ensureClientAddressLease sessionId = some result) :
    ∃ pool ∈ db.pools, ∃ a, pool.cidr.Contains a ∧ ¬ db.Leased a ∧
      db.Granted sessionId pool.id a result := by
  have hSpec := tryPools_spec h db.pools
  rw [← ensure_of_not_hasLease h, hResult] at hSpec
  cases hFirst : (db.pools.flatMap (·.candidates)).find? (¬ db.Leased ·) with
  | none =>
    rw [hFirst] at hSpec
    cases hSpec
  | some address =>
    rw [hFirst] at hSpec
    obtain ⟨pool, hPool, hIn, granted, hGranted, hTried⟩ := hSpec
    cases hTried
    have hFree : ¬ db.Leased address := by simpa using List.find?_some hFirst
    exact ⟨pool, hPool, address, mem_candidates.1 hIn, hFree, hGranted⟩

end LeaseDb

/-- A session gets an address exactly when it has one or some pool has a free one. The address is
    then its only active one; a new one lies in the pool that it is charged to and was free. To
    ask again changes nothing. -/
theorem ensureClientAddressLease_exact (db : LeaseDb) (sessionId : SessionId) :
    ((db.ensureClientAddressLease sessionId).isSome ↔
      db.HasLease sessionId ∨ ∃ pool ∈ db.pools, ∃ a, pool.cidr.Contains a ∧ ¬ db.Leased a) ∧
    ∀ address db', db.ensureClientAddressLease sessionId = some (address, db') →
      (∃ lease, db'.activeLeases sessionId = [lease] ∧ address = inetText lease.clientAddress) ∧
      (db.HasLease sessionId → db' = db) ∧
      (¬ db.HasLease sessionId → ∃ pool ∈ db.pools, ∃ a, pool.cidr.Contains a ∧ ¬ db.Leased a ∧
        address = inetText a ∧ db'.leases = db.leases ++ [⟨pool.id, sessionId, a, true⟩]) ∧
      db'.ensureClientAddressLease sessionId = some (address, db') := by
  by_cases hHas : db.HasLease sessionId
  · obtain ⟨lease, hLease, hEnsured⟩ := LeaseDb.ensure_of_hasLease hHas
    constructor
    · simp [hEnsured, hHas]
    · intro address db' hResult
      rw [hEnsured] at hResult
      cases hResult
      exact ⟨⟨lease, hLease, rfl⟩, fun _ => rfl, fun hNone => absurd hHas hNone, hEnsured⟩
  · constructor
    · rw [LeaseDb.isSome_of_not_hasLease hHas]
      simp [hHas]
    · intro address db' hResult
      obtain ⟨pool, hPool, a, hIn, hFree, hAddress, hLeases⟩ :=
        LeaseDb.granted_of_not_hasLease hHas hResult
      have hActive := LeaseDb.Granted.activeLeases ⟨hAddress, hLeases⟩ hHas
      have hNow : db'.HasLease sessionId := by
        by_contra hNone
        rw [LeaseDb.activeLeases_eq_nil_iff.2 hNone] at hActive
        cases hActive
      obtain ⟨lease, hLease, hEnsured⟩ := LeaseDb.ensure_of_hasLease hNow
      rw [hActive] at hLease
      cases hLease
      refine ⟨⟨_, hActive, hAddress⟩, fun h => absurd h hHas, ?_, ?_⟩
      · intro _
        exact ⟨pool, hPool, a, hIn, hFree, hAddress, hLeases⟩
      · rw [hEnsured]
        exact congrArg some (Prod.ext hAddress.symm rfl)

/-- One pool of two addresses, of which the second is leased and is the next to be tried. -/
def twoAddresses : LeaseDb where
  pools := [⟨1, .ipv4 ⟨10, 64, 0, 0⟩ 31, 1⟩]
  leases := [⟨1, 7, ⟨10, 64, 0, 1⟩, true⟩]
  unique := List.pairwise_singleton _ _

theorem ensure_twoAddresses :
    ∃ address db', twoAddresses.ensureClientAddressLease 8 = some (address, db') ∧
      db'.ensureClientAddressLease 8 = some (address, db') := by
  obtain ⟨⟨address, db'⟩, hResult⟩ := Option.isSome_iff_exists.1
    (show (twoAddresses.ensureClientAddressLease 8).isSome by decide +kernel)
  obtain ⟨-, -, -, hAgain⟩ := (ensureClientAddressLease_exact twoAddresses 8).2 address db' hResult
  exact ⟨address, db', hResult, hAgain⟩

end Hyperspace.Addressing
