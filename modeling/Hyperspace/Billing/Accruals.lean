import Hyperspace.Billing.History
import Hyperspace.Billing.StatementFrames
import Mathlib.Tactic.LinearCombination

/-!
# Retail charges add up

Usage is charged in millionths of a minor unit. Each rating posts the whole minor units and carries
the rest to the next one, so over any history nothing is lost or charged twice. The two floors of
a charge lose less than two millionths for each cut of a window.
-/

namespace Hyperspace.Billing

open Hyperspace.Foundations

/-- What the enforced ratings of an account come to. -/
def BillingDb.chargedMicrominor (db : BillingDb) (a : AccountId) : Int :=
  db.ratings.sum fun rating =>
    if rating.accountId = a ∧ rating.mode = .enforce then rating.chargeMicrominor else 0

/-- What the enforced ratings of an account have posted. -/
def BillingDb.postedMinor (db : BillingDb) (a : AccountId) : Int :=
  db.ratings.sum fun rating =>
    if rating.accountId = a ∧ rating.mode = .enforce then rating.postedChargeMinor else 0

/-- What the ledger takes from an account for rated usage. -/
def Books.usageChargesMinor (books : Books) (a : AccountId) : Int :=
  books.ledger.sum fun entry =>
    if entry.accountId = a ∧ entry.sourceType = .retailUsageRating then -entry.amountMinor else 0

/-- Manual credits do not pose as rated usage. -/
def RatesOnlyUsage : BillingOp → Prop
  | .applyBillingCredit input => input.sourceType ≠ .retailUsageRating
  | _ => True

/-- Usage that is rated on its own. -/
structure UsagePart where
  activeSeconds : Int
  bytesToDestination : Int
  bytesFromDestination : Int
  deriving DecidableEq, Repr

namespace UsagePart

def Nonnegative (p : UsagePart) : Prop :=
  0 ≤ p.activeSeconds ∧ 0 ≤ p.bytesToDestination ∧ 0 ≤ p.bytesFromDestination

instance (p : UsagePart) : Decidable p.Nonnegative := inferInstanceAs (Decidable (_ ∧ _))

/-- What a part is charged at a price. -/
def charge (activeConfigMonthlyMinor trafficPerGbMinor : Int) (p : UsagePart) : Int :=
  calculateRetailChargeMicrominor p.activeSeconds activeConfigMonthlyMinor p.bytesToDestination
    p.bytesFromDestination trafficPerGbMinor

def add (p q : UsagePart) : UsagePart where
  activeSeconds := p.activeSeconds + q.activeSeconds
  bytesToDestination := p.bytesToDestination + q.bytesToDestination
  bytesFromDestination := p.bytesFromDestination + q.bytesFromDestination

/-- The usage that was split into these parts. -/
def whole (parts : List UsagePart) : UsagePart := parts.foldr add ⟨0, 0, 0⟩

variable {monthly perGb : Int} {p q : UsagePart}

theorem add_nonnegative (hp : p.Nonnegative) (hq : q.Nonnegative) : (p.add q).Nonnegative :=
  ⟨add_nonneg hp.1 hq.1, add_nonneg hp.2.1 hq.2.1, add_nonneg hp.2.2 hq.2.2⟩

theorem whole_nonnegative {parts : List UsagePart} (h : ∀ p ∈ parts, p.Nonnegative) :
    (whole parts).Nonnegative := by
  induction parts with
  | nil => exact ⟨le_refl _, le_refl _, le_refl _⟩
  | cons p parts ih =>
      exact add_nonnegative (h p List.mem_cons_self)
        (ih fun q hq => h q (List.mem_cons_of_mem _ hq))

/-- Each of the two floors of a charge loses less than one millionth where usage is cut. -/
theorem charge_add (hp : p.Nonnegative) (hq : q.Nonnegative) :
    p.charge monthly perGb + q.charge monthly perGb ≤ (p.add q).charge monthly perGb ∧
      (p.add q).charge monthly perGb ≤ p.charge monthly perGb + q.charge monthly perGb + 2 := by
  obtain ⟨hActive, hTo, hFrom⟩ := hp
  obtain ⟨hActive', hTo', hFrom'⟩ := hq
  have hMonth : billingMonthSeconds = 2592000 := rfl
  simp only [charge, add, calculateRetailChargeMicrominor, max_eq_right hActive, max_eq_right hTo,
    max_eq_right hFrom, max_eq_right hActive', max_eq_right hTo', max_eq_right hFrom',
    max_eq_right (add_nonneg hActive hActive'), max_eq_right (add_nonneg hTo hTo'),
    max_eq_right (add_nonneg hFrom hFrom'), hMonth, bytesPerDecimalGb]
  have hActives : (p.activeSeconds + q.activeSeconds) * max 0 monthly * microminorPerMinor =
      p.activeSeconds * max 0 monthly * microminorPerMinor +
        q.activeSeconds * max 0 monthly * microminorPerMinor := by ring
  have hTraffics : (p.bytesToDestination + q.bytesToDestination +
        (p.bytesFromDestination + q.bytesFromDestination)) * max 0 perGb * microminorPerMinor =
      (p.bytesToDestination + p.bytesFromDestination) * max 0 perGb * microminorPerMinor +
        (q.bytesToDestination + q.bytesFromDestination) * max 0 perGb * microminorPerMinor := by
    ring
  rw [hActives, hTraffics]
  omega

/-- `k` parts are charged at most what the whole is, and at most `2 (k - 1)` millionths less. -/
theorem charge_whole (hp : p.Nonnegative) {rest : List UsagePart}
    (hRest : ∀ q ∈ rest, q.Nonnegative) :
    ((p :: rest).map (charge monthly perGb)).sum ≤ (whole (p :: rest)).charge monthly perGb ∧
      (whole (p :: rest)).charge monthly perGb ≤
        ((p :: rest).map (charge monthly perGb)).sum + 2 * rest.length := by
  induction rest generalizing p with
  | nil => simp [whole, add]
  | cons q rest ih =>
      have hq := hRest q List.mem_cons_self
      have hTail : ∀ r ∈ rest, r.Nonnegative := fun r hr => hRest r (List.mem_cons_of_mem _ hr)
      obtain ⟨hLower, hUpper⟩ := ih hq hTail
      obtain ⟨hLower', hUpper'⟩ :=
        @charge_add monthly perGb _ _ hp (whole_nonnegative (List.forall_mem_cons.2 ⟨hq, hTail⟩))
      have hWhole : whole (p :: q :: rest) = p.add (whole (q :: rest)) := rfl
      rw [hWhole, List.map_cons, List.sum_cons, List.length_cons]
      push_cast
      omega

end UsagePart

/-! ### Scenarios that rate nothing -/

/-- Ratings, accruals and the ledger's charges for rated usage are those of before. -/
structure RatingsLeft (db db' : BillingDb) : Prop where
  ratings : db'.ratings = db.ratings
  accruals : db'.accruals = db.accruals
  charges : ∀ a, db'.books.usageChargesMinor a = db.books.usageChargesMinor a
  entries : ∀ id, db'.books.ledger.HasKey (.retailUsageRating, id) →
    db.books.ledger.HasKey (.retailUsageRating, id)
  nextId : db.nextId ≤ db'.nextId

instance : IsPreorder BillingDb RatingsLeft where
  refl _ := ⟨rfl, rfl, fun _ => rfl, fun _ h => h, Nat.le_refl _⟩
  trans _ _ _ h h' :=
    ⟨h'.ratings.trans h.ratings, h'.accruals.trans h.accruals,
      fun a => (h'.charges a).trans (h.charges a), fun id hKey => h.entries id (h'.entries id hKey),
      h.nextId.trans h'.nextId⟩

section

variable {db db' : BillingDb} {a : AccountId}

theorem RatingsLeft.of_ledger (hRatings : db'.ratings = db.ratings)
    (hAccruals : db'.accruals = db.accruals) (hLedger : db'.books.ledger = db.books.ledger)
    (hNext : db.nextId ≤ db'.nextId) : RatingsLeft db db' where
  ratings := hRatings
  accruals := hAccruals
  charges a := by rw [Books.usageChargesMinor, hLedger, Books.usageChargesMinor]
  entries id hKey := hLedger ▸ hKey
  nextId := hNext

theorem keepsRatings_modifyBooks {f : Books → Books}
    (hf : ∀ books, (f books).ledger = books.ledger) :
    Keeps RatingsLeft (modifyBooks f) := by
  intro db _ db' h
  cases modifyBooks_eq_ok.1 h
  exact .of_ledger rfl rfl (hf _) (Nat.le_refl _)

theorem EntryAdded.hasKey {ledger ledger' : Table LedgerEntry.key} {n : Int}
    {key k : SourceType × Identifier} (h : EntryAdded ledger a key n ledger')
    (hKey : ledger'.HasKey k) : ledger.HasKey k ∨ k = key := by
  obtain ⟨entry, hInsert, -, rfl, -⟩ := h.added
  exact (Table.hasKey_insert hInsert).1 hKey

theorem usageChargesMinor_added {books books' : Books} {key : SourceType × Identifier} {n : Int}
    {a' : AccountId} (h : EntryAdded books.ledger a key n books'.ledger) :
    books'.usageChargesMinor a' = books.usageChargesMinor a' +
      if a = a' ∧ key.1 = .retailUsageRating then -n else 0 := by
  obtain ⟨entry, hInsert, rfl, rfl, rfl⟩ := h.added
  exact Table.sum_insert hInsert _

theorem keepsRatings_insertLedgerEntry {entry : LedgerEntry}
    (hSource : entry.sourceType ≠ .retailUsageRating) :
    Keeps RatingsLeft (insertLedgerEntry entry) := by
  intro db inserted db' h
  rcases insertLedgerEntry_spec h with ⟨hr, -⟩ | ⟨ledger, hInsert, hr⟩
  · cases hr
    exact refl_of RatingsLeft db
  · cases hr
    have hAdded := EntryAdded.of_insert hInsert
    refine ⟨rfl, rfl, fun a => ?_, fun id hKey => ?_, Nat.le_refl _⟩
    · rw [@usageChargesMinor_added entry.accountId db.books { db.books with ledger } entry.key
        entry.amountMinor a hAdded]
      rw [if_neg fun hCharge => hSource hCharge.2, Int.add_zero]
    · rcases (Table.hasKey_insert hInsert).1 hKey with hOld | hNew
      · exact hOld
      · exact absurd (congrArg Prod.fst hNew).symm hSource

theorem unratedStatementsKeep_ratings :
    UnratedStatementsKeep RatingsLeft (· ≠ .retailUsageRating) where
  freshId := by
    intro db id db' h
    cases freshId_eq_ok.1 h
    exact .of_ledger rfl rfl rfl (Nat.le_succ _)
  readBillingBuckets := by
    intro a db buckets db' h
    cases (readBillingBuckets_spec h).1
    exact .of_ledger rfl rfl rfl (Nat.le_refl _)
  readCurrentBillingPlan := by
    intro a db plan db' h
    cases (readCurrentBillingPlan_spec h).1
    exact .of_ledger rfl rfl rfl (Nat.le_refl _)
  insertLedgerEntry _ := keepsRatings_insertLedgerEntry
  writeBillingBuckets := by
    intro a row db _ db' h
    obtain ⟨hValid, hr⟩ := writeBillingBuckets_spec h
    cases hr
    exact .of_ledger rfl rfl rfl (Nat.le_refl _)
  insertCashSweepRequest := by
    intro input db _ db' h
    obtain ⟨sweeps, -, hr⟩ := insertCashSweepRequest_spec h
    cases hr
    exact .of_ledger rfl rfl rfl (Nat.le_refl _)
  insertRatedUsageEvent := by
    intro input db rated db' h
    rcases insertRatedUsageEvent_spec h with ⟨hr, -⟩ | ⟨event, events, -, -, hr⟩
    · cases hr
      exact .of_ledger rfl rfl rfl (Nat.le_succ _)
    · cases hr
      exact .of_ledger rfl rfl rfl (Nat.le_succ _)
  claimSolanaPaymentReceipt := by
    intro input db claimed db' h
    rcases claimSolanaPaymentReceipt_spec h with ⟨hr, -⟩ | ⟨receipt, receipts, -, -, -, -, -, hr⟩
    · cases hr
      exact refl_of RatingsLeft db
    · cases hr
      exact .of_ledger rfl rfl rfl (Nat.le_refl _)
  writeSolanaDepositRemainder := by
    intro a mint remainder db _ db' h
    obtain ⟨hAmount, hr⟩ := writeSolanaDepositRemainder_spec h
    cases hr
    exact .of_ledger rfl rfl rfl (Nat.le_refl _)
  insertWithdrawalRequest := by
    intro input db w db' h
    obtain ⟨withdrawals, -, -, -, -, -, -, hr⟩ := insertWithdrawalRequest_spec h
    simp only at hr
    subst hr
    exact .of_ledger rfl rfl rfl (Nat.le_succ _)
  cancelWithdrawalRequest _ := Keeps.get.bind fun _ => keepsRatings_modifyBooks fun _ => rfl
  markWithdrawalConfirmed _ := Keeps.get.bind fun _ => keepsRatings_modifyBooks fun _ => rfl

theorem keepsRatings_markWithdrawalFailed {id : Identifier} :
    Keeps RatingsLeft (markWithdrawalFailed id) :=
  Keeps.get.bind fun _ => keepsRatings_modifyBooks fun _ => rfl

theorem keepsRatings_claimWithdrawalSigningJob {locked : List Identifier} {key : CustodialKey} :
    Keeps RatingsLeft (claimWithdrawalSigningJob locked key) :=
  keeps_claimWithdrawalSigningJob
    (Keeps.get.bind fun _ => keepsRatings_modifyBooks fun _ => rfl)
    (fun _ => keepsRatings_modifyBooks fun _ => rfl) fun _ => keepsRatings_markWithdrawalFailed

/-! ### Settling a rating -/

/-- What `markRatingPosted` writes. -/
def RetailUsageRating.markPosted (ratingId : Identifier) (n : Int) (r : RetailUsageRating) :
    RetailUsageRating :=
  if r.id = ratingId then { r with postedChargeMinor := n } else r

theorem RetailUsageRating.markPosted_key {ratingId : Identifier} {n : Int} (r : RetailUsageRating) :
    (r.markPosted ratingId n).key = r.key := by
  rw [RetailUsageRating.markPosted]
  split <;> rfl

theorem RetailUsageRating.markPosted_id {ratingId : Identifier} {n : Int} {r : RetailUsageRating} :
    (r.markPosted ratingId n).id = r.id := by
  rw [RetailUsageRating.markPosted]
  split <;> rfl

theorem sum_markPosted {ratings ratings' : Table RetailUsageRating.key} {rating : RetailUsageRating}
    {n : Int} (hInsert : ratings.insert rating = some ratings')
    (hOld : ∀ r ∈ ratings.rows, r.id < rating.id) (g : RetailUsageRating → Int) :
    (ratings'.modify (·.markPosted rating.id n) RetailUsageRating.markPosted_key).sum g =
      ratings.sum g + g { rating with postedChargeMinor := n } := by
  have hKept : ratings.rows.map (fun r => g (r.markPosted rating.id n)) = ratings.rows.map g := by
    apply List.map_congr_left
    intro r hr
    rw [RetailUsageRating.markPosted, if_neg (hOld r hr).ne]
  have hNew : rating.markPosted rating.id n = { rating with postedChargeMinor := n } := if_pos rfl
  simp only [Table.sum, Table.modify, List.map_map, Function.comp_def,
    (Table.insert_eq_some hInsert).2, List.map_append, List.map_cons, List.map_nil, List.sum_append,
    List.sum_cons, List.sum_nil, hKept, hNew, Int.add_zero]

theorem postRatedCharge_posts {candidate : RetailRatingCandidate}
    {config : RetailBillingRuntimeConfig} {ratingId : Identifier} {n posted : Int}
    (hFree : ¬ db.books.ledger.HasKey (.retailUsageRating, ratingId))
    (h : postRatedCharge candidate config ratingId n db = .ok (posted, db')) :
    EntryAdded db.books.ledger candidate.accountId (.retailUsageRating, ratingId) (-n)
        db'.books.ledger ∧
      db'.ratings =
        db.ratings.modify (·.markPosted ratingId n) RetailUsageRating.markPosted_key ∧
      db'.accruals = db.accruals ∧ db'.nextId = db.nextId := by
  simp only [postRatedCharge, bind_eq_ok] at h
  obtain ⟨buckets, db₁, hBuckets, inserted, db₂, hLedger, h⟩ := h
  cases (readBillingBuckets_spec hBuckets).1
  rcases insertLedgerEntry_spec hLedger with ⟨-, hTaken⟩ | ⟨ledger, hInsert, hr⟩
  · exact absurd hTaken hFree
  · cases hr
    rw [if_pos rfl] at h
    simp only [bind_eq_ok] at h
    obtain ⟨_, db₃, hWrite, _, db₄, hSweep, _, db₅, hPosted, h⟩ := h
    obtain ⟨hValid, hr⟩ := writeBillingBuckets_spec hWrite
    cases hr
    obtain ⟨sweeps, -, hr⟩ := insertCashSweepRequest_spec hSweep
    cases hr
    rw [markRatingPosted, modify_eq_ok] at hPosted
    cases hPosted
    cases pure_eq_ok.1 h
    exact ⟨.of_insert hInsert, rfl, rfl, rfl⟩

/-- What is charged is what is posted and what is carried; the ledger shows what is posted; and
the identifiers of ratings are taken. -/
structure Accrues (db : BillingDb) : Prop where
  conserved : ∀ a,
    microminorPerMinor * db.postedMinor a + (db.accruals a).val = db.chargedMicrominor a
  remainder_lt : ∀ a, (db.accruals a).val < microminorPerMinor
  entered : ∀ a, db.books.usageChargesMinor a = db.postedMinor a
  entriesKnown : ∀ id, db.books.ledger.HasKey (.retailUsageRating, id) → id < db.nextId
  ratingsKnown : ∀ r ∈ db.ratings.rows, r.id < db.nextId

theorem Accrues.left (h : Accrues db) (hLeft : RatingsLeft db db') : Accrues db' where
  conserved a := by
    rw [BillingDb.postedMinor, BillingDb.chargedMicrominor, hLeft.ratings, hLeft.accruals]
    exact h.conserved a
  remainder_lt a := by
    rw [hLeft.accruals]
    exact h.remainder_lt a
  entered a := by
    rw [hLeft.charges, BillingDb.postedMinor, hLeft.ratings]
    exact h.entered a
  entriesKnown id hKey := lt_of_lt_of_le (h.entriesKnown id (hLeft.entries id hKey)) hLeft.nextId
  ratingsKnown r hr := by
    rw [hLeft.ratings] at hr
    exact lt_of_lt_of_le (h.ratingsKnown r hr) hLeft.nextId

theorem Accrues.shadowed (h : Accrues db) {rating : RetailUsageRating}
    {ratings : Table RetailUsageRating.key} (hInsert : db.ratings.insert rating = some ratings)
    (hId : rating.id = db.nextId) (hMode : rating.mode = .shadow) :
    Accrues { db with ratings, nextId := db.nextId + 1 } := by
  have hMode' : rating.mode ≠ .enforce := by simp [hMode]
  refine ⟨fun a => ?_, h.remainder_lt, fun a => ?_, fun id hKey => ?_, fun r hr => ?_⟩
  · simp only [BillingDb.postedMinor, BillingDb.chargedMicrominor, Table.sum_insert hInsert, hMode',
      and_false, if_false, Int.add_zero]
    exact h.conserved a
  · simp only [BillingDb.postedMinor, Table.sum_insert hInsert, hMode', and_false, if_false,
      Int.add_zero]
    exact h.entered a
  · exact Nat.lt_succ_of_lt (h.entriesKnown id hKey)
  · rcases (Table.mem_insert hInsert).1 hr with hOld | rfl
    · exact Nat.lt_succ_of_lt (h.ratingsKnown r hOld)
    · exact hId ▸ Nat.lt_succ_self _

/-- An enforced rating adds its charge to what is carried; the whole minor units are posted. -/
theorem Accrues.enforced (h : Accrues db) {rating : RetailUsageRating}
    {ratings : Table RetailUsageRating.key} (hInsert : db.ratings.insert rating = some ratings)
    {n : Int}
    (hMode : rating.mode = .enforce)
    (hPosted : n = ((db.accruals rating.accountId).val + rating.chargeMicrominor) /
      microminorPerMinor)
    (hRatings : ∀ g, db'.ratings.sum g =
      db.ratings.sum g + g { rating with postedChargeMinor := n })
    (hRemainder : IsAmount (((db.accruals rating.accountId).val + rating.chargeMicrominor) %
      microminorPerMinor))
    (hAccruals : db'.accruals = Function.update db.accruals rating.accountId ⟨_, hRemainder⟩)
    (hCharges : ∀ a, db'.books.usageChargesMinor a =
      db.books.usageChargesMinor a + if rating.accountId = a then n else 0)
    (hEntries : ∀ id, db'.books.ledger.HasKey (.retailUsageRating, id) → id < db'.nextId)
    (hIds : ∀ r ∈ db'.ratings.rows, ∃ r' ∈ ratings.rows, r'.id = r.id)
    (hId : rating.id < db'.nextId) (hNext : db.nextId ≤ db'.nextId) : Accrues db' := by
  have hUnit : microminorPerMinor = 1000000 := rfl
  have hCarried : ∀ a, (db'.accruals a).val =
      if rating.accountId = a then
        ((db.accruals a).val + rating.chargeMicrominor) % microminorPerMinor
      else (db.accruals a).val := by
    intro a
    rw [hAccruals]
    by_cases ha : rating.accountId = a
    · rw [if_pos ha, ← ha, Function.update_self]
    · rw [if_neg ha, Function.update_of_ne (Ne.symm ha)]
  refine ⟨fun a => ?_, fun a => ?_, fun a => ?_, hEntries, fun r hr => ?_⟩
  · have hBefore := h.conserved a
    simp only [BillingDb.postedMinor, BillingDb.chargedMicrominor, hRatings, hMode, and_true,
      hCarried, hUnit] at hBefore hPosted ⊢
    split
    · rename_i ha
      rw [ha] at hPosted
      omega
    · omega
  · have hBefore := h.remainder_lt a
    rw [hCarried]
    split
    · exact Int.emod_lt_of_pos _ (by decide)
    · exact hBefore
  · have hBefore := h.entered a
    simp only [BillingDb.postedMinor, hRatings, hMode, and_true] at hBefore ⊢
    rw [hCharges, hBefore]
  · obtain ⟨r', hr', hSame⟩ := hIds r hr
    rw [← hSame]
    rcases (Table.mem_insert hInsert).1 hr' with hOld | rfl
    · exact lt_of_lt_of_le (h.ratingsKnown r' hOld) hNext
    · exact hId

theorem Accrues.settle (h : Accrues db) {candidate : RetailRatingCandidate}
    {config : RetailBillingRuntimeConfig} {posted : Option Int}
    (hOk : settleRatingCandidate candidate config db = .ok (posted, db')) : Accrues db' := by
  simp only [settleRatingCandidate, bind_eq_ok] at hOk
  obtain ⟨inserted, db₁, hRating, hOk⟩ := hOk
  obtain ⟨hValid, hr | ⟨ratings, hInsert, hr⟩⟩ := insertRetailUsageRating_spec hRating
  · cases hr
    cases pure_eq_ok.1 hOk
    exact h.left (.of_ledger rfl rfl rfl (Nat.le_succ _))
  cases hr
  simp only at hOk
  split at hOk
  · rename_i hShadow
    cases pure_eq_ok.1 hOk
    exact h.shadowed hInsert rfl hShadow
  rename_i hEnforce
  have hMode : config.mode = .enforce := by
    cases hConfig : config.mode with
    | shadow => exact absurd hConfig hEnforce
    | enforce => rfl
  simp only [bind_eq_ok] at hOk
  obtain ⟨remainder, db₂, hLock, _, db₃, hAccrual, hOk⟩ := hOk
  cases lockBillingAccrual_spec hLock
  obtain ⟨hRemainder, hr⟩ := updateBillingAccrual_spec hAccrual
  cases hr
  split at hOk
  · rename_i hNothing
    cases pure_eq_ok.1 hOk
    -- less than a minor unit: the rating keeps the zero it was inserted with
    have hCarried := (db.accruals candidate.accountId).2.1
    have hQuotient := Int.ediv_nonneg (add_nonneg hCarried hValid.charge_valid.1)
      (show (0 : Int) ≤ microminorPerMinor by decide)
    exact h.enforced hInsert (n := 0) hMode (le_antisymm hQuotient hNothing)
      (Table.sum_insert hInsert) hRemainder rfl
      (fun a => by rw [ite_self, Int.add_zero])
      (fun id hKey => Nat.lt_succ_of_lt (h.entriesKnown id hKey)) (fun r hr => ⟨r, hr, rfl⟩)
      (Nat.lt_succ_self _) (Nat.le_succ _)
  · simp only [bind_eq_ok, pure_eq_ok] at hOk
    obtain ⟨n, db₄, hPost, hOk⟩ := hOk
    cases hOk
    have hFree : ¬ db.books.ledger.HasKey (.retailUsageRating, db.nextId) :=
      fun hKey => lt_irrefl _ (h.entriesKnown _ hKey)
    obtain ⟨hAdded, hMarked, hCarried, hNext⟩ := postRatedCharge_posts (by exact hFree) hPost
    refine h.enforced hInsert hMode rfl (fun g => ?_) hRemainder hCarried (fun a => ?_)
      (fun id hKey => ?_) (fun r hr => ?_) ?_ ?_
    · rw [hMarked]
      exact sum_markPosted hInsert h.ratingsKnown g
    · rw [usageChargesMinor_added hAdded]
      simp only [and_true, neg_neg]
      rfl
    · rw [hNext]
      rcases hAdded.hasKey hKey with hOld | hNew
      · exact Nat.lt_succ_of_lt (h.entriesKnown id hOld)
      · cases hNew
        exact Nat.lt_succ_self _
    · rw [hMarked] at hr
      obtain ⟨r', hr', rfl⟩ := (Table.mem_modify _).1 hr
      exact ⟨r', hr', RetailUsageRating.markPosted_id.symm⟩
    · rw [hNext]
      exact Nat.lt_succ_self _
    · rw [hNext]
      exact Nat.le_succ _

/-- Every operation keeps the accruals in order, as long as no manual credit poses as usage. -/
theorem BillingOp.apply_accrues {op : BillingOp} (hOp : RatesOnlyUsage op) (h : Accrues db) :
    Accrues (op.apply db) := by
  have hKeep : ∀ {α : Type} {body : Tx α}, Keeps RatingsLeft body →
      Accrues (transaction body db).2 :=
    fun hBody => transaction_keeps Accrues h fun _ _ hOk => h.left (hBody _ _ _ hOk)
  have hUnrated := unratedStatementsKeep_ratings
  cases op with
  | applyBillingCredit input => exact hKeep (hUnrated.applyBillingCredit hOp)
  | settleRatingCandidate candidate config =>
      exact transaction_keeps Accrues h fun _ _ hOk => h.settle hOk
  | creditDirectDeposit accountId signature amount config =>
      exact hKeep (hUnrated.creditDirectDeposit (by simp))
  | importDoubleZeroUsage records config => exact hKeep (hUnrated.importDoubleZeroUsage (by simp))
  | createWithdrawalRequest actor input config => exact hKeep hUnrated.createWithdrawalRequest
  | cancelOwnedWithdrawal actor id => exact hKeep hUnrated.cancelOwnedWithdrawal
  | claimWithdrawalSigningJob locked key => exact hKeep keepsRatings_claimWithdrawalSigningJob
  | recordWithdrawalSubmission id signature =>
      refine hKeep (Keeps.get.bind fun _ => keeps_require.bind fun _ => ?_)
      exact keepsRatings_modifyBooks fun _ => rfl
  | failWithdrawalSubmission id => exact hKeep keepsRatings_markWithdrawalFailed
  | confirmWithdrawal accountId id => exact hKeep (hUnrated.confirmWithdrawal (by simp))
  | environment usage now => exact h.left (.of_ledger rfl rfl rfl (Nat.le_refl _))

theorem accrues_emptyDb {usage : UsageTables} {now : Timestamp} : Accrues (emptyDb usage now) := by
  refine ⟨fun a => ?_, fun a => ?_, fun a => ?_, fun id hKey => ?_, fun r hr => ?_⟩
  · simp [BillingDb.postedMinor, BillingDb.chargedMicrominor, emptyDb, zeroAmount]
  · exact (by decide : (0 : Int) < microminorPerMinor)
  · simp [BillingDb.postedMinor, Books.usageChargesMinor, emptyDb]
  · cases hKey
  · cases hr

theorem accrues_after {ops : List BillingOp} (h : Accrues db)
    (hOps : ∀ op ∈ ops, RatesOnlyUsage op) : Accrues (db.after ops) := by
  have hMeet : StepsMeet step (fun _ op => RatesOnlyUsage op) db ops :=
    stepsMeet_of_forall fun op hOp _ => hOps op hOp
  refine run_invariant_of_stepsMeet ?_ h run_step hMeet
  intro d op d' hd hOp hStep
  cases hStep
  exact BillingOp.apply_accrues hOp hd

/-- Over any stretch of a history the enforced ratings of an account post what they charge, up to
what the accrual carried in and carries on, which is less than a minor unit; the ledger shows
the postings. And usage that is rated in `k` parts at one price is charged at most what the whole
is, and at most `2 (k - 1)` millionths less. -/
theorem charges_add_up {usage : UsageTables} {now : Timestamp} {before ops : List BillingOp}
    (hOps : ∀ op ∈ before ++ ops, RatesOnlyUsage op) {monthly perGb : Int}
    {parts : List UsagePart} (hParts : parts ≠ []) (hUsage : ∀ p ∈ parts, p.Nonnegative) :
    (let db := (emptyDb usage now).after before
     let db' := db.after ops
     microminorPerMinor * (db'.postedMinor a - db.postedMinor a) + (db'.accruals a).val =
         (db.accruals a).val + (db'.chargedMicrominor a - db.chargedMicrominor a) ∧
       0 ≤ (db'.accruals a).val ∧ (db'.accruals a).val < microminorPerMinor ∧
       db'.books.usageChargesMinor a = db'.postedMinor a) ∧
    (parts.map (UsagePart.charge monthly perGb)).sum ≤
        (UsagePart.whole parts).charge monthly perGb ∧
      (UsagePart.whole parts).charge monthly perGb - 2 * (parts.length - 1) ≤
        (parts.map (UsagePart.charge monthly perGb)).sum := by
  constructor
  · intro db db'
    have hBefore : Accrues db :=
      accrues_after accrues_emptyDb fun op hOp => hOps op (List.mem_append_left _ hOp)
    have hAfter : Accrues db' :=
      accrues_after hBefore fun op hOp => hOps op (List.mem_append_right _ hOp)
    refine ⟨?_, (db'.accruals a).2.1, hAfter.remainder_lt a, hAfter.entered a⟩
    linear_combination hAfter.conserved a - hBefore.conserved a
  · cases parts with
    | nil => exact absurd rfl hParts
    | cons p rest =>
        have hRest : ∀ q ∈ rest, q.Nonnegative := fun q hq => hUsage q (List.mem_cons_of_mem _ hq)
        obtain ⟨hLower, hUpper⟩ := UsagePart.charge_whole (hUsage p List.mem_cons_self) hRest
        rw [List.length_cons]
        push_cast
        exact ⟨hLower, by linarith⟩

/-- An hour of a config at fifty cents a month. -/
def ratedHour (hour : Nat) : RetailRatingCandidate where
  accountId := 1
  sessionId := 3
  planVersionId := 1
  activeConfigMonthlyMinor := 50
  trafficPerGbMinor := 10
  windowStart := hour * 3600000000
  windowEnd := (hour + 1) * 3600000000
  activeSeconds := 3600
  bytesToDestination := 60000000
  bytesFromDestination := 25000000

def enforcedRetail : RetailBillingRuntimeConfig where
  mode := .enforce
  settlementLagSeconds := 60
  batchSize := 100
  tokenMint := 1
  tokenBaseUnitsPerBillingMinor := 10000

/-- Two hours, the later one rated first. -/
theorem charges_add_up_two_hours :
    (let db := (emptyDb pilotAccount 0).after []
     let db' := db.after [.settleRatingCandidate (ratedHour 1) enforcedRetail,
       .settleRatingCandidate (ratedHour 0) enforcedRetail]
     microminorPerMinor * (db'.postedMinor 1 - db.postedMinor 1) + (db'.accruals 1).val =
         (db.accruals 1).val + (db'.chargedMicrominor 1 - db.chargedMicrominor 1) ∧
       0 ≤ (db'.accruals 1).val ∧ (db'.accruals 1).val < microminorPerMinor ∧
       db'.books.usageChargesMinor 1 = db'.postedMinor 1) ∧
    (([⟨3600, 60000000, 0⟩, ⟨3600, 0, 1⟩] : List UsagePart).map (UsagePart.charge 50 10)).sum ≤
        (UsagePart.whole [⟨3600, 60000000, 0⟩, ⟨3600, 0, 1⟩]).charge 50 10 ∧
      (UsagePart.whole [⟨3600, 60000000, 0⟩, ⟨3600, 0, 1⟩]).charge 50 10 -
          2 * (([⟨3600, 60000000, 0⟩, ⟨3600, 0, 1⟩] : List UsagePart).length - 1) ≤
        (([⟨3600, 60000000, 0⟩, ⟨3600, 0, 1⟩] : List UsagePart).map (UsagePart.charge 50 10)).sum :=
  charges_add_up (by simp [RatesOnlyUsage]) (by simp) (by decide)

end

end Hyperspace.Billing
