import Hyperspace.Billing.DatabaseSpecs
import Hyperspace.Rating.Settlement

/-!
# What the settlement transactions do

Settling a candidate inserts one rating or none, and may open the pilot plan of the account. A
listed candidate comes from one session, its egress assignment, one plan assignment of its account
and that assignment's plan.
-/

namespace Hyperspace.Rating

open Hyperspace.Billing Hyperspace.ControlPlane Hyperspace.Foundations

/-! ### Ratings -/

/-- The columns of a rating that the insert gives it. -/
def ratedInput (r : RetailUsageRating) : RatingInput where
  accountId := r.accountId
  sessionId := r.sessionId
  planVersionId := r.planVersionId
  windowStart := r.windowStart
  windowEnd := r.windowEnd
  activeSeconds := r.activeSeconds
  bytesToDestination := r.bytesToDestination
  bytesFromDestination := r.bytesFromDestination
  chargeMicrominor := r.chargeMicrominor
  mode := r.mode

def ratedInputs (db : BillingDb) : List RatingInput := db.ratings.rows.map ratedInput

def inputKey (input : RatingInput) : SessionId × Timestamp × Timestamp :=
  (input.sessionId, input.windowStart, input.windowEnd)

/-- What a transaction of an account does to the tables the listing reads. -/
structure RatingsChange (accountId : AccountId) (inserted : List RatingInput)
    (db db' : BillingDb) : Prop where
  ratings : ratedInputs db' = ratedInputs db ++ inserted
  usage : db'.usage = db.usage ∨
    accountId ∈ db.usage.accounts ∧ db'.usage = db.usage.ensureOpenPlan accountId db.now
  now : db'.now = db.now

section

variable {db db' db'' : BillingDb} {a : AccountId} {input : RatingInput}

theorem map_inputKey : (ratedInputs db).map inputKey = db.ratings.rows.map RetailUsageRating.key :=
  List.map_map

theorem mem_ratedEnds {sessionId : SessionId} {planVersionId : Identifier} {t : Timestamp} :
    t ∈ ratedEnds db sessionId planVersionId ↔ ∃ i ∈ ratedInputs db,
      i.sessionId = sessionId ∧ i.planVersionId = planVersionId ∧ i.windowEnd = t := by
  simp only [ratedEnds, ratedInputs, List.mem_map, List.mem_filter, Bool.and_eq_true,
    decide_eq_true_eq]
  constructor
  · rintro ⟨r, ⟨hr, hSession, hPlan⟩, rfl⟩
    exact ⟨_, ⟨r, hr, rfl⟩, hSession, hPlan, rfl⟩
  · rintro ⟨_, ⟨r, hr, rfl⟩, hSession, hPlan, rfl⟩
    exact ⟨r, ⟨hr, hSession, hPlan⟩, rfl⟩

theorem account_of_lockBillingAccrual {r : Int × BillingDb} (h : lockBillingAccrual a db = .ok r) :
    a ∈ db.usage.accounts := by
  simp only [lockBillingAccrual, bind_eq_ok] at h
  obtain ⟨_, _, hEnsure, -⟩ := h
  exact (ensurePrepaidBillingState_spec hEnsure).1

theorem account_of_readBillingBuckets {r : BillingBucketsRow × BillingDb}
    (h : readBillingBuckets a db = .ok r) : a ∈ db.usage.accounts := by
  simp only [readBillingBuckets, bind_eq_ok] at h
  obtain ⟨_, _, hEnsure, -⟩ := h
  exact (ensurePrepaidBillingState_spec hEnsure).1

theorem ensureOpenPlan_idem {usage : UsageTables} {now : Timestamp} :
    (usage.ensureOpenPlan a now).ensureOpenPlan a now = usage.ensureOpenPlan a now := by
  cases hOpen : usage.openPlanAssignment a with
  | some p =>
      have hSame : usage.ensureOpenPlan a now = usage := by
        simp only [UsageTables.ensureOpenPlan, hOpen]
      rw [hSame, hSame]
  | none =>
      cases hPilot : usage.pilotPlan with
      | none =>
          have hSame : usage.ensureOpenPlan a now = usage := by
            simp only [UsageTables.ensureOpenPlan, hOpen, hPilot]
          rw [hSame, hSame]
      | some pilot =>
          have hOpened : usage.ensureOpenPlan a now = { usage with
              planAssignments := usage.planAssignments ++ [⟨a, pilot.id, now, none⟩] } := by
            simp only [UsageTables.ensureOpenPlan, hOpen, hPilot]
          have hNow : (usage.ensureOpenPlan a now).openPlanAssignment a =
              some ⟨a, pilot.id, now, none⟩ := by
            rw [UsageTables.openPlanAssignment] at hOpen
            rw [hOpened, UsageTables.openPlanAssignment, List.find?_append, hOpen]
            simp
          generalize usage.ensureOpenPlan a now = opened at hNow
          simp only [UsageTables.ensureOpenPlan, hNow]

theorem RatingsChange.refl : RatingsChange a [] db db := ⟨(List.append_nil _).symm, .inl rfl, rfl⟩

theorem RatingsChange.ensureOpenPlan (hAccount : a ∈ db.usage.accounts) :
    RatingsChange a [] db { db with usage := db.usage.ensureOpenPlan a db.now } :=
  ⟨(List.append_nil _).symm, .inr ⟨hAccount, rfl⟩, rfl⟩

theorem RatingsChange.trans {xs ys : List RatingInput} (h : RatingsChange a xs db db')
    (h' : RatingsChange a ys db' db'') : RatingsChange a (xs ++ ys) db db'' := by
  refine ⟨?_, ?_, h'.now.trans h.now⟩
  · rw [h'.ratings, h.ratings, List.append_assoc]
  · rcases h'.usage with hSame | hOpened
    · rw [hSame]
      exact h.usage
    · obtain ⟨hAccount, hOpened⟩ := hOpened
      rw [hOpened, h.now]
      rcases h.usage with hSame | ⟨hBefore, hEnsured⟩
      · rw [hSame] at hAccount ⊢
        exact .inr ⟨hAccount, rfl⟩
      · rw [hEnsured, ensureOpenPlan_idem]
        exact .inr ⟨hBefore, rfl⟩

theorem RatingsChange.of_eq (hRatings : ratedInputs db' = ratedInputs db)
    (hUsage : db'.usage = db.usage) (hNow : db'.now = db.now) : RatingsChange a [] db db' :=
  ⟨hRatings.trans (List.append_nil _).symm, .inl hUsage, hNow⟩

theorem ratedInputs_markRatingPosted {id : Identifier} {n : Int} {r : Unit × BillingDb}
    (h : markRatingPosted id n db = .ok r) : RatingsChange a [] db r.2 := by
  rw [markRatingPosted, modify_eq_ok] at h
  subst h
  refine .of_eq ?_ rfl rfl
  simp only [ratedInputs, Table.modify, List.map_map]
  refine List.map_congr_left fun r _ => ?_
  simp only [Function.comp_apply]
  split
  all_goals rfl

theorem ratedInputs_postRatedCharge {candidate : RetailRatingCandidate}
    {config : RetailBillingRuntimeConfig} {ratingId : Identifier} {n posted : Int}
    (h : postRatedCharge candidate config ratingId n db = .ok (posted, db')) :
    RatingsChange candidate.accountId [] db db' := by
  simp only [postRatedCharge, bind_eq_ok] at h
  obtain ⟨buckets, db₁, hBuckets, inserted, db₂, hLedger, h⟩ := h
  have hAccount := account_of_readBillingBuckets hBuckets
  obtain ⟨hr, -⟩ := readBillingBuckets_spec hBuckets
  cases hr
  have hOpened : RatingsChange candidate.accountId [] db _ := .ensureOpenPlan hAccount
  refine @RatingsChange.trans _ _ _ _ [] _ hOpened ?_
  rcases insertLedgerEntry_spec hLedger with ⟨hr, -⟩ | ⟨ledger, -, hr⟩
  · cases hr
    rw [if_neg (by decide), pure_eq_ok] at h
    cases h
    exact .refl
  · cases hr
    rw [if_pos rfl] at h
    simp only [bind_eq_ok] at h
    obtain ⟨_, db₃, hWrite, _, db₄, hSweep, _, db₅, hPosted, h⟩ := h
    obtain ⟨hValid, hr⟩ := writeBillingBuckets_spec hWrite
    cases hr
    obtain ⟨sweeps, -, hr⟩ := insertCashSweepRequest_spec hSweep
    cases hr
    cases pure_eq_ok.1 h
    have hMarked : RatingsChange candidate.accountId [] _ _ :=
      ratedInputs_markRatingPosted hPosted
    exact ⟨hMarked.ratings, hMarked.usage, hMarked.now⟩

theorem ratedInputs_insert {ratings : Table RetailUsageRating.key} {id : Identifier}
    {hValid : input.Valid} (h : db.ratings.insert (input.toRating id hValid) = some ratings) :
    inputKey input ∉ (ratedInputs db).map inputKey ∧
      ratings.rows.map ratedInput = ratedInputs db ++ [input] := by
  obtain ⟨hFree, hRows⟩ := Table.insert_eq_some h
  rw [map_inputKey]
  exact ⟨hFree, by rw [hRows, List.map_append, List.map_singleton]; rfl⟩

/-- Settling a candidate inserts its rating, unless the same window is rated already. -/
theorem settleRatingCandidate_change {candidate : RetailRatingCandidate}
    {config : RetailBillingRuntimeConfig} {posted : Option Int}
    (h : settleRatingCandidate candidate config db = .ok (posted, db')) :
    RatingsChange candidate.accountId [] db db' ∧ posted = none ∨
      RatingsChange candidate.accountId [candidate.toRatingInput config.mode] db db' ∧
        posted.isSome ∧ (candidate.toRatingInput config.mode).Valid ∧
        inputKey (candidate.toRatingInput config.mode) ∉ (ratedInputs db).map inputKey := by
  simp only [settleRatingCandidate, bind_eq_ok] at h
  obtain ⟨rating, db₁, hRating, h⟩ := h
  obtain ⟨hValid, hr | ⟨ratings, hInsert, hr⟩⟩ := insertRetailUsageRating_spec hRating
  · cases hr
    cases pure_eq_ok.1 h
    exact .inl ⟨.of_eq rfl rfl rfl, rfl⟩
  · cases hr
    obtain ⟨hFree, hRows⟩ := ratedInputs_insert hInsert
    have hInserted : RatingsChange candidate.accountId [candidate.toRatingInput config.mode] db
        { db with ratings, nextId := db.nextId + 1 } := ⟨hRows, .inl rfl, rfl⟩
    suffices hSuffices : RatingsChange candidate.accountId []
        { db with ratings, nextId := db.nextId + 1 } db' ∧ posted.isSome by
      exact .inr ⟨hInserted.trans hSuffices.1, hSuffices.2, hValid, hFree⟩
    simp only at h
    split at h
    · cases pure_eq_ok.1 h
      exact ⟨.refl, rfl⟩
    · simp only [bind_eq_ok] at h
      obtain ⟨remainder, db₂, hLock, _, db₃, hAccrual, h⟩ := h
      have hAccount := account_of_lockBillingAccrual hLock
      cases lockBillingAccrual_spec hLock
      obtain ⟨hRemainder, hr⟩ := updateBillingAccrual_spec hAccrual
      cases hr
      have hLocked : RatingsChange candidate.accountId []
          { db with ratings, nextId := db.nextId + 1 } _ := .ensureOpenPlan hAccount
      split at h
      · cases pure_eq_ok.1 h
        exact ⟨⟨hLocked.ratings, hLocked.usage, hLocked.now⟩, rfl⟩
      · simp only [bind_eq_ok, pure_eq_ok] at h
        obtain ⟨n, db₄, hPost, h⟩ := h
        cases h
        have hPosted := ratedInputs_postRatedCharge hPost
        exact ⟨hLocked.trans ⟨hPosted.ratings, hPosted.usage, hPosted.now⟩, rfl⟩

theorem ensurePrepaidBillingState_change {r : Unit × BillingDb}
    (h : ensurePrepaidBillingState a db = .ok r) : RatingsChange a [] db r.2 := by
  obtain ⟨hAccount, rfl⟩ := ensurePrepaidBillingState_spec h
  exact .ensureOpenPlan hAccount

theorem assignBillingPlan_spec {planCode : String} {planVersion : Int} {r : Unit × BillingDb}
    (h : assignBillingPlan a planCode planVersion db = .ok r) :
    ∃ plan ∈ db.usage.planVersions, a ∈ db.usage.accounts ∧
      (∀ p ∈ db.usage.planAssignments, p.accountId = a → p.endsAt = none → p.startsAt < db.now) ∧
      r.2 = { db with
        usage := { db.usage with
          planAssignments := db.usage.planAssignments.map (closePlan a db.now) ++
            [(⟨a, plan.id, db.now, none⟩ : PlanAssignment)] } } := by
  simp only [assignBillingPlan, bind_eq_ok, get_eq_ok] at h
  obtain ⟨_, _, hGet, h⟩ := h
  cases hGet
  generalize hPlan : db.usage.planVersions.find? _ = found at h
  cases found with
  | none => simp at h
  | some plan =>
      simp only [bind_eq_ok, require_eq_ok, set_eq_ok] at h
      obtain ⟨_, _, ⟨hStarted, hr₁⟩, _, _, ⟨hAccount, hr₂⟩, h⟩ := h
      cases hr₁
      cases hr₂
      subst h
      exact ⟨plan, List.mem_of_find?_eq_some hPlan, hAccount, hStarted, rfl⟩

end

/-! ### Candidates -/

section

variable {db : BillingDb} {cutoff : Timestamp}

theorem mem_candidateWindows {w : CandidateWindow} :
    w ∈ candidateWindows db cutoff ↔ ∃ session ∈ db.usage.sessions,
      ∃ assignment ∈ db.usage.assignments, ∃ planAssignment ∈ db.usage.planAssignments,
      ∃ plan ∈ db.usage.planVersions, ∃ appliedAt,
        Joined cutoff appliedAt session assignment planAssignment plan ∧
        w = candidateWindow db cutoff appliedAt session assignment planAssignment plan := by
  simp only [candidateWindows, List.mem_flatMap, List.mem_filterMap, Option.bind_eq_some_iff]
  constructor
  · rintro ⟨session, hSession, a, ha, p, hp, plan, hPlan, appliedAt, hApplied, hw⟩
    split at hw
    · rename_i hJoined
      cases hw
      exact ⟨session, hSession, a, ha, p, hp, plan, hPlan, appliedAt, hJoined, rfl⟩
    · cases hw
  · rintro ⟨session, hSession, a, ha, p, hp, plan, hPlan, appliedAt, hJoined, rfl⟩
    exact ⟨session, hSession, a, ha, p, hp, plan, hPlan, appliedAt, hJoined.applied,
      if_pos hJoined⟩

theorem mem_ratingCandidates {c : ListedCandidate} :
    c ∈ ratingCandidates db cutoff ↔ c.toCandidateWindow ∈ candidateWindows db cutoff ∧
      c.windowStart < c.windowEnd ∧
      c.deltas = db.usage.usageDeltas.filter fun delta => c.Covers delta := by
  simp only [ratingCandidates, List.mem_map, List.mem_filter, decide_eq_true_eq]
  constructor
  · rintro ⟨w, ⟨hw, hNonempty⟩, rfl⟩
    exact ⟨hw, hNonempty, rfl⟩
  · rintro ⟨hw, hNonempty, hDeltas⟩
    refine ⟨_, ⟨hw, hNonempty⟩, ?_⟩
    rw [← hDeltas]

theorem listRetailRatingCandidates_spec {limit : Nat} {listed : List ListedCandidate}
    {db' : BillingDb} (h : listRetailRatingCandidates cutoff limit db = .ok (listed, db')) :
    ∀ c ∈ listed, c ∈ ratingCandidates db cutoff := by
  simp only [listRetailRatingCandidates, bind_eq_ok, get_eq_ok, require_eq_ok, pure_eq_ok] at h
  obtain ⟨_, _, hGet, _, _, ⟨-, hr⟩, h⟩ := h
  cases hGet
  cases hr
  cases h
  intro c hc
  exact (List.mem_insertionSort _).1 (List.mem_of_mem_take hc)

theorem le_foldl_max {xs : List Int} {x : Int} :
    x ≤ xs.foldl max x ∧ ∀ y ∈ xs, y ≤ xs.foldl max x := by
  induction xs generalizing x with
  | nil => exact ⟨le_rfl, fun y hy => by cases hy⟩
  | cons z xs ih =>
      obtain ⟨hInit, hRest⟩ := @ih (max x z)
      refine ⟨(le_max_left x z).trans hInit, fun y hy => ?_⟩
      rcases List.mem_cons.1 hy with rfl | hy
      · exact (le_max_right x y).trans hInit
      · exact hRest y hy

theorem least_le_left {t : Timestamp} {bound : Option Timestamp} : least t bound ≤ t := by
  cases bound with
  | none => exact le_rfl
  | some b => exact min_le_left t b

theorem least_le_right {t b : Timestamp} {bound : Option Timestamp} (h : b ∈ bound) :
    least t bound ≤ b := by
  cases h
  exact min_le_right t b

theorem least_eq {t : Timestamp} {bound : Option Timestamp} :
    least t bound = t ∨ bound = some (least t bound) := by
  cases bound with
  | none => exact .inl rfl
  | some b =>
      rcases min_choice t b with h | h
      · exact .inl h
      · exact .inr (congrArg some h.symm)

theorem jsDate_mono : Monotone jsDate := ediv_mul_mono 1000

theorem jsDate_le {t : Timestamp} : jsDate t ≤ t := Int.ediv_mul_le t (by decide)

theorem jsDate_idem {t : Timestamp} : jsDate (jsDate t) = jsDate t := by
  rw [jsDate, jsDate, Int.mul_ediv_cancel _ (by decide)]

end

end Hyperspace.Rating
