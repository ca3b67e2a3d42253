import Hyperspace.Rating.RatedOnce
import Hyperspace.Rating.SettlementProgress

/-!
# Settlement never wedges

The stored end of a window has whole milliseconds, the end it was computed from may have
microseconds. The remainder is listed again, and its window is empty once it is rounded: the insert
violates `CHECK (window_end > window_start)`, and as the oldest candidate it ends every later run.
Where all ends have whole milliseconds, every candidate can be inserted and every run gets through.
-/

namespace Hyperspace.Rating

open Hyperspace.Billing Hyperspace.ControlPlane Hyperspace.Foundations

/-- The numbers of a candidate fit their columns. -/
def ListedCandidate.Fits (c : ListedCandidate) : Prop :=
  FitsInt c.activeSeconds ∧ FitsBigint c.toRow.bytesToDestination ∧
    FitsBigint c.toRow.bytesFromDestination ∧ FitsBigint c.toRow.chargeMicrominor

instance (c : ListedCandidate) : Decidable c.Fits := inferInstanceAs (Decidable (_ ∧ _))

/-- The prices of the plans, and the seconds since an assignment was applied, fit an `int`. -/
def ListingFits (usage : UsageTables) (cutoff : Timestamp) : Prop :=
  (∀ v ∈ usage.planVersions, FitsInt v.activeConfigMonthlyMinor ∧ FitsInt v.trafficPerGbMinor) ∧
    ∀ a ∈ usage.assignments, ∀ t ∈ a.appliedAt, cutoff - t < 2 ^ 31 * 1000000

instance (usage : UsageTables) (cutoff : Timestamp) : Decidable (ListingFits usage cutoff) :=
  inferInstanceAs (Decidable ((∀ v ∈ usage.planVersions,
    FitsInt v.activeConfigMonthlyMinor ∧ FitsInt v.trafficPerGbMinor) ∧
    ∀ a ∈ usage.assignments, ∀ t ∈ a.appliedAt, cutoff - t < 2 ^ 31 * 1000000))

/-- What ends a window ends it at a whole millisecond, and no number is too large. -/
def PreciseStep (s : RatingState) : RatingEvent → Prop
  | .reportRevoked assignmentId =>
    (∃ a ∈ s.db.usage.assignments, a.id = assignmentId ∧ a.role = .egress) →
      jsDate s.clock = s.clock
  | .assignBillingPlan accountId _ _ =>
    (∃ p ∈ s.db.usage.planAssignments, p.accountId = accountId ∧ p.endsAt = none) →
      jsDate s.clock = s.clock
  | .settleRetailBilling _ config now => ListingFits s.db.usage (settlementCutoff config now)
  | .settleNext run => ∀ c ∈ (s.runs run).step.next, c.Fits ∧
      BalancesFit s.db c.accountId (s.runs run).config
  | _ => True

instance (s : RatingState) : (event : RatingEvent) → Decidable (PreciseStep s event)
  | .reportRevoked assignmentId =>
    inferInstanceAs (Decidable ((∃ a ∈ s.db.usage.assignments,
      a.id = assignmentId ∧ a.role = .egress) → jsDate s.clock = s.clock))
  | .assignBillingPlan accountId _ _ =>
    inferInstanceAs (Decidable ((∃ p ∈ s.db.usage.planAssignments,
      p.accountId = accountId ∧ p.endsAt = none) → jsDate s.clock = s.clock))
  | .settleRetailBilling _ config now =>
    inferInstanceAs (Decidable (ListingFits s.db.usage (settlementCutoff config now)))
  | .settleNext run =>
    inferInstanceAs (Decidable (∀ c ∈ (s.runs run).step.next, c.Fits ∧
      BalancesFit s.db c.accountId (s.runs run).config))
  | .openAccount _ | .createPlan _ | .readBilling _ | .moveMoney _ | .openSession _
  | .assignGate _ _ _ | .reportApplied _ | .recordUsage _ | .reconciled _ | .timePasses _ =>
    inferInstanceAs (Decidable True)

/-- All ends of plans and egress assignments have whole milliseconds. -/
structure PreciseUsage (usage : UsageTables) : Prop where
  plans : ∀ p ∈ usage.planAssignments, ∀ endsAt ∈ p.endsAt, jsDate endsAt = endsAt
  assignments : ∀ a ∈ usage.assignments, a.role = .egress →
    ∀ revokedAt ∈ a.revokedAt, jsDate revokedAt = revokedAt

/-- What the constraints of `retail_usage_ratings` ask of a candidate, apart from the ranges. -/
structure Insertable (usage : UsageTables) (c : ListedCandidate) : Prop where
  window : jsDate c.windowStart < jsDate c.windowEnd
  seconds : 0 ≤ c.activeSeconds
  bytes : 0 ≤ c.toRow.bytesToDestination ∧ 0 ≤ c.toRow.bytesFromDestination
  rows : Referenced usage c.accountId c.sessionId c.planVersionId

/-- A run has not failed, and will not on a candidate it still has to settle. -/
structure RunPrecise (usage : UsageTables) (r : SettlementRun) : Prop where
  unfailed : r.step ≠ .failed
  remaining : ∀ remaining, r.step = .settling remaining → ∀ c ∈ remaining, Insertable usage c

/-- The windows end at whole milliseconds, in the tables and in the runs. -/
structure PreciseInv (s : RatingState) : Prop where
  usage : UsageInv s.db.usage s.clock
  precise : PreciseUsage s.db.usage
  runs : ∀ run, RunPrecise s.db.usage (s.runs run)

/-! ### Candidates -/

section

variable {db : BillingDb} {cutoff : Timestamp} {c : ListedCandidate} {usage usage' : UsageTables}
  {a : AccountId} {now : Timestamp}

theorem bytesOf_nonneg {delta : UsageDelta} {n : Nat} (hNonempty : c.windowStart < c.windowEnd)
    (hCovers : c.Covers delta) : 0 ≤ c.bytesOf delta n := by
  rcases lt_trichotomy delta.windowStart delta.windowEnd with hForward | hEqual | hBackward
  · rw [bytesOf_forward hForward hNonempty hCovers]
    exact Int.ediv_nonneg (mul_nonneg (Int.natCast_nonneg n) overlap_nonneg) (sub_pos.2 hForward).le
  · have hDuration : delta.windowEnd - delta.windowStart = 0 := sub_eq_zero.2 hEqual.symm
    exact (if_pos hDuration).ge
  · rw [bytesOf_backward hBackward hCovers]
    exact Int.natCast_nonneg n

theorem PreciseUsage.insertable (h : PreciseUsage db.usage) {clock : Timestamp}
    (hUsage : UsageInv db.usage clock) (hWhole : jsDate cutoff = cutoff)
    (hc : c ∈ ratingCandidates db cutoff) : Insertable db.usage c := by
  obtain ⟨hWindow, hNonempty, hDeltas⟩ := mem_ratingCandidates.1 hc
  obtain ⟨session, hSession, a, ha, p, hp, plan, hPlan, appliedAt, hJoined, hw⟩ :=
    mem_candidateWindows.1 hWindow
  have hCovers : ∀ delta ∈ c.deltas, c.Covers delta := by
    intro delta hDelta
    rw [hDeltas] at hDelta
    exact of_decide_eq_true (List.mem_filter.1 hDelta).2
  have hEnd : jsDate c.windowEnd = c.windowEnd := by
    rcases windowEnd_cases hw with hCutoff | hEnds | hRevoked
    · rw [hCutoff, hWhole]
    · exact h.plans p hp _ hEnds
    · exact h.assignments a ha hJoined.egress _ hRevoked
  have hSeconds : 0 ≤ c.activeSeconds :=
    Int.ediv_nonneg (sub_nonneg.2 hNonempty.le) (by decide)
  have hSum : ∀ bytes : UsageDelta → Nat,
      0 ≤ (c.deltas.map fun delta => c.bytesOf delta (bytes delta)).sum := by
    intro bytes
    refine List.sum_nonneg fun x hx => ?_
    obtain ⟨delta, hDelta, rfl⟩ := List.mem_map.1 hx
    exact bytesOf_nonneg hNonempty (hCovers delta hDelta)
  refine ⟨?_, hSeconds, ⟨hSum _, hSum _⟩, ?_⟩
  · rw [hEnd]
    exact jsDate_le.trans_lt hNonempty
  · rw [hw]
    exact ⟨hUsage.accounts p hp, ⟨session, hSession, rfl⟩, plan, hPlan, rfl⟩

theorem Insertable.valid (h : Insertable usage c) (hFits : c.Fits) {mode : RatingMode} :
    (c.toRow.toRatingInput mode).Valid where
  window_nonempty := h.window
  activeSeconds_valid := ⟨h.seconds, hFits.1⟩
  bytes_valid := ⟨⟨h.bytes.1, hFits.2.1⟩, h.bytes.2, hFits.2.2.1⟩
  charge_valid := ⟨calculateRetailChargeMicrominor_nonneg, hFits.2.2.2⟩

theorem Insertable.grows (h : Insertable usage c) (hGrows : UsageGrows now usage usage') :
    Insertable usage' c := by
  obtain ⟨hAccount, ⟨x, hx, hSession⟩, v, hv, hPlan⟩ := h.rows
  exact ⟨h.window, h.seconds, h.bytes, hGrows.accounts _ hAccount,
    ⟨x, hGrows.sessions x hx, hSession⟩, v, hGrows.versions v hv, hPlan⟩

theorem listRetailRatingCandidates_ok {limit : Nat} (hFits : ListingFits db.usage cutoff) :
    ∃ listed, listRetailRatingCandidates cutoff limit db = .ok (listed, db) := by
  have hCasts : ∀ c ∈ ratingCandidates db cutoff, FitsInt c.activeConfigMonthlyMinor ∧
      FitsInt c.trafficPerGbMinor ∧ FitsInt c.activeSeconds := by
    intro c hc
    obtain ⟨hWindow, hNonempty, -⟩ := mem_ratingCandidates.1 hc
    obtain ⟨session, hSession, a, ha, p, hp, plan, hPlan, appliedAt, hJoined, hw⟩ :=
      mem_candidateWindows.1 hWindow
    have hLength : c.windowEnd - c.windowStart ≤ cutoff - appliedAt := by
      rw [hw]
      refine sub_le_sub (least_le_left.trans least_le_left) ?_
      exact (le_max_right _ _).trans le_foldl_max.1
    have hShort := hFits.2 a ha appliedAt hJoined.applied
    have hPositive : 0 < c.windowEnd - c.windowStart := sub_pos.2 hNonempty
    have hPrices := hFits.1 plan hPlan
    refine ⟨?_, ?_, ?_⟩
    · rw [hw]
      exact hPrices.1
    · rw [hw]
      exact hPrices.2
    · simp only [CandidateWindow.activeSeconds]
      generalize c.windowEnd - c.windowStart = length at hLength hPositive
      have hSeconds : 0 ≤ length / 1000000 := Int.ediv_nonneg hPositive.le (by decide)
      have hBound : length / 1000000 < 2 ^ 31 :=
        Int.ediv_lt_of_lt_mul (by decide) (hLength.trans_lt hShort)
      have hLow : (-2 ^ 31 : Int) ≤ 0 := by decide
      exact ⟨hLow.trans hSeconds, hBound⟩
  rw [listRetailRatingCandidates, bind_of_ok (get_eq_ok.2 rfl), bind_of_ok (require_of hCasts)]
  exact ⟨_, rfl⟩

/-! ### Ends of plans and assignments -/

theorem PreciseUsage.appendPlan (h : PreciseUsage usage) {planVersionId : Identifier} :
    PreciseUsage { usage with
      planAssignments := usage.planAssignments ++ [⟨a, planVersionId, now, none⟩] } := by
  refine { h with plans := fun p hp endsAt hEnds => ?_ }
  rcases List.mem_append.1 hp with hp | hp
  · exact h.plans p hp endsAt hEnds
  · cases List.mem_singleton.1 hp
    cases hEnds

theorem PreciseUsage.closePlans (h : PreciseUsage usage)
    (hWhole : (∃ p ∈ usage.planAssignments, p.accountId = a ∧ p.endsAt = none) →
      jsDate now = now) :
    PreciseUsage { usage with
      planAssignments := usage.planAssignments.map (closePlan a now) } := by
  refine { h with plans := fun p hp endsAt hEnds => ?_ }
  obtain ⟨q, hq, rfl⟩ := List.mem_map.1 hp
  rw [closePlan] at hEnds
  split at hEnds
  · rename_i hOpen
    cases hEnds
    exact hWhole ⟨q, hq, hOpen⟩
  · exact h.plans q hq endsAt hEnds

theorem PreciseUsage.of_change (h : PreciseUsage usage) {inserted : List RatingInput}
    {db' : BillingDb} (hChange : RatingsChange a inserted db db') (hUsage : db.usage = usage) :
    PreciseUsage db'.usage := by
  subst hUsage
  rcases hChange.usage with hSame | ⟨-, hOpened⟩
  · rw [hSame]
    exact h
  · rw [hOpened]
    rcases @ensureOpenPlan_spec db.usage db.now a with hSame | ⟨-, pilot, hAppended⟩
    · rw [hSame]
      exact h
    · rw [hAppended]
      exact h.appendPlan

end

/-! ### Steps -/

section

variable {s s' : RatingState} {event : RatingEvent}

theorem PreciseUsage.step (h : PreciseUsage s.db.usage) (hPrecise : PreciseStep s event)
    (hStep : step s event = some s') : PreciseUsage s'.db.usage := by
  cases event with
  | openAccount accountId =>
      simp only [Rating.step] at hStep
      split at hStep
      · split at hStep
        · cases hStep
          exact ⟨h.appendPlan.plans, h.assignments⟩
        · cases hStep
      · cases hStep
  | assignBillingPlan accountId planCode planVersion =>
      cases hStep
      rcases @transaction_cases _ (Rating.assignBillingPlan accountId planCode planVersion)
        s.database with ⟨e, hError⟩ | ⟨_, db, hBody, hCommit⟩
      · rw [hError]
        exact h
      · obtain ⟨plan, -, -, -, hdb⟩ := assignBillingPlan_spec hBody
        simp only at hdb
        rw [hCommit, hdb]
        exact (h.closePlans hPrecise).appendPlan
  | readBilling accountId =>
      cases hStep
      rcases @transaction_cases _ (ensurePrepaidBillingState accountId) s.database with
        ⟨e, hError⟩ | ⟨_, db, hBody, hCommit⟩
      · rw [hError]
        exact h
      · rw [hCommit]
        exact h.of_change (ensurePrepaidBillingState_change hBody) rfl
  | assignGate id sessionId role =>
      simp only [Rating.step] at hStep
      split at hStep
      · cases hStep
      · cases hStep
        refine { h with assignments := fun a ha hRole revokedAt hRevoked => ?_ }
        rcases List.mem_append.1 ha with ha | ha
        · exact h.assignments a ha hRole revokedAt hRevoked
        · cases List.mem_singleton.1 ha
          cases hRevoked
  | reportApplied assignmentId =>
      cases hStep
      refine { h with assignments := fun a ha hRole revokedAt hRevoked => ?_ }
      obtain ⟨b, hb, rfl⟩ := List.mem_map.1 ha
      by_cases hId : b.id = assignmentId
      · rw [if_pos hId] at hRole hRevoked
        exact h.assignments b hb hRole revokedAt hRevoked
      · rw [if_neg hId] at hRole hRevoked
        exact h.assignments b hb hRole revokedAt hRevoked
  | reportRevoked assignmentId =>
      cases hStep
      refine { h with assignments := fun a ha hRole revokedAt hRevoked => ?_ }
      obtain ⟨b, hb, rfl⟩ := List.mem_map.1 ha
      by_cases hId : b.id = assignmentId
      · rw [if_pos hId] at hRole hRevoked
        cases hRevoked
        exact hPrecise ⟨b, hb, hId, hRole⟩
      · rw [if_neg hId] at hRole hRevoked
        exact h.assignments b hb hRole revokedAt hRevoked
  | settleRetailBilling run config now =>
      simp only [Rating.step] at hStep
      split at hStep
      · cases hStep
        rw [RatingState.list]
        split
        all_goals exact h
      · cases hStep
  | settleNext run =>
      simp only [Rating.step] at hStep
      split at hStep
      · cases hStep
        exact h
      · rename_i c rest _
        cases hStep
        rcases @settle_cases s run c rest with
          ⟨db, next, hChange, -, hs'⟩ | ⟨db, hChange, -, -, hs'⟩
        · rw [hs']
          exact h.of_change hChange rfl
        · rw [hs']
          exact h.of_change hChange rfl
      · cases hStep
  | createPlan _ | openSession _ | recordUsage _ | reconciled _ =>
      simp only [Rating.step] at hStep
      split at hStep
      all_goals
        cases hStep
        try exact ⟨h.plans, h.assignments⟩
  | moveMoney _ | timePasses _ =>
      cases hStep
      exact h

theorem PreciseUsage.revocationKnown {usage : UsageTables} (h : PreciseUsage usage)
    {id : Identifier} : RevocationKnown usage id :=
  fun a ha _ hRole r hr => .inl (h.assignments a ha hRole r hr)

theorem RunPrecise.grows {usage usage' : UsageTables} {now : Timestamp} {r : SettlementRun}
    (h : RunPrecise usage r) (hGrows : UsageGrows now usage usage') : RunPrecise usage' r :=
  ⟨h.unfailed, fun remaining hEq c hc => (h.remaining remaining hEq c hc).grows hGrows⟩

/-- A run whose candidate can be inserted, and whose numbers fit, goes on to the next one. -/
theorem settle_goesOn {run : RunId} {c : ListedCandidate} {rest : List ListedCandidate}
    (hInsertable : Insertable s.db.usage c)
    (hFits : c.Fits ∧ BalancesFit s.db c.accountId (s.runs run).config) :
    (s.settle run c rest).runs =
      Function.update s.runs run { s.runs run with step := .settling rest } := by
  obtain ⟨⟨posted, db⟩, hOk⟩ := @settleRatingCandidate_ok s.database c.toRow (s.runs run).config
    (hInsertable.valid hFits.1) hInsertable.rows hFits.2
  have hCommit : transaction (settleRatingCandidate c.toRow (s.runs run).config) s.database =
      (.ok posted, db) := by
    simp [transaction, StateT.run, hOk]
  rw [RatingState.settle, hCommit]
  rfl

theorem PreciseInv.step (hInv : PreciseInv s) (hPrecise : PreciseStep s event)
    (hStep : step s event = some s') : PreciseInv s' := by
  have hGrows := usageGrows_step hStep fun id _ => hInv.precise.revocationKnown
  refine ⟨usageInv_step hInv.usage hStep, hInv.precise.step hPrecise hStep, fun other => ?_⟩
  suffices hRun : RunPrecise s.db.usage (s'.runs other) from hRun.grows hGrows
  have hSet : ∀ run r, RunPrecise s.db.usage r →
      RunPrecise s.db.usage (Function.update s.runs run r other) := by
    intro run r hr
    by_cases hOther : other = run
    · subst hOther
      rw [Function.update_self]
      exact hr
    · rw [Function.update_of_ne hOther]
      exact hInv.runs other
  cases ratingStep_of_step hStep with
  | quiet _ _ hRuns =>
      rw [hRuns]
      exact hInv.runs other
  | leave hNext hUnfailed =>
      refine hSet _ _ ⟨hUnfailed, fun remaining hEq => ?_⟩
      exact absurd hEq (hNext remaining)
  | @list run config now hEvent =>
      subst hEvent
      have hOk := @listRetailRatingCandidates_ok s.database _ config.batchSize hPrecise
      obtain ⟨listed, hListed⟩ := hOk
      have hCommit : transaction (listRetailRatingCandidates (settlementCutoff config now)
          config.batchSize) s.database = (.ok listed, s.database) := by
        simp [transaction, StateT.run, hListed]
      have hSpec := listRetailRatingCandidates_spec hListed
      rw [RatingState.list, hCommit]
      refine hSet run _ ⟨(by simp), fun remaining hEq c hc => ?_⟩
      cases hEq
      exact hInv.precise.insertable hInv.usage settlementCutoff_whole (hSpec c hc)
  | @settle run c rest hEvent hSettling =>
      subst hEvent
      have hFits := hPrecise c (by rw [hSettling]; rfl)
      have hInsertable := (hInv.runs run).remaining _ hSettling c List.mem_cons_self
      rw [settle_goesOn hInsertable hFits]
      refine hSet run _ ⟨(by simp), fun remaining hEq c' hc' => ?_⟩
      cases hEq
      exact (hInv.runs run).remaining _ hSettling c' (List.mem_cons_of_mem _ hc')

end

/-! ### Runs -/

/--
For every plan its account had while the session was applied, the ratings of the session reach the
end of that time: its revocation, or the end of the plan.
-/
def FullyRated (db : BillingDb) (a : BilledAssignment) (revokedAt : Timestamp) : Prop :=
  ∀ p ∈ db.usage.planAssignments, ∀ appliedAt ∈ a.appliedAt,
    max p.startsAt appliedAt < least revokedAt p.endsAt →
    (∃ session ∈ db.usage.sessions, session.id = a.sessionId ∧
      session.accountId = some p.accountId) →
    ∃ r ∈ db.ratings.rows, r.sessionId = a.sessionId ∧ r.planVersionId = p.planVersionId ∧
      jsDate (least revokedAt p.endsAt) ≤ r.windowEnd

instance (db : BillingDb) (a : BilledAssignment) (revokedAt : Timestamp) :
    Decidable (FullyRated db a revokedAt) :=
  inferInstanceAs (Decidable (∀ p ∈ db.usage.planAssignments, ∀ appliedAt ∈ a.appliedAt,
    max p.startsAt appliedAt < least revokedAt p.endsAt →
    (∃ session ∈ db.usage.sessions, session.id = a.sessionId ∧
      session.accountId = some p.accountId) →
    ∃ r ∈ db.ratings.rows, r.sessionId = a.sessionId ∧ r.planVersionId = p.planVersionId ∧
      jsDate (least revokedAt p.endsAt) ≤ r.windowEnd))

/--
Every candidate of every cutoff can be inserted, unless its numbers are too large for the columns;
no run has ended before its last candidate; and a session that is revoked and fully rated is no
longer listed.
-/
structure NeverWedged (s : RatingState) : Prop where
  insertable : ∀ cutoff, jsDate cutoff = cutoff → ∀ c ∈ ratingCandidates s.db cutoff, c.Fits →
    ∀ mode, ∃ r, insertRetailUsageRating (c.toRow.toRatingInput mode) s.database = .ok r
  unfailed : ∀ run, (s.runs run).step ≠ .failed
  finished : ∀ cutoff, ∀ a ∈ s.db.usage.assignments, a.role = .egress →
    ∀ revokedAt ∈ a.revokedAt, FullyRated s.db a revokedAt →
      ∀ c ∈ ratingCandidates s.db cutoff, c.sessionId ≠ a.sessionId

section

variable {s : RatingState} {now : Timestamp} {events : List RatingEvent}

theorem preciseInv_noRatings : PreciseInv (noRatings now) where
  usage := usageInv_noRatings
  precise := ⟨by nofun, by nofun⟩
  runs _ := ⟨nofun, nofun⟩

/-- What is rated up to its end at a whole millisecond leaves no window to list. -/
theorem PreciseInv.finished (hInv : PreciseInv s) {cutoff revokedAt : Timestamp}
    {a : BilledAssignment} (ha : a ∈ s.db.usage.assignments) (hRole : a.role = .egress)
    (hRevoked : revokedAt ∈ a.revokedAt) (hRated : FullyRated s.db a revokedAt)
    {c : ListedCandidate} (hc : c ∈ ratingCandidates s.db cutoff) :
    c.sessionId ≠ a.sessionId := by
  intro hSession
  obtain ⟨hWindow, hNonempty, -⟩ := mem_ratingCandidates.1 hc
  obtain ⟨session, hx, a', ha', p, hp, plan, hPlan, appliedAt, hJoined, hw⟩ :=
    mem_candidateWindows.1 hWindow
  have hId : session.id = a.sessionId := by
    rw [← hSession, hw]
    rfl
  have hSame : a' = a := hInv.usage.assignments a' ha' a ha
    (.inr ⟨hJoined.session_eq.trans hId, hJoined.egress.trans hRole.symm⟩)
  subst hSame
  have hStart : max p.startsAt appliedAt ≤ c.windowStart := by
    rw [hw]
    exact le_foldl_max.1
  have hBounded : c.windowEnd ≤ least revokedAt p.endsAt := by
    have hRevocation : c.windowEnd ≤ revokedAt := by
      rw [hw]
      exact least_le_right hRevoked
    have hPlanEnd : ∀ endsAt ∈ p.endsAt, c.windowEnd ≤ endsAt := by
      intro endsAt hEnds
      rw [hw]
      exact least_le_left.trans (least_le_right hEnds)
    rcases @least_eq revokedAt p.endsAt with hEq | hEnds
    · rw [hEq]
      exact hRevocation
    · exact hPlanEnd _ hEnds
  obtain ⟨r, hr, hSessionId, hPlanId, hEnd⟩ :=
    hRated p hp appliedAt hJoined.applied (hStart.trans_lt (hNonempty.trans_le hBounded))
      ⟨session, hx, hId, hJoined.account_eq⟩
  have hWhole : jsDate (least revokedAt p.endsAt) = least revokedAt p.endsAt := by
    rcases @least_eq revokedAt p.endsAt with hEq | hEnds
    · rw [hEq]
      exact hInv.precise.assignments a' ha' hRole revokedAt hRevoked
    · exact hInv.precise.plans p hp _ hEnds
  have hListed : r.windowEnd ≤ c.windowStart := by
    have hMem : r.windowEnd ∈ ratedEnds s.db session.id plan.id :=
      mem_ratedEnds.2 ⟨ratedInput r, List.mem_map_of_mem hr, hSessionId.trans hId.symm,
        hPlanId.trans hJoined.plan_eq.symm, rfl⟩
    rw [hw]
    exact le_foldl_max.2 _ hMem
  rw [hWhole] at hEnd
  exact absurd hNonempty (not_lt.2 (hBounded.trans (hEnd.trans hListed)))

theorem PreciseInv.neverWedged (hInv : PreciseInv s) : NeverWedged s := by
  refine ⟨fun cutoff hWhole c hc hFits mode => ?_, fun run => (hInv.runs run).unfailed,
    fun cutoff a ha hRole revokedAt hRevoked hRated c hc =>
      hInv.finished ha hRole hRevoked hRated hc⟩
  have hInsertable := hInv.precise.insertable hInv.usage hWhole hc
  obtain ⟨id, db, hOk, -⟩ := @insertRetailUsageRating_ok s.database (c.toRow.toRatingInput mode)
    (hInsertable.valid hFits) hInsertable.rows
  exact ⟨_, hOk⟩

theorem settlement_never_wedges (hRun : run step (noRatings now) events = some s)
    (hPrecise : StepsMeet step PreciseStep (noRatings now) events) : NeverWedged s := by
  have hInv : PreciseInv s :=
    run_invariant_of_stepsMeet (fun _ _ _ hInv hCond hStep => hInv.step hCond hStep)
      preciseInv_noRatings hRun hPrecise
  exact hInv.neverWedged

/-- A session is revoked and rated, and another run lists what is left of it. -/
def revokedAndRated (microseconds : Nat) : List RatingEvent :=
  appliedSession ++ [.timePasses microseconds, .reportRevoked 1, .timePasses 100000000,
    listAt 1 700, .settleNext 1, .settleNext 1, .reconciled 1, listAt 2 700]

/-- The same for an account that left the pilot plan before its session was applied. -/
def movedAndRated : List RatingEvent :=
  [.createPlan ⟨7, "retail", 1, 100, 200, 86400, 86400, 100, none⟩, .openAccount 1,
    .timePasses 1000000, .assignBillingPlan 1 "retail" 1, .timePasses 1000000,
    .openSession ⟨1, some 1, .active, .active⟩, .assignGate 1 1 .egress, .reportApplied 1,
    .timePasses 600000000, .reportRevoked 1, .timePasses 100000000, listAt 1 702, .settleNext 1,
    .settleNext 1, .reconciled 1, listAt 2 702]

theorem settlement_never_wedges_moved :
    ∃ s, run step (noRatings 0) movedAndRated = some s ∧ NeverWedged s ∧
      (∃ a ∈ s.db.usage.assignments, ∃ revokedAt ∈ a.revokedAt, FullyRated s.db a revokedAt) ∧
      s.db.ratings.rows.map (·.windowEnd) = [602000000] ∧ (s.runs 2).step = .settling [] := by
  have hPrecise : StepsMeet step PreciseStep (noRatings 0) movedAndRated := by decide +kernel
  have hRun : ∃ s ∈ run step (noRatings 0) movedAndRated,
      (∃ a ∈ s.db.usage.assignments, ∃ revokedAt ∈ a.revokedAt, FullyRated s.db a revokedAt) ∧
      s.db.ratings.rows.map (·.windowEnd) = [602000000] ∧ (s.runs 2).step = .settling [] := by
    decide +kernel
  obtain ⟨s, hs, hRated⟩ := hRun
  exact ⟨s, hs, settlement_never_wedges hs hPrecise, hRated⟩

/-- The last five hundred microseconds are listed again and cannot be inserted. -/
theorem sub_millisecond_revocation_wedges :
    ∃ s, run step (noRatings 0) (revokedAndRated 600000500 ++ [.settleNext 2]) = some s ∧
      ¬ NeverWedged s := by
  have hRun : ∃ s ∈ run step (noRatings 0) (revokedAndRated 600000500 ++ [.settleNext 2]),
      (s.runs 2).step = .failed := by decide +kernel
  obtain ⟨s, hs, hFailed⟩ := hRun
  exact ⟨s, hs, fun hNever => hNever.unfailed 2 hFailed⟩

end

end Hyperspace.Rating
