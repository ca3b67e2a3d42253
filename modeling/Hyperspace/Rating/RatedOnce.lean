import Hyperspace.Billing.History
import Hyperspace.Rating.PlanHistory

/-!
# No usage is rated twice

The start of a window is taken from the ratings at the time of the listing, and nothing at the time
of the insert but the exact window is unique. A run whose list is stale can insert a window that
overlaps one that another run has inserted since. Where no list is stale, the windows of a session
are apart, and the shares of a delta in them never exceed it.
-/

namespace Hyperspace.Rating

open Hyperspace.Billing Hyperspace.ControlPlane Hyperspace.Foundations

/-- The candidate that the next step of the loop settles. -/
def SettlementStep.next : SettlementStep → Option ListedCandidate
  | .settling (c :: _) => some c
  | _ => none

/-- What has been rated of the session under the plan since the run listed its candidates is in the
list of the run as well. -/
def UpToDate (s : RatingState) (run : RunId) (c : ListedCandidate) : Prop :=
  ∀ r ∈ s.db.ratings.rows, r.sessionId = c.sessionId → r.planVersionId = c.planVersionId →
    r.key ∈ (s.runs run).seen ∨ ∃ c' ∈ (s.runs run).listed, c'.key = r.key

instance (s : RatingState) (run : RunId) (c : ListedCandidate) : Decidable (UpToDate s run c) :=
  inferInstanceAs (Decidable (∀ r ∈ s.db.ratings.rows, r.sessionId = c.sessionId →
    r.planVersionId = c.planVersionId →
      r.key ∈ (s.runs run).seen ∨ ∃ c' ∈ (s.runs run).listed, c'.key = r.key))

instance (usage : UsageTables) (assignmentId : Identifier) :
    Decidable (RevocationKnown usage assignmentId) :=
  inferInstanceAs (Decidable (∀ a ∈ usage.assignments, a.id = assignmentId → a.role = .egress →
    ∀ r ∈ a.revokedAt, jsDate r = r ∨ ∃ t ∈ a.appliedAt, r ≤ t))

/-- No list is stale, no cutoff is ahead of the database, and no revocation moves an end that was
rounded. -/
def UpToDateStep (s : RatingState) : RatingEvent → Prop
  | .reportRevoked assignmentId => RevocationKnown s.db.usage assignmentId
  | .settleRetailBilling _ config now => settlementCutoff config now ≤ s.clock
  | .settleNext run => ∀ c ∈ (s.runs run).step.next, UpToDate s run c
  | _ => True

instance (s : RatingState) : (event : RatingEvent) → Decidable (UpToDateStep s event)
  | .reportRevoked assignmentId =>
    inferInstanceAs (Decidable (RevocationKnown s.db.usage assignmentId))
  | .settleRetailBilling _ config now =>
    inferInstanceAs (Decidable (settlementCutoff config now ≤ s.clock))
  | .settleNext run =>
    inferInstanceAs (Decidable (∀ c ∈ (s.runs run).step.next, UpToDate s run c))
  | .openAccount _ | .createPlan _ | .assignBillingPlan _ _ _ | .readBilling _ | .moveMoney _
  | .openSession _ | .assignGate _ _ _ | .reportApplied _ | .recordUsage _ | .reconciled _
  | .timePasses _ => inferInstanceAs (Decidable True)

/-! ### The shares of a delta -/

section

variable {windows : List ListedCandidate} {delta : UsageDelta} {n : Nat} {c : ListedCandidate}

theorem bytesOf_forward (hForward : delta.windowStart < delta.windowEnd)
    (hNonempty : c.windowStart < c.windowEnd) (hCovers : c.Covers delta) :
    c.bytesOf delta n =
      share n delta.windowStart delta.windowEnd c.windowStart c.windowEnd := by
  obtain ⟨-, -, hStart, hEnd⟩ := hCovers
  have hOverlap : 0 ≤ min delta.windowEnd c.windowEnd - max delta.windowStart c.windowStart :=
    sub_nonneg.2 (le_min (max_le hForward.le hStart.le) (max_le hEnd.le hNonempty.le))
  have hDuration : 0 < delta.windowEnd - delta.windowStart := sub_pos.2 hForward
  simp only [CandidateWindow.bytesOf, if_neg hDuration.ne', share, overlap, max_eq_right hOverlap]
  exact Int.fdiv_eq_ediv_of_nonneg _ hDuration.le

/-- A delta whose counter sample was taken out of order lies within its window as a whole. -/
theorem bytesOf_backward (hBackward : delta.windowEnd < delta.windowStart)
    (hCovers : c.Covers delta) : c.bytesOf delta n = n := by
  obtain ⟨-, -, hStart, hEnd⟩ := hCovers
  have hDuration : delta.windowEnd - delta.windowStart ≠ 0 := (sub_neg.2 hBackward).ne
  simp only [CandidateWindow.bytesOf, if_neg hDuration, min_eq_left (hBackward.trans hEnd).le,
    max_eq_left (hStart.trans hBackward).le]
  exact Int.mul_fdiv_cancel _ hDuration

theorem sum_bytesOf_le (hApart : windows.Pairwise fun c c' => c.Apart c'.toCandidateWindow)
    (hCovers : ∀ c ∈ windows, c.windowStart < c.windowEnd ∧ c.Covers delta) :
    (windows.map fun c => c.bytesOf delta n).sum ≤ n := by
  rcases lt_trichotomy delta.windowStart delta.windowEnd with hForward | hEqual | hBackward
  · have hShares : windows.map (fun c => c.bytesOf delta n) = windows.map fun c =>
        share n delta.windowStart delta.windowEnd c.windowStart c.windowEnd :=
      List.map_congr_left fun c hc => bytesOf_forward hForward (hCovers c hc).1 (hCovers c hc).2
    rw [hShares]
    exact sum_share_le hForward (Int.natCast_nonneg n) hApart
  · have hNothing : windows.map (fun c => c.bytesOf delta n) = windows.map fun _ => 0 := by
      refine List.map_congr_left fun c _ => ?_
      have hDuration : delta.windowEnd - delta.windowStart = 0 := sub_eq_zero.2 hEqual.symm
      exact if_pos hDuration
    rw [hNothing]
    simp
  · have hOne : windows.length ≤ 1 := by
      refine length_le_one_of_common delta.windowEnd hApart fun c hc => ?_
      obtain ⟨-, -, hStart, hEnd⟩ := (hCovers c hc).2
      exact ⟨hStart.le, hBackward.trans hEnd⟩
    match windows, hOne with
    | [], _ => exact Int.natCast_nonneg n
    | [c], _ =>
        have hWhole := @bytesOf_backward delta n c hBackward (hCovers c List.mem_cons_self).2
        rw [List.map_singleton, List.sum_singleton, hWhole]

theorem sum_map_filterMap {α β : Type} {f : α → Option β} {g : β → Int} {xs : List α} :
    (xs.map fun x => (f x).elim 0 g).sum = ((xs.filterMap f).map g).sum := by
  induction xs with
  | nil => rfl
  | cons x xs ih =>
      rw [List.map_cons, List.sum_cons, ih]
      cases hx : f x with
      | none => simp [hx]
      | some y => simp [hx]

end

/-! ### The invariant -/

/-- Where a listed candidate comes from, and which deltas it covers. -/
structure CandidateInv (s : RatingState) (c : ListedCandidate) : Prop where
  origin : Origin s.db.usage s.clock c.toCandidateWindow
  covers : ∀ delta ∈ c.deltas, c.Covers delta
  nodup : c.deltas.Nodup

/-- What a run has listed is sound, and no window is twice in it. -/
structure RunInv (s : RatingState) (r : SettlementRun) : Prop where
  listed : ∀ c ∈ r.listed, CandidateInv s c
  remaining : ∀ remaining, r.step = .settling remaining → ∀ c ∈ remaining, c ∈ r.listed
  single : ∀ c ∈ r.listed, ∀ c' ∈ r.listed, c.sessionId = c'.sessionId →
    c.startsAt = c'.startsAt → c = c'
  seen : ∀ k ∈ r.seen, k ∈ (ratedInputs s.db).map inputKey
  /-- What was rated before the listing is apart from a candidate that can be inserted. -/
  apart : ∀ c ∈ r.listed, ∀ k ∈ r.seen, ∀ b ∈ s.ratedAs k, b.sessionId = c.sessionId →
    b.Apart c.toCandidateWindow ∨ jsDate c.windowEnd ≤ jsDate c.windowStart

/-- Every rated window was a listed candidate, and no two of them overlap. -/
structure RatedInv (s : RatingState) : Prop where
  usage : UsageInv s.db.usage s.clock
  rated : ∀ i ∈ ratedInputs s.db, ∃ c ∈ s.ratedAs (inputKey i), CandidateInv s c ∧
    ∃ mode, i = c.toRow.toRatingInput mode
  apart : ∀ i ∈ ratedInputs s.db, ∀ i' ∈ ratedInputs s.db, inputKey i ≠ inputKey i' →
    ∀ c ∈ s.ratedAs (inputKey i), ∀ c' ∈ s.ratedAs (inputKey i'), c.sessionId = c'.sessionId →
      c.Apart c'.toCandidateWindow
  runs : ∀ run, RunInv s (s.runs run)

/-- What a step does to the ratings and the runs. -/
inductive RatingStep (s : RatingState) (event : RatingEvent) : RatingState → Prop
  | quiet {s'} : ratedInputs s'.db = ratedInputs s.db → s'.ratedAs = s.ratedAs →
      s'.runs = s.runs → RatingStep s event s'
  | leave {run next} : (∀ remaining, next ≠ .settling remaining) → next ≠ .failed →
      RatingStep s event (s.setRun run { s.runs run with step := next })
  | list {run config now} : event = .settleRetailBilling run config now →
      RatingStep s event (s.list run config (settlementCutoff config now))
  | settle {run c rest} : event = .settleNext run →
      (s.runs run).step = .settling (c :: rest) → RatingStep s event (s.settle run c rest)

section

variable {s s' : RatingState} {run : RunId} {c b : ListedCandidate} {r : SettlementRun}

theorem RunInv.mono (h : RunInv s r) (hCandidates : ∀ c, CandidateInv s c → CandidateInv s' c)
    (hKeys : ∀ k ∈ (ratedInputs s.db).map inputKey, k ∈ (ratedInputs s'.db).map inputKey)
    (hRated : ∀ k ∈ (ratedInputs s.db).map inputKey, s'.ratedAs k = s.ratedAs k) :
    RunInv s' r := by
  refine ⟨fun c hc => hCandidates c (h.listed c hc), h.remaining, h.single,
    fun k hk => hKeys k (h.seen k hk), fun c hc k hk b hb => ?_⟩
  rw [hRated k (h.seen k hk)] at hb
  exact h.apart c hc k hk b hb

theorem RunInv.goto (h : RunInv s r) {next : SettlementStep}
    (hNext : ∀ remaining, next = .settling remaining → ∀ c ∈ remaining, c ∈ r.listed) :
    RunInv s { r with step := next } :=
  ⟨h.listed, hNext, h.single, h.seen, h.apart⟩

theorem UsageInv.same_rows {usage : UsageTables} {clock : Timestamp} {w : CandidateWindow}
    (h : UsageInv usage clock) (hw : Origin usage clock w) {session : BilledSession}
    {a : BilledAssignment} {p : PlanAssignment} (hSession : session ∈ usage.sessions)
    (ha : a ∈ usage.assignments) (hp : p ∈ usage.planAssignments) (hId : session.id = w.sessionId)
    (hAccount : session.accountId = some p.accountId) (hRole : a.sessionId = w.sessionId ∧
      a.role = .egress) (hStarts : p.startsAt = w.startsAt) : ListedFrom w session p a := by
  obtain ⟨session', hSession', p', hp', a', ha', hRows⟩ := hw.rows
  have hSessions : session' = session :=
    h.sessions _ hSession' _ hSession (hRows.session.1.trans hId.symm)
  subst hSessions
  have hAssignments : a' = a := h.assignments _ ha' _ ha
    (.inr ⟨hRows.egress.2.1.trans hRole.1.symm, hRows.egress.2.2.trans hRole.2.symm⟩)
  subst hAssignments
  have hPlans : p' = p := by
    refine h.plan_unique hp' hp ?_ (hRows.plan.2.1.trans hStarts.symm)
    exact hRows.plan.1.trans (Option.some.inj (hRows.session.2.symm.trans hAccount))
  subst hPlans
  exact hRows

/-- A window that is listed after another one was rated is apart from it or cannot be inserted. -/
theorem RatedInv.apart_of_listed (hInv : RatedInv s) {cutoff : Timestamp}
    (hWhole : jsDate cutoff = cutoff) (hCutoff : cutoff ≤ s.clock)
    (hc : c ∈ ratingCandidates s.db cutoff) {i : RatingInput} (hi : i ∈ ratedInputs s.db)
    (hb : b ∈ s.ratedAs (inputKey i)) (hSession : b.sessionId = c.sessionId) :
    b.Apart c.toCandidateWindow ∨ jsDate c.windowEnd ≤ jsDate c.windowStart := by
  obtain ⟨b', hb', hCandidate, mode, hInput⟩ := hInv.rated i hi
  cases Option.mem_unique hb hb'
  have hOrigin := origin_of_listed hWhole hCutoff hc
  by_cases hStarts : b.startsAt = c.startsAt
  · obtain ⟨session, hx, a, ha, p, hp, plan, hPlan, appliedAt, hJoined, hw⟩ :=
      mem_candidateWindows.1 (mem_ratingCandidates.1 hc).1
    have hFields : session.id = c.sessionId ∧ p.startsAt = c.startsAt ∧
        plan.id = c.planVersionId := by
      rw [hw]
      exact ⟨rfl, rfl, rfl⟩
    have hRows : ListedFrom b.toCandidateWindow session p a :=
      hInv.usage.same_rows hCandidate.origin hx ha hp (hFields.1.trans hSession.symm)
        hJoined.account_eq
        ⟨hJoined.session_eq.trans (hFields.1.trans hSession.symm), hJoined.egress⟩
        (hFields.2.1.trans hStarts.symm)
    -- the listing has seen the stored end of `b`
    have hStored : jsDate b.windowEnd ≤ c.windowStart := by
      have hMem : jsDate b.windowEnd ∈ ratedEnds s.db session.id plan.id := by
        refine mem_ratedEnds.2 ⟨i, hi, ?_, ?_, ?_⟩
        · rw [hInput]
          exact hSession.trans hFields.1.symm
        · rw [hInput, hJoined.plan_eq]
          exact hRows.plan.2.2.symm
        · rw [hInput]
          rfl
      rw [hw]
      exact le_foldl_max.2 _ hMem
    have hUninsertable : c.windowEnd ≤ b.windowEnd →
        jsDate c.windowEnd ≤ jsDate c.windowStart := by
      intro hEnd
      refine (jsDate_mono hEnd).trans ?_
      rw [← jsDate_idem]
      exact jsDate_mono hStored
    rcases hRows.ended with hMillis | hEnds | hRevoked | ⟨t, ht, hApplied⟩
    · rw [hMillis] at hStored
      exact .inl (.inl hStored)
    · refine .inr (hUninsertable ?_)
      rw [hw]
      exact least_le_left.trans (least_le_right hEnds)
    · refine .inr (hUninsertable ?_)
      rw [hw]
      exact least_le_right hRevoked
    · refine .inl (.inl (hApplied.trans ?_))
      rw [hJoined.applied] at ht
      cases ht
      rw [hw]
      exact (le_max_right _ _).trans le_foldl_max.1
  · exact .inl (hInv.usage.apart_of_startsAt_ne hCandidate.origin hOrigin hSession hStarts)

/-- A window that is inserted from an up-to-date list is apart from all that is rated. -/
theorem RatedInv.apart_of_inserted (hInv : RatedInv s) (hc : c ∈ (s.runs run).listed)
    (hUpToDate : UpToDate s run c) (hNonempty : jsDate c.windowStart < jsDate c.windowEnd)
    (hFree : c.key ∉ (ratedInputs s.db).map inputKey) {i : RatingInput}
    (hi : i ∈ ratedInputs s.db) (hb : b ∈ s.ratedAs (inputKey i))
    (hSession : b.sessionId = c.sessionId) : b.Apart c.toCandidateWindow := by
  have hRun := hInv.runs run
  obtain ⟨b', hb', hCandidate, mode, hInput⟩ := hInv.rated i hi
  cases Option.mem_unique hb hb'
  have hOrigin := (hRun.listed c hc).origin
  by_cases hStarts : b.startsAt = c.startsAt
  · obtain ⟨r, hr, hRated⟩ := List.mem_map.1 hi
    have hKey : r.key = inputKey i := by rw [← hRated]; rfl
    have hPlan : r.planVersionId = c.planVersionId := by
      obtain ⟨session, hx, p, hp, a, ha, hRows⟩ := hOrigin.rows
      have hRows' : ListedFrom b.toCandidateWindow session p a := by
        refine hInv.usage.same_rows hCandidate.origin hx ha hp (hRows.session.1.trans hSession.symm)
          ?_ ⟨hRows.egress.2.1.trans hSession.symm, hRows.egress.2.2⟩
          (hRows.plan.2.1.trans hStarts.symm)
        rw [hRows.session.2, hRows.plan.1]
      have hInputPlan : i.planVersionId = b.planVersionId := by rw [hInput]; rfl
      have hRatedPlan : r.planVersionId = i.planVersionId := by rw [← hRated]; rfl
      rw [hRatedPlan, hInputPlan, ← hRows'.plan.2.2, hRows.plan.2.2]
    have hRatedSession : r.sessionId = c.sessionId := by
      have hInputSession : i.sessionId = b.sessionId := by rw [hInput]; rfl
      rw [← hSession, ← hInputSession, ← hRated]
      rfl
    rcases hUpToDate r hr hRatedSession hPlan with hSeen | ⟨c', hc', hSame⟩
    · rw [hKey] at hSeen
      rcases hRun.apart c hc _ hSeen b hb hSession with hApart | hEmpty
      · exact hApart
      · exact absurd hNonempty (not_lt.2 hEmpty)
    · -- the window was in the list of this run, too, under another plan assignment
      rw [hKey] at hSame
      have hBoth : c'.key = b.key := by
        rw [hSame, hInput]
        rfl
      have hSessions : c'.sessionId = b.sessionId := congrArg (·.1) hBoth
      have hOther : c'.startsAt ≠ b.startsAt := by
        intro hEq
        have hEqual : c' = c :=
          hRun.single c' hc' c hc (hSessions.trans hSession) (hEq.trans hStarts)
        subst hEqual
        rw [hSame] at hFree
        exact hFree (List.mem_map_of_mem hi)
      have hApart := hInv.usage.apart_of_startsAt_ne (hRun.listed c' hc').origin
        hCandidate.origin hSessions hOther
      have hStored : jsDate c'.windowStart < jsDate c'.windowEnd := by
        have hWindow : (jsDate c'.windowStart, jsDate c'.windowEnd) =
            (r.windowStart, r.windowEnd) := congrArg (·.2) (hSame.trans hKey.symm)
        obtain ⟨hStart, hEnd⟩ := Prod.mk.inj hWindow
        rw [hStart, hEnd]
        exact r.window_nonempty
      have hWindows := Prod.mk.inj (congrArg (·.2) hBoth)
      exact absurd hWindows ((hApart.map jsDate_mono).ne hStored)
  · exact hInv.usage.apart_of_startsAt_ne hCandidate.origin hOrigin hSession hStarts

/-! ### Steps -/

variable {event : RatingEvent}

theorem ratingStep_of_step (hStep : step s event = some s') : RatingStep s event s' := by
  cases event with
  | assignBillingPlan accountId planCode planVersion =>
      cases hStep
      rcases @transaction_cases _ (Rating.assignBillingPlan accountId planCode planVersion)
        s.database with ⟨e, hError⟩ | ⟨_, db, hBody, hCommit⟩
      · rw [hError]
        exact .quiet rfl rfl rfl
      · obtain ⟨plan, -, -, -, hdb⟩ := assignBillingPlan_spec hBody
        simp only at hdb
        rw [hCommit, hdb]
        exact .quiet rfl rfl rfl
  | readBilling accountId =>
      cases hStep
      rcases @transaction_cases _ (ensurePrepaidBillingState accountId) s.database with
        ⟨e, hError⟩ | ⟨_, db, hBody, hCommit⟩
      · rw [hError]
        exact .quiet rfl rfl rfl
      · have hChange := ensurePrepaidBillingState_change hBody
        rw [hCommit]
        exact .quiet (hChange.ratings.trans (List.append_nil _)) rfl rfl
  | settleRetailBilling run config now =>
      simp only [step] at hStep
      split at hStep
      · cases hStep
        exact .list rfl
      · cases hStep
  | settleNext run =>
      simp only [step] at hStep
      split at hStep
      · cases hStep
        cases (s.runs run).config.mode with
        | shadow => exact .leave (fun _ h => by cases h) (fun h => by cases h)
        | enforce => exact .leave (fun _ h => by cases h) (fun h => by cases h)
      · rename_i hSettling
        cases hStep
        exact .settle rfl hSettling
      · cases hStep
  | reconciled run =>
      simp only [step] at hStep
      split at hStep
      · cases hStep
        exact .leave (fun _ h => by cases h) (fun h => by cases h)
      · cases hStep
  | openAccount _ =>
      simp only [step] at hStep
      split at hStep
      · split at hStep
        all_goals
          cases hStep
          try exact .quiet rfl rfl rfl
      · cases hStep
  | createPlan _ | openSession _ | assignGate _ _ _ | recordUsage _ =>
      simp only [step] at hStep
      split at hStep
      all_goals
        cases hStep
        try exact .quiet rfl rfl rfl
  | moveMoney _ | reportApplied _ | reportRevoked _ | timePasses _ =>
      cases hStep
      exact .quiet rfl rfl rfl

theorem CandidateInv.step (h : CandidateInv s c) (hStep : step s event = some s')
    (hUpToDate : UpToDateStep s event) : CandidateInv s' c := by
  refine ⟨h.origin.step hStep fun id hEvent => ?_, h.covers, h.nodup⟩
  subst hEvent
  exact hUpToDate

theorem RatedInv.kept (hInv : RatedInv s) (hUsage : UsageInv s'.db.usage s'.clock)
    (hCandidates : ∀ c, CandidateInv s c → CandidateInv s' c)
    (hRatings : ratedInputs s'.db = ratedInputs s.db) (hRatedAs : s'.ratedAs = s.ratedAs)
    (hRuns : ∀ run, RunInv s (s'.runs run)) : RatedInv s' := by
  refine ⟨hUsage, fun i hi => ?_, ?_, fun run => ?_⟩
  · rw [hRatings] at hi
    obtain ⟨c, hc, hCandidate, hInput⟩ := hInv.rated i hi
    exact ⟨c, hRatedAs ▸ hc, hCandidates c hCandidate, hInput⟩
  · rw [hRatings, hRatedAs]
    exact hInv.apart
  · refine (hRuns run).mono hCandidates (fun k hk => ?_) fun k _ => by rw [hRatedAs]
    rw [hRatings]
    exact hk

theorem RatedInv.list (hInv : RatedInv s) {config : RetailBillingRuntimeConfig} {now : Timestamp}
    (hCutoff : settlementCutoff config now ≤ s.clock) (other : RunId) :
    RunInv s ((s.list run config (settlementCutoff config now)).runs other) := by
  by_cases hOther : other = run
  · subst hOther
    rw [RatingState.list]
    rcases @transaction_cases _
      (listRetailRatingCandidates (settlementCutoff config now) config.batchSize) s.database with
      ⟨e, hError⟩ | ⟨listed, db, hBody, hCommit⟩
    · rw [hError]
      simp only [RatingState.setRun, Function.update_self]
      exact ⟨(by simp), (by simp), (by simp), (by simp), (by simp)⟩
    · rw [hCommit]
      simp only [RatingState.setRun, Function.update_self]
      have hSpec := listRetailRatingCandidates_spec hBody
      have hListed : ∀ c ∈ listed, c ∈ ratingCandidates s.db (settlementCutoff config now) := hSpec
      refine ⟨fun c hc => ?_, fun remaining hEq c hc => ?_, fun c hc c' hc' => ?_, fun k hk => ?_,
        fun c hc k hk b hb => ?_⟩
      · have hDeltas := (mem_ratingCandidates.1 (hListed c hc)).2.2
        refine ⟨origin_of_listed settlementCutoff_whole hCutoff (hListed c hc),
          fun delta hDelta => ?_, ?_⟩
        · rw [hDeltas] at hDelta
          exact of_decide_eq_true (List.mem_filter.1 hDelta).2
        · rw [hDeltas]
          exact hInv.usage.deltas.filter _
      · cases hEq
        exact hc
      · exact hInv.usage.listed_unique (hListed c hc) (hListed c' hc')
      · rw [map_inputKey]
        exact hk
      · simp only [← map_inputKey] at hk
        obtain ⟨i, hi, rfl⟩ := List.mem_map.1 hk
        exact hInv.apart_of_listed settlementCutoff_whole hCutoff (hListed c hc) hi hb
  · have hSame : (s.list run config (settlementCutoff config now)).runs other = s.runs other := by
      rw [RatingState.list]
      split
      all_goals exact Function.update_of_ne hOther _ _
    rw [hSame]
    exact hInv.runs other

theorem RunInv.settled (h : RunInv s r) {next : SettlementStep} {rest : List ListedCandidate}
    (hSettling : r.step = .settling (c :: rest)) (hNext : next = .failed ∨ next = .settling rest) :
    RunInv s { r with step := next } := by
  refine h.goto fun remaining hEq c' hc' => ?_
  rcases hNext with rfl | rfl
  · cases hEq
  · cases hEq
    exact h.remaining _ hSettling c' (List.mem_cons_of_mem _ hc')

theorem RatedInv.setRun (hInv : RatedInv s) (hRun : RunInv s r) (other : RunId) :
    RunInv s (Function.update s.runs run r other) := by
  by_cases hOther : other = run
  · subst hOther
    rw [Function.update_self]
    exact hRun
  · rw [Function.update_of_ne hOther]
    exact hInv.runs other

theorem RatedInv.insert (hInv : RatedInv s) (hUsage : UsageInv s'.db.usage s'.clock)
    (hCandidates : ∀ c, CandidateInv s c → CandidateInv s' c) {mode : RatingMode}
    (hc : c ∈ (s.runs run).listed) (hUpToDate : UpToDate s run c)
    (hValid : (c.toRow.toRatingInput mode).Valid)
    (hFree : c.key ∉ (ratedInputs s.db).map inputKey)
    (hRatings : ratedInputs s'.db = ratedInputs s.db ++ [c.toRow.toRatingInput mode])
    (hRatedAs : s'.ratedAs = Function.update s.ratedAs c.key (some c))
    (hRuns : ∀ run, RunInv s (s'.runs run)) : RatedInv s' := by
  have hOld : ∀ k ∈ (ratedInputs s.db).map inputKey, s'.ratedAs k = s.ratedAs k := by
    intro k hk
    have hNe : k ≠ c.key := by
      rintro rfl
      exact hFree hk
    rw [hRatedAs, Function.update_of_ne hNe]
  have hNew : s'.ratedAs c.key = some c := by
    rw [hRatedAs, Function.update_self]
  have hApart : ∀ i ∈ ratedInputs s.db, ∀ b ∈ s'.ratedAs (inputKey i),
      b.sessionId = c.sessionId → b.Apart c.toCandidateWindow := by
    intro i hi b hb hSession
    rw [hOld _ (List.mem_map_of_mem hi)] at hb
    exact hInv.apart_of_inserted hc hUpToDate hValid.window_nonempty hFree hi hb hSession
  refine ⟨hUsage, fun i hi => ?_, fun i hi i' hi' hKeys b hb b' hb' hSession => ?_, fun run => ?_⟩
  · rw [hRatings] at hi
    rcases List.mem_append.1 hi with hi | hi
    · obtain ⟨b, hb, hCandidate, hInput⟩ := hInv.rated i hi
      rw [← hOld _ (List.mem_map_of_mem hi)] at hb
      exact ⟨b, hb, hCandidates b hCandidate, hInput⟩
    · cases List.mem_singleton.1 hi
      exact ⟨c, hNew, hCandidates c ((hInv.runs run).listed c hc), mode, rfl⟩
  · rw [hRatings] at hi hi'
    rcases List.mem_append.1 hi with hi | hi
    all_goals rcases List.mem_append.1 hi' with hi' | hi'
    · rw [hOld _ (List.mem_map_of_mem hi)] at hb
      rw [hOld _ (List.mem_map_of_mem hi')] at hb'
      exact hInv.apart i hi i' hi' hKeys b hb b' hb' hSession
    · cases List.mem_singleton.1 hi'
      cases Option.mem_unique hNew hb'
      exact hApart i hi b hb hSession
    · cases List.mem_singleton.1 hi
      cases Option.mem_unique hNew hb
      exact (hApart i' hi' b' hb' hSession.symm).symm
    · cases List.mem_singleton.1 hi
      cases List.mem_singleton.1 hi'
      exact absurd rfl hKeys
  · refine (hRuns run).mono hCandidates (fun k hk => ?_) hOld
    rw [hRatings, List.map_append]
    exact List.mem_append_left _ hk

theorem RatedInv.step (hInv : RatedInv s) (hUpToDate : UpToDateStep s event)
    (hStep : step s event = some s') : RatedInv s' := by
  have hUsage := usageInv_step hInv.usage hStep
  have hCandidates : ∀ c, CandidateInv s c → CandidateInv s' c :=
    fun c hc => hc.step hStep hUpToDate
  cases ratingStep_of_step hStep with
  | quiet hRatings hRatedAs hRuns =>
      refine hInv.kept hUsage hCandidates hRatings hRatedAs fun run => ?_
      rw [hRuns]
      exact hInv.runs run
  | leave hNext _ =>
      refine hInv.kept hUsage hCandidates rfl rfl (hInv.setRun ?_)
      exact (hInv.runs _).goto fun remaining hEq => absurd hEq (hNext remaining)
  | @list run config now hEvent =>
      subst hEvent
      have hRuns : ∀ other, RunInv s
          ((s.list run config (settlementCutoff config now)).runs other) := hInv.list hUpToDate
      have hSame : ratedInputs (s.list run config (settlementCutoff config now)).db =
          ratedInputs s.db ∧
          (s.list run config (settlementCutoff config now)).ratedAs = s.ratedAs := by
        rw [RatingState.list]
        split
        all_goals exact ⟨rfl, rfl⟩
      exact hInv.kept hUsage hCandidates hSame.1 hSame.2 hRuns
  | @settle run c rest hEvent hSettling =>
      subst hEvent
      have hRun := hInv.runs run
      have hc : c ∈ (s.runs run).listed := hRun.remaining _ hSettling c List.mem_cons_self
      have hNext : UpToDate s run c := hUpToDate c (by rw [hSettling]; rfl)
      rcases @settle_cases s run c rest with
        ⟨db, next, hChange, hNextStep, hs'⟩ | ⟨db, hChange, hValid, hFree, hs'⟩
      · rw [hs'] at hUsage hCandidates ⊢
        refine hInv.kept hUsage hCandidates (hChange.ratings.trans (List.append_nil _)) rfl ?_
        exact hInv.setRun (hRun.settled hSettling hNextStep)
      · rw [hs'] at hUsage hCandidates ⊢
        refine hInv.insert hUsage hCandidates hc hNext hValid hFree hChange.ratings rfl ?_
        exact hInv.setRun (hRun.settled hSettling (.inr rfl))

end

/-! ### Runs -/

/-- What is billed of a delta with one rating. -/
def RatingState.billed (s : RatingState) (bytes : UsageDelta → Nat) (delta : UsageDelta)
    (r : RetailUsageRating) : Int :=
  (s.ratedAs r.key).elim 0 fun c => c.billed bytes delta

/--
The rated windows of a session are pairwise disjoint, every rating bills the deltas of a candidate,
and all ratings together bill no more of a delta than it has, in either direction.
-/
structure RatedOnce (s : RatingState) : Prop where
  windows : ∀ r ∈ s.db.ratings.rows, ∀ r' ∈ s.db.ratings.rows, r.sessionId = r'.sessionId →
    r ≠ r' → Apart r.windowStart r.windowEnd r'.windowStart r'.windowEnd
  itemised : ∀ r ∈ s.db.ratings.rows, ∃ c ∈ s.ratedAs r.key, c.deltas.Nodup ∧
    r.bytesToDestination =
      (c.deltas.map fun delta => c.bytesOf delta delta.forwardedToDestinationBytes).sum ∧
    r.bytesFromDestination =
      (c.deltas.map fun delta => c.bytesOf delta delta.forwardedFromDestinationBytes).sum
  billed : ∀ (delta : UsageDelta) (bytes : UsageDelta → Nat),
    s.db.ratings.sum (s.billed bytes delta) ≤ bytes delta

/-- The plan that the migration inserts. -/
def pilotPlan : BillingPlanVersion := ⟨0, "pilot", 1, 0, 0, 86400, 86400, 100, none⟩

/-- The database before the first account. -/
def noRatings (now : Timestamp) : RatingState where
  db := emptyDb ⟨[], [], [], [], [], [pilotPlan], []⟩ now
  clock := now
  runs := fun _ => ⟨⟨.enforce, 60, 250, 1, 10000⟩, .idle, [], []⟩
  ratedAs := fun _ => none

section

variable {s : RatingState} {now : Timestamp} {events : List RatingEvent}

theorem usageInv_noRatings : UsageInv (noRatings now).db.usage (noRatings now).clock where
  ordered := List.Pairwise.nil
  dated := by nofun
  accounts := by nofun
  sessions := by nofun
  assignments := by nofun
  plans v hv v' hv' _ := (List.mem_singleton.1 hv).trans (List.mem_singleton.1 hv').symm
  deltas := List.nodup_nil

theorem ratedInv_noRatings : RatedInv (noRatings now) where
  usage := usageInv_noRatings
  rated := by nofun
  apart := by nofun
  runs _ := ⟨nofun, nofun, nofun, nofun, nofun⟩

/-- A delta belongs to one egress assignment, so all that bill it are windows of one session. -/
theorem RatedInv.billed_le (hInv : RatedInv s) (delta : UsageDelta) (bytes : UsageDelta → Nat) :
    s.db.ratings.sum (s.billed bytes delta) ≤ bytes delta := by
  let billing : RetailUsageRating → Option ListedCandidate := fun r =>
    (s.ratedAs r.key).filter fun c => delta ∈ c.deltas
  have hBilling : ∀ r ∈ s.db.ratings.rows, ∀ c ∈ billing r, c ∈ s.ratedAs r.key ∧
      CandidateInv s c ∧ c.Covers delta := by
    intro r hr c hc
    obtain ⟨hc, hDelta⟩ := Option.mem_filter_iff.1 hc
    obtain ⟨c', hc', hCandidate, -⟩ := hInv.rated _ (List.mem_map_of_mem hr)
    cases Option.mem_unique hc hc'
    exact ⟨hc, hCandidate, hCandidate.covers delta (of_decide_eq_true hDelta)⟩
  have hSum : s.db.ratings.sum (s.billed bytes delta) =
      ((s.db.ratings.rows.filterMap billing).map fun c => c.bytesOf delta (bytes delta)).sum := by
    rw [← sum_map_filterMap, Table.sum]
    refine congrArg List.sum (List.map_congr_left fun r _ => ?_)
    simp only [RatingState.billed, billing]
    cases s.ratedAs r.key with
    | none => rfl
    | some c =>
        simp only [Option.elim_some, ListedCandidate.billed, Option.filter_some]
        split
        all_goals simp_all
  rw [hSum]
  refine sum_bytesOf_le (List.pairwise_filterMap.2 ?_) fun c hc => ?_
  · have hKeys := List.pairwise_map.1 s.db.ratings.keysNodup
    refine hKeys.imp_of_mem fun {r r'} hr hr' hNe c hc c' hc' => ?_
    obtain ⟨hRated, hCandidate, hCovers⟩ := hBilling r hr c hc
    obtain ⟨hRated', hCandidate', hCovers'⟩ := hBilling r' hr' c' hc'
    have hSession : c.sessionId = c'.sessionId := by
      obtain ⟨_, _, _, _, a, ha, hRows⟩ := hCandidate.origin.rows
      obtain ⟨_, _, _, _, a', ha', hRows'⟩ := hCandidate'.origin.rows
      have hIds : a.id = a'.id := by
        rw [hRows.egress.1, hRows'.egress.1, ← hCovers.1, hCovers'.1]
      rw [← hRows.egress.2.1, hInv.usage.assignments a ha a' ha' (.inl hIds), hRows'.egress.2.1]
    exact hInv.apart _ (List.mem_map_of_mem hr) _ (List.mem_map_of_mem hr') hNe c hRated c' hRated'
      hSession
  · obtain ⟨r, hr, hc⟩ := List.mem_filterMap.1 hc
    obtain ⟨-, hCandidate, hCovers⟩ := hBilling r hr c hc
    exact ⟨hCandidate.origin.nonempty, hCovers⟩

theorem RatedInv.ratedOnce (hInv : RatedInv s) : RatedOnce s := by
  refine ⟨fun r hr r' hr' hSession hNe => ?_, fun r hr => ?_, hInv.billed_le⟩
  · obtain ⟨c, hc, -, mode, hInput⟩ := hInv.rated _ (List.mem_map_of_mem hr)
    obtain ⟨c', hc', -, mode', hInput'⟩ := hInv.rated _ (List.mem_map_of_mem hr')
    have hKeys : r.key ≠ r'.key := fun hEq => hNe (Table.row_unique hr hr' hEq)
    have hKey : r.key = c.key := congrArg inputKey hInput
    have hKey' : r'.key = c'.key := congrArg inputKey hInput'
    have hSessions : c.sessionId = c'.sessionId :=
      (congrArg (·.1) hKey).symm.trans (hSession.trans (congrArg (·.1) hKey'))
    have hApart := hInv.apart _ (List.mem_map_of_mem hr) _ (List.mem_map_of_mem hr') hKeys c hc c'
      hc' hSessions
    obtain ⟨hStart, hEnd⟩ := Prod.mk.inj (congrArg (·.2) hKey)
    obtain ⟨hStart', hEnd'⟩ := Prod.mk.inj (congrArg (·.2) hKey')
    rw [hStart, hEnd, hStart', hEnd']
    exact hApart.map jsDate_mono
  · obtain ⟨c, hc, hCandidate, mode, hInput⟩ := hInv.rated _ (List.mem_map_of_mem hr)
    exact ⟨c, hc, hCandidate.nodup, congrArg (·.bytesToDestination) hInput,
      congrArg (·.bytesFromDestination) hInput⟩

theorem usage_rated_once (hRun : run step (noRatings now) events = some s)
    (hUpToDate : StepsMeet step UpToDateStep (noRatings now) events) : RatedOnce s := by
  have hInv : RatedInv s :=
    run_invariant_of_stepsMeet (fun _ _ _ hInv hCond hStep => hInv.step hCond hStep)
      ratedInv_noRatings hRun hUpToDate
  exact hInv.ratedOnce

/-- A session whose egress assignment is applied at the start. -/
def appliedSession : List RatingEvent :=
  [.openAccount 1, .openSession ⟨1, some 1, .active, .active⟩, .assignGate 1 1 .egress,
    .reportApplied 1]

/-- A run lists its candidates some seconds from the start, at a cutoff a minute earlier. -/
def listAt (run : RunId) (seconds : Nat) : RatingEvent :=
  .settleRetailBilling run ⟨.enforce, 60, 250, 1, 10000⟩ (seconds * 1000000)

theorem usage_rated_once_two_runs :
    ∃ s, RatedOnce s ∧ s.db.ratings.rows.map (·.bytesToDestination) = [500, 400] := by
  let events := appliedSession ++ [.timePasses 600000000,
    .recordUsage ⟨1, 1, .egress, 0, 600000000, 1000, 0⟩, listAt 1 360, .settleNext 1,
    .settleNext 1, .reconciled 1, listAt 1 600, .settleNext 1]
  have hUpToDate : StepsMeet step UpToDateStep (noRatings 0) events := by decide +kernel
  have hRun : ∃ s ∈ run step (noRatings 0) events,
      s.db.ratings.rows.map (·.bytesToDestination) = [500, 400] := by decide +kernel
  obtain ⟨s, hs, hRated⟩ := hRun
  exact ⟨s, usage_rated_once hs hUpToDate, hRated⟩

/-- Two runs list the same session at different cutoffs before either of them has settled it. -/
def staleList : List RatingEvent :=
  appliedSession ++ [.timePasses 600000000, listAt 1 600, .timePasses 60000000, listAt 2 660,
    .settleNext 1, .settleNext 2]

theorem stale_list_rates_twice :
    ∃ s, run step (noRatings 0) staleList = some s ∧ ¬ RatedOnce s := by
  have hRun : ∃ s ∈ run step (noRatings 0) staleList,
      ∃ r ∈ s.db.ratings.rows, ∃ r' ∈ s.db.ratings.rows, r.sessionId = r'.sessionId ∧
        r.windowEnd ≠ r'.windowEnd ∧
        ¬ Apart r.windowStart r.windowEnd r'.windowStart r'.windowEnd := by decide +kernel
  obtain ⟨s, hs, r, hr, r', hr', hSession, hEnds, hOverlap⟩ := hRun
  refine ⟨s, hs, fun hRated => hOverlap (hRated.windows r hr r' hr' hSession ?_)⟩
  rintro rfl
  exact hEnds rfl

end

end Hyperspace.Rating
