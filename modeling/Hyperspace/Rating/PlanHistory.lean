import Hyperspace.Rating.SettlementSpecs

/-!
# The history of plans and assignments

The plan assignments of an account follow one another without overlap, and none of them, nor an
applied or revoked egress assignment, is ever moved back. So a listed window keeps lying in the
plan assignment it was listed for.
-/

namespace Hyperspace.Rating

open Hyperspace.Billing Hyperspace.ControlPlane Hyperspace.Foundations

/-- Of two assignments of one account the earlier one has ended when the later one starts. -/
def PlanBefore (p p' : PlanAssignment) : Prop :=
  p.accountId = p'.accountId → ∃ endsAt ∈ p.endsAt, endsAt ≤ p'.startsAt

/-- The constraints of the tables, and that no timestamp in them is ahead of the clock. -/
structure UsageInv (usage : UsageTables) (clock : Timestamp) : Prop where
  ordered : usage.planAssignments.Pairwise PlanBefore
  dated : ∀ p ∈ usage.planAssignments, p.startsAt ≤ clock ∧
    ∀ endsAt ∈ p.endsAt, p.startsAt < endsAt ∧ endsAt ≤ clock
  accounts : ∀ p ∈ usage.planAssignments, p.accountId ∈ usage.accounts
  sessions : ∀ x ∈ usage.sessions, ∀ x' ∈ usage.sessions, x.id = x'.id → x = x'
  assignments : ∀ a ∈ usage.assignments, ∀ a' ∈ usage.assignments,
    a.id = a'.id ∨ a.sessionId = a'.sessionId ∧ a.role = a'.role → a = a'
  plans : ∀ v ∈ usage.planVersions, ∀ v' ∈ usage.planVersions, v.id = v'.id → v = v'
  deltas : usage.usageDeltas.Nodup

/-- What a step of any kind can do to the rows a candidate comes from. -/
structure UsageGrows (now : Timestamp) (usage usage' : UsageTables) : Prop where
  accounts : ∀ x ∈ usage.accounts, x ∈ usage'.accounts
  versions : ∀ v ∈ usage.planVersions, v ∈ usage'.planVersions
  sessions : ∀ x ∈ usage.sessions, x ∈ usage'.sessions
  plans : ∀ p ∈ usage.planAssignments, p ∈ usage'.planAssignments ∨
    p.endsAt = none ∧ { p with endsAt := some now } ∈ usage'.planAssignments
  assignments : ∀ a ∈ usage.assignments, a ∈ usage'.assignments ∨
    applyAssignment now a ∈ usage'.assignments ∨ revokeAssignment now a ∈ usage'.assignments ∧
      (a.role = .egress → ∀ r ∈ a.revokedAt, jsDate r = r ∨ ∃ t ∈ a.appliedAt, r ≤ t)

/-- The rows a window was listed from, as far as they cannot change any more. -/
structure ListedFrom (w : CandidateWindow) (session : BilledSession) (p : PlanAssignment)
    (a : BilledAssignment) : Prop where
  session : session.id = w.sessionId ∧ session.accountId = some w.accountId
  plan : p.accountId = w.accountId ∧ p.startsAt = w.startsAt ∧ p.planVersionId = w.planVersionId
  egress : a.id = w.assignmentId ∧ a.sessionId = w.sessionId ∧ a.role = .egress
  within : w.startsAt ≤ w.windowStart ∧ ∀ endsAt ∈ p.endsAt, w.windowEnd ≤ endsAt
  /-- Where the window ends; only the cutoff has whole milliseconds by itself. -/
  ended : jsDate w.windowEnd = w.windowEnd ∨ p.endsAt = some w.windowEnd ∨
    a.revokedAt = some w.windowEnd ∨ ∃ t ∈ a.appliedAt, w.windowEnd ≤ t

/-- A nonempty window that was listed at some time. -/
structure Origin (usage : UsageTables) (clock : Timestamp) (w : CandidateWindow) : Prop where
  nonempty : w.windowStart < w.windowEnd
  past : w.windowEnd ≤ clock
  rows : ∃ session ∈ usage.sessions, ∃ p ∈ usage.planAssignments, ∃ a ∈ usage.assignments,
    ListedFrom w session p a

def CandidateWindow.Apart (w w' : CandidateWindow) : Prop :=
  Foundations.Apart w.windowStart w.windowEnd w'.windowStart w'.windowEnd

section

variable {usage usage' : UsageTables} {clock now : Timestamp} {w w' : CandidateWindow}
  {a : AccountId} {planVersionId : Identifier}

/-! ### Plan assignments -/

theorem UsageInv.appendPlan (h : UsageInv usage clock) (hAccount : a ∈ usage.accounts)
    (hClosed : ∀ p ∈ usage.planAssignments, p.accountId = a → p.endsAt ≠ none) :
    UsageInv { usage with
      planAssignments := usage.planAssignments ++ [⟨a, planVersionId, clock, none⟩] } clock := by
  refine { h with ordered := ?_, dated := fun p hp => ?_, accounts := fun p hp => ?_ }
  · refine List.pairwise_append.2 ⟨h.ordered, List.pairwise_singleton _ _, fun p hp p' hp' => ?_⟩
    cases List.mem_singleton.1 hp'
    intro hSame
    obtain ⟨endsAt, hEnds⟩ := Option.ne_none_iff_exists'.1 (hClosed p hp hSame)
    exact ⟨endsAt, hEnds, ((h.dated p hp).2 endsAt hEnds).2⟩
  · rcases List.mem_append.1 hp with hp | hp
    · exact h.dated p hp
    · cases List.mem_singleton.1 hp
      exact ⟨le_rfl, fun endsAt hEnds => by cases hEnds⟩
  · rcases List.mem_append.1 hp with hp | hp
    · exact h.accounts p hp
    · cases List.mem_singleton.1 hp
      exact hAccount

theorem closePlan_startsAt {p : PlanAssignment} :
    (closePlan a now p).accountId = p.accountId ∧ (closePlan a now p).startsAt = p.startsAt ∧
      (closePlan a now p).planVersionId = p.planVersionId := by
  rw [closePlan]
  split
  all_goals exact ⟨rfl, rfl, rfl⟩

theorem closePlan_of_closed {p : PlanAssignment} {endsAt : Timestamp} (h : endsAt ∈ p.endsAt) :
    closePlan a now p = p := by
  refine if_neg fun hOpen => ?_
  rw [hOpen.2] at h
  cases h

theorem closePlan_closed {p : PlanAssignment} (h : (closePlan a now p).accountId = a) :
    (closePlan a now p).endsAt ≠ none := by
  rw [closePlan_startsAt.1] at h
  rw [closePlan]
  split
  · nofun
  · rename_i hNotOpen
    exact fun hOpen => hNotOpen ⟨h, hOpen⟩

theorem UsageInv.closePlans (h : UsageInv usage clock)
    (hStarted : ∀ p ∈ usage.planAssignments, p.accountId = a → p.endsAt = none →
      p.startsAt < clock) :
    UsageInv { usage with
      planAssignments := usage.planAssignments.map (closePlan a clock) } clock := by
  refine { h with ordered := ?_, dated := fun p hp => ?_, accounts := fun p hp => ?_ }
  · refine List.pairwise_map.2 (h.ordered.imp fun {p p'} hBefore hSame => ?_)
    rw [closePlan_startsAt.1, closePlan_startsAt.1] at hSame
    obtain ⟨endsAt, hEnds, hLe⟩ := hBefore hSame
    rw [closePlan_of_closed hEnds, closePlan_startsAt.2.1]
    exact ⟨endsAt, hEnds, hLe⟩
  · obtain ⟨q, hq, rfl⟩ := List.mem_map.1 hp
    rw [closePlan]
    split
    · rename_i hOpen
      refine ⟨(h.dated q hq).1, fun endsAt hEnds => ?_⟩
      cases hEnds
      exact ⟨hStarted q hq hOpen.1 hOpen.2, le_rfl⟩
    · exact h.dated q hq
  · obtain ⟨q, hq, rfl⟩ := List.mem_map.1 hp
    rw [closePlan_startsAt.1]
    exact h.accounts q hq

theorem openPlanAssignment_eq_none (h : usage.openPlanAssignment a = none) :
    ∀ p ∈ usage.planAssignments, p.accountId = a → p.endsAt ≠ none := by
  intro p hp hSame hOpen
  have hNot := List.find?_eq_none.1 h p hp
  simp [hSame, hOpen] at hNot

theorem ensureOpenPlan_spec : usage.ensureOpenPlan a now = usage ∨
    usage.openPlanAssignment a = none ∧ ∃ pilot, usage.ensureOpenPlan a now = { usage with
      planAssignments := usage.planAssignments ++ [⟨a, pilot, now, none⟩] } := by
  cases hOpen : usage.openPlanAssignment a with
  | some p => exact .inl (by simp only [UsageTables.ensureOpenPlan, hOpen])
  | none =>
      cases hPilot : usage.pilotPlan with
      | none => exact .inl (by simp only [UsageTables.ensureOpenPlan, hOpen, hPilot])
      | some pilot =>
          exact .inr ⟨rfl, pilot.id, by simp only [UsageTables.ensureOpenPlan, hOpen, hPilot]⟩

theorem UsageInv.ensureOpenPlan (h : UsageInv usage clock) (hAccount : a ∈ usage.accounts) :
    UsageInv (usage.ensureOpenPlan a clock) clock := by
  rcases @ensureOpenPlan_spec usage clock a with hSame | ⟨hOpen, pilot, hOpened⟩
  · rw [hSame]
    exact h
  · rw [hOpened]
    exact h.appendPlan hAccount (openPlanAssignment_eq_none hOpen)

/-! ### Growth -/

theorem UsageGrows.of_subset (hAccounts : usage.accounts ⊆ usage'.accounts)
    (hVersions : usage.planVersions ⊆ usage'.planVersions)
    (hSessions : usage.sessions ⊆ usage'.sessions)
    (hPlans : usage.planAssignments ⊆ usage'.planAssignments)
    (hAssignments : usage.assignments ⊆ usage'.assignments) : UsageGrows now usage usage' :=
  ⟨fun _ h => hAccounts h, fun _ h => hVersions h, fun _ h => hSessions h,
    fun _ h => .inl (hPlans h), fun _ h => .inl (hAssignments h)⟩

theorem UsageGrows.refl : UsageGrows now usage usage :=
  .of_subset (.refl _) (.refl _) (.refl _) (.refl _) (.refl _)

theorem UsageGrows.ensureOpenPlan : UsageGrows now usage (usage.ensureOpenPlan a now) := by
  rcases @ensureOpenPlan_spec usage now a with hSame | ⟨-, pilot, hOpened⟩
  · rw [hSame]
    exact .refl
  · rw [hOpened]
    exact .of_subset (.refl _) (.refl _) (.refl _) (List.subset_append_left _ _) (.refl _)

theorem UsageGrows.closePlans {opened : PlanAssignment} : UsageGrows now usage { usage with
    planAssignments := usage.planAssignments.map (closePlan a now) ++ [opened] } := by
  refine ⟨fun _ h => h, fun _ h => h, fun _ h => h, fun p hp => ?_, fun _ h => .inl h⟩
  have hMem : closePlan a now p ∈ usage.planAssignments.map (closePlan a now) ++ [opened] :=
    List.mem_append_left _ (List.mem_map_of_mem hp)
  rw [closePlan] at hMem
  split at hMem
  · rename_i hOpen
    exact .inr ⟨hOpen.2, hMem⟩
  · exact .inl hMem

theorem Origin.grows (h : Origin usage clock w) (hGrows : UsageGrows clock usage usage') :
    Origin usage' clock w := by
  obtain ⟨session, hSession, p, hp, a, ha, hRows⟩ := h.rows
  suffices hMoved : ∃ p' ∈ usage'.planAssignments, ∃ a' ∈ usage'.assignments,
      ListedFrom w session p' a' from
    ⟨h.nonempty, h.past, session, hGrows.sessions session hSession, hMoved⟩
  -- first the plan assignment, which may have been closed
  have hPlan : ∃ p' ∈ usage'.planAssignments, ListedFrom w session p' a := by
    rcases hGrows.plans p hp with hSame | ⟨hOpen, hClosed⟩
    · exact ⟨p, hSame, hRows⟩
    · refine ⟨_, hClosed, hRows.session, hRows.plan, hRows.egress, ⟨hRows.within.1, ?_⟩, ?_⟩
      · intro endsAt hEnds
        cases hEnds
        exact h.past
      · rcases hRows.ended with hWhole | hEnds | hLater
        · exact .inl hWhole
        · rw [hOpen] at hEnds
          cases hEnds
        · exact .inr (.inr hLater)
  obtain ⟨p', hp', hRows'⟩ := hPlan
  refine ⟨p', hp', ?_⟩
  -- then the egress assignment, which may have been applied or revoked again
  rcases hGrows.assignments a ha with hSame | hApplied | ⟨hRevoked, hKnown⟩
  · exact ⟨a, hSame, hRows'⟩
  · refine ⟨_, hApplied, hRows'.session, hRows'.plan, hRows'.egress, hRows'.within, ?_⟩
    exact .inr (.inr (.inr ⟨clock, rfl, h.past⟩))
  · refine ⟨_, hRevoked, hRows'.session, hRows'.plan, hRows'.egress, hRows'.within, ?_⟩
    rcases hRows'.ended with hWhole | hEnds | hBefore | hLater
    · exact .inl hWhole
    · exact .inr (.inl hEnds)
    · rcases hKnown hRows'.egress.2.2 _ hBefore with hWhole | hLater
      · exact .inl hWhole
      · exact .inr (.inr (.inr hLater))
    · exact .inr (.inr (.inr hLater))

theorem Origin.later (h : Origin usage clock w) (hLater : clock ≤ now) : Origin usage now w :=
  ⟨h.nonempty, h.past.trans hLater, h.rows⟩

/-! ### Two windows of a session -/

theorem UsageInv.account_unique (h : UsageInv usage clock) (hw : Origin usage clock w)
    (hw' : Origin usage clock w') (hSession : w.sessionId = w'.sessionId) :
    w.accountId = w'.accountId := by
  obtain ⟨x, hx, _, _, _, _, hRows⟩ := hw.rows
  obtain ⟨x', hx', _, _, _, _, hRows'⟩ := hw'.rows
  have hSame : x = x' :=
    h.sessions x hx x' hx' (hRows.session.1.trans (hSession.trans hRows'.session.1.symm))
  subst hSame
  exact Option.some.inj (hRows.session.2.symm.trans hRows'.session.2)

theorem UsageInv.before (h : UsageInv usage clock) {p p' : PlanAssignment}
    (hp : p ∈ usage.planAssignments) (hp' : p' ∈ usage.planAssignments) (hNe : p ≠ p') :
    PlanBefore p p' ∨ PlanBefore p' p := by
  let Either (q q' : PlanAssignment) : Prop := PlanBefore q q' ∨ PlanBefore q' q
  have hSymm : Std.Symm Either := ⟨fun _ _ h => h.symm⟩
  have hEither : usage.planAssignments.Pairwise Either := h.ordered.imp Or.inl
  exact hEither.forall hp hp' hNe

theorem UsageInv.plan_unique (h : UsageInv usage clock) {p p' : PlanAssignment}
    (hp : p ∈ usage.planAssignments) (hp' : p' ∈ usage.planAssignments)
    (hAccount : p.accountId = p'.accountId) (hStarts : p.startsAt = p'.startsAt) : p = p' := by
  by_contra hNe
  rcases h.before hp hp' hNe with hBefore | hBefore
  · obtain ⟨endsAt, hEnds, hLe⟩ := hBefore hAccount
    exact absurd ((h.dated p hp).2 endsAt hEnds).1 (not_lt.2 (hLe.trans hStarts.ge))
  · obtain ⟨endsAt, hEnds, hLe⟩ := hBefore hAccount.symm
    exact absurd ((h.dated p' hp').2 endsAt hEnds).1 (not_lt.2 (hLe.trans hStarts.le))

theorem UsageInv.apart_of_startsAt_ne (h : UsageInv usage clock) (hw : Origin usage clock w)
    (hw' : Origin usage clock w') (hSession : w.sessionId = w'.sessionId)
    (hStarts : w.startsAt ≠ w'.startsAt) : w.Apart w' := by
  have hAccount := h.account_unique hw hw' hSession
  obtain ⟨_, _, p, hp, _, _, hRows⟩ := hw.rows
  obtain ⟨_, _, p', hp', _, _, hRows'⟩ := hw'.rows
  have hNe : p ≠ p' := by
    rintro rfl
    exact hStarts (hRows.plan.2.1.symm.trans hRows'.plan.2.1)
  have hSame : p.accountId = p'.accountId :=
    hRows.plan.1.trans (hAccount.trans hRows'.plan.1.symm)
  rcases h.before hp hp' hNe with hBefore | hBefore
  · obtain ⟨endsAt, hEnds, hLe⟩ := hBefore hSame
    refine .inl ((hRows.within.2 endsAt hEnds).trans (hLe.trans ?_))
    rw [hRows'.plan.2.1]
    exact hRows'.within.1
  · obtain ⟨endsAt, hEnds, hLe⟩ := hBefore hSame.symm
    refine .inr ((hRows'.within.2 endsAt hEnds).trans (hLe.trans ?_))
    rw [hRows.plan.2.1]
    exact hRows.within.1

/-! ### What is listed -/

theorem settlementCutoff_whole {config : RetailBillingRuntimeConfig} :
    jsDate (settlementCutoff config now) = settlementCutoff config now := by
  have hFactor : settlementCutoff config now =
      (now / 1000 - max 60 config.settlementLagSeconds * 1000) * 1000 := by
    rw [settlementCutoff, jsDate, sub_mul, mul_assoc]
    rfl
  rw [hFactor, jsDate, Int.mul_ediv_cancel _ (by decide)]

section

variable {db : BillingDb} {cutoff : Timestamp} {c c' : ListedCandidate}

/-- The end of a listed window is the cutoff, the end of the plan, or the revocation. -/
theorem windowEnd_cases {appliedAt : Timestamp} {session : BilledSession}
    {assignment : BilledAssignment} {p : PlanAssignment} {plan : BillingPlanVersion}
    (h : w = candidateWindow db cutoff appliedAt session assignment p plan) :
    w.windowEnd = cutoff ∨ p.endsAt = some w.windowEnd ∨
      assignment.revokedAt = some w.windowEnd := by
  subst h
  simp only [candidateWindow]
  rcases @least_eq (least cutoff p.endsAt) assignment.revokedAt with hPlan | hRevoked
  · rw [hPlan]
    rcases @least_eq cutoff p.endsAt with hCutoff | hEnds
    · exact .inl hCutoff
    · exact .inr (.inl hEnds)
  · exact .inr (.inr hRevoked)

theorem origin_of_listed (hWhole : jsDate cutoff = cutoff) (hCutoff : cutoff ≤ clock)
    (hc : c ∈ ratingCandidates db cutoff) : Origin db.usage clock c.toCandidateWindow := by
  obtain ⟨hWindow, hNonempty, -⟩ := mem_ratingCandidates.1 hc
  obtain ⟨session, hSession, a, ha, p, hp, plan, hPlan, appliedAt, hJoined, hw⟩ :=
    mem_candidateWindows.1 hWindow
  have hEnd := windowEnd_cases hw
  have hStart : p.startsAt ≤ c.windowStart := by
    rw [hw]
    exact (le_max_left _ _).trans le_foldl_max.1
  have hPlanEnd : c.windowEnd ≤ least cutoff p.endsAt := by
    rw [hw]
    exact least_le_left
  have hPast : c.windowEnd ≤ clock := (hPlanEnd.trans least_le_left).trans hCutoff
  refine ⟨hNonempty, hPast, session, hSession, p, hp, a, ha, ?_⟩
  rw [hw] at hEnd hStart hPlanEnd ⊢
  refine ⟨⟨rfl, hJoined.account_eq⟩, ⟨rfl, rfl, hJoined.plan_eq.symm⟩,
    ⟨rfl, hJoined.session_eq, hJoined.egress⟩,
    ⟨hStart, fun endsAt hEnds => hPlanEnd.trans (least_le_right hEnds)⟩, ?_⟩
  rcases hEnd with hEq | hEnds | hRevoked
  · exact .inl (by rw [hEq, hWhole])
  · exact .inr (.inl hEnds)
  · exact .inr (.inr (.inl hRevoked))

theorem UsageInv.listed_unique (h : UsageInv db.usage clock) (hc : c ∈ ratingCandidates db cutoff)
    (hc' : c' ∈ ratingCandidates db cutoff) (hSession : c.sessionId = c'.sessionId)
    (hStarts : c.startsAt = c'.startsAt) : c = c' := by
  obtain ⟨hWindow, -, hDeltas⟩ := mem_ratingCandidates.1 hc
  obtain ⟨hWindow', -, hDeltas'⟩ := mem_ratingCandidates.1 hc'
  obtain ⟨x, hx, a, ha, p, hp, plan, hPlan, appliedAt, hJoined, hw⟩ :=
    mem_candidateWindows.1 hWindow
  obtain ⟨x', hx', a', ha', p', hp', plan', hPlan', appliedAt', hJoined', hw'⟩ :=
    mem_candidateWindows.1 hWindow'
  rw [hw, hw'] at hSession hStarts
  have hSessions : x = x' := h.sessions x hx x' hx' hSession
  subst hSessions
  have hAssignments : a = a' := by
    refine h.assignments a ha a' ha' (.inr ⟨?_, ?_⟩)
    · rw [hJoined.session_eq, hJoined'.session_eq]
    · rw [hJoined.egress, hJoined'.egress]
  subst hAssignments
  have hPlans : p = p' := by
    refine h.plan_unique hp hp' ?_ hStarts
    exact Option.some.inj (hJoined.account_eq.symm.trans hJoined'.account_eq)
  subst hPlans
  have hVersions : plan = plan' := by
    refine h.plans plan hPlan plan' hPlan' ?_
    rw [hJoined.plan_eq, hJoined'.plan_eq]
  subst hVersions
  have hApplied : appliedAt = appliedAt' :=
    Option.some.inj (hJoined.applied.symm.trans hJoined'.applied)
  subst hApplied
  have hSame : c.toCandidateWindow = c'.toCandidateWindow := hw.trans hw'.symm
  cases c
  cases c'
  simp only at hSame hDeltas hDeltas'
  subst hSame
  rw [hDeltas, hDeltas']

end

/-! ### Steps -/

section

variable {s s' : RatingState} {event : RatingEvent}

theorem UsageInv.updateAssignments (h : UsageInv usage clock) {id : Identifier}
    {f : BilledAssignment → BilledAssignment}
    (hf : ∀ a, (f a).id = a.id ∧ (f a).sessionId = a.sessionId ∧ (f a).role = a.role) :
    UsageInv { usage with assignments := updateAssignment usage.assignments id f } clock := by
  have hKeep : ∀ a, (if a.id = id then f a else a).id = a.id ∧
      (if a.id = id then f a else a).sessionId = a.sessionId ∧
      (if a.id = id then f a else a).role = a.role := by
    intro a
    split
    · exact hf a
    · exact ⟨rfl, rfl, rfl⟩
  refine { h with assignments := fun a ha a' ha' hSame => ?_ }
  obtain ⟨b, hb, rfl⟩ := List.mem_map.1 ha
  obtain ⟨b', hb', rfl⟩ := List.mem_map.1 ha'
  simp only [(hKeep _).1, (hKeep _).2] at hSame
  rw [h.assignments b hb b' hb' hSame]

theorem UsageInv.of_change (h : UsageInv usage clock) {inserted : List RatingInput}
    {db db' : BillingDb} (hChange : RatingsChange a inserted db db') (hUsage : db.usage = usage)
    (hNow : db.now = clock) : UsageInv db'.usage clock := by
  subst hUsage
  rcases hChange.usage with hSame | ⟨hAccount, hOpened⟩
  · rw [hSame]
    exact h
  · rw [hOpened, hNow]
    exact h.ensureOpenPlan hAccount

theorem unique_concat {α : Type} {Same : α → α → Prop} {rows : List α} {row : α}
    (hSymm : ∀ x y, Same x y → Same y x) (h : ∀ x ∈ rows, ∀ y ∈ rows, Same x y → x = y)
    (hNew : ∀ x ∈ rows, ¬ Same x row) :
    ∀ x ∈ rows ++ [row], ∀ y ∈ rows ++ [row], Same x y → x = y := by
  intro x hx y hy hSame
  rcases List.mem_append.1 hx with hx | hx
  all_goals rcases List.mem_append.1 hy with hy | hy
  · exact h x hx y hy hSame
  · cases List.mem_singleton.1 hy
    exact absurd hSame (hNew x hx)
  · cases List.mem_singleton.1 hx
    exact absurd (hSymm _ _ hSame) (hNew y hy)
  · cases List.mem_singleton.1 hx
    cases List.mem_singleton.1 hy
    rfl

theorem transaction_cases {α : Type} {body : Tx α} {db : BillingDb} :
    (∃ e, transaction body db = (.error e, db)) ∨
      ∃ x db', body db = .ok (x, db') ∧ transaction body db = (.ok x, db') := by
  cases hBody : body db with
  | error e => exact .inl ⟨e, by simp [transaction, StateT.run, hBody]⟩
  | ok r => exact .inr ⟨r.1, r.2, rfl, by simp [transaction, StateT.run, hBody]⟩

/-- Settling a candidate leaves the ratings alone, or inserts its rating and goes on. -/
theorem settle_cases {run : RunId} {c : ListedCandidate} {rest : List ListedCandidate} :
    (∃ db next, RatingsChange c.accountId [] s.database db ∧
      (next = .failed ∨ next = .settling rest) ∧
      s.settle run c rest = { s with db }.setRun run { s.runs run with step := next }) ∨
    ∃ db, RatingsChange c.accountId [c.toRow.toRatingInput (s.runs run).config.mode]
        s.database db ∧
      (c.toRow.toRatingInput (s.runs run).config.mode).Valid ∧
      c.key ∉ (ratedInputs s.db).map inputKey ∧
      s.settle run c rest = { s with
        db, ratedAs := Function.update s.ratedAs c.key (some c) }.setRun run
          { s.runs run with step := .settling rest } := by
  rw [RatingState.settle]
  rcases @transaction_cases _ (settleRatingCandidate c.toRow (s.runs run).config) s.database with
    ⟨e, hError⟩ | ⟨posted, db, hBody, hCommit⟩
  · rw [hError]
    exact .inl ⟨_, .failed, .of_eq rfl rfl rfl, .inl rfl, rfl⟩
  · rw [hCommit]
    rcases settleRatingCandidate_change hBody with
      ⟨hChange, hNone⟩ | ⟨hChange, hSome, hValid, hFree⟩
    · subst hNone
      exact .inl ⟨db, .settling rest, hChange, .inr rfl, rfl⟩
    · simp only [hSome, if_true]
      exact .inr ⟨db, hChange, hValid, hFree, rfl⟩

theorem usageInv_step (h : UsageInv s.db.usage s.clock) (hStep : step s event = some s') :
    UsageInv s'.db.usage s'.clock := by
  cases event with
  | openAccount accountId =>
      simp only [step] at hStep
      split at hStep
      · split at hStep
        · rename_i pilot _ hNew
          cases hStep
          have hAccounts : UsageInv { s.db.usage with
              accounts := s.db.usage.accounts ++ [accountId] } s.clock :=
            { h with accounts := fun p hp => List.mem_append_left _ (h.accounts p hp) }
          refine hAccounts.appendPlan (List.mem_append_right _ (List.mem_singleton_self _)) ?_
          intro p hp hSame
          exact absurd (hSame ▸ h.accounts p hp) hNew
        · cases hStep
      · cases hStep
  | createPlan plan =>
      simp only [step] at hStep
      split at hStep
      · cases hStep
      · rename_i hNew
        cases hStep
        have hPlans := unique_concat (fun _ _ => Eq.symm) h.plans
          fun v hv hSame => hNew ⟨v, hv, .inl hSame⟩
        exact { h with plans := hPlans }
  | assignBillingPlan accountId planCode planVersion =>
      cases hStep
      rcases @transaction_cases _ (Rating.assignBillingPlan accountId planCode planVersion)
        s.database with ⟨e, hError⟩ | ⟨_, db, hBody, hCommit⟩
      · rw [hError]
        exact h
      · obtain ⟨plan, -, hAccount, hStarted, hdb⟩ := assignBillingPlan_spec hBody
        simp only at hdb
        rw [hCommit, hdb]
        refine (h.closePlans hStarted).appendPlan hAccount fun p hp hSame => ?_
        obtain ⟨q, _, rfl⟩ := List.mem_map.1 hp
        exact closePlan_closed hSame
  | readBilling accountId =>
      cases hStep
      rcases @transaction_cases _ (ensurePrepaidBillingState accountId) s.database with
        ⟨e, hError⟩ | ⟨_, db, hBody, hCommit⟩
      · rw [hError]
        exact h
      · rw [hCommit]
        exact h.of_change (ensurePrepaidBillingState_change hBody) rfl rfl
  | moveMoney books =>
      cases hStep
      exact h
  | openSession session =>
      simp only [step] at hStep
      split at hStep
      · cases hStep
      · rename_i hNew
        cases hStep
        have hSessions := unique_concat (fun _ _ => Eq.symm) h.sessions
          fun x hx hSame => hNew (.inl ⟨x, hx, hSame⟩)
        exact { h with sessions := hSessions }
  | assignGate id sessionId role =>
      simp only [step] at hStep
      split at hStep
      · cases hStep
      · rename_i hNew
        cases hStep
        let opened : BilledAssignment := ⟨id, sessionId, role, none, none⟩
        have hOther : ∀ a ∈ s.db.usage.assignments,
            ¬ (a.id = opened.id ∨ a.sessionId = opened.sessionId ∧ a.role = opened.role) :=
          fun a ha hSame => hNew (.inl ⟨a, ha, hSame⟩)
        have hAssignments := unique_concat
          (fun _ _ hSame => hSame.imp Eq.symm fun h => ⟨h.1.symm, h.2.symm⟩) h.assignments hOther
        exact { h with assignments := hAssignments }
  | reportApplied assignmentId =>
      cases hStep
      exact h.updateAssignments fun _ => ⟨rfl, rfl, rfl⟩
  | reportRevoked assignmentId =>
      cases hStep
      exact h.updateAssignments fun _ => ⟨rfl, rfl, rfl⟩
  | recordUsage delta =>
      simp only [step] at hStep
      split at hStep
      · cases hStep
      · rename_i hNew
        cases hStep
        refine { h with deltas := List.nodup_append.2 ⟨h.deltas, by simp, ?_⟩ }
        rintro d hd d' hd' rfl
        cases List.mem_singleton.1 hd'
        exact hNew ⟨_, hd, rfl⟩
  | settleRetailBilling run config now =>
      simp only [step] at hStep
      split at hStep
      · cases hStep
        rw [RatingState.list]
        split
        all_goals exact h
      · cases hStep
  | settleNext run =>
      simp only [step] at hStep
      split at hStep
      · cases hStep
        exact h
      · rename_i c rest _
        cases hStep
        rcases @settle_cases s run c rest with
          ⟨db, next, hChange, -, hs'⟩ | ⟨db, hChange, -, -, hs'⟩
        · rw [hs']
          exact h.of_change hChange rfl rfl
        · rw [hs']
          exact h.of_change hChange rfl rfl
      · cases hStep
  | reconciled run =>
      simp only [step] at hStep
      split at hStep
      · cases hStep
        exact h
      · cases hStep
  | timePasses microseconds =>
      cases hStep
      have hLater : s.clock ≤ s.clock + microseconds :=
        le_add_of_nonneg_right (Int.natCast_nonneg microseconds)
      refine { h with dated := fun p hp => ⟨(h.dated p hp).1.trans hLater, fun endsAt hEnds => ?_⟩ }
      obtain ⟨hStarts, hEnd⟩ := (h.dated p hp).2 endsAt hEnds
      exact ⟨hStarts, hEnd.trans hLater⟩

/-- An egress assignment is revoked for the first time since it was applied, or was revoked at a
whole millisecond. -/
def RevocationKnown (usage : UsageTables) (assignmentId : Identifier) : Prop :=
  ∀ a ∈ usage.assignments, a.id = assignmentId → a.role = .egress →
    ∀ r ∈ a.revokedAt, jsDate r = r ∨ ∃ t ∈ a.appliedAt, r ≤ t

theorem UsageGrows.of_change {inserted : List RatingInput} {db db' : BillingDb}
    (hChange : RatingsChange a inserted db db') (hUsage : db.usage = usage) (hNow : db.now = now) :
    UsageGrows now usage db'.usage := by
  subst hUsage
  rcases hChange.usage with hSame | ⟨-, hOpened⟩
  · rw [hSame]
    exact .refl
  · rw [hOpened, hNow]
    exact .ensureOpenPlan

theorem usageGrows_step (hStep : step s event = some s')
    (hRevoked : ∀ id, event = .reportRevoked id → RevocationKnown s.db.usage id) :
    UsageGrows s.clock s.db.usage s'.db.usage := by
  cases event with
  | openAccount accountId =>
      simp only [step] at hStep
      split at hStep
      · split at hStep
        · cases hStep
          exact .of_subset (List.subset_append_left _ _) (.refl _) (.refl _)
            (List.subset_append_left _ _) (.refl _)
        · cases hStep
      · cases hStep
  | assignBillingPlan accountId planCode planVersion =>
      cases hStep
      rcases @transaction_cases _ (Rating.assignBillingPlan accountId planCode planVersion)
        s.database with ⟨e, hError⟩ | ⟨_, db, hBody, hCommit⟩
      · rw [hError]
        exact .refl
      · obtain ⟨plan, -, -, -, hdb⟩ := assignBillingPlan_spec hBody
        simp only at hdb
        rw [hCommit, hdb]
        exact .closePlans
  | readBilling accountId =>
      cases hStep
      rcases @transaction_cases _ (ensurePrepaidBillingState accountId) s.database with
        ⟨e, hError⟩ | ⟨_, db, hBody, hCommit⟩
      · rw [hError]
        exact .refl
      · rw [hCommit]
        exact .of_change (ensurePrepaidBillingState_change hBody) rfl rfl
  | openSession session =>
      simp only [step] at hStep
      split at hStep
      · cases hStep
      · cases hStep
        exact .of_subset (.refl _) (.refl _) (List.subset_append_left _ _) (.refl _) (.refl _)
  | assignGate id sessionId role =>
      simp only [step] at hStep
      split at hStep
      · cases hStep
      · cases hStep
        exact .of_subset (.refl _) (.refl _) (.refl _) (.refl _) (List.subset_append_left _ _)
  | reportApplied assignmentId =>
      cases hStep
      refine ⟨fun _ h => h, fun _ h => h, fun _ h => h, fun _ h => .inl h, fun a ha => ?_⟩
      have hMem : (if a.id = assignmentId then applyAssignment s.clock a else a) ∈
          updateAssignment s.db.usage.assignments assignmentId (applyAssignment s.clock) :=
        List.mem_map_of_mem ha
      split at hMem
      · exact .inr (.inl hMem)
      · exact .inl hMem
  | reportRevoked assignmentId =>
      cases hStep
      refine ⟨fun _ h => h, fun _ h => h, fun _ h => h, fun _ h => .inl h, fun a ha => ?_⟩
      have hMem : (if a.id = assignmentId then revokeAssignment s.clock a else a) ∈
          updateAssignment s.db.usage.assignments assignmentId (revokeAssignment s.clock) :=
        List.mem_map_of_mem ha
      split at hMem
      · rename_i hId
        exact .inr (.inr ⟨hMem, hRevoked assignmentId rfl a ha hId⟩)
      · exact .inl hMem
  | settleRetailBilling run config now =>
      simp only [step] at hStep
      split at hStep
      · cases hStep
        rw [RatingState.list]
        split
        all_goals exact .refl
      · cases hStep
  | settleNext run =>
      simp only [step] at hStep
      split at hStep
      · cases hStep
        exact .refl
      · rename_i c rest _
        cases hStep
        rcases @settle_cases s run c rest with
          ⟨db, next, hChange, -, hs'⟩ | ⟨db, hChange, -, -, hs'⟩
        · rw [hs']
          exact .of_change hChange rfl rfl
        · rw [hs']
          exact .of_change hChange rfl rfl
      · cases hStep
  | createPlan plan =>
      simp only [step] at hStep
      split at hStep
      · cases hStep
      · cases hStep
        exact .of_subset (.refl _) (List.subset_append_left _ _) (.refl _) (.refl _) (.refl _)
  | recordUsage _ | reconciled _ =>
      simp only [step] at hStep
      split at hStep
      all_goals
        cases hStep
        try exact .of_subset (.refl _) (.refl _) (.refl _) (.refl _) (.refl _)
  | moveMoney _ | timePasses _ =>
      cases hStep
      exact .refl

theorem clock_list {run : RunId} {config : RetailBillingRuntimeConfig} {cutoff : Timestamp} :
    (s.list run config cutoff).clock = s.clock := by
  rw [RatingState.list]
  split
  all_goals rfl

theorem clock_settle {run : RunId} {c : ListedCandidate} {rest : List ListedCandidate} :
    (s.settle run c rest).clock = s.clock := by
  rw [RatingState.settle]
  split
  all_goals rfl

theorem clock_step (hStep : step s event = some s') : s.clock ≤ s'.clock := by
  cases event with
  | timePasses microseconds =>
      cases hStep
      exact le_add_of_nonneg_right (Int.natCast_nonneg microseconds)
  | settleRetailBilling run config now =>
      simp only [step] at hStep
      split at hStep
      · cases hStep
        exact clock_list.ge
      · cases hStep
  | settleNext run =>
      simp only [step] at hStep
      split at hStep
      · cases hStep
        exact le_rfl
      · cases hStep
        exact clock_settle.ge
      · cases hStep
  | openAccount _ =>
      simp only [step] at hStep
      split at hStep
      · split at hStep
        all_goals
          cases hStep
          try exact le_rfl
      · cases hStep
  | createPlan _ | openSession _ | assignGate _ _ _ | recordUsage _ | reconciled _ =>
      simp only [step] at hStep
      split at hStep
      all_goals
        cases hStep
        try exact le_rfl
  | assignBillingPlan _ _ _ | readBilling _ | moveMoney _ | reportApplied _ | reportRevoked _ =>
      cases hStep
      exact le_rfl

/-- A listed window stays one over a step. -/
theorem Origin.step (h : Origin s.db.usage s.clock w) (hStep : step s event = some s')
    (hRevoked : ∀ id, event = .reportRevoked id → RevocationKnown s.db.usage id) :
    Origin s'.db.usage s'.clock w :=
  (h.grows (usageGrows_step hStep hRevoked)).later (clock_step hStep)

end

end

end Hyperspace.Rating
