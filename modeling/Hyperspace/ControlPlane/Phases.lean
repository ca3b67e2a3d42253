import Mathlib.Data.List.Basic

/-!
# States and phases of sessions, gate assignments and jobs

The enumerated column types of the control-plane database and the transition functions over them.
-/

namespace Hyperspace.ControlPlane

inductive DesiredSessionState where
  | active
  | revoked
  deriving DecidableEq, Repr

inductive SessionPhase where
  | paymentPending
  | requested
  | probing
  | scheduling
  | provisioning
  | active
  | degraded
  | revoking
  | revoked
  | failed
  deriving DecidableEq, Repr

inductive GateAssignmentRole where
  | ingress
  | egress
  deriving DecidableEq, Repr

inductive GateAssignmentDesiredState where
  | applied
  | revoked
  deriving DecidableEq, Repr

/-- A session that neither its owner nor the system has asked to take down. -/
def SessionPhase.isNonTerminal (phase : SessionPhase) (desiredState : DesiredSessionState) : Bool :=
  desiredState ≠ .revoked ∧ phase ≠ .revoked ∧ phase ≠ .failed

/-- A session that has been given gates and an address. -/
def SessionPhase.isPlaced : SessionPhase → Bool
  | .provisioning | .active | .degraded => true
  | .paymentPending | .requested | .probing | .scheduling | .revoking | .revoked | .failed => false

inductive GateAssignmentPhase where
  | planned
  | queued
  | leased
  | applying
  | prepared
  | applied
  | drifted
  | revoking
  | revoked
  | retryableFailed
  | dead
  deriving DecidableEq, Repr

inductive JobType where
  | probe
  | applyAssignment
  | revokeAssignment
  | cleanupOrphan
  | reconcile
  | deployAgent
  | rollbackAgent
  deriving DecidableEq, Repr

inductive JobPhase where
  | queued
  | leased
  | running
  | succeeded
  | retryableFailed
  | dead
  | acknowledgedDead
  deriving DecidableEq, Repr

inductive JobReportStatus where
  | succeeded
  | retryableFailed
  | failed
  deriving DecidableEq, Repr

/-- `operation` of an `apply_assignment` job. -/
inductive ApplyOperation where
  | prepare
  | commit
  deriving DecidableEq, Repr

inductive GateJobLane where
  | control
  | probe
  deriving DecidableEq, Repr

/-! ### Transitions of jobs -/

/-- `phase IN ('queued', 'leased', 'running', 'retryable_failed')`. -/
def JobPhase.isLive : JobPhase → Bool
  | .queued | .leased | .running | .retryableFailed => true
  | .succeeded | .dead | .acknowledgedDead => false

/-- `expiredLeaseCandidateJobPhases`. -/
def JobPhase.isLeased : JobPhase → Bool
  | .leased | .running => true
  | .queued | .succeeded | .retryableFailed | .dead | .acknowledgedDead => false

/-- What a report makes of its job. -/
structure ReportedJobTransition where
  nextPhase : JobPhase
  terminalFailure : Bool
  retryDelaySeconds : Option Nat
  deriving DecidableEq, Repr

def resolveReportedJobTransition (status : JobReportStatus) (retryCount maxRetries : Nat) :
    ReportedJobTransition :=
  let terminalFailure : Bool :=
    status = .failed || (status = .retryableFailed && maxRetries ≤ retryCount + 1)
  { nextPhase := if status = .succeeded then .succeeded
      else if terminalFailure then .dead else .retryableFailed
    terminalFailure
    retryDelaySeconds := if status = .retryableFailed && !terminalFailure then some 10 else none }

/-! ### Transitions of assignments -/

def leasedAssignmentTransition (jobType : JobType) (currentPhase : GateAssignmentPhase) :
    GateAssignmentPhase :=
  if currentPhase = .applied ∨ currentPhase = .revoked then currentPhase
  else if jobType = .revokeAssignment then .revoking else .applying

def failedFromReportTransition (terminalFailure : Bool) : GateAssignmentPhase :=
  if terminalFailure then .dead else .retryableFailed

/-- `provisioningFailureDeadCandidatePhases`. -/
def GateAssignmentPhase.isPending : GateAssignmentPhase → Bool
  | .planned | .queued | .leased | .applying | .prepared | .retryableFailed => true
  | .applied | .drifted | .revoking | .revoked | .dead => false

/-! ### Transitions of sessions -/

/-- `requestRevocationTransition`, the phase of it. -/
def requestRevocationPhase (currentPhase : SessionPhase) : SessionPhase :=
  if currentPhase = .revoked then .revoked else .revoking

/-- `beginRevokingTransition`; `none` where there is nothing to begin. -/
def beginRevokingTransition : SessionPhase → Option SessionPhase
  | .revoking | .revoked | .failed => none
  | .paymentPending | .requested | .probing | .scheduling | .provisioning | .active
  | .degraded => some .revoking

/-- Whether a session can be hidden now. -/
inductive HideDecision where
  | deleted
  | notRevoked
  | canHide
  deriving DecidableEq, Repr

def canHideSession (phase : SessionPhase) (hidden : Bool) : HideDecision :=
  if hidden then .deleted
  else if phase ≠ .revoked ∧ phase ≠ .failed then .notRevoked
  else .canHide

end Hyperspace.ControlPlane
