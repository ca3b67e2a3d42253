import Hyperspace.Foundations.Decimals
import Hyperspace.Provisioning.JobReports

/-!
# The controller of agent deployments

At every pass the controller compares each deployment under way with what its gate shows. A gate
that runs the new artifact and passes its tests ends the deployment; one that does not before the
deadline is rolled back, and a rollback that is not seen is tried three times.
-/

namespace Hyperspace.Provisioning

open Hyperspace.Billing (Timestamp jsDate)
open Hyperspace.ControlPlane Hyperspace.Foundations

/-! ## What a gate shows -/

/-- What `gate_status`, the condition `AgentConnected` and the lease say about the agent. -/
structure AgentObservation where
  observedArtifactSha256 : Option String
  lastSeenAt : Option Timestamp
  observedCapabilities : List String
  agentConnected : Bool

/-- A gate that was never heard of. -/
def AgentObservation.none : AgentObservation := ⟨.none, .none, [], false⟩

/-- The text between `before` and `after`, when it starts and ends with these. -/
def textBetween (before after text : String) : Option (List Char) :=
  if before.toList.isPrefixOf text.toList ∧ after.toList.isSuffixOf text.toList then
    some ((text.toList.take (text.length - after.length)).drop before.length)
  else Option.none

/-- `/^[a-z0-9_]{1,64}$/`. -/
def isFailureCode (code : List Char) : Bool :=
  1 ≤ code.length && code.length ≤ 64 &&
    code.all fun c => c.isLower || c.isDigit || c == '_'

/-- The first capability of this form counts. -/
def readReleaseFailureCode (capabilities : List String) (targetArtifactSha256 : String) :
    Option (List Char) :=
  (capabilities.findSome?
    (textBetween "agent-release-failure:" (":" ++ targetArtifactSha256))).filter
    isFailureCode

def readAssignmentRehydrateFailureCount (capabilities : List String) : Option Nat :=
  match capabilities.findSome? (textBetween "assignment-rehydrate:failed:" "") with
  | Option.none => Option.none
  | some count =>
    if count.head? ≠ some '0' ∧ Decimals.isDigits 1 count.length count ∧
        Decimals.read count < 2 ^ 53 then
      some (Decimals.read count)
    else Option.none

/-! ## Decisions -/

/-- A row of `listDeploymentsForReconcile`. -/
structure DeploymentReconcileRow extends AgentObservation where
  id : DeploymentId
  phase : DeploymentPhase
  targetArtifactSha256 : String
  previousArtifactSha256 : Option String
  stagedAt : Option Timestamp
  verificationDeadlineAt : Timestamp
  rollbackAttemptCount : Nat

/-- What the controller decides about one deployment. -/
inductive DeploymentDecision where
  | succeed
  | rollBack
  | requestRollback
  /-- The deployment fails when the rollback cannot be retried. -/
  | retryRollback
  | fail
  | wait
  deriving DecidableEq

namespace DeploymentReconcileRow

variable (row : DeploymentReconcileRow)

def targetObserved : Bool := row.observedArtifactSha256 = some row.targetArtifactSha256

def previousObserved : Bool :=
  row.previousArtifactSha256.isSome && row.observedArtifactSha256 = row.previousArtifactSha256

def selfTestPassed : Bool := "agent-artifact-self-test:passed" ∈ row.observedCapabilities

def doubleZeroRecoverySelfTestPassed : Bool :=
  "doublezero-recovery:v1" ∈ row.observedCapabilities

def assignmentRehydratePassed : Bool := "assignment-rehydrate:passed" ∈ row.observedCapabilities

def heartbeatAfterStage : Bool :=
  row.lastSeenAt.any fun seen => row.stagedAt.all fun staged => jsDate staged ≤ jsDate seen

def releaseFailureCode : Option (List Char) :=
  readReleaseFailureCode row.observedCapabilities row.targetArtifactSha256

def assignmentRehydrateFailureCount : Option Nat :=
  readAssignmentRehydrateFailureCount row.observedCapabilities

def isVerifying : Bool := row.phase = .staging || row.phase = .verifying

def isRollingBack : Bool := row.phase = .rollbackRequested || row.phase = .rollingBack

/-- The new agent runs, and could not restore its assignments. -/
def rehydrateFailed : Bool :=
  row.isVerifying && row.targetObserved && row.heartbeatAfterStage && row.agentConnected &&
    row.assignmentRehydrateFailureCount.isSome

/-- The new agent runs and has passed its tests. -/
def verified : Bool :=
  row.isVerifying && row.targetObserved && row.selfTestPassed &&
    row.doubleZeroRecoverySelfTestPassed && row.assignmentRehydratePassed &&
    row.heartbeatAfterStage && row.agentConnected

/-- What `reconcileGateAgentDeployments` does with a row. -/
def decide (now : Timestamp) : DeploymentDecision :=
  if row.rehydrateFailed then
    if row.previousArtifactSha256.isSome then .requestRollback else .fail
  else if row.verified then .succeed
  else if row.isRollingBack && row.previousObserved && row.agentConnected then .rollBack
  else if row.isVerifying && row.previousObserved && row.heartbeatAfterStage &&
      row.agentConnected && row.releaseFailureCode.isSome then .rollBack
  else if jsDate now < jsDate row.verificationDeadlineAt then .wait
  else if row.phase = .queued then .fail
  else if row.isVerifying then
    if row.previousObserved && row.agentConnected then .rollBack
    else if row.previousArtifactSha256.isSome then .requestRollback
    else .fail
  else if row.isRollingBack then
    if row.previousArtifactSha256.isSome && row.rollbackAttemptCount < 3 then .retryRollback
    else .fail
  else .wait

end DeploymentReconcileRow

/-! ## A pass -/

def GateAgentDeployment.reconcileRow (target : DeploymentId → String)
    (observe : GateId → AgentObservation) (d : GateAgentDeployment) : DeploymentReconcileRow :=
  { observe d.gateId with
    id := d.id
    phase := d.phase
    targetArtifactSha256 := target d.id
    previousArtifactSha256 := d.previousArtifactSha256
    stagedAt := d.stagedAt
    verificationDeadlineAt := d.verificationDeadlineAt
    rollbackAttemptCount := d.rollbackAttemptCount }

/-- The condition of the statement that counts one more attempt. -/
def GateAgentDeployment.mayRetryRollback (d : GateAgentDeployment) : Bool :=
  (d.phase = .rollbackRequested || d.phase = .rollingBack) && d.previousArtifactSha256.isSome &&
    d.rollbackAttemptCount < 3

namespace ReportDb

/-- `target` is the artifact of the release, which never changes. -/
def listDeploymentsForReconcile (target : DeploymentId → String)
    (observe : GateId → AgentObservation) (db : ReportDb) : List DeploymentReconcileRow :=
  (db.deployments.rows.filter (·.phase.isActive)).map (·.reconcileRow target observe)

def carryOut (id : DeploymentId) (decision : DeploymentDecision) (db : ReportDb) : ReportDb :=
  match decision with
  | .succeed => db.markDeploymentSucceeded id
  | .rollBack => db.markDeploymentRolledBack id
  | .requestRollback => db.requestDeploymentRollback id
  | .retryRollback =>
    if (db.deployments.find? id).any (·.mayRetryRollback) then db.retryDeploymentRollback id
    else db.markDeploymentFailed id
  | .fail => db.markDeploymentFailed id
  | .wait => db

/-- The rows are listed once, and then each is dealt with. -/
def reconcileGateAgentDeployments (target : DeploymentId → String)
    (observe : GateId → AgentObservation) (now : Timestamp) (db : ReportDb) : ReportDb :=
  (db.listDeploymentsForReconcile target observe).foldl
    (fun db row => db.carryOut row.id (row.decide now)) db

end ReportDb

end Hyperspace.Provisioning
