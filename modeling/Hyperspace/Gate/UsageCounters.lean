import Hyperspace.Gate.ClientConfinement

/-!
# The usage counters of a gate

Every rule of the forward chain counts what it decides. Before a commit replaces the rules of an
assignment, what they have counted goes into the file, and a revocation leaves a last reading there.
Another thread of the agent samples the counters from the file and the chain at any time, and
packets arrive between any two commands. Where the chain cannot be listed, the rules read as if they
had counted nothing.
-/

namespace Hyperspace.Gate.ForwardChain

/-! ## Counters -/

/-- Packets and bytes. -/
abbrev Tally := ℕ × ℕ

/-- The accepted and the dropped traffic of an assignment, in both directions. -/
abbrev Counters := Verdict → Direction → Tally

/-- A rule of the chain and what it has counted. -/
structure MeteredRule where
  rule : ForwardRule
  tally : Tally

/-- The sums over the rules of the assignment. -/
def readAssignmentCounter (id : AssignmentId) (chain : List MeteredRule) : Counters :=
  fun verdict direction =>
    ((chain.filter fun m =>
      m.rule.handle = id ∧ m.rule.verdict = verdict ∧ m.rule.direction = direction).map
        (·.tally)).sum

/-- The chain without one rule of the assignment, the one behind the first `kept`. -/
def eraseOwn (id : AssignmentId) : List MeteredRule → ℕ → List MeteredRule
  | [], _ => []
  | m :: rest, kept =>
    if m.rule.handle ≠ id then m :: eraseOwn id rest kept
    else if kept = 0 then rest
    else m :: eraseOwn id rest (kept - 1)

/-- The first rule that matches counts the packet. -/
def countPacket (p : Packet) (size : ℕ) : List MeteredRule → List MeteredRule
  | [] => []
  | m :: rest =>
    if m.rule.Matches p then { m with tally := m.tally + (1, size) } :: rest
    else m :: countPacket p size rest

/-- What the packet adds to the counters of an assignment. -/
def chargeOf (chain : List MeteredRule) (p : Packet) (size : ℕ) (id : AssignmentId) : Counters :=
  fun verdict direction =>
    match chain.find? fun m => m.rule.Matches p with
    | some m =>
      if m.rule.handle = id ∧ m.rule.verdict = verdict ∧ m.rule.direction = direction then (1, size)
      else 0
    | none => 0

/-! ## The files -/

/-- The file of an assignment with the accounts of its counter. -/
structure UsageFile extends AssignmentFile where
  committed : Bool
  counterOffset : Counters
  counterCheckpoint : Option Counters

def resumedCounterOffset : Option UsageFile → Counters
  | none => 0
  | some file => file.counterCheckpoint.getD file.counterOffset

/-- `prepareAssignment` with the counters. -/
def prepareUsage (existing : Option UsageFile) (role : Role) (plan : NetworkPlan)
    (fresh : FreshMaterial) : Option UsageFile :=
  match existing.filter fun file => reusablePreparedAssignment file.toAssignmentFile role with
  | some file => some file
  | none =>
    (prepareAssignment none role plan fresh).map fun file =>
      { file with
        committed := false
        counterOffset := resumedCounterOffset existing
        counterCheckpoint := none }

/-- The rules that a commit comes to install; `none` when it stops before. -/
def commitRules (id : AssignmentId) (file : AssignmentFile) (plan : NetworkPlan)
    (defaultRoute : Option DefaultRoute) : Option (List ForwardRule) :=
  match file.role with
  | .ingress =>
    if plan.publicMaterial.clientPublicKey = "" ∨ Incomplete plan.egress ∨
        file.clientPrivateKey = "" ∨ file.transitPrivateKey = "" then none
    else some (ingressForwardRules id plan.publicMaterial)
  | .egress =>
    if Incomplete plan.ingress ∨ file.transitPrivateKey = "" then none
    else defaultRoute.map fun route => egressForwardRules id plan.publicMaterial route.device

/-- The file that a revocation without one starts from. -/
def derivedUsageFile (role : Role) : UsageFile where
  role := role
  clientPrivateKey := ""
  transitPrivateKey := ""
  revoked := false
  committed := false
  counterOffset := 0
  counterCheckpoint := none

/-! ## The agent, command by command -/

/-- What the job thread is doing, with the file as it has it in memory. -/
inductive AgentTask where
  | idle
  /-- A commit has read the counters. -/
  | counting (id : AssignmentId) (file : UsageFile) (plan : NetworkPlan)
      (defaultRoute : Option DefaultRoute)
  /-- The file is written, and the old rules are deleted; the first `kept` have stayed. -/
  | replacing (id : AssignmentId) (file : UsageFile) (plan : NetworkPlan)
      (defaultRoute : Option DefaultRoute) (kept : ℕ)
  | installing (id : AssignmentId) (file : UsageFile) (rules : List ForwardRule)
  /-- A revocation has read the counters; the file is written behind the deletions. -/
  | revoking (id : AssignmentId) (file : UsageFile) (kept : ℕ)

/-- A gate; the code does not keep `passed`, all that the rules of an assignment have counted. -/
structure UsageHost where
  files : AssignmentId → Option UsageFile
  chain : List MeteredRule
  task : AgentTask
  passed : AssignmentId → Counters

instance : EmptyCollection UsageHost := ⟨⟨fun _ => none, [], .idle, 0⟩⟩

/-- `listed` says whether the chain could be listed. -/
inductive UsageEvent where
  | prepare (id : AssignmentId) (role : Role) (plan : NetworkPlan) (fresh : FreshMaterial)
  | commit (id : AssignmentId) (plan : NetworkPlan) (defaultRoute : Option DefaultRoute)
      (listed : Bool)
  | revoke (id : AssignmentId) (role : Role) (listed : Bool)
  /-- The next command of the commit or the revocation. -/
  | advance
  /-- The deletion of a rule is lost, and the script goes on; where the chain could not be listed,
  all deletions are. -/
  | lose
  /-- A command fails, or the agent is started again; the kernel keeps the chain. -/
  | stop
  | packet (p : Packet) (size : ℕ)

namespace UsageHost

variable (s : UsageHost)

/-- What the rules of an assignment say, or nothing. -/
def reading (id : AssignmentId) (listed : Bool) : Counters :=
  if listed then readAssignmentCounter id s.chain else 0

/-- What `assignmentCounters` reports for an assignment. -/
def report (id : AssignmentId) (listed : Bool) : Option Counters :=
  match s.files id with
  | none => none
  | some file =>
    match file.counterCheckpoint with
    | some checkpoint => some checkpoint
    | none =>
      if file.committed then some (file.counterOffset + s.reading id listed) else none

def write (id : AssignmentId) (file : UsageFile) : UsageHost :=
  { s with files := Function.update s.files id (some file) }

def become (task : AgentTask) : UsageHost := { s with task := task }

/-- One rule of the assignment is deleted. -/
def deleteRule (id : AssignmentId) (kept : ℕ) : UsageHost :=
  { s with chain := eraseOwn id s.chain kept }

def addRule (r : ForwardRule) : UsageHost := { s with chain := s.chain ++ [⟨r, 0⟩] }

/-- Whether an assignment has rules behind the first `kept`. -/
def hasRules (id : AssignmentId) (kept : ℕ) : Bool :=
  kept < (s.chain.filter fun m => m.rule.handle = id).length

def prepare (id : AssignmentId) (role : Role) (plan : NetworkPlan) (fresh : FreshMaterial) :
    Option UsageHost :=
  match s.task, prepareUsage (s.files id) role plan fresh with
  | .idle, some file => some (s.write id file)
  | _, _ => none

def commit (id : AssignmentId) (plan : NetworkPlan) (defaultRoute : Option DefaultRoute)
    (listed : Bool) : Option UsageHost :=
  match s.task, s.files id with
  | .idle, some file =>
    some (s.become (.counting id
      { file with counterOffset := file.counterOffset + s.reading id listed }
      plan defaultRoute))
  | _, _ => none

def revoke (id : AssignmentId) (role : Role) (listed : Bool) : Option UsageHost :=
  match s.task with
  | .idle =>
    let file := (s.files id).getD (derivedUsageFile role)
    some (s.become (.revoking id
      { file with
        clientPrivateKey := ""
        transitPrivateKey := ""
        revoked := true
        counterCheckpoint := some (file.counterOffset + s.reading id listed) } 0))
  | _ => none

def advance : Option UsageHost :=
  match s.task with
  | .idle => none
  | .counting id file plan defaultRoute =>
    some ((s.write id file).become (.replacing id file plan defaultRoute 0))
  | .replacing id file plan defaultRoute kept =>
    if s.hasRules id kept then some (s.deleteRule id kept)
    else
      match commitRules id file.toAssignmentFile plan defaultRoute with
      | some rules => some (s.become (.installing id file rules))
      | none => some (s.become .idle)
  | .installing id file [] => some ((s.write id { file with committed := true }).become .idle)
  | .installing id file (r :: rules) => some ((s.addRule r).become (.installing id file rules))
  | .revoking id file kept =>
    if s.hasRules id kept then some (s.deleteRule id kept)
    else some ((s.write id file).become .idle)

def lose : Option UsageHost :=
  match s.task with
  | .replacing id file plan defaultRoute kept =>
    if s.hasRules id kept then some (s.become (.replacing id file plan defaultRoute (kept + 1)))
    else none
  | .revoking id file kept =>
    if s.hasRules id kept then some (s.become (.revoking id file (kept + 1))) else none
  | .idle | .counting _ _ _ _ | .installing _ _ _ => none

def packet (p : Packet) (size : ℕ) : UsageHost :=
  { s with
    chain := countPacket p size s.chain
    passed := fun id => s.passed id + chargeOf s.chain p size id }

def step : UsageEvent → Option UsageHost
  | .prepare id role plan fresh => s.prepare id role plan fresh
  | .commit id plan defaultRoute listed => s.commit id plan defaultRoute listed
  | .revoke id role listed => s.revoke id role listed
  | .advance => s.advance
  | .lose => s.lose
  | .stop => some (s.become .idle)
  | .packet p size => some (s.packet p size)

end UsageHost

end Hyperspace.Gate.ForwardChain
