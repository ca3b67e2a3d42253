import Hyperspace.Scheduling.Gates
import Hyperspace.Sessions.CreateBody

/-!
# The path of a session

`choosePath` takes the first gate that a query over rows, conditions and the last report returns for
the ingress, and the first other one for the egress.
-/

namespace Hyperspace.Scheduling

open Hyperspace.Foundations Hyperspace.Provisioning
open Hyperspace.Sessions (readSessionClientProtocol)

/-! ### The query -/

/-- What `selectSchedulableGate` is asked for. -/
structure GateFilter where
  excludeGateId : Option GateId
  gateId : Option GateId
  gateName : Option String
  excludedCountries : List String
  excludedCities : List String
  preferredRegions : List String
  requiredCapabilities : List String

/-- The predicates of the query on what the last report says, with the row of the gate. -/
def GateStatus.Fits (locale : Locale) (status : GateStatus) (g : Gate) : Prop :=
  "doublezero0:up" ∈ status.observedCapabilities ∧
    locale.text? status.doubleZeroStatus "tunnelStatus" = some "BGP Session Up" ∧
    (locale.text? status.doubleZeroStatus "currentDeviceStatus").getD "" ≠ "drained" ∧
    locale.text? status.doubleZeroStatus "network" =
      some (orElse ((locale.text? g.spec "doubleZeroEnv").getD "") "testnet") ∧
    locale.text? status.doubleZeroStatus "tunnelSrc" = some g.publicIpv4

instance {locale : Locale} {status : GateStatus} {g : Gate} : Decidable (status.Fits locale g) :=
  inferInstanceAs (Decidable (_ ∧ _ ∧ _ ∧ _ ∧ _))

namespace GateDb

variable (db : GateDb)

/-- `COALESCE(condition.status = 'True', false)`. -/
def IsTrue (id : GateId) (type : GateConditionType) : Prop :=
  ∃ c ∈ db.conditions id type, c.status = true

instance {id : GateId} {type : GateConditionType} : Decidable (db.IsTrue id type) :=
  inferInstanceAs (Decidable (∃ c ∈ db.conditions id type, _))

/-- The predicates of the query that every path has. -/
def Schedulable (locale : Locale) (g : Gate) : Prop :=
  g.desiredState = .enabled ∧
    db.IsTrue g.id .agentConnected ∧ db.IsTrue g.id .ready ∧ db.IsTrue g.id .schedulable ∧
    g.id ∉ db.deploying ∧
    (∃ status ∈ db.status g.id, status.Fits locale g) ∧
    ∃ lease ∈ db.leases g.id, db.now < lease.leaseExpiresAt

instance {locale : Locale} {g : Gate} : Decidable (db.Schedulable locale g) :=
  inferInstanceAs (Decidable (_ ∧ _ ∧ _ ∧ _ ∧ _ ∧ (∃ status ∈ db.status g.id, _) ∧
    ∃ lease ∈ db.leases g.id, _))

end GateDb

/-- `split_part(lower(name), '-', 2)`. -/
def Gate.region (locale : Locale) (g : Gate) : String :=
  String.ofList (((locale.lower g.name).toList.splitOn '-').getD 1 [])

/-- The predicates of the query that come from the request. -/
def GateFilter.Admits (locale : Locale) (filter : GateFilter) (db : GateDb) (g : Gate) : Prop :=
  (∀ id ∈ filter.excludeGateId, g.id ≠ id) ∧
    (∀ id ∈ filter.gateId, g.id = id) ∧
    (∀ name ∈ filter.gateName, g.name = name) ∧
    locale.lower g.country ∉ filter.excludedCountries ∧
    locale.lower g.city ∉ filter.excludedCities ∧
    (filter.preferredRegions = [] ∨ g.region locale ∈ filter.preferredRegions) ∧
    ∀ capability ∈ filter.requiredCapabilities,
      capability ∈ ((db.status g.id).map (·.observedCapabilities)).getD []

instance {locale : Locale} {filter : GateFilter} {db : GateDb} {g : Gate} :
    Decidable (filter.Admits locale db g) :=
  inferInstanceAs (Decidable ((∀ id ∈ filter.excludeGateId, _) ∧ (∀ id ∈ filter.gateId, _) ∧
    (∀ name ∈ filter.gateName, _) ∧ _ ∧ _ ∧ _ ∧ ∀ capability ∈ filter.requiredCapabilities, _))

/-- `ORDER BY gates.scheduling_weight DESC, gates.name ASC`. -/
def Gate.Precedes (locale : Locale) (a b : Gate) : Prop :=
  b.schedulingWeight < a.schedulingWeight ∨
    a.schedulingWeight = b.schedulingWeight ∧ locale.collates a.name b.name

instance {locale : Locale} : DecidableRel (Gate.Precedes locale) := fun _ _ =>
  inferInstanceAs (Decidable (_ ∨ _ ∧ _))

/-- The query locks nothing. -/
def selectSchedulableGate (locale : Locale) (db : GateDb) (filter : GateFilter) : Option Gate :=
  (selectForUpdate Gate.id (fun g => db.Schedulable locale g ∧ filter.Admits locale db g)
    (Gate.Precedes locale) 1 [] db.gates.rows).head?

/-! ### The request -/

def amneziaWGCapability : String := "client-tunnel:amneziawg-3.1"

def readPathPolicyValues (locale : Locale) (spec : Json) (keys : List String) : List String :=
  let policy := Json.asRecord (spec.field? "pathPolicy")
  (keys.flatMap (Sessions.readStringArray policy)).map locale.toLowerCase

def normalizeCountry (locale : Locale) (value : String) : String :=
  let normalized := locale.toLowerCase (Json.trim value)
  if normalized = "de" ∨ normalized = "deu" ∨ normalized = "germany" then "germany" else normalized

def normalizeRegion (locale : Locale) (value : String) : List String :=
  let normalized := locale.toLowerCase (Json.trim value)
  if normalized ∈ ["eu", "europe"] then ["eu"]
  else if normalized ∈ ["na", "north america", "us"] then ["na"]
  else if normalized ∈ ["ap", "apac", "asia pacific"] then ["ap"]
  else if normalized ∈ ["sa", "latam", "south america"] then ["sa"]
  else if normalized = "emea" then ["eu", "me", "af"]
  else []

def readExcludedCountries (locale : Locale) (spec : Json) : List String :=
  ((readPathPolicyValues locale spec
    ["excludeCountries", "excludedCountries", "avoidCountries"]).map
    (normalizeCountry locale)).filter (· ≠ "") |>.dedup

def readPreferredRegions (locale : Locale) (spec : Json) : List String :=
  ((readPathPolicyValues locale spec ["preferredRegions", "egressRegions"]).flatMap
    (normalizeRegion locale)).filter (· ≠ "") |>.dedup

/-- The gates of a session. -/
structure PathChoice where
  ingressGateId : GateId
  ingressGateName : String
  ingressPublicIpv4 : String
  egressGateId : GateId
  egressGateName : String
  egressPublicIpv4 : String
  deriving DecidableEq

/-- How the choice stops. -/
inductive PathError where
  | unsupportedClientProtocol
  /-- The database refuses the text of a gate's id. -/
  | invalidGateId
  deriving DecidableEq

/-- `value || null`, as a `uuid`. -/
def readGateId (locale : Locale) (value : String) : Except PathError (Option GateId) :=
  if value = "" then .ok none
  else
    match locale.uuid? value with
    | some id => .ok (some id)
    | none => .error .invalidGateId

/-- The filter for the ingress. -/
def ingressFilter (locale : Locale) (spec : Json) (protocol : ClientProtocol)
    (gateId : Option GateId) : GateFilter where
  excludeGateId := none
  gateId
  gateName := Sessions.nonEmpty? (spec.readString "ingressGateName")
  excludedCountries := readExcludedCountries locale spec
  excludedCities :=
    readPathPolicyValues locale spec ["excludeCities", "excludedCities", "avoidCities"]
  preferredRegions := []
  requiredCapabilities := if protocol = .amneziawg then [amneziaWGCapability] else []

/-- The filter for the egress. -/
def egressFilter (locale : Locale) (spec : Json) (ingress : Gate) (gateId : Option GateId) :
    GateFilter where
  excludeGateId := some ingress.id
  gateId
  gateName := Sessions.nonEmpty? (spec.readString "egressGateName")
  excludedCountries := readExcludedCountries locale spec
  excludedCities :=
    readPathPolicyValues locale spec ["excludeCities", "excludedCities", "avoidCities"]
  preferredRegions := readPreferredRegions locale spec
  requiredCapabilities := []

/-- Each query sees the tables as they are then: `later` when the egress is asked for. -/
def choosePath (locale : Locale) (db later : GateDb) (spec : Json) :
    Except PathError (Option PathChoice) :=
  match readSessionClientProtocol (spec.field? "clientProtocol") with
  | none => .error .unsupportedClientProtocol
  | some protocol => do
    let ingressGateId ← readGateId locale (spec.readString "ingressGateId")
    match selectSchedulableGate locale db (ingressFilter locale spec protocol ingressGateId) with
    | none => .ok none
    | some ingress => do
      let egressGateId ← readGateId locale (spec.readString "egressGateId")
      match selectSchedulableGate locale later (egressFilter locale spec ingress egressGateId) with
      | none => .ok none
      | some egress =>
        .ok (some
          { ingressGateId := ingress.id
            ingressGateName := ingress.name
            ingressPublicIpv4 := ingress.publicIpv4
            egressGateId := egress.id
            egressGateName := egress.name
            egressPublicIpv4 := egress.publicIpv4 })

end Hyperspace.Scheduling
