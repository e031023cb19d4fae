import RmtPlatform.Ops.Verification

/-! The operator's endpoints.

`POST /execute` and the remediation of a component hand a new action to the core;
`POST /approve` and `POST /homelab/approve` resume a held one. What follows an
execution is up to each: some only record that it failed, some verify it. -/
namespace RmtPlatform.Ops

open Core

variable {W L : Type} (D : Deployment W L)

/-! ### Names -/

def resolveAdapterName : String := if (D.adapter? D.engine).isSome then D.engine else "simulation"

/-- `uuid4().hex[:8]`. -/
def hex8 (id : String) : String := String.ofList ((id.toList.filter (· ≠ '-')).take 8)

def operationToActionType : String → Option ActionType
  | "start" => some .start
  | "stop" => some .stop
  | "restart" => some .restart
  | "create" => some .create
  | "remove" => some .remove
  | _ => none

/-- The components with a `ComponentContext`. -/
def componentContexts : List String := ["portainer", "uptime-kuma", "dozzle"]

/-! ### Separation of duties -/

/-- 3600 seconds. -/
def provenanceMaxAge : Int := 3600000000

/-- `record_hold_provenance`, with the entries that are too old dropped. -/
def recordHoldProvenance (approvalId : String) (grantId grantedBy agentId : Option String) : Above W L Unit := do
  if approvalId = "" then pure ()
  else
    let t ← inCore (now D.toPlatform)
    Script.modify none fun s =>
      let kept := s.provenance.filter fun p => t - p.recordedAt ≤ provenanceMaxAge
      { s with provenance := put (·.approvalId) ⟨approvalId, grantId, grantedBy, agentId, t⟩ kept }

def getHoldProvenance (approvalId : String) : Above W L (Option HoldProvenance) := do
  if approvalId = "" then pure none
  else match ← Script.read fun s => get? (·.approvalId) approvalId s.provenance with
    | none => pure none
    | some p =>
      let t ← inCore (now D.toPlatform)
      if t - p.recordedAt > provenanceMaxAge then
        Script.modify none fun s => { s with provenance := s.provenance.filter fun p => p.approvalId ≠ approvalId }
        pure none
      else pure (some p)

/-- What the provenance of a hold says of an approver. -/
def separated (provenance : Option HoldProvenance) (approver : String) : Bool × String :=
  match provenance with
  | none => (true, "not_agent_originated")
  | some p =>
    if approver ≠ "" ∧ p.grantedBy = some approver then (false, "approver_is_grantor")
    else if approver ≠ "" ∧ p.agentId = some approver then (false, "approver_is_proposer")
    else (true, "ok")

def checkSeparation (approvalId approver : String) : Above W L (Bool × String) := do
  if !D.separationEnabled then pure (true, "separation_disabled")
  else
    let provenance ← getHoldProvenance D approvalId
    pure (separated provenance approver)

/-! ### Replies -/

/-- What an endpoint answers. -/
inductive Reply where
  | unsupportedOperation (reason : String)
  /-- Status 403. -/
  | forbidden (detail : String)
  | noObservation
  | noRemediation (component : String)
  | outcome (result : GovernedResult) (verification : Option VerificationResult) (effectiveStatus : Option String)

/-! ### Execution -/

/-- The action of `POST /execute`. -/
def operatorAction (operatorName operation target : String) (image : Option String) (actionType : ActionType)
    (actionId : String) : ActionRequest where
  actionId
  decisionId := "operator-" ++ operatorName ++ "-" ++ operation
  governanceDomain := defaultGovernanceDomain
  component := target
  actionType
  reason := "Operator " ++ operatorName ++ " requested " ++ operation ++ " on " ++ target
  confidence := 100
  requiresApproval := false
  rollbackRequired := true
  parameters := match image with
    | some i => if i = "" then [] else [(.str "image", .str i)]
    | none => []
  expectedOutcome := none

def execute (operatorName operation target : String) (image : Option String) : Above W L Reply := do
  match operationToActionType operation with
  | none => pure (.unsupportedOperation ("Operation '" ++ operation ++ "' is not supported"))
  | some actionType =>
    let actionId ← inCore (uuid4 D.toPlatform)
    let action := operatorAction operatorName operation target image actionType actionId
    let result ← governed (executeGovernedAction D.toPlatform action (resolveAdapterName D))
    let _ ← recordFailedExecutionEvidence result action.expectedOutcome
    match result.execution? with
    | none => pure (.outcome result none none)
    | some e =>
      if e.success ∧ e.executionId ≠ "" then
        let verification ← verifyExecutedAction D e.executionId (resolveAdapterName D) operation target none
          (some action.actionId)
        let row ← Script.read fun s => s.row? e.executionId
        pure (.outcome result (some verification) (row.map (·.effectiveStatus)))
      else pure (.outcome result none none)

def approve (approvalId operatorName : String) (approved : Bool) : Above W L Reply := do
  let (ok, why) ← checkSeparation D approvalId operatorName
  if !ok then pure (.forbidden ("separation of duties: " ++ why))
  else
    let result ← governed (approveHeldAction D.toPlatform approvalId operatorName approved)
    let _ ← recordFailedExecutionEvidence result none
    pure (.outcome result none none)

/-! ### Remediation -/

inductive HealthStatus where
  | healthy | warning | critical | unknown
deriving DecidableEq

structure HealthEvaluation where
  component : String
  status : HealthStatus
  confidence : Int
  message : String
deriving DecidableEq

/-- The components that may be remediated; each is restarted when it is critical. -/
def remediationPolicy : List String := ["uptime-kuma", "portainer"]

def buildRemediationAction (evaluation : HealthEvaluation) (decisionReason : Option String) :
    Above W L (Option ActionRequest) := do
  if evaluation.component ∉ remediationPolicy then pure none
  else if evaluation.status ≠ .critical then pure none
  else
    let decisionId ← inCore (uuid4 D.toPlatform)
    let actionId ← inCore (uuid4 D.toPlatform)
    pure (some
      { actionId
        decisionId := "homelab-" ++ evaluation.component ++ "-" ++ hex8 decisionId
        governanceDomain := defaultGovernanceDomain
        component := evaluation.component
        actionType := .restart
        reason := (orText decisionReason (some evaluation.message)).getD ""
        confidence := evaluation.confidence
        requiresApproval := true
        rollbackRequired := true
        parameters := []
        expectedOutcome := some ⟨evaluation.component, "restart", "running"⟩ })

/-- The observer is always the one for containers, whatever adapter ran. -/
def remediateAndVerify (evaluation : HealthEvaluation) (decisionReason : Option String) : Above W L Reply := do
  match ← buildRemediationAction D evaluation decisionReason with
  | none => pure (.noRemediation evaluation.component)
  | some action =>
    let result ← governed (executeGovernedAction D.toPlatform action (resolveAdapterName D))
    match result.execution? with
    | none => pure (.outcome result none none)
    | some e =>
      if e.executionId ≠ "" ∧ action.expectedOutcome.isSome then
        let verification ← verifyExecutedAction D e.executionId "docker" action.actionType.value action.component
          action.expectedOutcome (some action.actionId)
        pure (.outcome result (some verification) none)
      else pure (.outcome result none none)

/-- What the component's current observation says of its health, if there is one. -/
def remediateComponent (observed : Option HealthEvaluation) : Above W L Reply := do
  match observed with
  | none => pure .noObservation
  | some evaluation => remediateAndVerify D evaluation (some evaluation.message)

/-- Evidence for a reply that has an outcome. -/
def evidence (reply : Reply) : Above W L Reply := do
  match reply with
  | .outcome result _ _ =>
    let _ ← recordFailedExecutionEvidence result none
    pure reply
  | _ => pure reply

def homelabRemediate (observed : Option HealthEvaluation) : Above W L Reply := do
  let reply ← remediateComponent D observed
  evidence reply

/-! ### Continuation -/

/-- A held action whose continuation is verified: of a known component, or raised by an agent. -/
def attributable (action : ActionRequest) : Bool :=
  action.component ∈ componentContexts || "agent-".toList.isPrefixOf action.decisionId.toList

def continueRemediation (approvalId approvedBy : String) (approved : Bool) : Above W L Reply := do
  let hold ← Script.read fun s => s.core.hold? approvalId
  let result ← governed (approveHeldAction D.toPlatform approvalId approvedBy approved)
  match hold with
  | none => pure (.outcome result none none)
  | some hold =>
    if !attributable hold.action then pure (.outcome result none none)
    else match result.execution? with
      | none => pure (.outcome result none none)
      | some e =>
        if e.executionId ≠ "" ∧ hold.action.expectedOutcome.isSome then
          let verification ← verifyExecutedAction D e.executionId hold.adapterName hold.action.actionType.value
            hold.action.component hold.action.expectedOutcome (some hold.action.actionId)
          pure (.outcome result (some verification) none)
        else pure (.outcome result none none)

def homelabApprove (approvalId operatorName : String) (approved : Bool) : Above W L Reply := do
  let (ok, why) ← checkSeparation D approvalId operatorName
  if !ok then pure (.forbidden ("separation of duties: " ++ why))
  else
    let reply ← continueRemediation D approvalId operatorName approved
    evidence reply

/-! ### A deployment

One engine, and observers that find nothing. -/

namespace Sample

def deployment : Deployment Unit Empty where
  toPlatform := Core.Sample.platform
  engine := "simulation"
  observeContainer _ := pure none
  observeTag _ := pure none
  polls _ := 0
  agentEnabled := true
  grantTtl := 300
  agentDefaultRequiresApproval := false
  agentDependencyEscalation := true
  -- Nothing depends on anything.
  homelabDependencies := [("portainer", []), ("dozzle", []), ("uptime-kuma", [])]
  contextDependencies := componentContexts.map (·, [])
  dependencyEdges := []
  separationEnabled := true

end Sample

end RmtPlatform.Ops
