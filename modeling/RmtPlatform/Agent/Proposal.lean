import RmtPlatform.Ops.Endpoints

/-! What an agent may propose, and where a proposal goes.

An agent acts under a grant: an operator's leave to do one operation on one target,
once. `resolveProposal` looks at the grant and at what depends on the target and makes
the action; `proposeAndGovern` hands it to the core and then consumes the grant;
`previewProposal` stops before anything is stored. -/
namespace RmtPlatform.Agent

open Core Ops

variable {W L : Type} (D : Deployment W L)

/-! ### Grants -/

/-- `uuid4().hex[:12]`. -/
def hex12 (id : String) : String := String.ofList ((id.toList.filter (· ≠ '-')).take 12)

def grant (operation target grantedBy : String) (ttlSeconds : Option Int) : Above W L AuthorityGrant := do
  let id ← inCore (uuid4 D.toPlatform)
  let t ← inCore (now D.toPlatform)
  let g : AuthorityGrant :=
    ⟨hex12 id, operation, target, grantedBy, t + ttlSeconds.getD D.grantTtl * 1000000, false, none⟩
  Script.modify none fun s => { s with grants := s.grants.save g }
  pure g

/-- The grant a proposal names, if it names one. -/
def namedGrant (s : Site W) : Option String → Option AuthorityGrant
  | none => none
  | some grantId => if grantId = "" then none else s.grant? grantId

def check (grantId : Option String) (operation target : String) : Above W L (Bool × String) := do
  match ← Script.read fun s => namedGrant s grantId with
  | none => pure (false, "no_grant")
  | some g =>
    if g.consumed then pure (false, "grant_consumed")
    else
      let t ← inCore (now D.toPlatform)
      if g.expiresAt ≤ t then pure (false, "grant_expired")
      else if g.operation ≠ operation ∨ g.target ≠ target then pure (false, "grant_scope_mismatch")
      else pure (true, "ok")

/-- The grant is used up. -/
def AuthorityGrant.spent (at_ : Int) (g : AuthorityGrant) : AuthorityGrant :=
  { g with consumed := true, consumedAt := some at_ }

def consume (grantId : Option String) : Above W L Bool := do
  match ← Script.read fun s => grantId.bind s.grant? with
  | none => pure false
  | some g =>
    if g.consumed then pure false
    else
      let t ← inCore (now D.toPlatform)
      Script.modify none fun s => { s with grants := s.grants.update (·.grantId) g.grantId (AuthorityGrant.spent t) }
      pure true

/-! ### What depends on a target -/

/-- `bucket.append(d)` for each that is not in it. -/
def addDeps (bucket deps : List String) : List String :=
  deps.foldl (fun bucket d => if d ∈ bucket then bucket else bucket ++ [d]) bucket

/-- A component's dependencies, united with what the map has of it. -/
def mergeEdge : List (String × List String) → String × List String → List (String × List String)
  | [], (component, deps) => [(component, addDeps [] deps)]
  | (name, bucket) :: rest, (component, deps) =>
    if name = component then (name, addDeps bucket deps) :: rest
    else (name, bucket) :: mergeEdge rest (component, deps)

def mergedMap : List (String × List String) := D.dependencyEdges.foldl mergeEdge D.homelabDependencies

def dependentsOf (target : String) : List String :=
  ((mergedMap D ++ D.contextDependencies).filter fun edge => target ∈ edge.2).map (·.1) |>.eraseDups

def allowedEffectOperations : List String := ["start", "create"]

/-- `repr` of a list of texts. -/
def reprList (rt : Runtime) (items : List String) : String :=
  "[" ++ String.intercalate ", " (items.map rt.repr) ++ "]"

def escalateForDependencyCascade (target operation : String) : Bool × String :=
  if !D.agentDependencyEscalation then (false, "")
  else if operation ∉ allowedEffectOperations then (false, "")
  else
    let dependents := dependentsOf D target
    if dependents = [] then (false, "")
    else
      (true,
        "T13: allowed op '" ++ operation ++ "' on '" ++ target ++ "' would propagate to dependent(s) " ++
          reprList D.rt (dependents.insertionSort fun a b => a ≤ b) ++
          " -- a restricted effect via dependency cascade; escalated to human approval")

/-! ### Proposals -/

structure AgentProposal where
  agentId : String
  operationalContext : String
  goal : String
  target : String
  mechanism : ActionType
  reason : String
  confidence : Int
  expectedState : String
  grantId : Option String

def AgentProposal.toExpectedOutcome (proposal : AgentProposal) : ExpectedOutcome :=
  ⟨proposal.target, proposal.mechanism.value, proposal.expectedState⟩

/-- What a proposal comes to before anything is done. -/
structure Resolution where
  authOk : Bool
  authReason : String
  escalate : Bool
  escReason : String
  action : ActionRequest

def proposedAction (proposal : AgentProposal) (decisionId actionId : String) : ActionRequest where
  actionId
  decisionId := "agent-" ++ proposal.agentId ++ "-" ++ hex8 decisionId
  governanceDomain := defaultGovernanceDomain
  component := proposal.target
  actionType := proposal.mechanism
  reason := if proposal.reason ≠ "" then proposal.reason else proposal.goal
  confidence := proposal.confidence
  requiresApproval := (escalateForDependencyCascade D proposal.target proposal.mechanism.value).1 ||
    D.agentDefaultRequiresApproval
  rollbackRequired := true
  parameters := []
  expectedOutcome := some proposal.toExpectedOutcome

def resolveProposal (proposal : AgentProposal) : Above W L Resolution := do
  let (authOk, authReason) ← check D proposal.grantId proposal.mechanism.value proposal.target
  let (escalate, escReason) := escalateForDependencyCascade D proposal.target proposal.mechanism.value
  let decisionId ← inCore (uuid4 D.toPlatform)
  let actionId ← inCore (uuid4 D.toPlatform)
  pure { authOk, authReason, escalate, escReason, action := proposedAction D proposal decisionId actionId }

/-- The adapter of the proposal's domain. -/
def agentAdapterName (operationalContext : String) : String :=
  if operationalContext = "homelab" then resolveAdapterName D
  else if (D.adapter? operationalContext).isSome then operationalContext
  else "simulation"

/-! ### Outcomes -/

inductive Detail where
  | text (text : String)
  /-- `repr` of an exception. -/
  | raised (e : Raised)
deriving DecidableEq

structure AgentOutcome where
  decision : String
  governedStatus : Option String
  executionId : Option String
  approvalId : Option String
  verificationStatus : Option String
  escalated : Bool
  detail : Detail
deriving DecidableEq

/-- An outcome of which the core has seen nothing. -/
def AgentOutcome.ungoverned (decision : String) (escalated : Bool) (detail : Detail) : AgentOutcome where
  decision
  governedStatus := none
  executionId := none
  approvalId := none
  verificationStatus := none
  escalated
  detail

/-- `esc_reason or result.get("reason", "") or ""`. -/
def detailOf (resolution : Resolution) (result : GovernedResult) : Detail :=
  .text (if resolution.escReason ≠ "" then resolution.escReason else result.reason)

/-- The outcome of a held proposal. -/
def held (resolution : Resolution) (result : GovernedResult) (approvalId : String) : AgentOutcome where
  decision := if resolution.escalate then "escalated_hold" else "hold"
  governedStatus := some result.status
  executionId := none
  approvalId := some approvalId
  verificationStatus := none
  escalated := resolution.escalate
  detail := detailOf resolution result

/-- The outcome of an executed one. -/
def allowed (resolution : Resolution) (result : GovernedResult) (executionId : String)
    (verification : Option VerificationResult) : AgentOutcome where
  decision := "allow"
  governedStatus := some result.status
  executionId := some executionId
  approvalId := none
  verificationStatus := verification.map (·.status)
  escalated := resolution.escalate
  detail := detailOf resolution result

/-- The outcome of one that was turned away. -/
def turnedAway (resolution : Resolution) (result : GovernedResult) : AgentOutcome where
  decision := if result.status ∈ ["policy_denied", "authorization_not_created"] then "deny" else "rejected"
  governedStatus := some result.status
  executionId := none
  approvalId := none
  verificationStatus := none
  escalated := resolution.escalate
  detail := detailOf resolution result

/-! ### Proposing -/

/-- Verify what succeeded, and record what did not. -/
def followUp (resolution : Resolution) (adapterName : String) (result : GovernedResult) (e : Execution) :
    Above W L (Option VerificationResult) := do
  let action := resolution.action
  if e.success ∧ action.expectedOutcome.isSome then
    let verification ← verifyExecutedAction D e.executionId adapterName action.actionType.value action.component
      action.expectedOutcome (some action.actionId)
    pure (some verification)
  else if !e.success then recordFailedExecutionEvidence result action.expectedOutcome
  else pure none

/-- What follows the governed call. -/
def conclude (proposal : AgentProposal) (resolution : Resolution) (adapterName : String) :
    Except Raised GovernedResult → Above W L AgentOutcome
  | .error e => pure (.ungoverned "error" resolution.escalate (.raised e))
  | .ok result => do
    match result with
    | .manualApprovalRequired _ _ approvalId =>
      let _ ← consume D proposal.grantId
      let grant ← Script.read fun s => proposal.grantId.bind s.grant?
      recordHoldProvenance D approvalId proposal.grantId (grant.map (·.grantedBy)) (some proposal.agentId)
      pure (held resolution result approvalId)
    | _ =>
      match result.execution? with
      | some e =>
        let _ ← consume D proposal.grantId
        let verification ← followUp D resolution adapterName result e
        pure (allowed resolution result e.executionId verification)
      | none => pure (turnedAway resolution result)

def proposeAndGovern (proposal : AgentProposal) : Above W L AgentOutcome := do
  if !D.agentEnabled then
    pure (.ungoverned "disabled" false (.text "agent surface disabled (RMT_AGENT_ENABLED)"))
  else
    let resolution ← resolveProposal D proposal
    if !resolution.authOk then pure (.ungoverned "no_authority" false (.text resolution.authReason))
    else
      let adapterName := agentAdapterName D proposal.operationalContext
      let answer ← Script.caught (governed (executeGovernedAction D.toPlatform resolution.action adapterName))
      conclude D proposal resolution adapterName answer

/-! ### Previewing -/

/-- What the preview says of the action. -/
structure PreviewedAction where
  component : String
  actionType : String
  reason : String
  confidence : Int
  requiresApproval : Bool
  expectedOutcome : Option ExpectedOutcome
deriving DecidableEq

/-- How the action would end. -/
structure Predicted where
  policyAllowed : Bool
  policyReason : String
  riskLevel : String
  approvalMode : ApprovalMode
  approvalReason : String
deriving DecidableEq

inductive Preview where
  | disabled (detail : String)
  | noProposal (detail : String)
  | assessmentFailed (detail : String)
  | preview (action : PreviewedAction) (authorityOk : Bool) (authorityDetail : String) (escalated : Bool)
      (escalationDetail : String) (predicted : Predicted)
deriving DecidableEq

def previewedAction (action : ActionRequest) : PreviewedAction where
  component := action.component
  actionType := action.actionType.value
  reason := action.reason
  confidence := action.confidence
  requiresApproval := action.requiresApproval
  expectedOutcome := action.expectedOutcome

def predictedEnd (assessment : GovernanceAssessment) (decision : ApprovalDecision) : Predicted where
  policyAllowed := assessment.policyResult.allowed
  policyReason := assessment.policyResult.reason
  riskLevel := assessment.riskResult.riskLevel
  approvalMode := decision.mode
  approvalReason := decision.reason

def previewProposal (proposal : AgentProposal) : Above W L Preview := do
  if !D.agentEnabled then pure (.disabled "agent surface disabled (RMT_AGENT_ENABLED)")
  else if proposal.goal = "" ∨ proposal.target = "" then
    pure (.noProposal "empty goal or target -- nothing to preview")
  else
    let resolution ← resolveProposal D proposal
    let action := resolution.action
    let adapterName := agentAdapterName D proposal.operationalContext
    match ← Script.caught (inCore (resolveAssessment D.toPlatform action adapterName)) with
    | .error (.assessment message) => pure (.assessmentFailed message)
    | .error e => throw e
    | .ok assessment =>
      let decision ← inCore (processApproval D.toPlatform action assessment.policyResult assessment.riskResult)
      pure (.preview (previewedAction action) resolution.authOk resolution.authReason resolution.escalate
        resolution.escReason (predictedEnd assessment decision))

end RmtPlatform.Agent
