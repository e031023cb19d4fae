import RmtPlatform.Data.Value

/-! What the governed core stores and passes on.

An action is assessed, approved, authorized and executed, and each of these stages
leaves a record. All of them carry the same eleven fields of the assessment
(`Provenance`), which is what the execution boundary compares. -/
namespace RmtPlatform.Core

/-! ### Actions -/

inductive ActionType where
  | restartComponent | createCheckpoint | scaleDown | isolateComponent | start | stop | restart | create | remove
deriving DecidableEq

def ActionType.value : ActionType → String
  | restartComponent => "restart_component"
  | createCheckpoint => "create_checkpoint"
  | scaleDown => "scale_down"
  | isolateComponent => "isolate_component"
  | start => "start"
  | stop => "stop"
  | restart => "restart"
  | create => "create"
  | remove => "remove"

def ActionType.all : List ActionType :=
  [restartComponent, createCheckpoint, scaleDown, isolateComponent, start, stop, restart, create, remove]

@[ext] structure ExpectedOutcome where
  target : String
  operation : String
  expectedState : String
deriving DecidableEq

structure ActionRequest where
  actionId : String
  decisionId : String
  governanceDomain : String
  component : String
  actionType : ActionType
  reason : String
  confidence : Int
  requiresApproval : Bool
  rollbackRequired : Bool
  parameters : Dict
  expectedOutcome : Option ExpectedOutcome

/-! ### Assessments -/

/-- A policy result whose fields have been checked. -/
structure ActionPolicyResult where
  allowed : Bool
  reason : String
  requiresApproval : Bool
  evidenceReferences : List String
deriving DecidableEq

/-- A simulation result whose fields have been checked. -/
structure ActionSimulationResult where
  actionId : String
  component : String
  actionType : String
  expectedImpact : String
  riskLevel : String
  rollbackAvailable : Bool
  uncertainty : String
  recoverySemantics : String
  evidenceReferences : List String
deriving DecidableEq

structure GovernanceAssessment where
  assessmentId : String
  governanceDomain : String
  policyResult : ActionPolicyResult
  riskResult : ActionSimulationResult
  policyEvaluatorId : String
  policyEvaluatorVersion : String
  riskEvaluatorId : String
  riskEvaluatorVersion : String
  instructionDigest : String
  canonicalizationVersion : String
  adapterName : String
  policyEvidenceReferences : List String
  riskEvidenceReferences : List String
  uncertainty : String
  recoverySemantics : String
deriving DecidableEq

/-- The fields of an assessment that every later record carries. -/
structure Provenance where
  assessmentId : Option String
  policyEvaluatorId : Option String
  policyEvaluatorVersion : Option String
  riskEvaluatorId : Option String
  riskEvaluatorVersion : Option String
  canonicalizationVersion : Option String
  instructionDigest : Option String
  policyEvidenceReferences : List String
  riskEvidenceReferences : List String
  uncertainty : String
  recoverySemantics : String
deriving DecidableEq

/-- `getattr(None, .., default)` of each field. -/
def Provenance.missing : Provenance where
  assessmentId := none
  policyEvaluatorId := none
  policyEvaluatorVersion := none
  riskEvaluatorId := none
  riskEvaluatorVersion := none
  canonicalizationVersion := none
  instructionDigest := none
  policyEvidenceReferences := []
  riskEvidenceReferences := []
  uncertainty := ""
  recoverySemantics := ""

def GovernanceAssessment.provenance (a : GovernanceAssessment) : Provenance where
  assessmentId := some a.assessmentId
  policyEvaluatorId := some a.policyEvaluatorId
  policyEvaluatorVersion := some a.policyEvaluatorVersion
  riskEvaluatorId := some a.riskEvaluatorId
  riskEvaluatorVersion := some a.riskEvaluatorVersion
  canonicalizationVersion := some a.canonicalizationVersion
  instructionDigest := some a.instructionDigest
  policyEvidenceReferences := a.policyEvidenceReferences
  riskEvidenceReferences := a.riskEvidenceReferences
  uncertainty := a.uncertainty
  recoverySemantics := a.recoverySemantics

/-- `getattr(assessment, .., default)` of each field. -/
def provenanceOf : Option GovernanceAssessment → Provenance
  | some a => a.provenance
  | none => .missing

/-- `a or b` of two optional texts. -/
def orText (a b : Option String) : Option String := if a.getD "" = "" then b else a

/-- `a or b`, field by field. -/
def Provenance.or (a b : Provenance) : Provenance where
  assessmentId := orText a.assessmentId b.assessmentId
  policyEvaluatorId := orText a.policyEvaluatorId b.policyEvaluatorId
  policyEvaluatorVersion := orText a.policyEvaluatorVersion b.policyEvaluatorVersion
  riskEvaluatorId := orText a.riskEvaluatorId b.riskEvaluatorId
  riskEvaluatorVersion := orText a.riskEvaluatorVersion b.riskEvaluatorVersion
  canonicalizationVersion := orText a.canonicalizationVersion b.canonicalizationVersion
  instructionDigest := orText a.instructionDigest b.instructionDigest
  policyEvidenceReferences :=
    if a.policyEvidenceReferences.isEmpty then b.policyEvidenceReferences else a.policyEvidenceReferences
  riskEvidenceReferences :=
    if a.riskEvidenceReferences.isEmpty then b.riskEvidenceReferences else a.riskEvidenceReferences
  uncertainty := if a.uncertainty = "" then b.uncertainty else a.uncertainty
  recoverySemantics := if a.recoverySemantics = "" then b.recoverySemantics else a.recoverySemantics

@[simp] theorem Provenance.missing_or (b : Provenance) : Provenance.missing.or b = b := by
  simp [Provenance.or, Provenance.missing, orText]

/-! ### Approval -/

inductive ApprovalMode where
  | auto | manual | reject
deriving DecidableEq

structure ApprovalDecision where
  approvalId : String
  actionId : String
  mode : ApprovalMode
  approved : Bool
  reason : String
deriving DecidableEq

inductive ApprovalStatus where
  | pending | approved | rejected
deriving DecidableEq

def ApprovalStatus.value : ApprovalStatus → String
  | pending => "pending"
  | approved => "approved"
  | rejected => "rejected"

structure ApprovalRecord where
  approvalId : String
  actionId : String
  decision : String
  approvedBy : String
  reason : String
  governanceDomain : String
  assessmentId : Option String
  instructionDigest : Option String
  adapterName : Option String
  policyEvidenceReferences : List String
  riskEvidenceReferences : List String
deriving DecidableEq

/-- Times are in microseconds. -/
structure ApprovalHold extends Provenance where
  approvalId : String
  actionId : String
  action : ActionRequest
  adapterName : String
  reason : String
  status : ApprovalStatus
  approvedBy : Option String
  expiresAt : Option Int
  riskLevel : Option String
  governanceDomain : String

structure ExecutionAuthorization extends Provenance where
  authorizationId : String
  actionId : String
  status : String
  authorizedBy : Option String
  authorizationType : String
  decisionId : Option String
  approvalId : Option String
  expiresAt : Option Int
  reason : String
  target : String
  operation : String
  governanceDomain : String
  adapterName : Option String
  expectedOutcome : Option ExpectedOutcome
deriving DecidableEq

/-! ### Execution -/

structure ExecutionRequest extends Provenance where
  executionId : String
  authorizationId : String
  actionId : String
  decisionId : String
  governanceDomain : String
  target : String
  operation : String
  parameters : Dict
  riskLevel : Option String
  expectedOutcome : Option ExpectedOutcome
  adapterName : Option String

structure ExecutionResult where
  executionId : String
  status : String
  success : Bool
  message : String
deriving DecidableEq

structure ExecutionAuditRecord extends Provenance where
  executionId : String
  actionId : String
  authorizationId : String
  adapter : String
  status : String
  message : String
  riskLevel : String
  governanceDomain : String
deriving DecidableEq

structure ExecutionTrace extends Provenance where
  executionId : String
  actionId : String
  authorizationId : String
  policyDecision : String
  riskLevel : String
  outcome : String
  reason : String
  governanceDomain : String
  adapterName : Option String

structure ObservedState where
  target : String
  state : String
  source : String
deriving DecidableEq

structure VerificationResult where
  executionId : String
  status : String
  expected : Option ExpectedOutcome
  observed : Option ObservedState
  reason : String
deriving DecidableEq

/-! ### Errors -/

/-- What a call may raise. -/
inductive Raised where
  | assessment (message : String)
  | value (message : String)
  | other (message : String)
deriving DecidableEq

def Raised.message : Raised → String
  | assessment m => m
  | value m => m
  | other m => m

end RmtPlatform.Core
