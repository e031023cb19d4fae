import RmtPlatform.Core.Assessment

/-! The governed lifecycle.

`executeGovernedAction` assesses an action and either executes it at once or holds
it; `approveHeldAction` resumes a held one. Both create an authorization and go
through `execute`, the one place an adapter is called. `reconcileHolds` and
`auditAuthorizations` run when the process starts. -/
namespace RmtPlatform.Core

variable {W L : Type}

/-! ### Translation -/

def translateActionToExecution (P : Platform W L) (action : ActionRequest) (authorizationId : String)
    (riskLevel : Option String) (adapterName : String) (assessment hold : Provenance) :
    Governed W L ExecutionRequest := do
  let executionId ← uuid4 P
  pure
    { assessment.or hold with
      executionId
      authorizationId
      actionId := action.actionId
      decisionId := action.decisionId
      governanceDomain := action.governanceDomain
      target := action.component
      operation := action.actionType.value
      parameters := action.parameters
      riskLevel
      expectedOutcome := action.expectedOutcome
      adapterName := some adapterName }

/-! ### The execution boundary -/

/-- No letter outside ASCII is the capital of one in the words compared below. -/
def lower (s : String) : String := String.ofList (s.toList.map Char.toLower)

/-- `execution_risk_analyzer.evaluate`. -/
def executionRisk (request : ExecutionRequest) : String :=
  if lower request.operation ∈ ["delete", "destroy", "remove", "wipe", "format"] then "high"
  else if lower request.operation ∈ ["restart", "create", "rebuild", "update"] then "medium"
  else "low"

/-- `execution_policy.evaluate` denies. -/
def denied (request : ExecutionRequest) : Bool := lower request.operation ∈ ["format", "wipe"]

def traceOf (request : ExecutionRequest) (policyDecision riskLevel outcome reason : String) : ExecutionTrace :=
  { request.toProvenance with
    executionId := request.executionId
    actionId := request.actionId
    authorizationId := request.authorizationId
    policyDecision
    riskLevel
    outcome
    reason
    governanceDomain := request.governanceDomain
    adapterName := request.adapterName }

def auditOf (request : ExecutionRequest) (adapterName riskLevel : String) (result : ExecutionResult) :
    ExecutionAuditRecord :=
  { request.toProvenance with
    executionId := result.executionId
    actionId := request.actionId
    authorizationId := request.authorizationId
    adapter := adapterName
    status := result.status
    message := result.message
    riskLevel
    governanceDomain := request.governanceDomain }

def failed (request : ExecutionRequest) (message : String) : ExecutionResult :=
  ⟨request.executionId, "failed", false, message⟩

def blocked (request : ExecutionRequest) (reason : String) : Governed W L ExecutionResult := do
  saveTrace (traceOf request "not_evaluated" "not_evaluated" "blocked" reason)
  pure (failed request reason)

/-- The first way in which the request is not what was authorized. -/
def mismatch (a : ExecutionAuthorization) (request : ExecutionRequest) (adapterName : String) : Option String :=
  if a.actionId ≠ request.actionId then some "Authorization action_id mismatch"
  else if a.target ≠ request.target then some "Authorization target mismatch"
  else if a.operation ≠ request.operation then some "Authorization operation mismatch"
  else if request.expectedOutcome ≠ a.expectedOutcome then some "Authorization expected_outcome mismatch"
  else if a.instructionDigest.getD "" = "" ∨ a.adapterName ≠ some adapterName ∨
      request.adapterName ≠ some adapterName ∨ a.governanceDomain ≠ request.governanceDomain ∨
      a.toProvenance ≠ request.toProvenance then
    some "Authorization instruction or adapter binding mismatch"
  else none

/-- The request is not what its digest says. Of what binding it raises only `InvalidInstruction` is caught. -/
def misbound (rt : Runtime) (request : ExecutionRequest) (adapterName : String) : Except Raised Bool :=
  match bindExecutionRequest rt request adapterName with
  | .ok digest => .ok (request.instructionDigest ≠ some digest ∨
      request.canonicalizationVersion ≠ some canonicalizationVersion)
  | .error (.other message) => .error (.other message)
  | .error _ => .ok true

section
variable (P : Platform W L)

/-- The authorization is no longer valid, and the reading of the clock that says so or not. -/
def expired (expiresAt : Option Int) : Governed W L (Bool × Option Int) := do
  match expiresAt with
  | none => pure (false, none)
  | some e =>
    let t ← now P
    pure (e < t, some t)

/-- What follows the checks: policy, adapter, evidence. -/
def perform (authorization : ExecutionAuthorization) (checkedAt : Option Int) (request : ExecutionRequest)
    (adapterName : String) : Governed W L ExecutionResult := do
  let risk := request.riskLevel.getD (executionRisk request)
  if denied request then
    saveTrace (traceOf request "deny" risk "blocked" "Execution blocked by policy: deny")
    pure (failed request "Execution blocked by policy: deny")
  else match P.adapter? adapterName with
    | none => pure (failed request ("Adapter '" ++ adapterName ++ "' not found"))
    | some adapter =>
      if !(← outside (adapter.supports request)) then pure (failed request "Adapter does not support request")
      else
        Script.announce (.adapterExecute checkedAt authorization request adapterName)
        let result ← outside (adapter.execute request)
        saveAudit (auditOf request adapterName risk result)
        saveTrace { traceOf request "allow" risk result.status result.message with
          executionId := result.executionId }
        pure result

/-- `ExecutionEngine.execute`. -/
def execute (request : ExecutionRequest) (adapterName : String) : Governed W L ExecutionResult := do
  match ← Script.read (·.authorization? request.authorizationId) with
  | none => blocked request "Authorization not found"
  | some authorization =>
    if authorization.status ≠ "approved" then blocked request "Authorization not approved"
    else
      let (late, checkedAt) ← expired P authorization.expiresAt
      if late then blocked request "Authorization expired"
      else match mismatch authorization request adapterName with
        | some reason => blocked request reason
        | none =>
          if ← Script.ofExcept (misbound P.rt request adapterName) then
            blocked request "Execution instruction binding mismatch"
          else perform P authorization checkedAt request adapterName

/-! ### Verification -/

/-- What the trusted observer of a request reports. -/
def observe (request : ExecutionRequest) : Governed W L (Option ObservedState) := do
  let moduleName := Dict.get request.parameters "module_name"
  if lower request.operation = "create" ∧ moduleName.truthy then
    match ← Script.caught (outside P.getModules) with
    | .error _ => pure none
    | .ok modules =>
      -- A name that is not a string is no observed target.
      match moduleName with
      | .str target => pure (some ⟨target,
          if modules.any fun m => m.name = target ∨ m.container = some target then "registered" else "not_registered",
          "module_registry"⟩)
      | _ => pure none
  else pure none

def verify (executionId : String) (expected : Option ExpectedOutcome) (observed : Option ObservedState) :
    VerificationResult :=
  match expected, observed with
  | none, _ => ⟨executionId, "verification_failure", none, observed, "No expected outcome supplied"⟩
  | some e, none => ⟨executionId, "observation_unavailable", some e, none, "Observation unavailable"⟩
  | some e, some o =>
    if o.state = e.expectedState then
      ⟨executionId, "verified_success", some e, some o, "Observed state matches expected outcome"⟩
    else
      ⟨executionId, "state_mismatch", some e, some o,
        "Expected state '" ++ e.expectedState ++ "' but observed '" ++ o.state ++ "'"⟩

def verifyExecution (executionId : String) (request : ExecutionRequest) : Governed W L VerificationResult := do
  let observed ← observe P request
  let result := verify executionId request.expectedOutcome observed
  saveVerification result
  pure result

/-! ### Results -/

structure Execution where
  executionId : String
  statusDetail : String
  success : Bool
  message : String
  verificationStatus : Option String
  verificationReason : String
deriving DecidableEq

/-- What the two entry points return. -/
inductive GovernedResult where
  | assessmentFailed (reason actionId : String)
  | policyDenied (reason : String) (requiresApproval : Bool) (actionId : String)
  | rejected (reason actionId : String)
  | manualApprovalRequired (reason actionId approvalId : String)
  | authorizationNotCreated (reason actionId : String)
  | executed (execution : Execution)
  | approvalNotFound (reason : String)
  | approvalAlreadyResolved (reason approvalId : String)
  | approvalExpired (approvalId actionId : String)
  | approvalRejected (approvalId actionId : String)
  | assessmentInvalid (reason approvalId actionId : String)
  | approvedAndExecuted (execution : Execution) (approvalId actionId : String)
deriving DecidableEq

/-- The execution of a result whose status is `executed`. -/
def GovernedResult.execution? : GovernedResult → Option Execution
  | .executed e => some e
  | .approvedAndExecuted e _ _ => some e
  | _ => none

/-- The text under `status`. -/
def GovernedResult.status : GovernedResult → String
  | .assessmentFailed .. => "assessment_failed"
  | .policyDenied .. => "policy_denied"
  | .rejected .. | .approvalRejected .. => "rejected"
  | .manualApprovalRequired .. => "manual_approval_required"
  | .authorizationNotCreated .. => "authorization_not_created"
  | .executed _ | .approvedAndExecuted .. => "executed"
  | .approvalNotFound _ => "approval_not_found"
  | .approvalAlreadyResolved .. => "approval_already_resolved"
  | .approvalExpired .. => "approval_expired"
  | .assessmentInvalid .. => "assessment_invalid"

/-- The text under `reason`, empty where there is none. -/
def GovernedResult.reason : GovernedResult → String
  | .assessmentFailed reason _ | .policyDenied reason _ _ | .rejected reason _ | .manualApprovalRequired reason _ _
  | .authorizationNotCreated reason _ | .approvalNotFound reason | .approvalAlreadyResolved reason _
  | .assessmentInvalid reason _ _ => reason
  | .approvalExpired .. => "Approval hold has expired"
  | .approvalRejected .. => "Approval rejected by approver"
  | .executed _ | .approvedAndExecuted .. => ""

/-- Execute, then verify what succeeded. -/
def executeAndVerify (request : ExecutionRequest) (adapterName : String) : Governed W L Execution := do
  let result ← execute P request adapterName
  if result.success then
    let verification ← verifyExecution P result.executionId request
    pure ⟨result.executionId, result.status, result.success, result.message, some verification.status,
      verification.reason⟩
  else pure ⟨result.executionId, result.status, result.success, result.message, none, ""⟩

/-! ### Authorization -/

/-- 300 seconds. -/
def authorizationTtl : Int := 300000000

def createExecutionAuthorization (action : ActionRequest) (decision : ApprovalDecision)
    (assessment : Option GovernanceAssessment) : Governed W L (Option ExecutionAuthorization) := do
  if decision.mode ≠ .auto then pure none
  else if !decision.approved then pure none
  else
    let authorizationId ← uuid4 P
    let created ← now P
    pure (some
      { provenanceOf assessment with
        authorizationId
        actionId := action.actionId
        status := "approved"
        authorizedBy := some "approval_policy"
        authorizationType := "automatic"
        decisionId := some action.decisionId
        approvalId := some decision.approvalId
        expiresAt := some (created + authorizationTtl)
        reason := decision.reason
        target := action.component
        operation := action.actionType.value
        governanceDomain := action.governanceDomain
        adapterName := assessment.map (·.adapterName)
        expectedOutcome := action.expectedOutcome })

def createManualAuthorization (hold : ApprovalHold) (approvedBy approvalId : String) :
    Governed W L ExecutionAuthorization := do
  let authorizationId ← uuid4 P
  let created ← now P
  pure
    { hold.toProvenance with
      authorizationId
      actionId := hold.action.actionId
      status := "approved"
      authorizedBy := some approvedBy
      authorizationType := "manual"
      decisionId := some hold.action.decisionId
      approvalId := some approvalId
      expiresAt := some (created + authorizationTtl)
      reason := hold.reason
      target := hold.action.component
      operation := hold.action.actionType.value
      governanceDomain := hold.action.governanceDomain
      adapterName := some hold.adapterName
      expectedOutcome := hold.action.expectedOutcome }

/-! ### Approval -/

def processApproval (action : ActionRequest) (policy : ActionPolicyResult) (risk : ActionSimulationResult) :
    Governed W L ApprovalDecision := do
  let approvalId ← uuid4 P
  let (mode, reason) := evaluateApproval action policy risk
  pure ⟨approvalId, action.actionId, mode, mode = .auto, reason⟩

def approvalRecord (action : ActionRequest) (approvalDecision : ApprovalDecision) (decision approvedBy : String)
    (approvalId : Option String) (assessment : Option GovernanceAssessment) : ApprovalRecord where
  approvalId := (orText approvalId (some approvalDecision.approvalId)).getD ""
  actionId := action.actionId
  decision
  approvedBy
  reason := approvalDecision.reason
  governanceDomain := action.governanceDomain
  assessmentId := (provenanceOf assessment).assessmentId
  instructionDigest := (provenanceOf assessment).instructionDigest
  adapterName := assessment.map (·.adapterName)
  policyEvidenceReferences := (provenanceOf assessment).policyEvidenceReferences
  riskEvidenceReferences := (provenanceOf assessment).riskEvidenceReferences

def recordApprovalDecision (action : ActionRequest) (approvalDecision : ApprovalDecision)
    (decision approvedBy : String) (approvalId : Option String) (assessment : Option GovernanceAssessment) :
    Governed W L Unit :=
  saveRecord (approvalRecord action approvalDecision decision approvedBy approvalId assessment)

/-- 300 seconds. -/
def approvalHoldTtl : Int := 300000000

def holdForManualApproval (action : ActionRequest) (approvalDecision : ApprovalDecision) (adapterName : String)
    (riskLevel : Option String) (assessment : Option GovernanceAssessment) : Governed W L ApprovalHold := do
  let approvalId ← uuid4 P
  let created ← now P
  let hold : ApprovalHold :=
    { provenanceOf assessment with
      approvalId
      actionId := action.actionId
      action
      adapterName
      reason := approvalDecision.reason
      status := .pending
      approvedBy := none
      expiresAt := some (created + approvalHoldTtl)
      riskLevel
      governanceDomain := action.governanceDomain }
  saveHold hold
  pure hold

/-- The hold's evaluators are the registered ones. -/
def boundTo (registration : AssessmentRegistration W L) (hold : ApprovalHold) : Bool :=
  hold.policyEvaluatorId = some registration.policyId ∧
    hold.policyEvaluatorVersion = some registration.policyVersion ∧
    hold.riskEvaluatorId = some registration.riskId ∧ hold.riskEvaluatorVersion = some registration.riskVersion

/-- The digest of the held action, empty where binding it raises a `ValueError`. -/
def heldDigest (rt : Runtime) (hold : ApprovalHold) : Except Raised String :=
  match bindAction rt hold.action hold.adapterName with
  | .ok digest => .ok digest
  | .error (.other message) => .error (.other message)
  | .error _ => .ok ""

/-- A hold that can still be resolved. -/
def resumeHold (hold : ApprovalHold) (approvalId approvedBy : String) : Governed W L GovernedResult := do
  setHold (some (.holdApproved hold)) approvalId fun h => { h with status := .approved }
  setHold none approvalId fun h => { h with approvedBy := some approvedBy }
  updateRecord none approvalId fun r => { r with decision := "approved", approvedBy }
  let authorization ← createManualAuthorization P hold approvedBy approvalId
  saveAuthorization authorization
  let request ← translateActionToExecution P hold.action authorization.authorizationId hold.riskLevel
    hold.adapterName .missing hold.toProvenance
  let execution ← executeAndVerify P request hold.adapterName
  pure (.approvedAndExecuted execution approvalId hold.actionId)

def approveHeldAction (approvalId approvedBy : String) (approved : Bool) : Governed W L GovernedResult := do
  match ← Script.read (·.hold? approvalId) with
  | none => pure (.approvalNotFound ("No held approval with id '" ++ approvalId ++ "'"))
  | some hold =>
    if hold.status ≠ .pending then
      pure (.approvalAlreadyResolved ("Approval already " ++ hold.status.value) approvalId)
    else
      let (late, _) ← expired P hold.expiresAt
      if late then
        setHold (some (.holdExpired approvalId)) approvalId fun h => { h with status := .rejected }
        pure (.approvalExpired approvalId hold.actionId)
      else if !approved then
        setHold none approvalId fun h => { h with status := .rejected }
        updateRecord (some (.holdRejected approvalId)) approvalId fun r => { r with decision := "rejected", approvedBy }
        pure (.approvalRejected approvalId hold.actionId)
      else match P.registration? hold.governanceDomain with
        | none => pure (.assessmentInvalid "Held governance domain is no longer registered" approvalId hold.actionId)
        | some registration =>
          let digest ← Script.ofExcept (heldDigest P.rt hold)
          if !boundTo registration hold ∨ some digest ≠ hold.instructionDigest then
            pure (.assessmentInvalid "Held assessment or instruction binding mismatch" approvalId hold.actionId)
          else resumeHold P hold approvalId approvedBy

/-! ### The entry point -/

/-- What follows an assessment that the policy allows. -/
def proceed (action : ActionRequest) (adapterName : String) (assessment : GovernanceAssessment)
    (decision : ApprovalDecision) : Governed W L GovernedResult := do
  match decision.mode with
  | .reject =>
    recordApprovalDecision action decision "rejected" "approval_policy" none (some assessment)
    pure (.rejected decision.reason action.actionId)
  | .manual =>
    let hold ← holdForManualApproval P action decision adapterName (some assessment.riskResult.riskLevel)
      (some assessment)
    recordApprovalDecision action decision "manual_required" "" (some hold.approvalId) (some assessment)
    pure (.manualApprovalRequired decision.reason action.actionId hold.approvalId)
  | .auto =>
    Script.announce (.autoApproved action adapterName assessment)
    recordApprovalDecision action decision "approved" "approval_policy" none (some assessment)
    match ← createExecutionAuthorization P action decision (some assessment) with
    | none => pure (.authorizationNotCreated "Approval was not auto-approved" action.actionId)
    | some authorization =>
      saveAuthorization authorization
      let request ← translateActionToExecution P action authorization.authorizationId
        (some assessment.riskResult.riskLevel) adapterName assessment.provenance .missing
      let execution ← executeAndVerify P request adapterName
      pure (.executed execution)

def executeGovernedAction (action : ActionRequest) (adapterName : String) : Governed W L GovernedResult := do
  match ← Script.caught (resolveAssessment P action adapterName) with
  | .error (.other message) => throw (.other message)
  | .error e => pure (.assessmentFailed e.message action.actionId)
  | .ok assessment =>
    if !assessment.policyResult.allowed then
      pure (.policyDenied assessment.policyResult.reason assessment.policyResult.requiresApproval action.actionId)
    else
      let decision ← processApproval P action assessment.policyResult assessment.riskResult
      proceed P action adapterName assessment decision

end

/-- `SimulationAdapter`. -/
def simulationAdapter : ExecutionAdapter W L where
  supports _ := pure true
  execute request := pure ⟨request.executionId, "completed", true, "Execution simulated successfully"⟩

/-- A call of the core and its arguments. -/
inductive Call where
  | governed (action : ActionRequest) (adapterName : String)
  | resolve (action : ActionRequest) (adapterName : String)
  | hold (action : ActionRequest) (decision : ApprovalDecision) (adapterName : String) (riskLevel : Option String)
      (assessment : Option GovernanceAssessment)
  | approve (approvalId approvedBy : String) (approved : Bool)
  | engine (request : ExecutionRequest) (adapterName : String)

/-- The call, whatever it returns. -/
def Call.script (P : Platform W L) : Call → Governed W L Unit
  | governed action adapterName => do let _ ← executeGovernedAction P action adapterName
  | resolve action adapterName => do let _ ← resolveAssessment P action adapterName
  | hold action decision adapterName riskLevel assessment => do
    let _ ← holdForManualApproval P action decision adapterName riskLevel assessment
  | approve approvalId approvedBy approved => do let _ ← approveHeldAction P approvalId approvedBy approved
  | engine request adapterName => do let _ ← execute P request adapterName

/-! ### Starting up -/

/-- The status a terminal decision gives a hold. -/
def terminalStatus : String → Option ApprovalStatus
  | "approved" => some .approved
  | "rejected" => some .rejected
  | _ => none

/-- The correction of one hold. -/
def correction (records : DurableStore ApprovalRecord) (hold : ApprovalHold) : Option (ApprovalHold → ApprovalHold) := do
  if hold.status ≠ .pending then none
  else
    let record ← records.get? (·.approvalId) hold.approvalId
    let status ← terminalStatus record.decision
    some fun h => { h with status, approvedBy := if hold.approvedBy = none then some record.approvedBy else h.approvedBy }

/-- Holds number `i` and the `left - 1` after it. -/
def reconcileFrom : Nat → Nat → Governed W L Unit
  | 0, _ => pure ()
  | left + 1, i => do
    match ← Script.read fun s => do
      let hold ← s.holds.records[i]?
      let f ← correction s.records hold
      some (hold.approvalId, f) with
    | some (approvalId, f) => updateHold approvalId f
    | none => pure ()
    reconcileFrom left (i + 1)

/-- `reconcile_holds_against_records`. -/
def reconcileHolds : Governed W L Unit := do
  let count ← Script.read fun s : State W => s.holds.records.length
  reconcileFrom count 0

structure Divergence where
  authorizationId : String
  approvalId : String
  authorizationType : String
  issue : String
  recordDecision : Option String
deriving DecidableEq

/-- What is wrong with an authorization's approval. -/
def issue (s : State W) (approvalId : String) : Option String :=
  match s.record? approvalId with
  | none => some "missing_record"
  | some record =>
    if record.decision = "rejected" then some "contradicts_rejection"
    else if terminalStatus record.decision = none then some "record_not_terminal"
    else match s.hold? approvalId with
      | some hold => if hold.status = .pending then some "hold_still_pending" else none
      | none => none

/-- `audit_authorizations`: the details it reports. -/
def auditAuthorizations (s : State W) : List Divergence :=
  s.authorizations.records.filterMap fun a =>
    let approvalId := a.approvalId.getD ""
    if approvalId = "" then none
    else (issue s approvalId).map fun issue =>
      ⟨a.authorizationId, approvalId, a.authorizationType, issue, (s.record? approvalId).map (·.decision)⟩

/-- A new process: the stores as they are on disk. -/
def State.restart (P : Platform W L) (s : State W) : State W :=
  { s with
    holds := s.holds.restart fun h => { h with action := { h.action with parameters := P.reload h.action.parameters } }
    records := s.records.restart id
    authorizations := s.authorizations.restart id
    audits := s.audits.restart id
    traces := s.traces.restart id
    verifications := s.verifications.restart id }

/-! ### A platform

The default domain and the simulation adapter, and one action for them. -/

namespace Sample

def action : ActionRequest where
  actionId := "action-1"
  decisionId := "decision-1"
  governanceDomain := "rmt.default"
  component := "web"
  actionType := .start
  reason := "Scheduled start"
  confidence := 95
  requiresApproval := false
  rollbackRequired := true
  parameters := []
  expectedOutcome := none

/-- What the action's digest is taken of. -/
def text : String :=
  "\x7b\"action_id\":\"action-1\",\"adapter_name\":\"simulation\"," ++
    "\"canonicalization_version\":\"rmt-instruction-v1\",\"decision_id\":\"decision-1\"," ++
    "\"expected_outcome\":null,\"governance_domain\":\"rmt.default\",\"operation\":\"start\"," ++
    "\"parameters\":\x7b\x7d,\"target\":\"web\"\x7d"

/-- The library functions, as they are on the texts of this action. -/
def runtime : Runtime where
  sha256 s :=
    if s = text then
      "29ff90b1a8a2532f4bbf5405baac473e7387b220274573b06ad4d54523869ffd"
    else "sha256 of " ++ s
  upper s := s
  isAlpha := Char.isAlpha
  repr s := "'" ++ s ++ "'"
  strOf _ := ""
  intOf _ := none
  textColumn _ := none
  integerColumn _ := none
  room := 300

theorem sha256_injective : Function.Injective runtime.sha256 := by
  intro s t h
  -- No digest begins as the other texts do.
  have head := congrArg (fun u => u.toList.head?) h
  simp only [runtime] at h head
  split_ifs at h head
  all_goals first
    | simp at head; done
    | simp_all

def uuid (n : Nat) : Uuid where
  text := String.ofList (Nat.toDigits 10 n)
  wf := by
    rw [String.toList_ofList]
    exact ⟨Nat.toDigits_ne_nil, fun c hc => .inl (Nat.isDigit_of_mem_toDigits (by decide) (by decide) hc)⟩

/-- The clock is read once a second. -/
def platform : Platform Unit Empty where
  registration? domain := if domain = defaultGovernanceDomain then some defaultRegistration else none
  adapter? name := if name = "simulation" then some simulationAdapter else none
  getModules := pure []
  rt := runtime
  digest_ne s := by
    unfold runtime
    dsimp only
    split <;> simp
  uuid4 := uuid
  uuid4_fresh m n h := by
    have digits := congrArg (Nat.ofDigitChars 10 · 0) (String.ofList_inj.mp h)
    simpa [Nat.ofDigitChars_ten_toDigits] using digits
  clock n := n * 1000000
  reload parameters := parameters

end Sample

end RmtPlatform.Core
