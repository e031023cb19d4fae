import RmtPlatform.Core.Stores

/-! What an action is bound to, and how it is assessed.

The digest of an instruction is taken of one canonical text, so it determines
everything the text says (`instruction_bound`). An assessment is made by the
evaluators of the action's domain, whose answers are checked field by field before
anything relies on them. -/
namespace RmtPlatform.Core

/-! ### Binding -/

def canonicalizationVersion : String := "rmt-instruction-v1"

/-- `expected_outcome.model_dump(mode="json")`. -/
def outcomeValue : Option ExpectedOutcome → PyVal
  | none => .none
  | some o => .dict [(.str "target", .str o.target), (.str "operation", .str o.operation),
      (.str "expected_state", .str o.expectedState)]

/-- What an instruction is, wherever it is written. -/
structure Instruction where
  governanceDomain : String
  actionId : String
  decisionId : String
  target : String
  operation : String
  parameters : Dict
  expectedOutcome : Option ExpectedOutcome
  adapterName : String

namespace Instruction

def payload (i : Instruction) : PyVal := .dict [
  (.str "canonicalization_version", .str canonicalizationVersion),
  (.str "governance_domain", .str i.governanceDomain),
  (.str "action_id", .str i.actionId),
  (.str "decision_id", .str i.decisionId),
  (.str "target", .str i.target),
  (.str "operation", .str i.operation),
  (.str "parameters", .dict i.parameters),
  (.str "expected_outcome", outcomeValue i.expectedOutcome),
  (.str "adapter_name", .str i.adapterName)]

/-- The text that is digested. -/
def text (i : Instruction) : Except Raised String :=
  if i.governanceDomain = "" ∨ i.adapterName = "" then
    .error (.value "Governance domain and adapter are required")
  else match i.payload.canonical with
    | some t => .ok t
    | none => .error (.value "Instruction is not canonical JSON")

/-- The parameters are copied first; what copying them raises is not an `InvalidInstruction`. -/
def digest (rt : Runtime) (i : Instruction) : Except Raised String :=
  match PyVal.copyErrorEntries i.parameters rt.room with
  | some message => .error (.other message)
  | none => i.text.map rt.sha256

end Instruction

def ActionRequest.instruction (action : ActionRequest) (adapterName : String) : Instruction where
  governanceDomain := action.governanceDomain
  actionId := action.actionId
  decisionId := action.decisionId
  target := action.component
  operation := action.actionType.value
  parameters := action.parameters
  expectedOutcome := action.expectedOutcome
  adapterName := adapterName

def ExecutionRequest.instruction (request : ExecutionRequest) (adapterName : String) : Instruction where
  governanceDomain := request.governanceDomain
  actionId := request.actionId
  decisionId := request.decisionId
  target := request.target
  operation := request.operation
  parameters := request.parameters
  expectedOutcome := request.expectedOutcome
  adapterName := adapterName

def bindAction (rt : Runtime) (action : ActionRequest) (adapterName : String) : Except Raised String :=
  (action.instruction adapterName).digest rt

def bindExecutionRequest (rt : Runtime) (request : ExecutionRequest) (adapterName : String) :
    Except Raised String :=
  (request.instruction adapterName).digest rt

/-- What two instructions share if they are digested alike. -/
structure Instruction.Same (i j : Instruction) : Prop where
  governanceDomain : i.governanceDomain = j.governanceDomain
  actionId : i.actionId = j.actionId
  decisionId : i.decisionId = j.decisionId
  target : i.target = j.target
  operation : i.operation = j.operation
  /-- The parameters have one canonical text. -/
  parameters : ∃ t, (PyVal.dict i.parameters).canonical = some t ∧ (PyVal.dict j.parameters).canonical = some t
  expectedOutcome : i.expectedOutcome = j.expectedOutcome
  adapterName : i.adapterName = j.adapterName

theorem Instruction.Same.trans {i j k : Instruction} (h : i.Same j) (h' : j.Same k) : i.Same k := by
  obtain ⟨t, hi, hj⟩ := h.parameters
  obtain ⟨t', hj', hk⟩ := h'.parameters
  obtain rfl : t = t' := by simpa [hj] using hj'
  exact ⟨h.1.trans h'.1, h.2.trans h'.2, h.3.trans h'.3, h.4.trans h'.4, h.5.trans h'.5, ⟨t, hi, hk⟩,
    h.7.trans h'.7, h.8.trans h'.8⟩

theorem Instruction.Same.symm {i j : Instruction} (h : i.Same j) : j.Same i := by
  obtain ⟨t, hi, hj⟩ := h.parameters
  exact ⟨h.1.symm, h.2.symm, h.3.symm, h.4.symm, h.5.symm, ⟨t, hj, hi⟩, h.7.symm, h.8.symm⟩

/-- The tree an expected outcome is written as. -/
def outcomeJson : Option ExpectedOutcome → Json
  | none => .null
  | some o => .object [("expected_state", .string o.expectedState), ("operation", .string o.operation),
      ("target", .string o.target)]

theorem toJson_outcome (o : Option ExpectedOutcome) : (outcomeValue o).toJson = some (outcomeJson o) := by
  cases o with
  | none => rfl
  | some o =>
    simp [outcomeValue, outcomeJson, PyVal.toJson, PyVal.toJsonEntries, PyKey.comparable, PyKey.isStr, PyKey.le,
      PyKey.text, List.insertionSort, List.orderedInsert]

theorem outcomeJson_injective : Function.Injective outcomeJson := by
  intro o p h
  cases o <;> cases p <;> simp_all [outcomeJson, ExpectedOutcome.ext_iff]

namespace Instruction

theorem toJson_payload (i : Instruction) :
    i.payload.toJson = (PyVal.dict i.parameters).toJson.map fun parameters => .object [
      ("action_id", .string i.actionId), ("adapter_name", .string i.adapterName),
      ("canonicalization_version", .string canonicalizationVersion), ("decision_id", .string i.decisionId),
      ("expected_outcome", outcomeJson i.expectedOutcome), ("governance_domain", .string i.governanceDomain),
      ("operation", .string i.operation), ("parameters", parameters), ("target", .string i.target)] := by
  have outcome := toJson_outcome i.expectedOutcome
  unfold payload
  -- The parameters and the outcome are written as they are, whatever they are.
  generalize PyVal.dict i.parameters = p
  generalize outcomeValue i.expectedOutcome = o at outcome
  cases h : p.toJson <;>
    simp [PyVal.toJson, PyVal.toJsonEntries, PyKey.comparable, PyKey.isStr, PyKey.le, PyKey.text,
      List.insertionSort, List.orderedInsert, h, outcome]

theorem text_ok {i : Instruction} {t : String} (h : i.text = .ok t) : i.payload.canonical = some t := by
  unfold text at h
  split at h
  · cases h
  · split at h
    · cases h
      assumption
    · cases h

/-- **One text, one instruction.** -/
theorem same_of_text {i j : Instruction} {t : String} (hi : i.text = .ok t) (hj : j.text = .ok t) : i.Same j := by
  have same := PyVal.toJson_of_canonical (text_ok hi) (text_ok hj)
  rw [toJson_payload, toJson_payload] at same
  obtain ⟨ji, hji, rendered⟩ := Option.map_eq_some_iff.mp (text_ok hi)
  rw [toJson_payload] at hji
  obtain ⟨p, hp, rfl⟩ := Option.map_eq_some_iff.mp hji
  rw [hp] at same
  obtain ⟨q, hq, fields⟩ := Option.map_eq_some_iff.mp same.symm
  simp only [Json.object.injEq, List.cons.injEq, Prod.mk.injEq, Json.string.injEq, true_and, and_true] at fields
  obtain ⟨actionId, adapterName, decisionId, outcome, domain, operation, rfl, target⟩ := fields
  refine ⟨domain.symm, actionId.symm, decisionId.symm, target.symm, operation.symm, ?_,
    outcomeJson_injective outcome.symm, adapterName.symm⟩
  exact ⟨_, by rw [PyVal.canonical, hp]; rfl, by rw [PyVal.canonical, hq]; rfl⟩

theorem digest_ok {rt : Runtime} {i : Instruction} {d : String} (h : i.digest rt = .ok d) :
    ∃ t, i.text = .ok t ∧ d = rt.sha256 t := by
  unfold digest at h
  split at h
  · cases h
  · cases ht : i.text with
    | error e => simp [ht, Except.map] at h
    | ok t => exact ⟨t, rfl, by simpa [ht, Except.map] using h.symm⟩

/-- Parameters that are copied are digested by their text. -/
theorem digest_copied {rt : Runtime} {i : Instruction} (copied : PyVal.copyErrorEntries i.parameters rt.room = none) :
    i.digest rt = i.text.map rt.sha256 := by
  rw [digest, copied]

/-- **What is digested alike is the same**, if no two texts have one digest. -/
theorem same_of_digest {rt : Runtime} (hash : Function.Injective rt.sha256) {i j : Instruction} {d : String}
    (hi : i.digest rt = .ok d) (hj : j.digest rt = .ok d) : i.Same j := by
  obtain ⟨t, ht, rfl⟩ := digest_ok hi
  obtain ⟨t', ht', same⟩ := digest_ok hj
  obtain rfl := hash same
  exact same_of_text ht ht'

end Instruction

/-! ### Default evaluators -/

def allowedActionTypes : List String := ["restart_component", "start", "stop", "restart", "create", "remove"]

/-- `criticality` is what the context says; the default evaluator has no context. -/
def evaluateActionPolicy (action : ActionRequest) (criticality : PyVal) : ActionPolicyResult :=
  if action.confidence < 70 then
    ⟨false, "Confidence below action threshold", true, []⟩
  else if criticality.isStr "critical" then
    ⟨true, "Critical component requires approval", true, []⟩
  else if action.actionType.value ∈ allowedActionTypes then
    ⟨true, "Action type allowed by policy", action.requiresApproval, []⟩
  else
    ⟨false, "Action type not approved by policy", true, []⟩

def simulateAction (action : ActionRequest) : ActionSimulationResult :=
  let result := fun impact risk rollback =>
    (⟨action.actionId, action.component, action.actionType.value, impact, risk, rollback, "unspecified", "", []⟩ :
      ActionSimulationResult)
  match action.actionType with
  | .restartComponent => result "Temporary component restart" "medium" true
  | .start | .stop => result "Temporary container operation" "low" true
  | .restart => result "Restart container" "medium" true
  | .create => result "Create new container" "medium" true
  | .remove => result "Remove container" "high" false
  | _ => result "Unknown action impact" "unknown" false

def strings (items : List String) : PyVal := .tuple (items.map .str)

/-- The objects `evaluate` returns. -/
def ActionPolicyResult.answer (r : ActionPolicyResult) : PolicyAnswer :=
  .result (.bool r.allowed) (.str r.reason) (.bool r.requiresApproval) (strings r.evidenceReferences)

def ActionSimulationResult.answer (r : ActionSimulationResult) : RiskAnswer :=
  .result (.str r.actionId) (.str r.component) (.str r.actionType) (.str r.expectedImpact) (.str r.riskLevel)
    (.bool r.rollbackAvailable) (.str r.uncertainty) (.str r.recoverySemantics) (strings r.evidenceReferences)

def defaultGovernanceDomain : String := "rmt.default"

def defaultRegistration {W L : Type} : AssessmentRegistration W L where
  policyId := "rmt.default.action-policy"
  policyVersion := "1"
  policy action := pure (evaluateActionPolicy action .none).answer
  riskId := "rmt.default.action-simulation"
  riskVersion := "1"
  risk action := pure (simulateAction action).answer
  operations := ["restart_component", "create_checkpoint", "scale_down", "isolate_component", "start", "stop",
    "restart", "create", "remove"]
  adapters := ["simulation", "docker", "git", "module_change"]
  identified := by simp
  nonempty := by simp

/-! ### Checking an assessment -/

/-- A tuple of non-empty strings. -/
def evidence : PyVal → Option (List String)
  | .tuple items => items.mapM fun
    | .str s => if s = "" then none else some s
    | _ => none
  | _ => none

def checkPolicy : PolicyAnswer → Except Raised ActionPolicyResult
  | .malformed => .error (.assessment "Malformed policy assessment")
  | .result (.bool allowed) (.str reason) (.bool requiresApproval) references =>
    match evidence references with
    | some refs => .ok ⟨allowed, reason, requiresApproval, refs⟩
    | none => .error (.assessment "Malformed policy evidence references")
  | .result _ _ _ _ => .error (.assessment "Malformed policy assessment fields")

def riskLevels : List String := ["low", "medium", "high", "critical", "unknown"]

/-- `risk_level not in {..}`, which hashes the value. -/
def checkRiskLevel (level : PyVal) : Except Raised String :=
  match level.unhashable with
  | some type => .error (.other ("unhashable type: '" ++ type ++ "'"))
  | none => match level with
    | .str s => if s ∈ riskLevels then .ok s else .error (.assessment "Malformed risk level")
    | _ => .error (.assessment "Malformed risk level")

def checkRisk (action : ActionRequest) : RiskAnswer → Except Raised ActionSimulationResult
  | .malformed => .error (.assessment "Malformed risk assessment")
  | .result actionId component actionType impact riskLevel rollback uncertainty recovery references => do
    let level ← checkRiskLevel riskLevel
    if !actionId.isStr action.actionId then .error (.assessment "Risk assessment action mismatch")
    else if !component.isStr action.component || !actionType.isStr action.actionType.value then
      .error (.assessment "Malformed risk assessment fields")
    else match impact, rollback, uncertainty, recovery with
      | .str i, .bool b, .str u, .str r =>
        match evidence references with
        | some refs => .ok ⟨action.actionId, action.component, action.actionType.value, i, level, b, u, r, refs⟩
        | none => .error (.assessment "Malformed risk evidence references")
      | _, _, _, _ => .error (.assessment "Malformed risk assessment fields")

/-- Domains other than the default one must give evidence. -/
def unsupported (action : ActionRequest) (policy : ActionPolicyResult) (risk : ActionSimulationResult) : Prop :=
  action.governanceDomain ≠ defaultGovernanceDomain ∧ (policy.evidenceReferences = [] ∨
    risk.evidenceReferences = [] ∨ risk.uncertainty = "" ∨ risk.recoverySemantics = "")

instance (action : ActionRequest) (policy : ActionPolicyResult) (risk : ActionSimulationResult) :
    Decidable (unsupported action policy risk) :=
  inferInstanceAs (Decidable (_ ∧ _))

section
variable {W L : Type} (P : Platform W L)

/-- The digest and the evaluators' answers. -/
def evaluate (registration : AssessmentRegistration W L) (action : ActionRequest) (adapterName : String) :
    Governed W L (String × PolicyAnswer × RiskAnswer) := do
  let digest ← Script.ofExcept (bindAction P.rt action adapterName)
  let policy ← outside (registration.policy action)
  let risk ← outside (registration.risk action)
  pure (digest, policy, risk)

def resolveAssessment (action : ActionRequest) (adapterName : String) : Governed W L GovernanceAssessment := do
  match P.registration? action.governanceDomain with
  | none => throw (.assessment ("Unknown governance domain: " ++ P.rt.repr action.governanceDomain))
  | some registration =>
    let operation := action.actionType.value
    Script.raiseIf (operation ∉ registration.operations)
      (.assessment ("Operation " ++ P.rt.repr operation ++ " is not registered for the domain"))
    Script.raiseIf (adapterName ∉ registration.adapters)
      (.assessment ("Adapter " ++ P.rt.repr adapterName ++ " is not registered for the domain"))
    match ← Script.caught (evaluate P registration action adapterName) with
    | .error e => throw (.assessment ("Domain assessment unavailable: " ++ e.message))
    | .ok (digest, policy, risk) =>
      let policyResult ← Script.ofExcept (checkPolicy policy)
      let riskResult ← Script.ofExcept (checkRisk action risk)
      Script.raiseIf (unsupported action policyResult riskResult)
        (.assessment "Domain assessment evidence and recovery semantics required")
      let assessmentId ← uuid4 P
      let assessment : GovernanceAssessment :=
        { assessmentId
          governanceDomain := action.governanceDomain
          policyResult
          riskResult
          policyEvaluatorId := registration.policyId
          policyEvaluatorVersion := registration.policyVersion
          riskEvaluatorId := registration.riskId
          riskEvaluatorVersion := registration.riskVersion
          instructionDigest := digest
          canonicalizationVersion
          adapterName
          policyEvidenceReferences := policyResult.evidenceReferences
          riskEvidenceReferences := riskResult.evidenceReferences
          uncertainty := riskResult.uncertainty
          recoverySemantics := riskResult.recoverySemantics }
      Script.announce (.assessed action adapterName assessment)
      pure assessment

end

/-! ### Approval -/

/-- How an assessed action may proceed, and why. -/
def evaluateApproval (action : ActionRequest) (policy : ActionPolicyResult) (risk : ActionSimulationResult) :
    ApprovalMode × String :=
  if !policy.allowed then (.reject, policy.reason)
  else if risk.riskLevel = "unknown" then (.reject, "Simulation risk is unknown")
  else if risk.riskLevel = "high" ∨ risk.riskLevel = "critical" then
    (.manual, "High-risk action requires human approval")
  else if action.confidence < 90 then (.manual, "Confidence below automatic approval threshold")
  else if action.requiresApproval then (.manual, "Action explicitly requires approval")
  else if !risk.rollbackAvailable then (.manual, "Rollback is not available")
  else if risk.riskLevel = "low" ∨ risk.riskLevel = "medium" then
    (.auto, "Action meets automatic approval criteria")
  else (.manual, "Action requires human approval")

end RmtPlatform.Core
