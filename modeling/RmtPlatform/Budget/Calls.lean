import RmtPlatform.Budget.Repository
import RmtPlatform.Core.Assessment
import RmtPlatform.Data.Dumps

/-! The calls of the budget service.

A call reads what it needs one statement at a time, binds its instruction, and hands it
over: `decide` hands it to `save_decision`, the others to the governed core, which may
stop it and otherwise has the ledger's adapter apply it. So an approval and a prediction
rest on what was read before the transaction that uses them. A run shows the two
transactions with what the call had read (`Mark`). -/
namespace RmtPlatform.Budget

/-! ### Actions -/

def governanceDomain : String := "rmt.budget.v1"

def adapterName : String := "budget-ledger"

/-- Parameters that JSON holds as they are. -/
def Plain (parameters : Dict) : Prop :=
  (parameters.map Prod.fst).Nodup ∧
    ∀ e ∈ parameters, (∃ key, e.1 = .str key) ∧ ((∃ s, e.2 = .str s) ∨ ∃ i, e.2 = .int i)

/-- How the library of the models writes an action, and reads it back. -/
structure Models where
  modelDumpJson : Core.ActionRequest → String
  modelValidateJson : String → Option Core.ActionRequest
  reads : ∀ action : Core.ActionRequest, Plain action.parameters → modelValidateJson (modelDumpJson action) = some action

/-- What a call gets from its surroundings. -/
structure Occasion where
  decisionId : Uuid
  actionId : Uuid
  organizationId : Uuid
  budgetId : Uuid
  executionId : String
  /-- Whether the governed core lets the instruction through to the adapter. -/
  governed : Bool
  reading : Env
  writing : Env
  verifying : Env

/-- What a run shows of a transaction. -/
inductive Mark where
  /-- `save_decision` approves an instruction that binds this version. -/
  | decides (requestId : String) (version : Int)
  /-- `apply_mutation` applies an instruction. `seen` is the balance of the budget that its prediction starts from, where
  the prediction is not the code's own check. -/
  | applies (parameters : Dict) (instructionDigest executionId : String) (seen : Option (String × Int))

/-- The state an action is to leave, as its outcome states it. -/
def expectedState (parameters : Dict) : String :=
  let state : PyVal := .dict [
    (.str "mutation_type", parameters.get "mutation_type"),
    (.str "budget_id", parameters.get "budget_id"),
    (.str "request_id", parameters.get "request_id"),
    (.str "request_version", parameters.get "request_version"),
    (.str "currency", parameters.get "currency"),
    (.str "available_minor", parameters.get "expected_available_minor")]
  match state.toJson with
  | some json => String.ofList (Json.write Json.asciiEscape [] json)
  | none => ""

/-- `_action`. -/
def budgetAction (parameters : Dict) (actionId decisionId component reason : String) : Core.ActionRequest where
  actionId := actionId
  decisionId := decisionId
  governanceDomain := governanceDomain
  component := component
  actionType := .create
  reason := reason
  confidence := 100
  requiresApproval := false
  rollbackRequired := true
  parameters := parameters
  expectedOutcome := some ⟨component, "create", expectedState parameters⟩

/-- `json.dumps` writes no integer of more than 4300 digits. -/
@[irreducible] def writable (i : Int) : Bool := i.natAbs < 10 ^ 4300

def digestOf (rt : Runtime) (action : Core.ActionRequest) : Except Err String :=
  if action.parameters.all fun e => (valueInts e.2).all writable then
    match Core.bindAction rt action adapterName with
    | .ok digest => .ok digest
    | .error _ => .error (.python "InvalidInstruction")
  else .error (.python "ValueError")

/-! ### What is observed -/

inductive FinancialOutcome where
  | blockedBeforeExecution | adapterFailedNoEffect | appliedUnverified | verifiedSuccess | verificationMismatch
  | outcomeUnknown
deriving DecidableEq

def FinancialOutcome.value : FinancialOutcome → String
  | blockedBeforeExecution => "blocked_before_execution"
  | adapterFailedNoEffect => "adapter_failed_no_effect"
  | appliedUnverified => "applied_unverified"
  | verifiedSuccess => "verified_success"
  | verificationMismatch => "verification_mismatch"
  | outcomeUnknown => "outcome_unknown"

/-- Whether a value equals an integer, of the values instructions hold. -/
def isInt (v : PyVal) (i : Int) : Bool :=
  match v with
  | .int j => j = i
  | _ => false

/-- Whether a value equals a column that may be null. -/
def isColumn {α : Type} (is : PyVal → α → Bool) (v : PyVal) : Option α → Bool
  | some a => is v a
  | none => match v with
    | .none => true
    | _ => false

/-- What `verify` reads of an instruction by its key, so that it has to be there, after the budget. -/
def subscripted : List String := ["currency", "mutation_type", "expected_available_minor"]

/-- What the observer finds wrong with a receipt. -/
def mismatches (receipt : MutationReceipt) (executionId : String) (expected : Dict) (observed : Int) : List String :=
  (if receipt.executionId ≠ executionId then ["execution identity"] else []) ++
  (if (expected.get "currency").isStr receipt.currency then [] else ["currency"]) ++
  (if (expected.get "mutation_type").isStr receipt.mutationType.value then [] else ["mutation type"]) ++
  (if isColumn PyVal.isStr (expected.get "request_id") receipt.requestId then [] else ["request identity"]) ++
  (if isColumn isInt (expected.get "request_version") receipt.requestVersion then [] else ["request version"]) ++
  (if isInt (expected.get "expected_available_minor") receipt.availableMinor then [] else ["receipt balance"]) ++
  if isInt (expected.get "expected_available_minor") observed then [] else ["recomputed balance"]

/-- The name of an exception's type. -/
def Err.typeName : Err → String
  | .budget _ _ => "BudgetError"
  | .sqlite (.operational _) => "OperationalError"
  | .sqlite .integrity => "IntegrityError"
  | .sqlite .overflow => "OverflowError"
  | .sqlite .other => "InterfaceError"
  | .python name => name

section
variable {L : Type}

/-- `_record`. -/
def recordOutcome (env : Env) (executionId instructionDigest : String) (status : FinancialOutcome) (reason : String)
    (expected : Dict) (observed : Option Int) (ledgerEntryId : Option String) : Sql L FinancialOutcome := do
  let recorded ← Script.caught (recordVerification env ⟨executionId, instructionDigest, status.value, reason,
    expected.get "expected_available_minor", observed, ledgerEntryId⟩)
  match recorded with
  | .ok _ => pure status
  | .error _ => pure .outcomeUnknown

/-- What `verify` makes of a receipt and the balance it recomputes. -/
def judge (env : Env) (executionId instructionDigest : String) (expected : Dict) (receipt : MutationReceipt)
    (observed : Int) : Sql L FinancialOutcome :=
  let wrong := mismatches receipt executionId expected observed
  if !subscripted.all expected.has then
    recordOutcome env executionId instructionDigest .outcomeUnknown "Financial observation unavailable: KeyError" expected
      none none
  else if wrong.isEmpty then
    recordOutcome env executionId instructionDigest .verifiedSuccess
      "Receipt, ledger linkage, and recomputed balance match" expected (some observed) (some receipt.ledgerEntryId)
  else
    recordOutcome env executionId instructionDigest .verificationMismatch
      ("Financial evidence mismatch: " ++ ", ".intercalate wrong) expected (some observed) (some receipt.ledgerEntryId)

/-- `BudgetObserver.verify`, of an instruction that names its budget. -/
def verify (env : Env) (executionId instructionDigest : String) (expected : Dict) : Sql L FinancialOutcome := do
  match ← select (·.idempotencyReceipts.find? instructionDigest) with
  | none =>
    recordOutcome env executionId instructionDigest .outcomeUnknown "Durable receipt is unavailable" expected none none
  | some receipt =>
    match expected.get "budget_id" with
    | .str budgetId => do
      match ← Script.caught (availableMinorAt budgetId receipt.createdAt) with
      | .ok observed => judge env executionId instructionDigest expected receipt observed
      | .error e =>
        recordOutcome env executionId instructionDigest .outcomeUnknown ("Financial observation unavailable: " ++ e.typeName)
          expected none none
    | _ =>
      recordOutcome env executionId instructionDigest .outcomeUnknown "Financial observation unavailable: KeyError"
        expected none none

/-! ### The adapter -/

/-- What the adapter reports. -/
structure Report where
  success : Bool
  message : String

/-- What the adapter says of an exception, its receipt being there or not. -/
def Err.report (e : Err) (recovered : Bool) : Report :=
  match e, recovered with
  | .budget _ _, true => ⟨true, "Recovered existing durable Budget mutation receipt"⟩
  | .budget code message, false => ⟨false, "Budget adapter rejected [" ++ code ++ "]: " ++ message⟩
  | _, true => ⟨true, "Recovered committed Budget mutation after ambiguous response"⟩
  | e, false => ⟨false, "Budget mutation outcome is unknown: " ++ e.typeName⟩

/-- `BudgetLedgerAdapter.execute`. -/
def adapterExecute (rt : Runtime) (env : Env) (label : Option L) (parameters : Dict)
    (instructionDigest executionId : String) : Sql L Report := do
  match ← Script.caught (applyMutation rt env label parameters instructionDigest executionId) with
  | .ok _ => pure ⟨true, "Budget mutation committed atomically"⟩
  | .error e => do
    let receipt ← select (·.idempotencyReceipts.find? instructionDigest)
    pure (e.report receipt.isSome)

/-- What a failed execution comes to. -/
def failedOutcome (message : String) (receipt : Option MutationReceipt) : FinancialOutcome :=
  if "unknown".toList <:+: message.toList.map Char.toLower then .outcomeUnknown
  else if receipt.isSome then .appliedUnverified
  else .adapterFailedNoEffect

end

/-- `_execute`. -/
def executeAction (rt : Runtime) (o : Occasion) (action : Core.ActionRequest) (seen : Option (String × Int)) :
    Sql Mark FinancialOutcome := do
  let digest ← Script.ofExcept (digestOf rt action)
  if o.governed then
    let report ← adapterExecute rt o.writing (some (.applies action.parameters digest o.executionId seen))
      action.parameters digest o.executionId
    let receipt ← select (·.idempotencyReceipts.find? digest)
    if report.success then
      match receipt with
      | none => pure .outcomeUnknown
      | some receipt => verify o.verifying receipt.executionId digest action.parameters
    else pure (failedOutcome report.message receipt)
  else pure .blockedBeforeExecution

/-! ### Decisions -/

section
variable {L : Type}

def currentVersion (detail : RequestDetail) : Sql L RequestVersion :=
  found "stale_version" "Current purchase request version is missing"
    (detail.versions.find? (·.version = detail.request.currentVersion))

def approvedDecisionId (detail : RequestDetail) : Sql L String := do
  let decision ← found "approval_required" "Approved decision is missing"
    (detail.decisions.reverse.find? fun d => d.decision = .approved ∧ d.requestVersion = detail.request.currentVersion)
  pure decision.id

end

def commitmentParameters (request : PurchaseRequest) (requestId : String) (current : RequestVersion) (actor : String)
    (decisionId : Uuid) (available : Int) : Dict := [
  (.str "mutation_type", .str MutationType.commitment.value),
  (.str "organization_id", .str request.organizationId),
  (.str "budget_id", .str request.budgetId),
  (.str "request_id", .str requestId),
  (.str "request_version", .int request.currentVersion),
  (.str "currency", .str current.currency),
  (.str "amount_minor", .int current.amountMinor),
  (.str "actor", .str actor),
  (.str "domain_approval_id", .str decisionId.text),
  (.str "idempotency_key", .str ("commit:" ++ decisionId.text)),
  (.str "balance_evidence_minor", .int available),
  (.str "expected_available_minor", .int (available - current.amountMinor))]

def decide (rt : Runtime) (models : Models) (o : Occasion) (actor requestId : String) (decision : Verdict)
    (reason : String) : Sql Mark RequestDetail := do
  let detail ← requestDetail actor requestId
  match decision with
  | .rejected =>
    saveDecision rt o.writing none ⟨o.decisionId.text, actor, requestId, "rejected", reason, none, none, none⟩
  | .approved => do
    let current ← currentVersion detail
    let available ← availableMinor detail.request.budgetId
    let action := budgetAction
      (commitmentParameters detail.request requestId current actor o.decisionId available) o.actionId.text
      o.decisionId.text detail.request.budgetId ("Commit approved purchase request " ++ requestId)
    let digest ← Script.ofExcept (digestOf rt action)
    saveDecision rt o.writing (some (.decides requestId detail.request.currentVersion))
      ⟨o.decisionId.text, actor, requestId, "approved", reason, some digest, some (models.modelDumpJson action),
        some available⟩

def commit (rt : Runtime) (models : Models) (o : Occasion) (actor requestId : String) : Sql Mark FinancialOutcome := do
  let actionJson ← approvedAction rt actor requestId
  let action ← orRaise (.python "ValidationError") (models.modelValidateJson actionJson)
  executeAction rt o action none

/-! ### Other mutations -/

/-- Whether a stored parameter is what the caller passes. -/
def fieldIs (stored : PyVal) : PyVal → Bool
  | .str s => stored.isStr s
  | .int i => isInt stored i
  | _ => false

/-- `_replay`: what an instruction with this key came to, if there is one. -/
def replay {L : Type} (env : Env) (key : String) (mutation : MutationType) (fields : Dict) :
    Sql L (Option FinancialOutcome) := do
  match ← select (·.receiptByKey? key) with
  | none => pure none
  | some receipt => do
    Script.raiseIf (receipt.mutationType ≠ mutation)
      (.budget "idempotency_conflict" "Idempotency key belongs to another mutation")
    match (Json.loads receipt.parametersJson.toList).map PyVal.ofJson with
    | some (.dict parameters) => do
      Script.raiseIf (fields.any fun f => !fieldIs (Dict.get parameters f.1.text) f.2)
        (.budget "idempotency_conflict" "Idempotency key was reused with different content")
      let outcome ← verify env receipt.executionId receipt.instructionDigest parameters
      pure (some outcome)
    | _ => throw (.python "JSONDecodeError")

/-- Parameters with the balance they are to leave. -/
def predicted (parameters : Dict) (after : Int) : Dict := parameters ++ [(.str "expected_available_minor", .int after)]

/-- What the calls that are not approved beforehand do with their parameters. -/
def performMutation (rt : Runtime) (o : Occasion) (parameters : Dict) (decisionId component reason : String) :
    Sql Mark FinancialOutcome := do
  let evidence ← validateMutation rt o.reading parameters none
  executeAction rt o
    (budgetAction (predicted parameters evidence.availableAfter) o.actionId.text decisionId component reason)
    (evidence.budgetId.map fun budgetId => (budgetId, evidence.availableBefore))

/-- The parameters of a settlement or a cancellation. -/
def closingParameters (mutation : MutationType) (request : PurchaseRequest) (requestId : String)
    (current : RequestVersion) (amount : Int) (actor approvalId key : String) : Dict := [
  (.str "mutation_type", .str mutation.value),
  (.str "organization_id", .str request.organizationId),
  (.str "budget_id", .str request.budgetId),
  (.str "request_id", .str requestId),
  (.str "request_version", .int request.currentVersion),
  (.str "currency", .str current.currency),
  (.str "amount_minor", .int amount),
  (.str "actor", .str actor),
  (.str "domain_approval_id", .str approvalId),
  (.str "idempotency_key", .str key)]

def settle (rt : Runtime) (o : Occasion) (actor requestId : String) (amountMinor : Int) (key : String) :
    Sql Mark FinancialOutcome := do
  match ← replay o.verifying key .settlement
      [(.str "request_id", .str requestId), (.str "amount_minor", .int amountMinor), (.str "actor", .str actor)] with
  | some outcome => pure outcome
  | none => do
    let detail ← requestDetail actor requestId
    let current ← currentVersion detail
    let approvalId ← approvedDecisionId detail
    performMutation rt o
      (closingParameters .settlement detail.request requestId current amountMinor actor approvalId key)
      ("budget-settle-" ++ o.decisionId.text) detail.request.budgetId ("Settle purchase request " ++ requestId)

def cancel (rt : Runtime) (o : Occasion) (actor requestId key : String) : Sql Mark FinancialOutcome := do
  match ← replay o.verifying key .cancellation [(.str "request_id", .str requestId), (.str "actor", .str actor)] with
  | some outcome => pure outcome
  | none => do
    let detail ← requestDetail actor requestId
    let current ← currentVersion detail
    let approvalId ← approvedDecisionId detail
    performMutation rt o
      (closingParameters .cancellation detail.request requestId current current.amountMinor actor approvalId key)
      ("budget-cancel-" ++ o.decisionId.text) detail.request.budgetId ("Cancel purchase request " ++ requestId)

/-- What a caller enters to change a balance. -/
structure ChangeInput where
  amountMinor : Int
  currency : String
  reason : String
  idempotencyKey : String

/-- The parameters of an adjustment or a correction. -/
def changeParameters (mutation : MutationType) (organizationId budgetId actor : String) (input : ChangeInput)
    (correctionOf : List (PyKey × PyVal)) : Dict := [
  (.str "mutation_type", .str mutation.value),
  (.str "organization_id", .str organizationId),
  (.str "budget_id", .str budgetId),
  (.str "currency", .str input.currency),
  (.str "amount_minor", .int input.amountMinor),
  (.str "reason", .str input.reason)] ++ correctionOf ++ [
  (.str "actor", .str actor),
  (.str "idempotency_key", .str input.idempotencyKey)]

/-- What `adjust` and `correct` share. -/
def changeBalance (rt : Runtime) (o : Occasion) (mutation : MutationType) (actor budgetId : String) (input : ChangeInput)
    (correctionOf : List (PyKey × PyVal)) (decisionId reason : String) : Sql Mark FinancialOutcome := do
  match ← replay o.verifying input.idempotencyKey mutation ([(.str "budget_id", .str budgetId),
      (.str "currency", .str input.currency), (.str "amount_minor", .int input.amountMinor),
      (.str "reason", .str input.reason)] ++ correctionOf ++ [(.str "actor", .str actor)]) with
  | some outcome => pure outcome
  | none => do
    let organization ← found "not_initialized" "Budget Control is not initialized" (← organization)
    performMutation rt o (changeParameters mutation organization.id budgetId actor input correctionOf)
      (decisionId ++ o.decisionId.text) budgetId reason

def adjust (rt : Runtime) (o : Occasion) (actor budgetId : String) (input : ChangeInput) : Sql Mark FinancialOutcome :=
  changeBalance rt o .adjustment actor budgetId input [] "budget-adjust-"
    ("Adjust budget " ++ budgetId ++ ": " ++ input.reason)

def correct (rt : Runtime) (o : Occasion) (actor budgetId correctionOf : String) (input : ChangeInput) :
    Sql Mark FinancialOutcome :=
  changeBalance rt o .correction actor budgetId input [(.str "correction_of", .str correctionOf)] "budget-correct-"
    ("Correct ledger entry " ++ correctionOf ++ ": " ++ input.reason)

/-- What a caller enters to initialize the budget. -/
structure BootstrapInput where
  organizationName : String
  budgetName : String
  ownerType : String
  ownerName : String
  periodStart : String
  periodEnd : String
  currency : String
  allocationMinor : Int
  ownerPrincipal : String
  requesterPrincipal : String
  idempotencyKey : String

/-- `owner_name.strip() or budget_name.strip()`. -/
def BootstrapInput.owner (input : BootstrapInput) : String :=
  if strip input.ownerName = "" then strip input.budgetName else strip input.ownerName

def bootstrapParameters (o : Occasion) (actor : String) (input : BootstrapInput) : Dict := [
  (.str "mutation_type", .str MutationType.bootstrap.value),
  (.str "organization_id", .str o.organizationId.text),
  (.str "organization_name", .str (strip input.organizationName)),
  (.str "budget_id", .str o.budgetId.text),
  (.str "budget_name", .str (strip input.budgetName)),
  (.str "owner_type", .str input.ownerType),
  (.str "owner_name", .str input.owner),
  (.str "period_start", .str input.periodStart),
  (.str "period_end", .str input.periodEnd),
  (.str "currency", .str input.currency),
  (.str "allocation_minor", .int input.allocationMinor),
  (.str "owner_principal", .str (strip input.ownerPrincipal)),
  (.str "requester_principal", .str (strip input.requesterPrincipal)),
  (.str "actor", .str actor),
  (.str "idempotency_key", .str input.idempotencyKey),
  (.str "expected_available_minor", .int input.allocationMinor)]

/-- What an earlier bootstrap with the same key must have said: all but the identifiers, the key and the balance. -/
def bootstrapFields (o : Occasion) (actor : String) (input : BootstrapInput) : Dict :=
  (bootstrapParameters o actor input).filter fun e =>
    e.1.text ∉ ["mutation_type", "organization_id", "budget_id", "idempotency_key", "expected_available_minor"]

def bootstrap (rt : Runtime) (o : Occasion) (actor : String) (input : BootstrapInput) : Sql Mark FinancialOutcome := do
  match ← replay o.verifying input.idempotencyKey .bootstrap (bootstrapFields o actor input) with
  | some outcome => pure outcome
  | none => do
    let action := budgetAction (bootstrapParameters o actor input) o.actionId.text
      ("budget-bootstrap-" ++ o.decisionId.text) o.budgetId.text
      ("Initialize Budget Control for " ++ input.organizationName)
    executeAction rt o action none

/-! ### All of them -/

/-- A call of the service, with its arguments. -/
inductive ServiceCall where
  | bootstrap (actor : String) (input : BootstrapInput)
  | createRequest (actor budgetId : String) (input : RequestInput)
  | addRequestVersion (actor requestId : String) (input : RequestInput)
  | submitRequest (actor requestId : String)
  | decide (actor requestId : String) (decision : Verdict) (reason : String)
  | commit (actor requestId : String)
  | settle (actor requestId : String) (amountMinor : Int) (key : String)
  | cancel (actor requestId key : String)
  | adjust (actor budgetId : String) (input : ChangeInput)
  | correct (actor budgetId correctionOf : String) (input : ChangeInput)

/-- The call as a script, whatever it returns. -/
def ServiceCall.script (rt : Runtime) (models : Models) (o : Occasion) : ServiceCall → Sql Mark Unit
  | bootstrap actor input => do let _ ← Budget.bootstrap rt o actor input
  | createRequest actor budgetId input => do let _ ← Budget.createRequest rt o.writing none actor budgetId input
  | addRequestVersion actor requestId input => do
    let _ ← Budget.addRequestVersion rt o.writing none actor requestId input
  | submitRequest actor requestId => do let _ ← Budget.submitRequest o.writing none actor requestId
  | decide actor requestId decision reason => do let _ ← Budget.decide rt models o actor requestId decision reason
  | commit actor requestId => do let _ ← Budget.commit rt models o actor requestId
  | settle actor requestId amountMinor key => do let _ ← Budget.settle rt o actor requestId amountMinor key
  | cancel actor requestId key => do let _ ← Budget.cancel rt o actor requestId key
  | adjust actor budgetId input => do let _ ← Budget.adjust rt o actor budgetId input
  | correct actor budgetId correctionOf input => do let _ ← Budget.correct rt o actor budgetId correctionOf input

end RmtPlatform.Budget
