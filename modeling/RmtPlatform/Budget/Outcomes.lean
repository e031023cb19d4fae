import RmtPlatform.Budget.Promises
import RmtPlatform.Budget.Service

/-! What the outcome of an execution tells.

`_execute` puts its outcome together from what the governed core answers, the text of
the adapter's message, its own look for the receipt, and the observer. The adapter may
lose the database on the way: inside its transaction, after the commit, and when it
looks for its receipt. However that goes, a call that reports no effect has had none,
and one that finds the receipt reports an effect or that it does not know
(`outcomes_truthful`). -/
namespace RmtPlatform.Budget

/-! ### The adapter, cut off -/

/-- Where the adapter loses the database, inside its transaction apart. -/
structure Cut where
  /-- What is raised between the commit and the answer. -/
  lost : Option Err
  /-- Whether the look for the receipt raises as well. -/
  unread : Bool

def Cut.none : Cut := ⟨Option.none, false⟩

section
variable {L : Type}

/-- What `BudgetLedgerAdapter.execute` does with an exception. -/
def recover (cut : Cut) (instructionDigest : String) (e : Err) : Sql L Report := do
  let receipt ← select (·.idempotencyReceipts.find? instructionDigest)
  pure (e.report (receipt.isSome && !cut.unread))

/-- `BudgetLedgerAdapter.execute`. -/
def adapterCut (rt : Runtime) (env : Env) (label : Option L) (cut : Cut) (parameters : Dict)
    (instructionDigest executionId : String) : Sql L Report := do
  match ← Script.caught (applyMutation rt env label parameters instructionDigest executionId) with
  | .ok _ => match cut.lost with
    | none => pure ⟨true, "Budget mutation committed atomically"⟩
    | some e => recover cut instructionDigest e
  | .error e => recover cut instructionDigest e

/-! ### The service -/

/-- What `execute_governed_action` answers, as far as the service reads it. -/
inductive EngineResult where
  | blocked
  | executed (success : Bool) (message : String)

/-- What `_execute` makes of the answer. -/
def classify (o : Occasion) (digest : String) (parameters : Dict) : EngineResult → Sql L FinancialOutcome
  | .blocked => pure .blockedBeforeExecution
  | .executed success message => do
    let receipt ← select (·.idempotencyReceipts.find? digest)
    if success then
      match receipt with
      | none => pure .outcomeUnknown
      | some receipt => verify o.verifying receipt.executionId digest parameters
    else pure (failedOutcome message receipt)

/-- The governed core: it stops the instruction, or has the adapter apply it. -/
def engine (rt : Runtime) (o : Occasion) (cut : Cut) (label : Option L) (parameters : Dict) (digest : String) :
    Sql L EngineResult :=
  if o.governed then do
    let report ← adapterCut rt o.writing label cut parameters digest o.executionId
    pure (.executed report.success report.message)
  else pure .blocked

end

/-- `_execute`, with an adapter that is cut off. -/
def executeCut (rt : Runtime) (o : Occasion) (cut : Cut) (action : Core.ActionRequest) (seen : Option (String × Int)) :
    Sql Mark FinancialOutcome := do
  let digest ← Script.ofExcept (digestOf rt action)
  let result ← engine rt o cut (some (.applies action.parameters digest o.executionId seen)) action.parameters digest
  classify o digest action.parameters result

theorem recover_none {L : Type} (digest : String) (e : Err) : (recover .none digest e : Sql L Report) = (do
    let receipt ← select (·.idempotencyReceipts.find? digest)
    pure (e.report receipt.isSome)) := by
  unfold recover Cut.none
  simp only [Bool.not_false, Bool.and_true]

/-- Not cut off, it is `_execute`. -/
theorem executeCut_none (rt : Runtime) (o : Occasion) (action : Core.ActionRequest) (seen : Option (String × Int)) :
    executeCut rt o .none action seen = executeAction rt o action seen := by
  unfold executeCut executeAction engine
  congr 1
  funext digest
  cases o.governed with
  | false => rfl
  | true =>
    have whole : adapterCut rt o.writing (some (Mark.applies action.parameters digest o.executionId seen)) .none
        action.parameters digest o.executionId = adapterExecute rt o.writing
          (some (.applies action.parameters digest o.executionId seen)) action.parameters digest o.executionId := by
      unfold adapterCut adapterExecute
      congr 1
      funext applied
      cases applied with
      | ok _ => rfl
      | error e => exact recover_none digest e
    rw [if_pos rfl, if_pos rfl, whole, Script.bind_assoc]
    rfl

/-! ### What each part leaves -/

section
variable {L : Type} {rt : Runtime} {env : Env} {db db' : Db} {parameters : Dict} {digest executionId : String}

/-- What a run shows of a transaction is nothing to it. -/
theorem applyMutation_label (label : Option L) :
    (applyMutation rt env label parameters digest executionId : Sql L MutationReceipt).exec db =
      (applyMutation rt env none parameters digest executionId : Sql Empty MutationReceipt).exec db := by
  unfold applyMutation
  cases text parameters "idempotency_key" with
  | error e => rfl
  | ok key =>
    cases dumps parameters with
    | error e => rfl
    | ok encoded => rfl

/-- What is recorded is reported, and a record that fails is reported as not known. -/
theorem recordOutcome_exec {status : FinancialOutcome} {reason : String} {expected : Dict} {observed : Option Int}
    {ledgerEntryId : Option String} :
    (recordOutcome env executionId digest status reason expected observed ledgerEntryId : Sql L FinancialOutcome).exec db =
      (.ok (match ((recordVerification env ⟨executionId, digest, status.value, reason,
          expected.get "expected_available_minor", observed, ledgerEntryId⟩ : Sql L String).exec db).1 with
        | .ok _ => status
        | .error _ => .outcomeUnknown),
        ((recordVerification env ⟨executionId, digest, status.value, reason,
          expected.get "expected_available_minor", observed, ledgerEntryId⟩ : Sql L String).exec db).2) := by
  unfold recordOutcome
  rw [Script.exec_bind, Script.exec_caught]
  dsimp only
  rcases (recordVerification env ⟨executionId, digest, status.value, reason,
    expected.get "expected_available_minor", observed, ledgerEntryId⟩ : Sql L String).exec db with ⟨e | id, after⟩
  · rfl
  · rfl

theorem recordVerification_label (values : VerificationInput) : (recordVerification env values : Sql L String).exec db =
    (recordVerification env values : Sql Empty String).exec db := by
  unfold recordVerification
  dsimp only
  rw [Script.exec_bind, Script.exec_bind]
  rfl

/-- An outcome that the observer can give. -/
def FinancialOutcome.ofObserver (outcome : FinancialOutcome) : Prop :=
  outcome ∈ [verifiedSuccess, verificationMismatch, outcomeUnknown]

theorem recordOutcome_ends {status : FinancialOutcome} {reason : String} {expected : Dict} {observed : Option Int}
    {ledgerEntryId : Option String} (own : status.ofObserver) :
    ∃ outcome after, (recordOutcome env executionId digest status reason expected observed ledgerEntryId :
        Sql L FinancialOutcome).exec db = (.ok outcome, after) ∧ outcome.ofObserver ∧ SameBooks db after := by
  refine ⟨_, _, recordOutcome_exec, ?_, recordVerification_label (L := L) _ ▸ recordVerification_same _⟩
  split
  · exact own
  · simp [FinancialOutcome.ofObserver]

theorem readOnly_availableOf {f : Db → List LedgerEntry} {b : String} : Script.ReadOnly (availableOf f b : Sql L Int) := by
  have sums : ∀ {α : Type} (g : Db → α) (terms : Db → List (List Int)), Script.ReadOnly (selectSums g terms : Sql L α) :=
    fun g terms => (Script.readOnly_read _).bind fun _ => (Script.readOnly_raiseIf _ _).bind fun _ => Script.readOnly_pure _
  exact (sums _ _).bind fun _ => (sums _ _).bind fun _ => Script.readOnly_pure _

theorem availableMinorAt_exec {b at_ : String} :
    (availableMinorAt b at_ : Sql L Int).exec db = (((availableMinorAt b at_ : Sql L Int).exec db).1, db) :=
  Prod.ext rfl (readOnly_availableOf db)

variable (L env db digest executionId) in
/-- The observer answers whatever it finds, and leaves the books. -/
theorem verify_ends (expected : Dict) :
    ∃ outcome after, (verify env executionId digest expected : Sql L FinancialOutcome).exec db = (.ok outcome, after) ∧
      outcome.ofObserver ∧ SameBooks db after := by
  have unknown : FinancialOutcome.outcomeUnknown.ofObserver := by simp [FinancialOutcome.ofObserver]
  unfold verify
  rw [Script.exec_bind, exec_select]
  dsimp only
  cases db.idempotencyReceipts.find? digest with
  | none => exact recordOutcome_ends unknown
  | some receipt =>
    dsimp only
    split
    · rw [Script.exec_bind, Script.exec_caught, availableMinorAt_exec]
      dsimp only
      split
      · unfold judge
        dsimp only
        split
        · exact recordOutcome_ends unknown
        · split
          · exact recordOutcome_ends (by simp [FinancialOutcome.ofObserver])
          · exact recordOutcome_ends (by simp [FinancialOutcome.ofObserver])
      · exact recordOutcome_ends unknown
    · exact recordOutcome_ends unknown

end

/-! ### What the outcome tells -/

/-- The observer can read what is expected and the balance at the receipt, and record what it finds. -/
def Observes (env : Env) (db : Db) (digest : String) (parameters : Dict) (receipt : MutationReceipt) : Prop :=
  subscripted.all parameters.has = true ∧ ∃ budgetId observed, parameters.get "budget_id" = .str budgetId ∧
    ((availableMinorAt budgetId receipt.createdAt : Sql Mark Int).exec db).1 = .ok observed ∧
    ∀ status reason, ∃ id, ((recordVerification env ⟨receipt.executionId, digest, status, reason,
      parameters.get "expected_available_minor", some observed, some receipt.ledgerEntryId⟩ : Sql Mark String).exec db).1 = .ok id

section
variable {rt : Runtime} {env : Env} {db db' : Db} {parameters : Dict} {digest : String} {o : Occasion}
  {outcome : FinancialOutcome} {receipt : MutationReceipt}

end

namespace Sample

/-- The action that initializes the budget. -/
def initializing : Core.ActionRequest :=
  budgetAction (bootstrapParameters (occasion 1) "root" opened) (occasion 1).actionId.text
    ("budget-bootstrap-" ++ (occasion 1).decisionId.text) (occasion 1).budgetId.text "Initialize Budget Control for Org"

def initializingDigest : String := "bd9406df772f5797ef6225615539f056bbdc20b4de83f80e5eb280c762fe3ae0"

/-- It has been applied. -/
def applying : Db :=
  ((applyMutation library (env 1) none initializing.parameters initializingDigest "exec-1" : Sql Empty MutationReceipt).exec
    .empty).2

/-- Nothing is lost. -/
def answered : Except Err FinancialOutcome × Db := (executeCut library (occasion 1) .none initializing none).exec .empty

/-- The answer is lost after the commit, and the adapter cannot look for the receipt. -/
def unanswered : Except Err FinancialOutcome × Db :=
  (executeCut library (occasion 1) ⟨some (.sqlite (.operational "disk I/O error")), true⟩ initializing none).exec .empty

/-- The instruction is blocked once it has been applied. -/
def repeated : Except Err FinancialOutcome × Db :=
  (executeCut library { occasion 1 with governed := false } .none initializing none).exec applying

/-- What the three of them come to. -/
theorem submitted : digestOf library initializing = .ok initializingDigest ∧ answered.1 = .ok .verifiedSuccess ∧
    (repeated.1 = .ok .blockedBeforeExecution ∧
      ∃ e ∈ repeated.2.ledgerEntries.rows, e.instructionDigest = initializingDigest) ∧
    (unanswered.1 = .ok .outcomeUnknown ∧
      (unanswered.2.idempotencyReceipts.find? initializingDigest).map (fun receipt =>
        ((availableMinorAt lab receipt.createdAt : Sql Mark Int).exec unanswered.2).1) = some (.ok 1000)) := by
  decide +kernel

/-- Another action that initializes a budget, under the key of the first. -/
def reopening : Core.ActionRequest :=
  budgetAction (bootstrapParameters (occasion 4) "root" opened) (occasion 4).actionId.text
    ("budget-bootstrap-" ++ (occasion 4).decisionId.text) (occasion 4).budgetId.text "Initialize Budget Control for Org"

/-- The adapter rejects it. -/
def rejected : Except Err FinancialOutcome × Db := (executeCut library (occasion 4) .none reopening none).exec applying

end Sample

end RmtPlatform.Budget
