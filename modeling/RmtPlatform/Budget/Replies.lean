import RmtPlatform.Budget.Outcomes

/-! What the service answers a request that moves money.

A request whose key is known is answered with the receipt of the mutation, once that is
found to be of the same content (`_replay`). Any other is bound, assessed by the budget's
two evaluators, and applied (`_execute`). But for the answer this is what the calls of a
run do (`Submission.reply_script`). -/
namespace RmtPlatform.Budget

/-! ### Governance -/

/-- `BudgetPolicyEvaluator.evaluate`, of what `validate_mutation` came to. -/
def policyResult : Except Err Evidence → Except Err Core.ActionPolicyResult
  | .ok evidence => .ok ⟨true, "Budget domain policy and permission checks passed", false, evidence.evidence⟩
  | .error (.budget code message) =>
    .ok ⟨false, "Budget policy denied [" ++ code ++ "]: " ++ message, false, ["budget:denial:" ++ code]⟩
  | .error e => .error e

/-- `BudgetRiskEvaluator.evaluate`, of what `validate_mutation` came to. -/
def riskResult (rt : Runtime) (action : Core.ActionRequest) : Except Err Evidence → Except Err Core.ActionSimulationResult
  | .ok evidence =>
    let amount := match evidence.amountMinor with
      | .int amount => renderInt amount
      | v => rt.str v
    if (valueInts evidence.amountMinor ++ [evidence.availableBefore, evidence.availableAfter]).all writable then
      .ok ⟨action.actionId, action.component, action.actionType.value,
        "Apply " ++ evidence.mutationType.value ++ " for " ++ amount ++ " " ++ evidence.currency ++
          " minor units; available changes from " ++ renderInt evidence.availableBefore ++ " to " ++
          renderInt evidence.availableAfter, "medium", true, "low: serialized transaction revalidates all evidence",
        "query durable receipt by immutable instruction digest; never replay an unresolved outcome", evidence.evidence⟩
    else .error (.python "ValueError")
  | .error (.budget code message) =>
    .ok ⟨action.actionId, action.component, action.actionType.value,
      "Budget mutation cannot be safely assessed: " ++ message, "unknown", false, "denied:" ++ code,
      "stop without adapter invocation", ["budget:denial:" ++ code]⟩
  | .error e => .error e

section
variable {L : Type}

/-- Whether the governed core lets an action through: the budget's two evaluators assess it, with evidence, and then it is
approved automatically, held or rejected. -/
def governs (rt : Runtime) (env : Env) (action : Core.ActionRequest) (digest : String) : Sql L Bool := do
  let policy ← Script.caught (validateMutation rt env action.parameters (some digest))
  let risk ← Script.caught (validateMutation rt env action.parameters (some digest))
  match policyResult policy, riskResult rt action risk with
  | .ok policy, .ok risk =>
    pure (¬Core.unsupported action policy risk ∧ (Core.evaluateApproval action policy risk).1 = .auto)
  | _, _ => pure false

/-! ### What is answered -/

/-- What a request that moves money is answered. -/
structure Reply where
  instructionDigest : String
  receipt : Option MutationReceipt
  outcome : FinancialOutcome

/-- `_replay`. -/
def replayed (env : Env) (key : String) (mutation : MutationType) (fields : Dict) : Sql L (Option Reply) := do
  match ← select (·.receiptByKey? key) with
  | none => pure none
  | some receipt => do
    Script.raiseIf (receipt.mutationType ≠ mutation)
      (.budget "idempotency_conflict" "Idempotency key belongs to another mutation")
    match (Json.loads receipt.parametersJson.toList).map PyVal.ofJson with
    | some (.dict parameters) => do
      Script.raiseIf (fields.any fun f => !fieldIs (Dict.get parameters f.1.text) f.2)
        (.budget "idempotency_conflict" "Idempotency key was reused with different content")
      let outcome ← verify env receipt.executionId receipt.instructionDigest parameters
      pure (some ⟨receipt.instructionDigest, some receipt, outcome⟩)
    | _ => throw (.python "JSONDecodeError")

end

/-- `_execute`. -/
def executed (rt : Runtime) (o : Occasion) (action : Core.ActionRequest) (seen : Option (String × Int)) :
    Sql Mark Reply := do
  let digest ← Script.ofExcept (digestOf rt action)
  if ← governs rt o.reading action digest then
    let report ← adapterExecute rt o.writing (some (.applies action.parameters digest o.executionId seen))
      action.parameters digest o.executionId
    let receipt ← select (·.idempotencyReceipts.find? digest)
    if report.success then
      match receipt with
      | none => pure ⟨digest, none, .outcomeUnknown⟩
      | some receipt => do
        let outcome ← verify o.verifying receipt.executionId digest action.parameters
        pure ⟨digest, some receipt, outcome⟩
    else pure ⟨digest, none, failedOutcome report.message receipt⟩
  else pure ⟨digest, none, .blockedBeforeExecution⟩

def performed (rt : Runtime) (o : Occasion) (parameters : Dict) (decisionId component reason : String) :
    Sql Mark Reply := do
  let evidence ← validateMutation rt o.reading parameters none
  executed rt o
    (budgetAction (predicted parameters evidence.availableAfter) o.actionId.text decisionId component reason)
    (evidence.budgetId.map fun budgetId => (budgetId, evidence.availableBefore))

/-- The requests that move money. -/
inductive Submission where
  | bootstrap (actor : String) (input : BootstrapInput)
  | commit (actor requestId : String)
  | settle (actor requestId : String) (amountMinor : Int) (key : String)
  | cancel (actor requestId key : String)
  | adjust (actor budgetId : String) (input : ChangeInput)
  | correct (actor budgetId correctionOf : String) (input : ChangeInput)

/-- What looks for the receipt first, and does the rest only if there is none. -/
def unlessReplayed (before : Sql Mark (Option Reply)) (rest : Sql Mark Reply) : Sql Mark Reply := do
  match ← before with
  | some reply => pure reply
  | none => rest

/-- The fields `adjust` and `correct` compare. -/
def changeFields (actor budgetId : String) (input : ChangeInput) (correctionOf : List (PyKey × PyVal)) : Dict :=
  [(.str "budget_id", .str budgetId), (.str "currency", .str input.currency), (.str "amount_minor", .int input.amountMinor),
    (.str "reason", .str input.reason)] ++ correctionOf ++ [(.str "actor", .str actor)]

/-- What `adjust` and `correct` share. -/
def changeReply (rt : Runtime) (o : Occasion) (mutation : MutationType) (actor budgetId : String) (input : ChangeInput)
    (correctionOf : List (PyKey × PyVal)) (decisionId reason : String) : Sql Mark Reply :=
  unlessReplayed (replayed o.verifying input.idempotencyKey mutation (changeFields actor budgetId input correctionOf)) do
    let organization ← found "not_initialized" "Budget Control is not initialized" (← organization)
    performed rt o (changeParameters mutation organization.id budgetId actor input correctionOf)
      (decisionId ++ o.decisionId.text) budgetId reason

namespace Submission

/-- The key the caller chose. A commitment's is the decision's. -/
def key? : Submission → Option String
  | bootstrap _ input => some input.idempotencyKey
  | commit _ _ => none
  | settle _ _ _ key => some key
  | cancel _ _ key => some key
  | adjust _ _ input => some input.idempotencyKey
  | correct _ _ _ input => some input.idempotencyKey

/-- The service's method, with what it answers. -/
def reply (rt : Runtime) (models : Models) (o : Occasion) : Submission → Sql Mark Reply
  | bootstrap actor input =>
    unlessReplayed (replayed o.verifying input.idempotencyKey .bootstrap (bootstrapFields o actor input))
      (executed rt o (budgetAction (bootstrapParameters o actor input) o.actionId.text
        ("budget-bootstrap-" ++ o.decisionId.text) o.budgetId.text
        ("Initialize Budget Control for " ++ input.organizationName)) none)
  | commit actor requestId => do
    let actionJson ← approvedAction rt actor requestId
    let action ← orRaise (.python "ValidationError") (models.modelValidateJson actionJson)
    executed rt o action none
  | settle actor requestId amountMinor key =>
    unlessReplayed (replayed o.verifying key .settlement
        [(.str "request_id", .str requestId), (.str "amount_minor", .int amountMinor), (.str "actor", .str actor)]) do
      let detail ← requestDetail actor requestId
      let current ← currentVersion detail
      let approvalId ← approvedDecisionId detail
      performed rt o
        (closingParameters .settlement detail.request requestId current amountMinor actor approvalId key)
        ("budget-settle-" ++ o.decisionId.text) detail.request.budgetId ("Settle purchase request " ++ requestId)
  | cancel actor requestId key =>
    unlessReplayed (replayed o.verifying key .cancellation [(.str "request_id", .str requestId), (.str "actor", .str actor)]) do
      let detail ← requestDetail actor requestId
      let current ← currentVersion detail
      let approvalId ← approvedDecisionId detail
      performed rt o
        (closingParameters .cancellation detail.request requestId current current.amountMinor actor approvalId key)
        ("budget-cancel-" ++ o.decisionId.text) detail.request.budgetId ("Cancel purchase request " ++ requestId)
  | adjust actor budgetId input =>
    changeReply rt o .adjustment actor budgetId input [] "budget-adjust-"
      ("Adjust budget " ++ budgetId ++ ": " ++ input.reason)
  | correct actor budgetId correctionOf input =>
    changeReply rt o .correction actor budgetId input [(.str "correction_of", .str correctionOf)] "budget-correct-"
      ("Correct ledger entry " ++ correctionOf ++ ": " ++ input.reason)

/-- The service's method, as a call of a run. -/
def call : Submission → ServiceCall
  | bootstrap actor input => .bootstrap actor input
  | commit actor requestId => .commit actor requestId
  | settle actor requestId amountMinor key => .settle actor requestId amountMinor key
  | cancel actor requestId key => .cancel actor requestId key
  | adjust actor budgetId input => .adjust actor budgetId input
  | correct actor budgetId correctionOf input => .correct actor budgetId correctionOf input

/-- The mutation the request asks for. -/
def mutation : Submission → MutationType
  | bootstrap _ _ => .bootstrap
  | commit _ _ => .commitment
  | settle _ _ _ _ => .settlement
  | cancel _ _ _ => .cancellation
  | adjust _ _ _ => .adjustment
  | correct _ _ _ _ => .correction

/-- What an instruction has of the request itself. -/
def fields (o : Occasion) : Submission → Dict
  | bootstrap actor input => bootstrapFields o actor input
  | commit actor requestId => [(.str "request_id", .str requestId), (.str "actor", .str actor)]
  | settle actor requestId amountMinor _ =>
    [(.str "request_id", .str requestId), (.str "amount_minor", .int amountMinor), (.str "actor", .str actor)]
  | cancel actor requestId _ => [(.str "request_id", .str requestId), (.str "actor", .str actor)]
  | adjust actor budgetId input => changeFields actor budgetId input []
  | correct actor budgetId correctionOf input =>
    changeFields actor budgetId input [(.str "correction_of", .str correctionOf)]

/-- An instruction made from the request. -/
structure Instructed (o : Occasion) (sub : Submission) (parameters : Dict) : Prop where
  mutation : parameters.get "mutation_type" = .str sub.mutation.value
  key : ∀ key ∈ sub.key?, parameters.get "idempotency_key" = .str key
  fields : ∀ f ∈ sub.fields o, parameters.get f.1.text = f.2

/-- What the methods make instructions of. -/
inductive Makes : Submission → Dict → Prop where
  | bootstrap (o : Occasion) (actor : String) (input : BootstrapInput) :
      Makes (bootstrap actor input) (bootstrapParameters o actor input)
  | commit (actor requestId : String) (request : PurchaseRequest) (current : RequestVersion) (decisionId : Uuid)
      (available : Int) :
      Makes (commit actor requestId) (commitmentParameters request requestId current actor decisionId available)
  | settle (actor requestId : String) (amountMinor : Int) (key : String) (request : PurchaseRequest)
      (current : RequestVersion) (approvalId : String) (after : Int) :
      Makes (settle actor requestId amountMinor key)
        (predicted (closingParameters .settlement request requestId current amountMinor actor approvalId key) after)
  | cancel (actor requestId key : String) (request : PurchaseRequest) (current : RequestVersion) (approvalId : String)
      (after : Int) :
      Makes (cancel actor requestId key)
        (predicted (closingParameters .cancellation request requestId current current.amountMinor actor approvalId key) after)
  | adjust (actor budgetId : String) (input : ChangeInput) (organizationId : String) (after : Int) :
      Makes (adjust actor budgetId input)
        (predicted (changeParameters .adjustment organizationId budgetId actor input []) after)
  | correct (actor budgetId correctionOf : String) (input : ChangeInput) (organizationId : String) (after : Int) :
      Makes (correct actor budgetId correctionOf input)
        (predicted (changeParameters .correction organizationId budgetId actor input
          [(.str "correction_of", .str correctionOf)]) after)

theorem Makes.plain {sub : Submission} {parameters : Dict} (makes : Makes sub parameters) : Plain parameters := by
  cases makes with
  | bootstrap => exact plain_bootstrap
  | commit => exact plain_commitment
  | settle => exact plain_predicted closing_plain (by simp [closingParameters])
  | cancel => exact plain_predicted closing_plain (by simp [closingParameters])
  | adjust => exact plain_predicted (change_plain (.inl rfl)) (by simp [changeParameters])
  | correct => exact plain_predicted (change_plain (.inr ⟨_, rfl⟩)) (by simp [changeParameters])

theorem Makes.instructed {sub : Submission} {parameters : Dict} (o : Occasion) (makes : Makes sub parameters) :
    sub.Instructed o parameters := by
  constructor
  · cases makes <;> rfl
  · intro key told
    cases makes <;> cases told <;> rfl
  · intro f mem
    cases makes with
    | bootstrap =>
      simp only [fields, bootstrapFields, bootstrapParameters] at mem
      simp [PyKey.text] at mem
      rcases mem with rfl | rfl | rfl | rfl | rfl | rfl | rfl | rfl | rfl | rfl | rfl <;> rfl
    | commit =>
      simp only [fields, List.mem_cons, List.not_mem_nil, or_false] at mem
      rcases mem with rfl | rfl <;> rfl
    | settle =>
      simp only [fields, List.mem_cons, List.not_mem_nil, or_false] at mem
      rcases mem with rfl | rfl | rfl <;> rfl
    | cancel =>
      simp only [fields, List.mem_cons, List.not_mem_nil, or_false] at mem
      rcases mem with rfl | rfl <;> rfl
    | adjust =>
      simp only [fields, changeFields, List.append_nil, List.cons_append, List.nil_append, List.mem_cons,
        List.not_mem_nil, or_false] at mem
      rcases mem with rfl | rfl | rfl | rfl | rfl <;> rfl
    | correct =>
      simp only [fields, changeFields, List.cons_append, List.nil_append, List.mem_cons, List.not_mem_nil, or_false] at mem
      rcases mem with rfl | rfl | rfl | rfl | rfl | rfl <;> rfl

theorem Instructed.of_get {o : Occasion} {sub : Submission} {parameters parameters' : Dict}
    (h : sub.Instructed o parameters) (same : ∀ key, parameters'.get key = parameters.get key) :
    sub.Instructed o parameters' :=
  ⟨(same _).trans h.mutation, fun key told => (same _).trans (h.key key told), fun f mem => (same _).trans (h.fields f mem)⟩

/-- The fields that are compared are texts and amounts. -/
theorem fields_plain {o : Occasion} (sub : Submission) :
    ∀ f ∈ sub.fields o, (∃ s, f.2 = .str s) ∨ ∃ i, f.2 = .int i := by
  intro f mem
  cases sub with
  | bootstrap actor input =>
    simp only [fields, bootstrapFields] at mem
    exact (plain_bootstrap.2 f (List.mem_of_mem_filter mem)).2
  | commit actor requestId =>
    simp only [fields, List.mem_cons, List.not_mem_nil, or_false] at mem
    rcases mem with rfl | rfl <;> simp
  | settle actor requestId amountMinor key =>
    simp only [fields, List.mem_cons, List.not_mem_nil, or_false] at mem
    rcases mem with rfl | rfl | rfl <;> simp
  | cancel actor requestId key =>
    simp only [fields, List.mem_cons, List.not_mem_nil, or_false] at mem
    rcases mem with rfl | rfl <;> simp
  | adjust actor budgetId input =>
    simp only [fields, changeFields, List.append_nil, List.cons_append, List.nil_append, List.mem_cons,
      List.not_mem_nil, or_false] at mem
    rcases mem with rfl | rfl | rfl | rfl | rfl <;> simp
  | correct actor budgetId correctionOf input =>
    simp only [fields, changeFields, List.cons_append, List.nil_append, List.mem_cons, List.not_mem_nil, or_false] at mem
    rcases mem with rfl | rfl | rfl | rfl | rfl | rfl <;> simp

end Submission

/-! ### Validating changes nothing -/

section
variable {L : Type} (rt : Runtime) (env : Env) (parameters : Dict)

theorem readOnly_requireRole (principal : String) (role : BudgetRole) (b : Option String) :
    Script.ReadOnly (requireRole rt principal role b : Sql L Unit) :=
  (Script.readOnly_read _).bind fun _ => Script.readOnly_raiseIf _ _

theorem readOnly_found {α : Type} (code message : String) (f : Db → Option α) :
    Script.ReadOnly (do found code message (← select f) : Sql L α) :=
  (Script.readOnly_read _).bind fun _ => readOnly_orRaise _ _

theorem readOnly_validateBootstrap (actor currency : String) :
    Script.ReadOnly (validateBootstrap env parameters actor currency : Sql L Evidence) :=
  (Script.readOnly_read _).bind fun _ => (Script.readOnly_raiseIf _ _).bind fun _ => (Script.readOnly_raiseIf _ _).bind fun _ =>
    (Script.readOnly_ofExcept _).bind fun _ => (Script.readOnly_ofExcept _).bind fun _ => (Script.readOnly_ofExcept _).bind fun _ =>
    (Script.readOnly_raiseIf _ _).bind fun _ => (Script.readOnly_ofExcept _).bind fun _ => (Script.readOnly_ofExcept _).bind fun _ =>
    Script.readOnly_pure _

theorem readOnly_validateChange (m : MutationType) (budgetId : String) (before : Int) :
    Script.ReadOnly (validateChange parameters m budgetId before : Sql L (Int × Int)) := by
  refine (Script.readOnly_ofExcept _).bind fun amount => (Script.readOnly_raiseIf _ _).bind fun _ => ?_
  split
  · refine (Script.readOnly_ofExcept _).bind fun correctionOf => (Script.readOnly_read _).bind fun row => ?_
    exact (readOnly_orRaise _ _).bind fun _ => (Script.readOnly_raiseIf _ _).bind fun _ => (Script.readOnly_read _).bind fun _ =>
      (Script.readOnly_raiseIf _ _).bind fun _ => (Script.readOnly_raiseIf _ _).bind fun _ => Script.readOnly_pure _
  · exact (Script.readOnly_raiseIf _ _).bind fun _ => Script.readOnly_pure _

theorem readOnly_validateTransition (m : MutationType) (actor : String) (digest : Option String) (q : PurchaseRequest)
    (v : RequestVersion) (amount before : Int) :
    Script.ReadOnly (validateTransition parameters m actor digest q v amount before : Sql L Int) := by
  have closing : ∀ (n : Int), Script.ReadOnly (openCommitment q.id.text n : Sql L LedgerEntry) := fun n => readOnly_found _ _ _
  cases m with
  | commitment =>
    exact (Script.readOnly_raiseIf _ _).bind fun _ => (Script.readOnly_raiseIf _ _).bind fun _ => (Script.readOnly_ofExcept _).bind fun _ =>
      (Script.readOnly_read _).bind fun _ => (readOnly_orRaise _ _).bind fun _ => (Script.readOnly_raiseIf _ _).bind fun _ =>
      (readOnly_orRaise _ _).bind fun _ => (Script.readOnly_raiseIf _ _).bind fun _ => (Script.readOnly_raiseIf _ _).bind fun _ =>
      Script.readOnly_pure _
  | settlement =>
    exact (Script.readOnly_raiseIf _ _).bind fun _ => (closing _).bind fun _ => (Script.readOnly_raiseIf _ _).bind fun _ => Script.readOnly_pure _
  | cancellation =>
    exact (Script.readOnly_raiseIf _ _).bind fun _ => (closing _).bind fun _ => (Script.readOnly_raiseIf _ _).bind fun _ => Script.readOnly_pure _
  | bootstrap => exact Script.readOnly_throw _
  | adjustment => exact Script.readOnly_throw _
  | correction => exact Script.readOnly_throw _

theorem readOnly_validateEffect (m : MutationType) (actor : String) (digest : Option String) (budgetId : String) (before : Int) :
    Script.ReadOnly (validateEffect parameters m actor digest budgetId before : Sql L (Int × Int)) := by
  unfold validateEffect
  split
  · exact readOnly_validateChange parameters m budgetId before
  · refine (Script.readOnly_ofExcept _).bind fun requestId => (readOnly_request _).bind fun q => (Script.readOnly_raiseIf _ _).bind fun _ =>
      (Script.readOnly_ofExcept _).bind fun n => (Script.readOnly_raiseIf _ _).bind fun _ => ?_
    exact (readOnly_found _ _ _).bind fun v => (Script.readOnly_ofExcept _).bind fun amount =>
      (readOnly_validateTransition parameters m actor digest q v amount before).bind fun _ => Script.readOnly_pure _

/-- Validation changes nothing. -/
theorem readOnly_validateMutation (digest : Option String) :
    Script.ReadOnly (validateMutation rt env parameters digest : Sql L Evidence) := by
  have looks : Script.ReadOnly (existingReceipt digest : Sql L (Option MutationReceipt)) := by
    unfold existingReceipt
    split
    · exact Script.readOnly_pure _
    · split
      · exact Script.readOnly_pure _
      · exact Script.readOnly_read _
  refine (Script.readOnly_ofExcept _).bind fun m => (Script.readOnly_ofExcept _).bind fun actor => (Script.readOnly_ofExcept _).bind fun code =>
    looks.bind fun receipt => ?_
  split
  · exact Script.readOnly_ofExcept _
  · split
    · exact readOnly_validateBootstrap env parameters actor code
    · refine (Script.readOnly_ofExcept _).bind fun budgetId => (readOnly_found _ _ _).bind fun b => (Script.readOnly_raiseIf _ _).bind fun _ =>
        (Script.readOnly_raiseIf _ _).bind fun _ => (readOnly_requireRole rt _ _ _).bind fun _ => readOnly_availableOf.bind fun before => ?_
      exact (readOnly_validateEffect parameters m actor digest budgetId before).bind fun _ => Script.readOnly_pure _

end

/-! ### What a reply leaves out -/

/-- The call comes to what the other comes to, of which it keeps a part. -/
def Erases {α β : Type} (keep : β → α) (x : Sql Mark α) (y : Sql Mark β) (db : Db) : Prop :=
  x.exec db = (Except.map keep (y.exec db).1, (y.exec db).2)

section
variable {α β γ : Type} {keep : β → α} {rt : Runtime} {models : Models} {db : Db}

theorem Erases.refl (x : Sql Mark α) : Erases id x x db := by
  unfold Erases
  rcases x.exec db with ⟨e | a, after⟩ <;> rfl

/-- The two begin alike. -/
theorem Erases.bind {g : γ → Sql Mark α} {h : γ → Sql Mark β} {x : Sql Mark γ}
    (rest : ∀ a db', x.exec db = (.ok a, db') → Erases keep (g a) (h a) db') : Erases keep (x >>= g) (x >>= h) db := by
  unfold Erases at rest ⊢
  rw [Script.exec_bind, Script.exec_bind]
  rcases ran : x.exec db with ⟨e | a, after⟩
  · rfl
  · exact rest a after ran

theorem erases_bind {g : Bool → γ → Sql Mark α} {h : γ → Sql Mark β} {x : Sql Mark γ}
    (rest : ∀ a db', x.exec db = (.ok a, db') → ∃ governed, Erases keep (g governed a) (h a) db') :
    ∃ governed, Erases keep (x >>= g governed) (x >>= h) db := by
  rcases ran : x.exec db with ⟨e | a, after⟩
  · refine ⟨false, .bind fun a db' other => ?_⟩
    rw [ran] at other
    cases other
  · obtain ⟨governed, same⟩ := rest a after ran
    refine ⟨governed, .bind fun a' db' other => ?_⟩
    rw [ran] at other
    cases other
    exact same

theorem erases_executed (o : Occasion) (action : Core.ActionRequest) (seen : Option (String × Int)) :
    ∃ governed, Erases Reply.outcome (executeAction rt { o with governed } action seen) (executed rt o action seen) db := by
  apply erases_bind
  intro digest db' _
  obtain ⟨b, ran⟩ : ∃ b, (governs rt o.reading action digest : Sql Mark Bool).exec db' = (.ok b, db') := by
    have same := @readOnly_validateMutation Mark rt o.reading action.parameters (some digest) db'
    unfold governs
    simp only [Script.exec_bind, Script.exec_caught, same]
    split
    · exact ⟨_, rfl⟩
    · exact ⟨_, rfl⟩
  refine ⟨b, ?_⟩
  unfold Erases
  rw [Script.exec_bind, ran]
  cases b with
  | false => rfl
  | true =>
    apply Erases.bind
    intro report db₁ _
    apply Erases.bind
    intro receipt db₂ _
    cases report.success with
    | false => rfl
    | true =>
      cases receipt with
      | none => rfl
      | some receipt =>
        simp only [if_true]
        unfold Erases
        rw [Script.exec_bind]
        rcases (verify o.verifying receipt.executionId digest action.parameters : Sql Mark FinancialOutcome).exec db₂ with ⟨e | outcome, after⟩
        · rfl
        · rfl

theorem erases_replayed {env : Env} {key : String} {m : MutationType} {fields : Dict} :
    Erases (Option.map Reply.outcome) (replay env key m fields) (replayed env key m fields) db := by
  apply Erases.bind
  intro receipt db₁ _
  cases receipt with
  | none => rfl
  | some receipt =>
    apply Erases.bind
    intro _ db₂ _
    rcases (Json.loads receipt.parametersJson.toList).map PyVal.ofJson with _ | v
    · rfl
    · cases v with
      | dict parameters =>
        apply Erases.bind
        intro _ db₃ _
        apply Erases.bind
        intro outcome db₄ _
        rfl
      | _ => rfl

/-- Looking for the receipt first, and doing the rest if there is none. -/
theorem erases_unless {env : Env} {key : String} {m : MutationType} {fields : Dict} {g : Bool → Sql Mark FinancialOutcome}
    {h : Sql Mark Reply} (rest : ∀ db, ∃ governed, Erases Reply.outcome (g governed) h db) :
    ∃ governed, Erases Reply.outcome (do
        match ← replay env key m fields with
        | some outcome => pure outcome
        | none => g governed) (unlessReplayed (replayed env key m fields) h) db := by
  have looked : Erases (Option.map Reply.outcome) (replay env key m fields) (replayed env key m fields) db := erases_replayed
  unfold Erases at looked
  rcases ran : (replayed env key m fields : Sql Mark (Option Reply)).exec db with ⟨e | _ | reply, after⟩
  · rw [ran] at looked
    refine ⟨false, ?_⟩
    unfold Erases unlessReplayed
    rw [Script.exec_bind, Script.exec_bind, looked, ran]
    rfl
  · rw [ran] at looked
    obtain ⟨governed, same⟩ := rest after
    refine ⟨governed, ?_⟩
    unfold Erases unlessReplayed
    rw [Script.exec_bind, Script.exec_bind, looked, ran]
    exact same
  · rw [ran] at looked
    refine ⟨false, ?_⟩
    unfold Erases unlessReplayed
    rw [Script.exec_bind, Script.exec_bind, looked, ran]
    rfl

theorem erases_performed (o : Occasion) (parameters : Dict) (decisionId component reason : String) :
    ∃ governed, Erases Reply.outcome (performMutation rt { o with governed } parameters decisionId component reason)
      (performed rt o parameters decisionId component reason) db := by
  unfold performMutation performed
  dsimp only
  apply erases_bind
  intro evidence db' _
  exact erases_executed o _ _

theorem erases_change (o : Occasion) (m : MutationType) (actor budgetId : String) (input : ChangeInput)
    (correctionOf : List (PyKey × PyVal)) (decisionId reason : String) :
    ∃ governed, Erases Reply.outcome
      (changeBalance rt { o with governed } m actor budgetId input correctionOf decisionId reason)
      (changeReply rt o m actor budgetId input correctionOf decisionId reason) db := by
  unfold changeBalance changeReply
  dsimp only
  apply erases_unless
  intro db
  apply erases_bind
  intro found db₁ _
  apply erases_bind
  intro organization db₂ _
  exact erases_performed o _ _ _ _

theorem erases_closing (o : Occasion) (parameters : RequestDetail → RequestVersion → String → Dict) (decisionId : String)
    (reason actor requestId : String) : ∃ governed, Erases Reply.outcome (do
        let detail ← requestDetail actor requestId
        let current ← currentVersion detail
        let approvalId ← approvedDecisionId detail
        performMutation rt { o with governed } (parameters detail current approvalId) decisionId detail.request.budgetId reason)
      (do
        let detail ← requestDetail actor requestId
        let current ← currentVersion detail
        let approvalId ← approvedDecisionId detail
        performed rt o (parameters detail current approvalId) decisionId detail.request.budgetId reason) db := by
  apply erases_bind
  intro detail db₁ _
  apply erases_bind
  intro current db₂ _
  apply erases_bind
  intro approvalId db₃ _
  exact erases_performed o _ _ _ _

theorem Erases.discard {x : Sql Mark α} {y : Sql Mark β} (same : Erases keep x y db) :
    (do let _ ← x : Sql Mark Unit).exec db = ((y.exec db).1.map fun _ => (), (y.exec db).2) := by
  unfold Erases at same
  rw [Script.exec_bind, same]
  rcases y.exec db with ⟨e | reply, after⟩
  · rfl
  · rfl

/-- **A reply is what the call of a run comes to**, for what the core answers there. -/
theorem Submission.reply_script (sub : Submission) (o : Occasion) :
    ∃ governed, (sub.call.script rt models { o with governed }).exec db =
      (((sub.reply rt models o).exec db).1.map fun _ => (), ((sub.reply rt models o).exec db).2) := by
  cases sub with
  | bootstrap actor input =>
    -- What surrounds the call is the same but for what the core answers.
    have parameters : ∀ governed, bootstrapParameters { o with governed } actor input = bootstrapParameters o actor input :=
      fun _ => rfl
    have fields : ∀ governed, bootstrapFields { o with governed } actor input = bootstrapFields o actor input := fun _ => rfl
    obtain ⟨governed, same⟩ : ∃ governed, Erases Reply.outcome (Budget.bootstrap rt { o with governed } actor input)
        (reply rt models o (.bootstrap actor input)) db := by
      unfold Budget.bootstrap reply
      simp only [parameters, fields]
      exact erases_unless fun db => erases_executed o _ _
    exact ⟨governed, same.discard⟩
  | commit actor requestId =>
    obtain ⟨governed, same⟩ : ∃ governed, Erases Reply.outcome (Budget.commit rt models { o with governed } actor requestId)
        (reply rt models o (.commit actor requestId)) db := by
      apply erases_bind
      intro actionJson db₁ _
      apply erases_bind
      intro action db₂ _
      exact erases_executed o action none
    exact ⟨governed, same.discard⟩
  | settle actor requestId amountMinor key =>
    obtain ⟨governed, same⟩ : ∃ governed, Erases Reply.outcome (Budget.settle rt { o with governed } actor requestId amountMinor key)
        (reply rt models o (.settle actor requestId amountMinor key)) db := by
      unfold Budget.settle reply
      dsimp only
      exact erases_unless fun db => erases_closing o (fun detail current approvalId =>
        closingParameters .settlement detail.request requestId current amountMinor actor approvalId key) _ _ _ _
    exact ⟨governed, same.discard⟩
  | cancel actor requestId key =>
    obtain ⟨governed, same⟩ : ∃ governed, Erases Reply.outcome (Budget.cancel rt { o with governed } actor requestId key)
        (reply rt models o (.cancel actor requestId key)) db := by
      unfold Budget.cancel reply
      dsimp only
      exact erases_unless fun db => erases_closing o (fun detail current approvalId =>
        closingParameters .cancellation detail.request requestId current current.amountMinor actor approvalId key) _ _ _ _
    exact ⟨governed, same.discard⟩
  | adjust actor budgetId input =>
    obtain ⟨governed, same⟩ := @erases_change rt db o .adjustment actor budgetId input [] "budget-adjust-"
      ("Adjust budget " ++ budgetId ++ ": " ++ input.reason)
    exact ⟨governed, same.discard⟩
  | correct actor budgetId correctionOf input =>
    obtain ⟨governed, same⟩ := @erases_change rt db o .correction actor budgetId input
      [(.str "correction_of", .str correctionOf)] "budget-correct-"
      ("Correct ledger entry " ++ correctionOf ++ ": " ++ input.reason)
    exact ⟨governed, same.discard⟩

end

end RmtPlatform.Budget
