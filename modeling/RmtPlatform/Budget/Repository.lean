import Mathlib.Algebra.Ring.Int.Defs
import Mathlib.Data.List.Infix
import RmtPlatform.Budget.Storage
import RmtPlatform.Process.Transaction

/-! The budget repository.

Every operation is a script of SQL statements over `Db`: a `SELECT` is one look at
the tables, a write is one step, and `immediateTransaction` runs its statements as
one step that takes effect entirely or not at all. What a call reads outside a
transaction is therefore read one statement at a time. `Env` is what the call gets
from its surroundings: the clock, fresh identifiers, and which statement of its
transaction the database refuses. -/
namespace RmtPlatform.Budget

structure Env where
  faults : Nat → Option SqliteError
  /-- The `n`-th `utc_now()` of the call. -/
  now : Nat → String
  /-- The `n`-th `uuid4()` of the call. -/
  uuid4 : Nat → Uuid
  today : String
  /-- `RMT_BUDGET_BOOTSTRAP_PRINCIPAL`, empty if it is not set. -/
  bootstrapPrincipal : String

abbrev Sql (L α : Type) := Script Db L Err α

section
variable {L : Type}

def select {α : Type} (f : Db → α) : Sql L α := Script.read f

/-- One `INSERT` or `UPDATE`. -/
def execute (f : Db → Except SqliteError Db) : Sql L Unit :=
  Script.step none fun db => match f db with
    | .ok db' => .ok ((), db')
    | .error e => .error (.sqlite e)

end

/-- How `immediate_transaction` reports what went wrong. -/
def transactionError : Err → Err
  | .sqlite (.operational message) =>
    .budget (if "locked".toList <:+: message.toList.map Char.toLower then "database_busy" else "database_error")
      ("Budget transaction failed: " ++ message)
  | e => e

/-- `with immediate_transaction(..) as connection: body`. -/
def immediateTransaction {L α : Type} (env : Env) (label : Option L) (body : Sql Empty α) : Sql L α :=
  Transaction.script label (fun _ n => (env.faults n).map .sqlite) transactionError fun _ => body

/-! ### Parameters -/

def mutation (parameters : Dict) : Except Err MutationType :=
  match MutationType.ofValue (parameters.get "mutation_type") with
  | some m => .ok m
  | none => .error (.budget "unsupported_operation" "Unsupported Budget mutation")

def text (parameters : Dict) (key : String) : Except Err String :=
  match parameters.get key with
  | .str s => if strip s = "" then .error (.budget "validation" (key ++ " is required")) else .ok (strip s)
  | _ => .error (.budget "validation" (key ++ " is required"))

def integer (parameters : Dict) (key : String) : Except Err Int :=
  match parameters.get key with
  | .int i => .ok i
  | _ => .error (.budget "validation" (key ++ " must be an integer minor-unit amount"))

def positiveInt (parameters : Dict) (key : String) : Except Err Int := do
  let value ← integer parameters key
  if value ≤ 0 then .error (.budget "validation" (key ++ " must be positive")) else .ok value

def currency (rt : Runtime) (parameters : Dict) : Except Err String :=
  match parameters.get "currency" with
  | .str s =>
    if threeLetters s ∧ s.toList.all rt.isAlpha then .ok (rt.upper s)
    else .error (.budget "validation" "currency must be a three-letter ISO-4217 code")
  | _ => .error (.budget "validation" "currency must be a three-letter ISO-4217 code")

/-- `parameters.get("owner_type") not in {"department", "project"}`, which hashes the value. -/
def requireOwnerType (parameters : Dict) : Except Err Unit :=
  match parameters.get "owner_type" with
  | .str s =>
    if s ∈ ["department", "project"] then .ok ()
    else .error (.budget "validation" "Budget owner_type must be department or project")
  | .list _ | .dict _ => .error (.python "TypeError")
  | _ => .error (.budget "validation" "Budget owner_type must be department or project")

/-- The text `content_digest` hashes and a receipt keeps. -/
def dumps (parameters : Dict) : Except Err String :=
  match (PyVal.dict parameters).canonical with
  | some t => .ok t
  | none => .error (.python "TypeError")

/-! ### Queries -/

namespace Db

def hasRole (db : Db) (principal : String) (role : BudgetRole) (budgetId : Option String) : Bool :=
  db.roleAssignments.rows.any fun a =>
    a.principal = principal ∧ a.role = role ∧ (budgetId = none ∨ a.budgetId = budgetId)

/-- `SUM(CASE WHEN p THEN amount_minor ELSE 0 END)` over some rows. -/
def sumCase (rows : List LedgerEntry) (p : LedgerEntry → Bool) : Int :=
  (rows.map fun e => if p e then e.amountMinor else 0).sum

/-- No settlement or cancellation among `rows` refers to the entry. -/
def isOpen (rows : List LedgerEntry) (c : LedgerEntry) : Bool :=
  !rows.any fun t => t.relatedEntryId = some c.id ∧ t.entryType.terminal

/-- The first query of `available_minor`: allocations, adjustments, settled. -/
def balances (rows : List LedgerEntry) (budgetId : String) : Int × Int × Int :=
  let rows := rows.filter (·.budgetId = budgetId)
  (sumCase rows (·.entryType = .allocation), sumCase rows (·.entryType.signed),
    sumCase rows (·.entryType = .settlement))

/-- The second: commitments nothing has closed. -/
def openCommitments (rows : List LedgerEntry) (budgetId : String) : Int :=
  ((rows.filter fun c => c.budgetId = budgetId ∧ c.entryType = .commitment ∧ isOpen rows c).map
    (·.amountMinor)).sum

/-- A budget's rows as the index on `(budget_id, created_at)` gives them. -/
def scan (rows : List LedgerEntry) (budgetId : String) : List LedgerEntry :=
  (rows.filter (·.budgetId = budgetId)).insertionSort fun a b => a.createdAt ≤ b.createdAt

/-- What the sums of the first query add up, row by row. -/
def balanceTerms (rows : List LedgerEntry) (budgetId : String) : List (List Int) :=
  let sumCase := fun p : LedgerEntry → Bool => (scan rows budgetId).map fun e => if p e then e.amountMinor else 0
  [sumCase (·.entryType = .allocation), sumCase (·.entryType.signed), sumCase (·.entryType = .settlement)]

/-- What the sum of the second adds up. -/
def openTerms (rows : List LedgerEntry) (budgetId : String) : List Int :=
  ((scan rows budgetId).filter fun c => c.entryType = .commitment ∧ isOpen rows c).map (·.amountMinor)

/-- What is available according to some rows of the ledger. -/
def available (rows : List LedgerEntry) (budgetId : String) : Int :=
  let (allocations, adjustments, settled) := balances rows budgetId
  allocations + adjustments - settled - openCommitments rows budgetId

def availableMinor (db : Db) (budgetId : String) : Int := available db.ledgerEntries.rows budgetId

/-- The rows a query `created_at <= at` sees. -/
def entriesUpTo (db : Db) (at_ : String) : List LedgerEntry :=
  db.ledgerEntries.rows.filter fun e => e.createdAt ≤ at_

/-- The first commitment of a version that nothing has closed. -/
def openCommitment? (db : Db) (requestId : String) (version : Int) : Option LedgerEntry :=
  db.ledgerEntries.rows.find? fun c => c.requestId = some requestId ∧ c.requestVersion = .integer version ∧
    c.entryType = .commitment ∧ isOpen db.ledgerEntries.rows c

def receiptByKey? (db : Db) (key : String) : Option MutationReceipt :=
  db.idempotencyReceipts.rows.find? (·.idempotencyKey = key)

/-- The latest approval of one version. -/
def approval? (db : Db) (requestId : String) (version : Int) : Option DomainDecision :=
  ((db.domainDecisions.rows.filter fun d =>
    d.requestId = requestId ∧ d.requestVersion = version ∧ d.decision = .approved).insertionSort
      fun a b => b.createdAt ≤ a.createdAt).head?

end Db

section
variable {L : Type}

def orRaise {α : Type} (e : Err) : Option α → Sql L α
  | some a => pure a
  | none => throw e

def found {α : Type} (code message : String) (row : Option α) : Sql L α := orRaise (.budget code message) row

def requireRole (rt : Runtime) (principal : String) (role : BudgetRole) (budgetId : Option String) :
    Sql L Unit := do
  let holds ← select (·.hasRole principal role budgetId)
  Script.raiseIf (!holds) (.budget "forbidden"
    ("Principal " ++ rt.repr principal ++ " lacks " ++ role.value ++ " permission"))

/-- `SUM` keeps its total in 64 bits from row to row, so that every total on the way has to be in range. -/
def Adds (terms : List Int) : Prop := ∀ start ∈ terms.inits, Storable start.sum

instance (terms : List Int) : Decidable (Adds terms) := inferInstanceAs (Decidable (∀ start ∈ terms.inits, Storable start.sum))

/-- A query of sums over these terms. -/
def selectSums {α : Type} (f : Db → α) (terms : Db → List (List Int)) : Sql L α := do
  let (row, terms) ← select fun db => (f db, terms db)
  Script.raiseIf (¬∀ column ∈ terms, Adds column) (.sqlite (.operational "integer overflow"))
  pure row

/-- The two queries of a balance, of the rows that `f` finds. -/
def availableOf (f : Db → List LedgerEntry) (budgetId : String) : Sql L Int := do
  let (allocations, adjustments, settled) ←
    selectSums (fun db => Db.balances (f db) budgetId) fun db => Db.balanceTerms (f db) budgetId
  let total ← selectSums (fun db => Db.openCommitments (f db) budgetId) fun db => [Db.openTerms (f db) budgetId]
  pure (allocations + adjustments - settled - total)

def availableMinor (budgetId : String) : Sql L Int := availableOf (·.ledgerEntries.rows) budgetId

def availableMinorAt (budgetId at_ : String) : Sql L Int := availableOf (·.entriesUpTo at_) budgetId

def organization : Sql L (Option Organization) := select (·.organizations.rows.head?)

def budget (budgetId : String) : Sql L BudgetRow := do
  found "not_found" "Budget not found" (← select (·.budgets.find? budgetId))

def request (requestId : String) : Sql L PurchaseRequest := do
  found "not_found" "Purchase request not found" (← select (·.purchaseRequests.find? requestId))

def version (requestId : String) (n : Int) : Sql L RequestVersion := do
  found "stale_version" "Purchase request version not found"
    (← select (·.purchaseRequestVersions.find? (requestId, n)))

def openCommitment (requestId : String) (n : Int) : Sql L LedgerEntry := do
  found "invalid_transition" "Open commitment not found" (← select (·.openCommitment? requestId n))

def requireOpenPeriod (env : Env) (b : BudgetRow) : Sql L Unit :=
  Script.raiseIf (b.status ≠ .open ∨ ¬(b.periodStart ≤ env.today ∧ env.today ≤ b.periodEnd))
    (.budget "closed_period" "Budget period is not open")

/-- `UPDATE purchase_requests .. WHERE id = ? AND status = ?`, of exactly one row. -/
def transition (now requestId : String) (expected target : RequestStatus) : Sql L Unit := do
  let matching := fun r : PurchaseRequest => decide (r.id.text = requestId ∧ r.status = expected)
  let rowcount ← Script.step none fun db => match db.updatePurchaseRequest matching target none now with
    | .ok db' => .ok ((db.purchaseRequests.rows.filter matching).length, db')
    | .error e => .error (.sqlite e)
  Script.raiseIf (rowcount ≠ 1) (.budget "invalid_transition" "Purchase request transition failed")

/-! ### Requests -/

/-- What `request_detail` returns. -/
structure RequestDetail where
  request : PurchaseRequest
  versions : List RequestVersion
  decisions : List DomainDecision

def mayView (actor : String) (request : PurchaseRequest) : Sql L Bool :=
  if request.requester = actor then pure true
  else select (·.hasRole actor .budgetOwner (some request.budgetId))

def requestDetail (actor requestId : String) : Sql L RequestDetail := do
  let request ← request requestId
  let canView ← mayView actor request
  Script.raiseIf (!canView) (.budget "forbidden" "Purchase request is not permitted")
  let versions ← select fun db =>
    (db.purchaseRequestVersions.rows.filter (·.requestId = request.id.text)).insertionSort
      fun a b => a.version ≤ b.version
  let decisions ← select fun db =>
    (db.domainDecisions.rows.filter (·.requestId = request.id.text)).insertionSort
      fun a b => a.createdAt ≤ b.createdAt
  pure ⟨request, versions, decisions⟩

/-- What a caller enters for one version of a request. -/
structure RequestInput where
  amountMinor : Int
  currency : String
  purpose : String
  supportingReference : String

def createRequestBody (rt : Runtime) (env : Env) (actor budgetId : String) (input : RequestInput) :
    Sql Empty String := do
  requireRole rt actor .requester (some budgetId)
  let b ← budget budgetId
  Script.raiseIf (b.currency ≠ rt.upper input.currency)
    (.budget "wrong_currency" "Request currency does not match budget")
  requireOpenPeriod env b
  let requestId := env.uuid4 0
  let now := env.now 0
  execute (·.insertPurchaseRequest ⟨requestId, b.organizationId, budgetId, actor, .draft, 1, now, now⟩)
  execute (·.insertRequestVersion ⟨requestId.text, 1, input.amountMinor, rt.upper input.currency,
    strip input.purpose, strip input.supportingReference, actor, now⟩)
  pure requestId.text

def createRequest (rt : Runtime) (env : Env) (label : Option L) (actor budgetId : String)
    (input : RequestInput) : Sql L RequestDetail := do
  Script.raiseIf (input.amountMinor ≤ 0) (.budget "validation" "Request amount must be positive")
  Script.raiseIf (strip input.purpose = "") (.budget "validation" "Purpose is required")
  let requestId ← immediateTransaction env label (createRequestBody rt env actor budgetId input)
  requestDetail actor requestId

def addRequestVersionBody (rt : Runtime) (env : Env) (actor requestId : String) (input : RequestInput) :
    Sql Empty Unit := do
  let request ← request requestId
  Script.raiseIf (request.requester ≠ actor)
    (.budget "forbidden" "Only the requester may create a new version")
  Script.raiseIf (request.status ∈ [.committed, .settled, .cancelled])
    (.budget "invalid_transition" "Financially applied request is immutable")
  let b ← budget request.budgetId
  Script.raiseIf (b.currency ≠ rt.upper input.currency)
    (.budget "wrong_currency" "Request currency does not match budget")
  let version := request.currentVersion + 1
  let now := env.now 0
  execute (·.insertRequestVersion ⟨requestId, version, input.amountMinor, rt.upper input.currency,
    strip input.purpose, strip input.supportingReference, actor, now⟩)
  execute (·.updatePurchaseRequest (·.id.text = requestId) .draft (some version) now)

def addRequestVersion (rt : Runtime) (env : Env) (label : Option L) (actor requestId : String)
    (input : RequestInput) : Sql L RequestDetail := do
  Script.raiseIf (input.amountMinor ≤ 0 ∨ strip input.purpose = "")
    (.budget "validation" "Positive amount and purpose are required")
  immediateTransaction env label (addRequestVersionBody rt env actor requestId input)
  requestDetail actor requestId

def submitRequestBody (env : Env) (actor requestId : String) : Sql Empty Unit := do
  let request ← request requestId
  Script.raiseIf (request.requester ≠ actor) (.budget "forbidden" "Only the requester may submit")
  Script.raiseIf (request.status ≠ .draft) (.budget "invalid_transition" "Only a draft may be submitted")
  execute (·.updatePurchaseRequest (·.id.text = requestId) .submitted none (env.now 0))

def submitRequest (env : Env) (label : Option L) (actor requestId : String) : Sql L RequestDetail := do
  immediateTransaction env label (submitRequestBody env actor requestId)
  requestDetail actor requestId

/-- The arguments of `save_decision`. -/
structure DecisionInput where
  decisionId : String
  actor : String
  requestId : String
  decision : String
  reason : String
  instructionDigest : Option String
  actionJson : Option String
  balanceEvidenceMinor : Option Int

def verdict : String → Option Verdict
  | "approved" => some .approved
  | "rejected" => some .rejected
  | _ => none

def saveDecisionBody (rt : Runtime) (env : Env) (input : DecisionInput) : Sql Empty Unit := do
  let request ← request input.requestId
  requireRole rt input.actor .budgetOwner (some request.budgetId)
  Script.raiseIf (request.requester = input.actor)
    (.budget "self_approval" "A requester cannot approve their own request")
  Script.raiseIf (request.status ≠ .submitted)
    (.budget "stale_version" "Only the current submitted version may be decided")
  let decision ← found "validation" "Decision must be approved or rejected" (verdict input.decision)
  -- The version recorded is the one current now.
  execute (·.insertDomainDecision ⟨input.decisionId, input.requestId, request.currentVersion, decision,
    input.actor, strip input.reason, input.instructionDigest, input.actionJson,
    input.balanceEvidenceMinor, env.now 0⟩)
  execute (·.updatePurchaseRequest (·.id.text = input.requestId) decision.status none (env.now 1))

def saveDecision (rt : Runtime) (env : Env) (label : Option L) (input : DecisionInput) :
    Sql L RequestDetail := do
  immediateTransaction env label (saveDecisionBody rt env input)
  requestDetail input.actor input.requestId

def approvedAction (rt : Runtime) (actor requestId : String) : Sql L String := do
  let request ← request requestId
  requireRole rt actor .budgetOwner (some request.budgetId)
  match ← select (·.approval? requestId request.currentVersion) with
  | none => throw (.budget "approval_required" "Current version has no approval")
  | some row =>
    match row.actionJson with
    | none => throw (.budget "approval_required" "Current version has no approval")
    | some action => do
      Script.raiseIf (action = "") (.budget "approval_required" "Current version has no approval")
      Script.raiseIf (row.decidedBy ≠ actor)
        (.budget "forbidden" "The deciding owner must apply the commitment")
      pure action

/-! ### Mutations -/

/-- What `validate_mutation` returns. -/
structure Evidence where
  mutationType : MutationType
  budgetId : Option String
  currency : String
  amountMinor : PyVal
  availableBefore : Int
  availableAfter : Int
  evidence : List String

/-- The answer for an instruction that has its receipt already. -/
def replayEvidence (rt : Runtime) (parameters : Dict) (existing : MutationReceipt) : Except Err Evidence := do
  let encoded ← dumps parameters
  if existing.contentDigest ≠ rt.sha256 encoded ∨
      !(parameters.get "idempotency_key").isStr existing.idempotencyKey then
    .error (.budget "idempotency_conflict" "Existing instruction content does not match")
  else match parameters.lookup (.str "budget_id") with
    | none => .error (.python "KeyError")
    | some budgetId => .ok {
        mutationType := existing.mutationType
        budgetId := match budgetId with
          | .str s => some s
          | _ => none
        currency := existing.currency
        amountMinor := (parameters.lookup (.str "amount_minor")).getD (parameters.get "allocation_minor")
        availableBefore := existing.availableMinor
        availableAfter := existing.availableMinor
        evidence := ["budget:receipt:" ++ existing.instructionDigest, "budget:idempotent-replay"] }

def validateBootstrap (env : Env) (parameters : Dict) (actor currency : String) : Sql L Evidence := do
  let initialized ← select fun db => !db.organizations.rows.isEmpty
  Script.raiseIf initialized (.budget "already_initialized" "Budget Control is already initialized")
  Script.raiseIf (env.bootstrapPrincipal = "" ∨ actor ≠ env.bootstrapPrincipal)
    (.budget "forbidden" "Actor is not the configured bootstrap principal")
  let amount ← Script.ofExcept (positiveInt parameters "allocation_minor")
  let owner ← Script.ofExcept (text parameters "owner_principal")
  let requester ← Script.ofExcept (text parameters "requester_principal")
  Script.raiseIf (owner = requester) (.budget "separation_required" "Owner and requester must differ")
  Script.ofExcept (requireOwnerType parameters)
  let _ ← Script.ofExcept (text parameters "owner_name")
  pure {
    mutationType := .bootstrap
    budgetId := none
    currency := currency
    amountMinor := .int amount
    availableBefore := 0
    availableAfter := amount
    evidence := ["budget:bootstrap:uninitialized"] }

/-- The amount of an adjustment or a correction, and the balance it leaves. -/
def validateChange (parameters : Dict) (mutation : MutationType) (budgetId : String) (before : Int) :
    Sql L (Int × Int) := do
  let amount ← Script.ofExcept (integer parameters "amount_minor")
  Script.raiseIf (amount = 0) (.budget "validation" "Balance change cannot be zero")
  if mutation = .correction then
    let correctionOf ← Script.ofExcept (text parameters "correction_of")
    let original ← found "not_found" "Correction target not found"
      (← select fun db => (db.ledgerEntries.find? correctionOf).filter (·.budgetId = budgetId))
    Script.raiseIf (original.entryType ≠ .allocation ∧ original.entryType ≠ .adjustment)
      (.budget "invalid_transition" "Commitments use settlement or cancellation, not correction")
    let corrected ← select fun db => db.ledgerEntries.rows.any (·.correctionOf = some correctionOf)
    Script.raiseIf corrected (.budget "conflict" "Ledger entry is already corrected")
  Script.raiseIf (before + amount < 0) (.budget "insufficient_funds" "Adjustment would make funds negative")
  pure (amount, before + amount)

def validateCommitment (parameters : Dict) (actor : String) (instructionDigest : Option String)
    (request : PurchaseRequest) (versionRow : RequestVersion) (amount before : Int) : Sql L Int := do
  Script.raiseIf (request.status ≠ .approved) (.budget "invalid_transition" "Request is not approved")
  Script.raiseIf (amount ≠ versionRow.amountMinor)
    (.budget "changed_instruction" "Approved amount changed")
  let decisionId ← Script.ofExcept (text parameters "domain_approval_id")
  let decision ← found "approval_invalid" "Domain approval binding is invalid"
    (← select (·.domainDecisions.find? decisionId))
  Script.raiseIf (decision.decision ≠ .approved ∨ decision.requestId ≠ request.id.text ∨
      decision.requestVersion ≠ versionRow.version ∨ decision.decidedBy ≠ actor ∨
      instructionDigest.getD "" = "" ∨ decision.instructionDigest ≠ instructionDigest)
    (.budget "approval_invalid" "Domain approval binding is invalid")
  let evidence ← orRaise (.python "TypeError") decision.balanceEvidenceMinor
  Script.raiseIf (evidence ≠ before) (.budget "stale_evidence" "Available balance changed after approval")
  Script.raiseIf (before < amount) (.budget "insufficient_funds" "Insufficient available funds")
  pure (before - amount)

def validateSettlement (request : PurchaseRequest) (versionRow : RequestVersion) (amount before : Int) :
    Sql L Int := do
  Script.raiseIf (request.status ≠ .committed) (.budget "invalid_transition" "Request is not committed")
  let commitment ← openCommitment request.id.text versionRow.version
  Script.raiseIf (commitment.amountMinor < amount)
    (.budget "over_settlement" "Settlement exceeds approved amount")
  pure (before + commitment.amountMinor - amount)

def validateCancellation (request : PurchaseRequest) (versionRow : RequestVersion) (amount before : Int) :
    Sql L Int := do
  Script.raiseIf (request.status ≠ .committed) (.budget "invalid_transition" "Request is not committed")
  let commitment ← openCommitment request.id.text versionRow.version
  Script.raiseIf (amount ≠ commitment.amountMinor)
    (.budget "changed_instruction" "Cancellation amount changed")
  pure (before + amount)

def validateTransition (parameters : Dict) (mutation : MutationType) (actor : String)
    (instructionDigest : Option String) (request : PurchaseRequest) (versionRow : RequestVersion)
    (amount before : Int) : Sql L Int :=
  match mutation with
  | .commitment => validateCommitment parameters actor instructionDigest request versionRow amount before
  | .settlement => validateSettlement request versionRow amount before
  | .cancellation => validateCancellation request versionRow amount before
  | _ => throw (.budget "unsupported_operation" "Unsupported mutation")

/-- The amount of a mutation of a request, and the balance it leaves. -/
def validateOnRequest (parameters : Dict) (mutation : MutationType) (actor : String)
    (instructionDigest : Option String) (budgetId : String) (before : Int) : Sql L (Int × Int) := do
  let requestId ← Script.ofExcept (text parameters "request_id")
  let request ← request requestId
  Script.raiseIf (request.budgetId ≠ budgetId) (.budget "conflict" "Request does not belong to budget")
  let n ← Script.ofExcept (positiveInt parameters "request_version")
  Script.raiseIf (request.currentVersion ≠ n) (.budget "stale_version" "Purchase request version changed")
  let versionRow ← version requestId n
  let amount ← Script.ofExcept (positiveInt parameters "amount_minor")
  let after ← validateTransition parameters mutation actor instructionDigest request versionRow amount before
  pure (amount, after)

def validateEffect (parameters : Dict) (mutation : MutationType) (actor : String)
    (instructionDigest : Option String) (budgetId : String) (before : Int) : Sql L (Int × Int) :=
  if mutation = .adjustment ∨ mutation = .correction then validateChange parameters mutation budgetId before
  else validateOnRequest parameters mutation actor instructionDigest budgetId before

def renderInt (i : Int) : String := String.ofList (Json.renderInt i)

/-- The part of `validate_mutation` that looks at an open budget. -/
def validateOnBudget (rt : Runtime) (env : Env) (parameters : Dict) (mutation : MutationType)
    (actor currency : String) (instructionDigest : Option String) : Sql L Evidence := do
  let budgetId ← Script.ofExcept (text parameters "budget_id")
  let b ← budget budgetId
  Script.raiseIf (b.currency ≠ currency)
    (.budget "wrong_currency" "Mutation currency does not match budget")
  requireOpenPeriod env b
  requireRole rt actor .budgetOwner (some budgetId)
  let before ← availableMinor budgetId
  let (amount, after) ← validateEffect parameters mutation actor instructionDigest budgetId before
  pure {
    mutationType := mutation
    budgetId := some budgetId
    currency := currency
    amountMinor := .int amount
    availableBefore := before
    availableAfter := after
    evidence := ["budget:" ++ budgetId, "balance:" ++ renderInt before, "mutation:" ++ mutation.value] }

/-- The receipt of an instruction, if it is one and has one. -/
def existingReceipt (instructionDigest : Option String) : Sql L (Option MutationReceipt) :=
  match instructionDigest with
  | none => pure none
  | some digest => if digest = "" then pure none else select (·.idempotencyReceipts.find? digest)

def validateMutation (rt : Runtime) (env : Env) (parameters : Dict) (instructionDigest : Option String) :
    Sql L Evidence := do
  let mutation ← Script.ofExcept (mutation parameters)
  let actor ← Script.ofExcept (text parameters "actor")
  let currency ← Script.ofExcept (currency rt parameters)
  match ← existingReceipt instructionDigest with
  | some existing => Script.ofExcept (replayEvidence rt parameters existing)
  | none =>
    if mutation = .bootstrap then validateBootstrap env parameters actor currency
    else validateOnBudget rt env parameters mutation actor currency instructionDigest

/-- What `apply_mutation` knows of the entry before it writes it. -/
structure Target where
  organizationId : String
  budgetId : String
  actor : String
  correctionOf : Option String
  relatedEntryId : Option String

/-- The organization, its one budget and its roles. -/
def bootstrapTarget (env : Env) (parameters : Dict) (currency : String) : Sql L Target := do
  let now := env.now 0
  let organizationId ← Script.ofExcept (text parameters "organization_id")
  let budgetId ← Script.ofExcept (text parameters "budget_id")
  let actor ← Script.ofExcept (text parameters "actor")
  let organizationName ← Script.ofExcept (text parameters "organization_name")
  execute (·.insertOrganization ⟨organizationId, organizationName, currency, actor, now⟩)
  let name ← Script.ofExcept (text parameters "budget_name")
  let ownerType ← Script.ofExcept (text parameters "owner_type")
  let ownerName ← Script.ofExcept (text parameters "owner_name")
  let periodStart ← Script.ofExcept (text parameters "period_start")
  let periodEnd ← Script.ofExcept (text parameters "period_end")
  execute (·.insertBudget ⟨budgetId, organizationId, name, ownerType, ownerName, periodStart, periodEnd,
    currency, .open, now⟩)
  let owner ← Script.ofExcept (text parameters "owner_principal")
  let requester ← Script.ofExcept (text parameters "requester_principal")
  execute (·.insertRoleAssignment ⟨(env.uuid4 1).text, organizationId, none, actor, .bootstrapAdmin, now⟩)
  execute (·.insertRoleAssignment
    ⟨(env.uuid4 2).text, organizationId, some budgetId, owner, .budgetOwner, now⟩)
  execute (·.insertRoleAssignment
    ⟨(env.uuid4 3).text, organizationId, some budgetId, requester, .requester, now⟩)
  pure ⟨organizationId, budgetId, actor, none, none⟩

/-- The commitment a settlement or a cancellation closes, by the caller's own identifiers. -/
def relatedEntry (rt : Runtime) (parameters : Dict) : Sql L String := do
  let n ← orRaise (.python "TypeError") (rt.int (parameters.get "request_version"))
  let commitment ← openCommitment (rt.str (parameters.get "request_id")) n
  pure commitment.id

/-- `correction_of` and `related_entry_id`. -/
def entryLinks (rt : Runtime) (parameters : Dict) : MutationType → Sql L (Option String × Option String)
  | .correction => do
    let correctionOf ← Script.ofExcept (text parameters "correction_of")
    pure (some correctionOf, none)
  | .settlement | .cancellation => do
    let related ← relatedEntry rt parameters
    pure (none, some related)
  | _ => pure (none, none)

def budgetTarget (rt : Runtime) (parameters : Dict) (evidence : Evidence) : Sql L Target := do
  let budgetId ← orRaise (.python "KeyError") evidence.budgetId
  let b ← budget budgetId
  let actor ← Script.ofExcept (text parameters "actor")
  let (correctionOf, relatedEntryId) ← entryLinks rt parameters evidence.mutationType
  pure ⟨b.organizationId, budgetId, actor, correctionOf, relatedEntryId⟩

def ledgerTarget (rt : Runtime) (env : Env) (parameters : Dict) (evidence : Evidence) : Sql L Target :=
  if evidence.mutationType = .bootstrap then bootstrapTarget env parameters evidence.currency
  else budgetTarget rt parameters evidence

/-- The amount as the entry binds it: validation has made it an integer. -/
def Evidence.amount (evidence : Evidence) : Except Err Int :=
  match evidence.amountMinor with
  | .int amount => .ok amount
  | _ => .error (.sqlite .other)

/-- How the entry's request columns take what the caller passed. -/
def requestColumns (rt : Runtime) (parameters : Dict) : Except Err (Option String × Cell) :=
  match rt.bindText (parameters.get "request_id"), rt.bindInteger (parameters.get "request_version") with
  | some requestId, some version => .ok (requestId, version)
  | _, _ => .error (.sqlite .other)

/-- `str(request_id) if request_id else None` and `int(request_version) if request_version else None`. -/
def receiptColumns (rt : Runtime) (parameters : Dict) : Except Err (Option String × Option Int) :=
  let requestId := parameters.get "request_id"
  let version := parameters.get "request_version"
  let requestId := if requestId.truthy then some (rt.str requestId) else none
  if version.truthy then
    match rt.int version with
    | some n => .ok (requestId, some n)
    | none => .error (.python "ValueError")
  else .ok (requestId, none)

def transitionFor (env : Env) (mutation : MutationType) (requestId : String) : Sql L Unit :=
  match mutation with
  | .commitment => transition (env.now 1) requestId .approved .committed
  | .settlement => transition (env.now 1) requestId .committed .settled
  | .cancellation => transition (env.now 1) requestId .committed .cancelled
  | _ => pure ()

def newEntry (env : Env) (target : Target) (evidence : Evidence) (amount : Int)
    (columns : Option String × Cell) (instructionDigest executionId : String) : LedgerEntry where
  id := (env.uuid4 0).text
  organizationId := target.organizationId
  budgetId := target.budgetId
  entryType := evidence.mutationType.entryType
  amountMinor := amount
  currency := evidence.currency
  requestId := columns.1
  requestVersion := columns.2
  relatedEntryId := target.relatedEntryId
  correctionOf := target.correctionOf
  instructionDigest := instructionDigest
  executionId := executionId
  actor := target.actor
  createdAt := env.now 0

/-- The statements of `apply_mutation` for an instruction that has no receipt yet. -/
def recordMutation (rt : Runtime) (env : Env) (parameters : Dict) (instructionDigest executionId key encoded : String)
    (evidence : Evidence) : Sql L MutationReceipt := do
  let target ← ledgerTarget rt env parameters evidence
  let amount ← Script.ofExcept evidence.amount
  let columns ← Script.ofExcept (requestColumns rt parameters)
  execute (·.insertLedgerEntry (newEntry env target evidence amount columns instructionDigest executionId))
  transitionFor env evidence.mutationType (rt.str (parameters.get "request_id"))
  let observed ← availableMinor target.budgetId
  Script.raiseIf (observed ≠ evidence.availableAfter)
    (.budget "invariant_failure" "Balance invariant did not hold")
  let (requestId, requestVersion) ← Script.ofExcept (receiptColumns rt parameters)
  let receipt : MutationReceipt := {
    instructionDigest := instructionDigest
    idempotencyKey := key
    contentDigest := rt.sha256 encoded
    parametersJson := encoded
    executionId := executionId
    ledgerEntryId := (env.uuid4 0).text
    mutationType := evidence.mutationType
    requestId := requestId
    requestVersion := requestVersion
    availableMinor := observed
    currency := evidence.currency
    createdAt := env.now 0 }
  execute (·.insertReceipt receipt)
  pure receipt

def applyMutationBody (rt : Runtime) (env : Env) (parameters : Dict)
    (instructionDigest executionId key encoded : String) : Sql Empty MutationReceipt := do
  match ← select (·.idempotencyReceipts.find? instructionDigest) with
  | some existing => do
    Script.raiseIf (existing.contentDigest ≠ rt.sha256 encoded ∨ existing.idempotencyKey ≠ key)
      (.budget "idempotency_conflict" "Instruction digest was reused")
    pure existing
  | none => do
    let reusedKey ← select (·.receiptByKey? key)
    Script.raiseIf reusedKey.isSome (.budget "idempotency_conflict" "Idempotency key was reused")
    let evidence ← validateMutation rt env parameters (some instructionDigest)
    recordMutation rt env parameters instructionDigest executionId key encoded evidence

def applyMutation (rt : Runtime) (env : Env) (label : Option L) (parameters : Dict)
    (instructionDigest executionId : String) : Sql L MutationReceipt := do
  let key ← Script.ofExcept (text parameters "idempotency_key")
  let encoded ← Script.ofExcept (dumps parameters)
  immediateTransaction env label (applyMutationBody rt env parameters instructionDigest executionId key encoded)

/-! ### Verification evidence -/

/-- The values `record_verification` stores. -/
structure VerificationInput where
  executionId : String
  instructionDigest : String
  status : String
  reason : String
  expectedAvailableMinor : PyVal
  observedAvailableMinor : Option Int
  ledgerEntryId : Option String

def recordVerification (env : Env) (values : VerificationInput) : Sql L String := do
  let verificationId := (env.uuid4 0).text
  immediateTransaction env none (execute (·.insertVerification ⟨verificationId, values.executionId,
    values.instructionDigest, values.status, values.reason, values.expectedAvailableMinor,
    values.observedAvailableMinor, values.ledgerEntryId, env.now 0⟩))
  pure verificationId

end

end RmtPlatform.Budget
