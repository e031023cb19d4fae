import Mathlib.Algebra.Group.Int.Defs
import Mathlib.Algebra.Group.Nat.Defs
import RmtPlatform.Data.Table
import RmtPlatform.Data.Value

/-! The budget database: its tables, its constraints, and the statements that write it.

A `Db` carries every constraint of the schema as a field, so a statement either
returns a database that meets them or fails. Rows are never deleted; only
`purchase_requests` is ever updated. -/
namespace RmtPlatform.Budget

/-! ### Enumerations -/

inductive BudgetRole where
  | bootstrapAdmin | budgetOwner | requester
deriving DecidableEq

def BudgetRole.value : BudgetRole → String
  | bootstrapAdmin => "bootstrap_admin"
  | budgetOwner => "budget_owner"
  | requester => "requester"

inductive RequestStatus where
  | draft | submitted | approved | rejected | committed | settled | cancelled
deriving DecidableEq

inductive MutationType where
  | bootstrap | adjustment | commitment | settlement | cancellation | correction
deriving DecidableEq

def MutationType.value : MutationType → String
  | bootstrap => "bootstrap"
  | adjustment => "adjustment"
  | commitment => "commitment"
  | settlement => "settlement"
  | cancellation => "cancellation"
  | correction => "correction"

/-- `MutationType(value)`. -/
def MutationType.ofValue : PyVal → Option MutationType
  | .str s =>
    [bootstrap, adjustment, commitment, settlement, cancellation, correction].find? fun m => m.value = s
  | _ => none

inductive EntryType where
  | allocation | adjustment | commitment | settlement | cancellation | correction
deriving DecidableEq

/-- The ledger calls a bootstrap's entry an allocation. -/
def MutationType.entryType : MutationType → EntryType
  | bootstrap => .allocation
  | adjustment => .adjustment
  | commitment => .commitment
  | settlement => .settlement
  | cancellation => .cancellation
  | correction => .correction

inductive Verdict where
  | approved | rejected
deriving DecidableEq

/-- What a decision makes of the request's status. -/
def Verdict.status : Verdict → RequestStatus
  | approved => .approved
  | rejected => .rejected

inductive BudgetStatus where
  | open | closed
deriving DecidableEq

/-! ### Errors -/

inductive SqliteError where
  | operational (message : String)
  | integrity
  /-- An integer that is too large to bind. -/
  | overflow
  /-- Any other value the driver cannot bind, and anything else it raises. -/
  | other
deriving DecidableEq

/-- What a call may raise. -/
inductive Err where
  | budget (code message : String)
  | sqlite (e : SqliteError)
  | python (name : String)
deriving DecidableEq

/-! ### Rows -/

structure Organization where
  id : String
  name : String
  currency : String
  bootstrapPrincipal : String
  createdAt : String
deriving DecidableEq

structure BudgetRow where
  id : String
  organizationId : String
  name : String
  ownerType : String
  ownerName : String
  periodStart : String
  periodEnd : String
  currency : String
  status : BudgetStatus
  createdAt : String
deriving DecidableEq

structure RoleAssignment where
  id : String
  organizationId : String
  budgetId : Option String
  principal : String
  role : BudgetRole
  createdAt : String
deriving DecidableEq

structure PurchaseRequest where
  id : Uuid
  organizationId : String
  budgetId : String
  requester : String
  status : RequestStatus
  currentVersion : Int
  createdAt : String
  updatedAt : String
deriving DecidableEq

structure RequestVersion where
  requestId : String
  version : Int
  amountMinor : Int
  currency : String
  purpose : String
  supportingReference : String
  createdBy : String
  createdAt : String
deriving DecidableEq

structure DomainDecision where
  id : String
  requestId : String
  requestVersion : Int
  decision : Verdict
  decidedBy : String
  reason : String
  instructionDigest : Option String
  actionJson : Option String
  balanceEvidenceMinor : Option Int
  createdAt : String
deriving DecidableEq

structure LedgerEntry where
  id : String
  organizationId : String
  budgetId : String
  entryType : EntryType
  amountMinor : Int
  currency : String
  requestId : Option String
  requestVersion : Cell
  relatedEntryId : Option String
  correctionOf : Option String
  instructionDigest : String
  executionId : String
  actor : String
  createdAt : String
deriving DecidableEq

structure MutationReceipt where
  instructionDigest : String
  idempotencyKey : String
  contentDigest : String
  parametersJson : String
  executionId : String
  ledgerEntryId : String
  mutationType : MutationType
  requestId : Option String
  requestVersion : Option Int
  availableMinor : Int
  currency : String
  createdAt : String
deriving DecidableEq

structure FinancialVerification where
  id : String
  executionId : String
  instructionDigest : String
  status : String
  reason : String
  expectedAvailableMinor : PyVal
  observedAvailableMinor : Option Int
  ledgerEntryId : Option String
  createdAt : String

/-- An integer that a column can hold, and a query can return. -/
def Storable (i : Int) : Prop := -2 ^ 63 ≤ i ∧ i < 2 ^ 63

instance (i : Int) : Decidable (Storable i) := by
  unfold Storable
  infer_instance

/-- The integer a cell holds, if it is one. -/
def cellInts : Cell → List Int
  | .integer i => [i]
  | _ => []

def valueInts : PyVal → List Int
  | .int i => [i]
  | _ => []

/-- Entries that close the commitment they refer to. -/
def EntryType.terminal : EntryType → Bool
  | settlement | cancellation => true
  | _ => false

/-- Entries whose amount may be negative. -/
def EntryType.signed : EntryType → Bool
  | adjustment | correction => true
  | _ => false

/-! ### The schema -/

def threeLetters (currency : String) : Bool := currency.toList.length = 3

structure Db where
  organizations : Table Organization (·.id)
  budgets : Table BudgetRow (·.id)
  roleAssignments : Table RoleAssignment (·.id)
  purchaseRequests : Table PurchaseRequest (·.id.text)
  purchaseRequestVersions : Table RequestVersion fun v => (v.requestId, v.version)
  domainDecisions : Table DomainDecision (·.id)
  ledgerEntries : Table LedgerEntry (·.id)
  idempotencyReceipts : Table MutationReceipt (·.instructionDigest)
  financialVerifications : Table FinancialVerification (·.id)
  budget_organization : ∀ b ∈ budgets.rows, b.organizationId ∈ organizations.rows.map (·.id)
  budget_currency : ∀ b ∈ budgets.rows, threeLetters b.currency = true
  request_budget : ∀ r ∈ purchaseRequests.rows, r.budgetId ∈ budgets.rows.map (·.id)
  request_version_pos : ∀ r ∈ purchaseRequests.rows, 0 < r.currentVersion
  version_request : ∀ v ∈ purchaseRequestVersions.rows, v.requestId ∈ purchaseRequests.rows.map (·.id.text)
  version_pos : ∀ v ∈ purchaseRequestVersions.rows, 0 < v.version ∧ 0 < v.amountMinor
  decision_version : ∀ d ∈ domainDecisions.rows,
    (d.requestId, d.requestVersion) ∈ purchaseRequestVersions.rows.map fun v => (v.requestId, v.version)
  entry_budget : ∀ e ∈ ledgerEntries.rows, e.budgetId ∈ budgets.rows.map (·.id)
  entry_request : ∀ e ∈ ledgerEntries.rows, ∀ r ∈ e.requestId, r ∈ purchaseRequests.rows.map (·.id.text)
  entry_related : ∀ e ∈ ledgerEntries.rows, ∀ r ∈ e.relatedEntryId, r ∈ ledgerEntries.rows.map (·.id)
  entry_correction : ∀ e ∈ ledgerEntries.rows, ∀ r ∈ e.correctionOf, r ∈ ledgerEntries.rows.map (·.id)
  entry_amount : ∀ e ∈ ledgerEntries.rows, e.entryType.signed = true ∨ 0 < e.amountMinor
  entry_digest : (ledgerEntries.rows.map (·.instructionDigest)).Nodup
  one_correction : (ledgerEntries.rows.filterMap (·.correctionOf)).Nodup
  receipt_entry : ∀ r ∈ idempotencyReceipts.rows, r.ledgerEntryId ∈ ledgerEntries.rows.map (·.id)
  receipt_key : (idempotencyReceipts.rows.map (·.idempotencyKey)).Nodup

namespace Db

/-- The database `_migrate_v1` creates. -/
def empty : Db where
  organizations := .empty
  budgets := .empty
  roleAssignments := .empty
  purchaseRequests := .empty
  purchaseRequestVersions := .empty
  domainDecisions := .empty
  ledgerEntries := .empty
  idempotencyReceipts := .empty
  financialVerifications := .empty
  budget_organization := by simp
  budget_currency := by simp
  request_budget := by simp
  request_version_pos := by simp
  version_request := by simp
  version_pos := by simp
  decision_version := by simp
  entry_budget := by simp
  entry_request := by simp
  entry_related := by simp
  entry_correction := by simp
  entry_amount := by simp
  entry_digest := by simp
  one_correction := by simp
  receipt_entry := by simp
  receipt_key := by simp

/-! ### Statements -/

/-- A statement that runs if the constraints on what it writes hold. -/
def guarded (constraints : Prop) [Decidable constraints] (write : constraints → Db) : Except SqliteError Db :=
  if h : constraints then .ok (write h) else .error .integrity

@[simp] theorem guarded_ok {constraints : Prop} [Decidable constraints] {write : constraints → Db} {db' : Db} :
    guarded constraints write = .ok db' ↔ ∃ h, write h = db' := by
  unfold guarded
  split <;> simp [*]

@[simp] theorem guarded_error {constraints : Prop} [Decidable constraints] {write : constraints → Db}
    {e : SqliteError} : guarded constraints write = .error e ↔ ¬constraints ∧ e = .integrity := by
  unfold guarded
  split <;> simp [*, eq_comm]

/-- A statement with these integers among its parameters. -/
def binding (ints : List Int) (statement : Except SqliteError Db) : Except SqliteError Db :=
  if ∀ i ∈ ints, Storable i then statement else .error .overflow

@[simp] theorem binding_ok {ints : List Int} {statement : Except SqliteError Db} {db' : Db} :
    binding ints statement = .ok db' ↔ (∀ i ∈ ints, Storable i) ∧ statement = .ok db' := by
  unfold binding
  split
  · next fits => exact ⟨fun h => ⟨fits, h⟩, And.right⟩
  · next fits => exact ⟨fun h => by simp at h, fun h => absurd h.1 fits⟩

/-- `INSERT INTO organizations`. -/
def insertOrganization (db : Db) (o : Organization) : Except SqliteError Db :=
  guarded (o.id ∉ db.organizations.rows.map (·.id) ∧ threeLetters o.currency) fun h =>
    { db with
      organizations := db.organizations.insert o h.1
      budget_organization := fun b hb => by
        simpa using Or.inl (by simpa using db.budget_organization b hb) }

/-- `INSERT INTO budgets`. -/
def insertBudget (db : Db) (b : BudgetRow) : Except SqliteError Db :=
  guarded (b.id ∉ db.budgets.rows.map (·.id) ∧ b.organizationId ∈ db.organizations.rows.map (·.id) ∧
      b.ownerType ∈ ["department", "project"] ∧ b.periodStart ≤ b.periodEnd ∧ threeLetters b.currency) fun h =>
    { db with
      budgets := db.budgets.insert b h.1
      budget_organization := fun b' hb' => by
        rcases List.mem_append.mp hb' with hb' | hb'
        · exact db.budget_organization b' hb'
        · exact List.mem_singleton.mp hb' ▸ h.2.1
      budget_currency := fun b' hb' => by
        rcases List.mem_append.mp hb' with hb' | hb'
        · exact db.budget_currency b' hb'
        · exact List.mem_singleton.mp hb' ▸ h.2.2.2.2
      request_budget := fun r hr => by
        simpa using Or.inl (by simpa using db.request_budget r hr)
      entry_budget := fun e he => by
        simpa using Or.inl (by simpa using db.entry_budget e he) }

/-- `INSERT INTO role_assignments`. Rows without a budget are never equal to each other. -/
def insertRoleAssignment (db : Db) (r : RoleAssignment) : Except SqliteError Db :=
  guarded (r.id ∉ db.roleAssignments.rows.map (·.id) ∧ r.organizationId ∈ db.organizations.rows.map (·.id) ∧
      (∀ b ∈ r.budgetId, b ∈ db.budgets.rows.map (·.id)) ∧
      (∀ q ∈ db.roleAssignments.rows, r.budgetId.isSome → q.organizationId = r.organizationId →
        q.budgetId = r.budgetId → q.principal = r.principal → q.role ≠ r.role)) fun h =>
    { db with roleAssignments := db.roleAssignments.insert r h.1 }

/-- `INSERT INTO purchase_requests`. -/
def insertPurchaseRequest (db : Db) (r : PurchaseRequest) : Except SqliteError Db :=
  guarded (r.id.text ∉ db.purchaseRequests.rows.map (·.id.text) ∧ r.organizationId ∈ db.organizations.rows.map (·.id) ∧
      r.budgetId ∈ db.budgets.rows.map (·.id) ∧ 0 < r.currentVersion) fun h =>
    { db with
      purchaseRequests := db.purchaseRequests.insert r h.1
      request_budget := fun r' hr' => by
        rcases List.mem_append.mp hr' with hr' | hr'
        · exact db.request_budget r' hr'
        · exact List.mem_singleton.mp hr' ▸ h.2.2.1
      request_version_pos := fun r' hr' => by
        rcases List.mem_append.mp hr' with hr' | hr'
        · exact db.request_version_pos r' hr'
        · exact List.mem_singleton.mp hr' ▸ h.2.2.2
      version_request := fun v hv => by
        simpa using Or.inl (by simpa using db.version_request v hv)
      entry_request := fun e he q hq => by
        simpa using Or.inl (by simpa using db.entry_request e he q hq) }

/-- `INSERT INTO purchase_request_versions`. -/
def insertRequestVersion (db : Db) (v : RequestVersion) : Except SqliteError Db :=
  binding [v.version, v.amountMinor] <| guarded ((v.requestId, v.version) ∉ db.purchaseRequestVersions.rows.map (fun v => (v.requestId, v.version)) ∧
      v.requestId ∈ db.purchaseRequests.rows.map (·.id.text) ∧ (0 < v.version ∧ 0 < v.amountMinor) ∧
      threeLetters v.currency) fun h =>
    { db with
      purchaseRequestVersions := db.purchaseRequestVersions.insert v h.1
      version_request := fun v' hv' => by
        rcases List.mem_append.mp hv' with hv' | hv'
        · exact db.version_request v' hv'
        · exact List.mem_singleton.mp hv' ▸ h.2.1
      version_pos := fun v' hv' => by
        rcases List.mem_append.mp hv' with hv' | hv'
        · exact db.version_pos v' hv'
        · exact List.mem_singleton.mp hv' ▸ h.2.2.1
      decision_version := fun d hd => by
        rw [Table.insert_rows, List.map_append]
        exact List.mem_append_left _ (db.decision_version d hd) }

/-- `UPDATE purchase_requests SET current_version = ?, status = ?, updated_at = ? WHERE id = ? [AND status = ?]`. -/
def updatePurchaseRequest (db : Db) (matching : PurchaseRequest → Bool) (status : RequestStatus)
    (version : Option Int) (now : String) : Except SqliteError Db :=
  binding version.toList <| guarded (∀ v ∈ version, 0 < v) fun h =>
    { db with
      purchaseRequests := db.purchaseRequests.update matching
        (fun r => { r with status, currentVersion := version.getD r.currentVersion, updatedAt := now })
        fun _ => rfl
      request_budget := fun r hr => by
        obtain ⟨q, hq, rfl⟩ := db.purchaseRequests.mem_update.mp hr
        split
        · exact db.request_budget q hq
        · exact db.request_budget q hq
      request_version_pos := fun r hr => by
        obtain ⟨q, hq, rfl⟩ := db.purchaseRequests.mem_update.mp hr
        split
        · cases hv : version with
          | none => exact db.request_version_pos q hq
          | some v => exact h v hv
        · exact db.request_version_pos q hq
      version_request := fun v hv => by
        rw [Table.update_keys]
        exact db.version_request v hv
      entry_request := fun e he q hq => by
        rw [Table.update_keys]
        exact db.entry_request e he q hq }

/-- `INSERT INTO domain_decisions`. -/
def insertDomainDecision (db : Db) (d : DomainDecision) : Except SqliteError Db :=
  binding (d.requestVersion :: d.balanceEvidenceMinor.toList) <| guarded (d.id ∉ db.domainDecisions.rows.map (·.id) ∧ (d.requestId, d.requestVersion) ∈
      db.purchaseRequestVersions.rows.map (fun v => (v.requestId, v.version))) fun h =>
    { db with
      domainDecisions := db.domainDecisions.insert d h.1
      decision_version := fun d' hd' => by
        rcases List.mem_append.mp hd' with hd' | hd'
        · exact db.decision_version d' hd'
        · exact List.mem_singleton.mp hd' ▸ h.2 }

/-- `INSERT INTO ledger_entries`. -/
def insertLedgerEntry (db : Db) (e : LedgerEntry) : Except SqliteError Db :=
  binding (e.amountMinor :: cellInts e.requestVersion) <| guarded (e.id ∉ db.ledgerEntries.rows.map (·.id) ∧ e.organizationId ∈ db.organizations.rows.map (·.id) ∧
      e.budgetId ∈ db.budgets.rows.map (·.id) ∧ (∀ r ∈ e.requestId, r ∈ db.purchaseRequests.rows.map (·.id.text)) ∧
      (∀ r ∈ e.relatedEntryId, r ∈ db.ledgerEntries.rows.map (·.id)) ∧
      (∀ r ∈ e.correctionOf, r ∈ db.ledgerEntries.rows.map (·.id)) ∧
      e.instructionDigest ∉ db.ledgerEntries.rows.map (·.instructionDigest) ∧
      (∀ r ∈ e.correctionOf, r ∉ db.ledgerEntries.rows.filterMap (·.correctionOf)) ∧
      (e.entryType.signed = true ∨ 0 < e.amountMinor) ∧ threeLetters e.currency) fun h =>
    { db with
      ledgerEntries := db.ledgerEntries.insert e h.1
      entry_budget := fun e' he' => by
        rcases List.mem_append.mp he' with he' | he'
        · exact db.entry_budget e' he'
        · exact List.mem_singleton.mp he' ▸ h.2.2.1
      entry_request := fun e' he' => by
        rcases List.mem_append.mp he' with he' | he'
        · exact db.entry_request e' he'
        · exact List.mem_singleton.mp he' ▸ h.2.2.2.1
      entry_related := fun e' he' r hr => by
        rw [Table.insert_rows, List.map_append]
        refine List.mem_append_left _ ?_
        rcases List.mem_append.mp he' with he' | he'
        · exact db.entry_related e' he' r hr
        · exact h.2.2.2.2.1 r (List.mem_singleton.mp he' ▸ hr)
      entry_correction := fun e' he' r hr => by
        rw [Table.insert_rows, List.map_append]
        refine List.mem_append_left _ ?_
        rcases List.mem_append.mp he' with he' | he'
        · exact db.entry_correction e' he' r hr
        · exact h.2.2.2.2.2.1 r (List.mem_singleton.mp he' ▸ hr)
      entry_amount := fun e' he' => by
        rcases List.mem_append.mp he' with he' | he'
        · exact db.entry_amount e' he'
        · exact List.mem_singleton.mp he' ▸ h.2.2.2.2.2.2.2.2.1
      entry_digest := by
        rw [Table.insert_rows, List.map_append, List.map_singleton]
        exact db.entry_digest.append (List.nodup_singleton _) (by simpa using h.2.2.2.2.2.2.1)
      one_correction := by
        rw [Table.insert_rows, List.filterMap_append]
        refine db.one_correction.append ?_ ?_
        · cases hc : e.correctionOf <;> simp [hc]
        · cases hc : e.correctionOf with
          | none => simp [hc]
          | some r => simpa [hc] using h.2.2.2.2.2.2.2.1 r hc
      receipt_entry := fun r hr => by
        rw [Table.insert_rows, List.map_append]
        exact List.mem_append_left _ (db.receipt_entry r hr) }

/-- `INSERT INTO idempotency_receipts`. -/
def insertReceipt (db : Db) (r : MutationReceipt) : Except SqliteError Db :=
  binding (r.availableMinor :: r.requestVersion.toList) <| guarded (r.instructionDigest ∉ db.idempotencyReceipts.rows.map (·.instructionDigest) ∧
      r.idempotencyKey ∉ db.idempotencyReceipts.rows.map (·.idempotencyKey) ∧
      r.ledgerEntryId ∈ db.ledgerEntries.rows.map (·.id) ∧ threeLetters r.currency) fun h =>
    { db with
      idempotencyReceipts := db.idempotencyReceipts.insert r h.1
      receipt_entry := fun r' hr' => by
        rcases List.mem_append.mp hr' with hr' | hr'
        · exact db.receipt_entry r' hr'
        · exact List.mem_singleton.mp hr' ▸ h.2.2.1
      receipt_key := by
        rw [Table.insert_rows, List.map_append, List.map_singleton]
        exact db.receipt_key.append (List.nodup_singleton _) (by simpa using h.2.1) }

/-- `INSERT INTO financial_verifications`. -/
def insertVerification (db : Db) (v : FinancialVerification) : Except SqliteError Db :=
  binding (valueInts v.expectedAvailableMinor ++ v.observedAvailableMinor.toList) <| guarded (v.id ∉ db.financialVerifications.rows.map (·.id)) fun h =>
    { db with financialVerifications := db.financialVerifications.insert v h }

end Db

end RmtPlatform.Budget
