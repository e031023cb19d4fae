import RmtPlatform.Core.Service
import RmtPlatform.Ops.Retention
import Mathlib.Algebra.GroupWithZero.Nat

/-! The six evidence stores after retention.

Each store is cut by the age of its own records, while the audit of the authorizations
joins three of them: an approval record is older than the authorization that depends on
it, so the cut may fall between the two, and the audit then reports an authorization
without a record. It reports nothing exactly when no cut falls so
(`audit_clean_iff`). -/
namespace RmtPlatform.Ops

open Core Core.Durability

/-- A record and what it has under `created_at`. -/
structure Dated (Record : Type) where
  record : Record
  createdAt : CreatedAt
deriving DecidableEq

/-- The six stores, in the order in which they are archived. -/
structure Evidence where
  traces : Archived (Dated ExecutionTrace)
  audit : Archived (Dated ExecutionAuditRecord)
  verifications : Archived (Dated VerificationResult)
  authorizations : Archived (Dated ExecutionAuthorization)
  approvalRecords : Archived (Dated ApprovalRecord)
  approvalHolds : Archived (Dated ApprovalHold)

/-- How the records of the six are written. -/
structure EvidenceModel where
  traces : RecordModel (Dated ExecutionTrace) Json
  audit : RecordModel (Dated ExecutionAuditRecord) Json
  verifications : RecordModel (Dated VerificationResult) Json
  authorizations : RecordModel (Dated ExecutionAuthorization) Json
  approvalRecords : RecordModel (Dated ApprovalRecord) Json
  approvalHolds : RecordModel (Dated ApprovalHold) Json

/-- What `archive_aged_evidence` returns. -/
inductive Summary where
  | disabled (retentionDays : Int)
  | done (retentionDays cutoff : Int) (archivedTotal : Nat) (stores : List ArchiveResult)
  | failed

def day : Int := 86400000000

/-- `datetime.min`. -/
def earliest : Int := -62135596800000000

/-- The cutoff, where there is one: a time before the first is refused. -/
def cutoffOf (days now : Int) : Option Int :=
  if days ≤ 0 ∨ now - days * day < earliest then none else some (now - days * day)

section
variable (m : EvidenceModel) (fromisoformat : String → Option (Int × Option Int)) (mishaps : String → Mishap)

/-- One store's part. -/
def archiveDated {Record : Type} (m : RecordModel (Dated Record) Json) (cutoff : Int) (name : String)
    (a : Archived (Dated Record)) : Archived (Dated Record) × ArchiveResult :=
  archiveStore m (fun r => olderThan fromisoformat r.createdAt cutoff) (mishaps name) name a

/-- `archive_aged_evidence`. -/
def archiveAgedEvidence (days now : Int) (e : Evidence) : Evidence × Summary :=
  if days ≤ 0 then (e, .disabled days)
  else match cutoffOf days now with
    | none => (e, .failed)
    | some cutoff =>
      let (traces, r₁) := archiveDated fromisoformat mishaps m.traces cutoff "traces" e.traces
      let (audit, r₂) := archiveDated fromisoformat mishaps m.audit cutoff "audit" e.audit
      let (verifications, r₃) := archiveDated fromisoformat mishaps m.verifications cutoff "verifications" e.verifications
      let (authorizations, r₄) := archiveDated fromisoformat mishaps m.authorizations cutoff "authorizations" e.authorizations
      let (approvalRecords, r₅) :=
        archiveDated fromisoformat mishaps m.approvalRecords cutoff "approval_records" e.approvalRecords
      let (approvalHolds, r₆) := archiveDated fromisoformat mishaps m.approvalHolds cutoff "approval_holds" e.approvalHolds
      let results := [r₁, r₂, r₃, r₄, r₅, r₆]
      (⟨traces, audit, verifications, authorizations, approvalRecords, approvalHolds⟩,
        .done days cutoff (results.map (·.archived)).sum results)

end

/-- The live records. -/
def live {Record : Type} (a : Archived (Dated Record)) : DurableStore Record :=
  ⟨.sqlite, a.store.records.map (·.record), []⟩

/-- The stores as the audit reads them. -/
def Evidence.stores (e : Evidence) : State Unit where
  holds := live e.approvalHolds
  records := live e.approvalRecords
  authorizations := live e.authorizations
  audits := live e.audit
  traces := live e.traces
  verifications := live e.verifications
  world := ()
  draws := 0
  ticks := 0

/-! ### What stays -/

section
variable (fromisoformat : String → Option (Int × Option Int)) (mishaps : String → Mishap) (cutoff : Int)

/-- The record stays: the store has no path, its append stops, or the record is not older than the cutoff. -/
def stays {Record : Type} (name : String) (a : Archived (Dated Record)) (r : Dated Record) : Bool :=
  (match a.store.medium with
    | .memory => true
    | _ => false) ||
    (mishaps name).appending.isSome || !olderThan fromisoformat r.createdAt cutoff

variable {fromisoformat mishaps cutoff}

/-- What a store shows after its part. -/
theorem archiveDated_records {Record : Type} (m : RecordModel (Dated Record) Json) (name : String)
    (a : Archived (Dated Record)) :
    (archiveDated fromisoformat mishaps m cutoff name a).1.store.records =
      a.store.records.filter (stays fromisoformat mishaps cutoff name a) := by
  have keeps : ∀ {p : Dated Record → Bool}, (∀ r ∈ a.store.records, p r = true) → a.store.records.filter p = a.store.records :=
    List.filter_eq_self.mpr
  unfold archiveDated archiveStore
  split
  · next path =>
    exact (keeps fun r _ => by simp [stays, path]).symm
  · next path =>
    dsimp only
    split
    · next none =>
      refine (keeps fun r mem => ?_).symm
      have young := List.filter_eq_nil_iff.mp none r mem
      simp [stays, young]
    · split
      · next n e stopped =>
        exact (keeps fun r _ => by simp [stays, stopped]).symm
      · next appended =>
        have kept : (replaceRecords m (mishaps name).rewriting
            (a.store.records.filter fun r => !olderThan fromisoformat r.createdAt cutoff) a.store).2.records =
              a.store.records.filter (stays fromisoformat mishaps cutoff name a) := by
          show a.store.records.filter _ = _
          apply List.filter_congr
          intro r _
          simp [stays, appended]
        split <;> exact kept

/-! ### What the audit reports -/

/-- No divergence: the approval is approved, and its hold does not wait. -/
theorem issue_none {s : State Unit} {approvalId : String} :
    issue s approvalId = none ↔ (∃ r, s.record? approvalId = some r ∧ r.decision = "approved") ∧
      ∀ h, s.hold? approvalId = some h → h.status ≠ .pending := by
  have approved : ∀ decision : String, decision ≠ "rejected" → (terminalStatus decision ≠ none ↔ decision = "approved") := by
    intro decision other
    unfold terminalStatus
    split
    · simp
    · exact absurd rfl other
    · next away _ => simpa using away
  unfold issue
  cases s.record? approvalId with
  | none => simp
  | some r =>
    by_cases rejected : r.decision = "rejected"
    · simp [rejected]
    · have terminal := approved r.decision rejected
      by_cases decided : r.decision = "approved"
      · cases s.hold? approvalId with
        | none => simp [decided, terminalStatus]
        | some h => simp [decided, terminalStatus]
      · simp [rejected, decided, not_not.mp (mt terminal.mp decided)]

theorem auditAuthorizations_eq_nil {s : State Unit} :
    auditAuthorizations s = [] ↔
      ∀ a ∈ s.authorizations.records, a.approvalId.getD "" ≠ "" → issue s (a.approvalId.getD "") = none := by
  unfold auditAuthorizations
  rw [List.filterMap_eq_nil_iff]
  apply forall_congr'
  intro a
  apply imp_congr_right
  intro _
  by_cases none : a.approvalId.getD "" = ""
  · simp [none]
  · simp [none]

variable (fromisoformat mishaps cutoff)

/-- The cut goes round what the authorizations that stay depend on. Where it takes the first approval record with the id,
the first with it that stays is approved, and where it takes the first hold with the id, the first with it that stays
does not wait. -/
def Spared (e : Evidence) : Prop :=
  ∀ a ∈ e.authorizations.store.records, stays fromisoformat mishaps cutoff "authorizations" e.authorizations a = true →
    a.record.approvalId.getD "" ≠ "" →
      (∀ r, (e.approvalRecords.store.records.find? fun r => r.record.approvalId = a.record.approvalId.getD "") = some r →
        stays fromisoformat mishaps cutoff "approval_records" e.approvalRecords r = false →
          ∃ r', (e.approvalRecords.store.records.find? fun r =>
            stays fromisoformat mishaps cutoff "approval_records" e.approvalRecords r &&
              r.record.approvalId = a.record.approvalId.getD "") = some r' ∧ r'.record.decision = "approved") ∧
        ∀ h, (e.approvalHolds.store.records.find? fun h => h.record.approvalId = a.record.approvalId.getD "") = some h →
          stays fromisoformat mishaps cutoff "approval_holds" e.approvalHolds h = false →
            ∀ h', (e.approvalHolds.store.records.find? fun h =>
              stays fromisoformat mishaps cutoff "approval_holds" e.approvalHolds h &&
                h.record.approvalId = a.record.approvalId.getD "") = some h' → h'.record.status ≠ .pending

/-- The cut takes an approval record and leaves an authorization that was given on it. -/
def Severed (e : Evidence) : Prop :=
  ∃ a ∈ e.authorizations.store.records, stays fromisoformat mishaps cutoff "authorizations" e.authorizations a = true ∧
    a.record.approvalId.getD "" ≠ "" ∧ ∃ r ∈ e.approvalRecords.store.records,
      r.record.approvalId = a.record.approvalId.getD "" ∧
        stays fromisoformat mishaps cutoff "approval_records" e.approvalRecords r = false

variable {fromisoformat mishaps cutoff}

theorem live_get? {Record : Type} {a a' : Archived (Dated Record)} {p : Dated Record → Bool}
    (kept : a'.store.records = a.store.records.filter p) (key : Record → String) (k : String) :
    (live a').get? key k = (a.store.records.find? fun r => p r && key r.record = k).map (·.record) := by
  unfold live DurableStore.get?
  dsimp only
  rw [kept, List.find?_map, List.find?_filter]
  congr 2
  funext r
  simp

/-- What the audit says of stores that show a part of what others show. -/
theorem audit_filtered {e e' : Evidence} {pa : Dated ExecutionAuthorization → Bool} {pr : Dated ApprovalRecord → Bool}
    {ph : Dated ApprovalHold → Bool} (authorizations : e'.authorizations.store.records = e.authorizations.store.records.filter pa)
    (records : e'.approvalRecords.store.records = e.approvalRecords.store.records.filter pr)
    (holds : e'.approvalHolds.store.records = e.approvalHolds.store.records.filter ph) :
    auditAuthorizations e'.stores = [] ↔
      ∀ a ∈ e.authorizations.store.records, pa a = true → a.record.approvalId.getD "" ≠ "" →
        (∃ r, (e.approvalRecords.store.records.find? fun r => pr r && r.record.approvalId = a.record.approvalId.getD "") =
            some r ∧ r.record.decision = "approved") ∧
          ∀ h, (e.approvalHolds.store.records.find? fun h => ph h && h.record.approvalId = a.record.approvalId.getD "") =
            some h → h.record.status ≠ .pending := by
  have record : ∀ id, e'.stores.record? id = _ := fun id => live_get? records (·.approvalId) id
  have hold : ∀ id, e'.stores.hold? id = _ := fun id => live_get? holds (·.approvalId) id
  have shown : e'.stores.authorizations.records = (e.authorizations.store.records.filter pa).map (·.record) := by
    rw [← authorizations]
    rfl
  rw [auditAuthorizations_eq_nil, shown]
  simp only [issue_none, record, hold, List.forall_mem_map, List.mem_filter, and_imp, Option.map_eq_some_iff,
    exists_exists_and_eq_and, forall_exists_index, forall_apply_eq_imp_iff₂]

/-- What the audit says after the cut. -/
theorem audit_cut {m : EvidenceModel} {days now : Int} {e : Evidence} (cut : cutoffOf days now = some cutoff) :
    auditAuthorizations (archiveAgedEvidence m fromisoformat mishaps days now e).1.stores = [] ↔
      ∀ a ∈ e.authorizations.store.records,
        stays fromisoformat mishaps cutoff "authorizations" e.authorizations a = true → a.record.approvalId.getD "" ≠ "" →
          (∃ r, (e.approvalRecords.store.records.find? fun r =>
              stays fromisoformat mishaps cutoff "approval_records" e.approvalRecords r &&
                r.record.approvalId = a.record.approvalId.getD "") = some r ∧ r.record.decision = "approved") ∧
            ∀ h, (e.approvalHolds.store.records.find? fun h =>
              stays fromisoformat mishaps cutoff "approval_holds" e.approvalHolds h &&
                h.record.approvalId = a.record.approvalId.getD "") = some h → h.record.status ≠ .pending := by
  have enabled : ¬days ≤ 0 := by
    intro disabled
    rw [cutoffOf, if_pos (.inl disabled)] at cut
    cases cut
  have after : (archiveAgedEvidence m fromisoformat mishaps days now e).1 =
      ⟨(archiveDated fromisoformat mishaps m.traces cutoff "traces" e.traces).1,
        (archiveDated fromisoformat mishaps m.audit cutoff "audit" e.audit).1,
        (archiveDated fromisoformat mishaps m.verifications cutoff "verifications" e.verifications).1,
        (archiveDated fromisoformat mishaps m.authorizations cutoff "authorizations" e.authorizations).1,
        (archiveDated fromisoformat mishaps m.approvalRecords cutoff "approval_records" e.approvalRecords).1,
        (archiveDated fromisoformat mishaps m.approvalHolds cutoff "approval_holds" e.approvalHolds).1⟩ := by
    unfold archiveAgedEvidence
    rw [if_neg enabled, cut]
  rw [after]
  exact audit_filtered (archiveDated_records m.authorizations "authorizations" e.authorizations)
    (archiveDated_records m.approvalRecords "approval_records" e.approvalRecords)
    (archiveDated_records m.approvalHolds "approval_holds" e.approvalHolds)

/-- What an authorization with an approval depends on, where the audit is clean. -/
theorem audit_clean_of {e : Evidence} (clean : auditAuthorizations e.stores = []) {a : Dated ExecutionAuthorization}
    (mem : a ∈ e.authorizations.store.records) (linked : a.record.approvalId.getD "" ≠ "") :
    (∃ r, (e.approvalRecords.store.records.find? fun r => r.record.approvalId = a.record.approvalId.getD "") = some r ∧
        r.record.decision = "approved") ∧
      ∀ h, (e.approvalHolds.store.records.find? fun h => h.record.approvalId = a.record.approvalId.getD "") = some h →
        h.record.status ≠ .pending := by
  have every := (@audit_filtered e e (fun _ => true) (fun _ => true) (fun _ => true) (List.filter_true _).symm
    (List.filter_true _).symm (List.filter_true _).symm).mp clean
  simp only [Bool.true_and, true_imp_iff] at every
  exact every a mem linked

/-- The first that counts, where it is left, is the first of those that are left. -/
theorem find?_left {α : Type} {l : List α} {left counts : α → Bool} {x : α} (first : l.find? counts = some x)
    (stays : left x = true) : (l.find? fun x => left x && counts x) = some x := by
  obtain ⟨hx, before, after, rfl, others⟩ := List.find?_eq_some_iff_append.mp first
  refine List.find?_eq_some_iff_append.mpr ⟨by simp [hx, stays], before, after, rfl, ?_⟩
  intro y mem
  have other : counts y = false := by simpa using others y mem
  simp [other]

theorem find?_none_left {α : Type} {l : List α} {counts : α → Bool} (left : α → Bool) (none : l.find? counts = none) :
    (l.find? fun x => left x && counts x) = .none := by
  rw [List.find?_eq_none] at none ⊢
  intro x mem
  have other : counts x = false := by simpa using none x mem
  simp [other]

/-- A cut of clean stores leaves them clean exactly when it spares what the authorizations that stay depend on. -/
theorem audit_clean_cut {m : EvidenceModel} {days now : Int} {e : Evidence} (clean : auditAuthorizations e.stores = [])
    (cut : cutoffOf days now = some cutoff) :
    auditAuthorizations (archiveAgedEvidence m fromisoformat mishaps days now e).1.stores = [] ↔
      Spared fromisoformat mishaps cutoff e := by
  rw [audit_cut cut]
  apply forall₂_congr
  intro a mem
  apply imp_congr_right
  intro _
  apply imp_congr_right
  intro linked
  obtain ⟨⟨r, first, approved⟩, undecided⟩ := audit_clean_of clean mem linked
  refine and_congr ?_ ?_
  · -- the record that the audit has found before
    simp only [first, Option.some.injEq, forall_eq']
    constructor
    · exact fun found _ => found
    · intro replaced
      cases left : stays fromisoformat mishaps cutoff "approval_records" e.approvalRecords r with
      | true => exact ⟨r, find?_left first left, approved⟩
      | false => exact replaced left
  · -- the hold, if there is one
    cases found : e.approvalHolds.store.records.find? fun h => h.record.approvalId = a.record.approvalId.getD "" with
    | none =>
      have nothing := find?_none_left (stays fromisoformat mishaps cutoff "approval_holds" e.approvalHolds) found
      simp only [nothing, reduceCtorEq, false_imp_iff, implies_true]
    | some h =>
      simp only [Option.some.injEq, forall_eq']
      constructor
      · exact fun waits _ => waits
      · intro replaced
        cases left : stays fromisoformat mishaps cutoff "approval_holds" e.approvalHolds h with
        | true =>
          intro h' same
          rw [find?_left found left] at same
          cases same
          exact undecided h found
        | false => exact replaced left

theorem find?_distinct {Record : Type} {l : List (Dated Record)} (key : Record → String) {k : String} {x : Dated Record}
    (distinct : (l.map fun x => key x.record).Nodup) (found : (l.find? fun x => key x.record = k) = some x)
    {y : Dated Record} (mem : y ∈ l) (own : key y.record = k) : y = x := by
  have same : key x.record = k := by simpa using List.find?_some found
  exact List.inj_on_of_nodup_map distinct mem (List.mem_of_find?_eq_some found) (own.trans same.symm)

/-- Where every approval id is taken once, what counts is that no approval record is moved from under an authorization. -/
theorem spared_iff_distinct {e : Evidence} (clean : auditAuthorizations e.stores = [])
    (records : (e.approvalRecords.store.records.map (·.record.approvalId)).Nodup)
    (holds : (e.approvalHolds.store.records.map (·.record.approvalId)).Nodup) :
    Spared fromisoformat mishaps cutoff e ↔ ¬Severed fromisoformat mishaps cutoff e := by
  constructor
  · rintro spared ⟨a, mem, stayed, linked, r, mem', own, taken⟩
    obtain ⟨⟨first, found, -⟩, -⟩ := audit_clean_of clean mem linked
    obtain rfl := find?_distinct (·.approvalId) records found mem' own
    obtain ⟨left, found', -⟩ := (spared a mem stayed linked).1 r found taken
    have stays' := List.find?_some found'
    simp only [Bool.and_eq_true, decide_eq_true_eq] at stays'
    obtain rfl := find?_distinct (·.approvalId) records found (List.mem_of_find?_eq_some found') stays'.2
    rw [taken] at stays'
    exact absurd stays'.1 Bool.false_ne_true
  · intro whole a mem stayed linked
    constructor
    · intro r found taken
      have own : r.record.approvalId = a.record.approvalId.getD "" := by simpa using List.find?_some found
      exact absurd ⟨a, mem, stayed, linked, r, List.mem_of_find?_eq_some found, own, taken⟩ whole
    · intro h found taken h' found'
      have stays' := List.find?_some found'
      simp only [Bool.and_eq_true, decide_eq_true_eq] at stays'
      obtain rfl := find?_distinct (·.approvalId) holds found (List.mem_of_find?_eq_some found') stays'.2
      rw [taken] at stays'
      exact absurd stays'.1 Bool.false_ne_true

end

/-- **The audit stays clean exactly when every cut spares** what the authorizations that stay depend on; where every
approval id is taken once, exactly when no cut takes an approval record from under an authorization that stays. -/
theorem audit_clean_iff (m : EvidenceModel) (fromisoformat : String → Option (Int × Option Int)) (mishaps : String → Mishap)
    (days now : Int) (e : Evidence) (clean : auditAuthorizations e.stores = []) :
    (auditAuthorizations (archiveAgedEvidence m fromisoformat mishaps days now e).1.stores = [] ↔
      ∀ cutoff, cutoffOf days now = some cutoff → Spared fromisoformat mishaps cutoff e) ∧
    ((e.approvalRecords.store.records.map (·.record.approvalId)).Nodup →
      (e.approvalHolds.store.records.map (·.record.approvalId)).Nodup →
        (auditAuthorizations (archiveAgedEvidence m fromisoformat mishaps days now e).1.stores = [] ↔
          ∀ cutoff, cutoffOf days now = some cutoff → ¬Severed fromisoformat mishaps cutoff e)) := by
  have spared : auditAuthorizations (archiveAgedEvidence m fromisoformat mishaps days now e).1.stores = [] ↔
      ∀ cutoff, cutoffOf days now = some cutoff → Spared fromisoformat mishaps cutoff e := by
    cases cut : cutoffOf days now with
    | some cutoff =>
      rw [audit_clean_cut clean cut]
      simp only [Option.some.injEq, forall_eq']
    | none =>
      have unchanged : (archiveAgedEvidence m fromisoformat mishaps days now e).1 = e := by
        unfold archiveAgedEvidence
        rw [cut]
        split <;> rfl
      rw [unchanged]
      exact iff_of_true clean fun _ same => by cases same
  refine ⟨spared, fun records holds => ?_⟩
  simp only [spared, spared_iff_distinct clean records holds]

namespace Sample

def approved : ApprovalRecord where
  approvalId := "approval-1"
  actionId := "action-1"
  decision := "approved"
  approvedBy := "operator-1"
  reason := ""
  governanceDomain := "rmt.default"
  assessmentId := none
  instructionDigest := none
  adapterName := some "simulation"
  policyEvidenceReferences := []
  riskEvidenceReferences := []

def authorized : ExecutionAuthorization :=
  { Provenance.missing with
    authorizationId := "authorization-1"
    actionId := "action-1"
    status := "approved"
    authorizedBy := some "operator-1"
    authorizationType := "manual"
    decisionId := some "decision-1"
    approvalId := some "approval-1"
    expiresAt := none
    reason := ""
    target := "web"
    operation := "start"
    governanceDomain := "rmt.default"
    adapterName := some "simulation"
    expectedOutcome := none }

def approvedHold : ApprovalHold :=
  { Provenance.missing with
    approvalId := "approval-1"
    actionId := "action-1"
    action := Core.Sample.action
    adapterName := "simulation"
    reason := ""
    status := .approved
    approvedBy := some "operator-1"
    expiresAt := none
    riskLevel := some "low"
    governanceDomain := "rmt.default" }

def auditRecord : ExecutionAuditRecord :=
  { Provenance.missing with
    executionId := "execution-1"
    actionId := "action-1"
    authorizationId := "authorization-1"
    adapter := "simulation"
    status := "success"
    message := ""
    riskLevel := "low"
    governanceDomain := "rmt.default" }

def trace : ExecutionTrace :=
  { Provenance.missing with
    executionId := "execution-1"
    actionId := "action-1"
    authorizationId := "authorization-1"
    policyDecision := "allowed"
    riskLevel := "low"
    outcome := "executed"
    reason := ""
    governanceDomain := "rmt.default"
    adapterName := some "simulation" }

def verified : VerificationResult := ⟨"execution-1", "verified_success", none, none, ""⟩

/-- Records that are told apart by a key. -/
def keyed {Record : Type} (key : Record → String) (records : List Record) (other : Record) :
    RecordModel (Dated Record) Json where
  dump r := .object [("key", .string (key r.record)),
    ("created_at", match r.createdAt with
      | .datetime wall _ => .int wall
      | _ => .null)]
  validate
    | .object [("key", .string k), ("created_at", .int wall)] =>
      ⟨(records.find? fun r => key r = k).getD other, .datetime wall (some 0)⟩
    | _ => ⟨other, .absent⟩
  keyOf r := some (key r.record)

/-- A second approval, and what was done on it. -/
def approvedNext : ApprovalRecord := { approved with approvalId := "approval-2", actionId := "action-2" }

def authorizedNext : ExecutionAuthorization :=
  { authorized with authorizationId := "authorization-2", actionId := "action-2", approvalId := some "approval-2" }

def approvedHoldNext : ApprovalHold := { approvedHold with approvalId := "approval-2", actionId := "action-2" }

def auditRecordNext : ExecutionAuditRecord :=
  { auditRecord with executionId := "execution-2", actionId := "action-2", authorizationId := "authorization-2" }

def traceNext : ExecutionTrace :=
  { trace with executionId := "execution-2", actionId := "action-2", authorizationId := "authorization-2" }

def verifiedNext : VerificationResult := { verified with executionId := "execution-2" }

def evidenceModel : EvidenceModel where
  traces := keyed (·.executionId) [trace, traceNext] trace
  audit := keyed (·.executionId) [auditRecord, auditRecordNext] auditRecord
  verifications := keyed (·.executionId) [verified, verifiedNext] verified
  authorizations := keyed (·.authorizationId) [authorized, authorizedNext] authorized
  approvalRecords := keyed (·.approvalId) [approved, approvedNext] approved
  approvalHolds := keyed (·.approvalId) [approvedHold, approvedHoldNext] approvedHold

/-- A new file with these records in it. -/
def filed {Record : Type} (m : RecordModel (Dated Record) Json) (records : List (Record × Int)) : Archived (Dated Record) where
  store := records.foldl (fun s r => (save m (fun _ => none) ⟨r.1, .datetime r.2 (some 0)⟩ s).2)
    (Core.Durability.opened m (.json ⟨none, none⟩))
  archive := []

/-- Two approvals that were recorded and used later on, the first of them at once. -/
def used (first recordedAt authorizedAt : Int) : Evidence where
  traces := filed evidenceModel.traces [(trace, first), (traceNext, authorizedAt)]
  audit := filed evidenceModel.audit [(auditRecord, first), (auditRecordNext, authorizedAt)]
  verifications := filed evidenceModel.verifications [(verified, first), (verifiedNext, authorizedAt)]
  authorizations := filed evidenceModel.authorizations [(authorized, first), (authorizedNext, authorizedAt)]
  approvalRecords := filed evidenceModel.approvalRecords [(approved, first), (approvedNext, recordedAt)]
  approvalHolds := filed evidenceModel.approvalHolds [(approvedHold, first), (approvedHoldNext, recordedAt)]

/-- The evidence after retention, with nothing going wrong. -/
def retained (days now : Int) (e : Evidence) : Evidence :=
  (archiveAgedEvidence evidenceModel (fun _ => none) (fun _ => ⟨none, fun _ => none⟩) days now e).1

end Sample

/-- The first approval is archived with everything that was done on it, and the second stays. -/
theorem audit_clean_recent :
    (Sample.retained 90 (90 * day + 1000) (Sample.used 0 2000 3000)).approvalRecords.store.records.map (·.record) =
        [Sample.approvedNext] ∧
      auditAuthorizations (Sample.retained 90 (90 * day + 1000) (Sample.used 0 2000 3000)).stores = [] := by
  have whole : ∀ cutoff, cutoffOf 90 (90 * day + 1000) = some cutoff →
      ¬Severed (fun _ => none) (fun _ => ⟨none, fun _ => none⟩) cutoff (Sample.used 0 2000 3000) := by
    intro cutoff cut
    cases cut.symm.trans (show cutoffOf 90 (90 * day + 1000) = some 1000 by decide)
    unfold Severed
    decide
  exact ⟨by decide, ((audit_clean_iff Sample.evidenceModel (fun _ => none) (fun _ => ⟨none, fun _ => none⟩) 90
    (90 * day + 1000) (Sample.used 0 2000 3000) (by decide)).2 (by decide) (by decide)).mpr whole⟩

/-- **A divergence made**: the cut falls between an approval record and the authorization that was given on it. -/
theorem audit_clean_cut_between :
    auditAuthorizations (Sample.used 0 500 3000).stores = [] ∧
      auditAuthorizations (Sample.retained 90 (90 * day + 1000) (Sample.used 0 500 3000)).stores =
        [⟨"authorization-2", "approval-2", "manual", "missing_record", none⟩] := by
  constructor <;> decide

end RmtPlatform.Ops
