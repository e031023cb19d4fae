import RmtPlatform.Budget.Ledger

/-! Money is committed on an approval.

An approval is given in one transaction and used in a later one, and versions, decisions
and roles come in between. Nothing of what it rests on is ever taken back: requests keep
their requester and their budget, and versions, decisions and roles are only added
(`Outcome.keeps`). So the decision that lets a commitment in (`Cause.commitment`) is one
that its budget's owner gave, and on a request of somebody else (`commitments_approved`). -/
namespace RmtPlatform.Budget

/-! ### What is kept -/

/-- What an approval rests on stays. -/
structure Keeps (db db' : Db) : Prop where
  requests : Persists db.purchaseRequests.rows db'.purchaseRequests.rows
  versions : db.purchaseRequestVersions.rows ⊆ db'.purchaseRequestVersions.rows
  decisions : db.domainDecisions.rows ⊆ db'.domainDecisions.rows
  roles : db.roleAssignments.rows ⊆ db'.roleAssignments.rows

section
variable {rt : Runtime} {db db' : Db}

theorem Keeps.refl (db : Db) : Keeps db db :=
  ⟨.refl _, List.Subset.refl _, List.Subset.refl _, List.Subset.refl _⟩

theorem Outcome.keeps (h : Outcome rt db db') : Keeps db db' := by
  cases h with
  | unchanged same => exact same ▸ .refl db
  | request ledger effect =>
    have roles : db.roleAssignments.rows ⊆ db'.roleAssignments.rows := by
      rw [ledger.roles]
      exact List.Subset.refl _
    have persists := effect.persists
    cases effect with
    | create r v _ _ _ _ _ versions decisions =>
      exact ⟨persists, versions ▸ List.subset_append_left _ _, decisions ▸ List.Subset.refl _, roles⟩
    | revise r v now _ _ _ _ _ versions decisions =>
      exact ⟨persists, versions ▸ List.subset_append_left _ _, decisions ▸ List.Subset.refl _, roles⟩
    | submit r now _ _ _ versions decisions =>
      exact ⟨persists, versions ▸ List.Subset.refl _, decisions ▸ List.Subset.refl _, roles⟩
    | decide r d now _ _ _ _ _ _ _ versions decisions =>
      exact ⟨persists, versions ▸ List.Subset.refl _, decisions ▸ List.subset_append_left _ _, roles⟩
  | posted e r posted =>
    exact ⟨posted.cause.persists, posted.versions ▸ List.Subset.refl _, posted.decisions ▸ List.Subset.refl _,
      posted.roles.subset⟩

theorem Step.outcome (reached : Reachable rt db) (step : Step rt db db') : Outcome rt db db' := by
  obtain ⟨env, call, rfl⟩ := step
  exact call_outcome reached.sound.coherent call

theorem Keeps.hasRole (keeps : Keeps db db') {principal : String} {role : BudgetRole} {budgetId : Option String}
    (held : db.hasRole principal role budgetId = true) : db'.hasRole principal role budgetId = true := by
  obtain ⟨a, mem, holds⟩ := List.any_eq_true.mp held
  exact List.any_eq_true.mpr ⟨a, keeps.roles mem, holds⟩

/-- Roles are never taken away. -/
theorem hasRole_later {principal : String} {role : BudgetRole} {budgetId : Option String} (reached : Reachable rt db)
    (run : Relation.ReflTransGen (Step rt) db db') (held : db.hasRole principal role budgetId = true) :
    db'.hasRole principal role budgetId = true := by
  induction run with
  | refl => exact held
  | tail earlier step ih => exact (Step.outcome (reached.trans earlier) step).keeps.hasRole ih

/-! ### Decisions -/

/-- The decider owned the request's budget when the decision was taken, and is not who made the request. -/
def Independent (rt : Runtime) (db : Db) (d : DomainDecision) (q : PurchaseRequest) : Prop :=
  q ∈ db.purchaseRequests.rows ∧ d.requestId = q.id.text ∧ d.decidedBy ≠ q.requester ∧
    ∃ before, Reachable rt before ∧ Relation.ReflTransGen (Step rt) before db ∧ d ∉ before.domainDecisions.rows ∧
      before.hasRole d.decidedBy .budgetOwner (some q.budgetId) = true

theorem Independent.step {d : DomainDecision} {q : PurchaseRequest} (h : Independent rt db d q)
    (persists : Persists db.purchaseRequests.rows db'.purchaseRequests.rows) (step : Step rt db db') :
    ∃ q', Independent rt db' d q' := by
  obtain ⟨row, of, other, before, reached, run, new, held⟩ := h
  obtain ⟨q', row', id, budget, requester⟩ := persists q row
  refine ⟨q', row', by rw [of, id], by rwa [requester], before, reached, run.tail step, new, ?_⟩
  rwa [budget]

/-- **Every decision is independent.** -/
theorem Reachable.independent (h : Reachable rt db) : ∀ d ∈ db.domainDecisions.rows, ∃ q, Independent rt db d q := by
  induction h with
  | refl => simp [Db.empty]
  | @tail db db' run step ih =>
    have outcome := Step.outcome run step
    have keeps := outcome.keeps
    intro d mem
    by_cases old : d ∈ db.domainDecisions.rows
    · obtain ⟨q, independent⟩ := ih d old
      exact independent.step keeps.requests step
    · -- The decision of this very step.
      cases outcome with
      | unchanged same => exact absurd (same ▸ mem) old
      | posted e r posted => exact absurd (posted.decisions ▸ mem) old
      | request ledger effect =>
        cases effect with
        | create r v _ _ _ _ _ _ decisions => exact absurd (decisions ▸ mem) old
        | revise r v now _ _ _ _ _ _ decisions => exact absurd (decisions ▸ mem) old
        | submit r now _ _ _ _ decisions => exact absurd (decisions ▸ mem) old
        | decide r d' now row status of number independent role requests versions decisions =>
          rw [decisions] at mem
          obtain rfl : d = d' := List.mem_singleton.mp ((List.mem_append.mp mem).resolve_left old)
          obtain ⟨q, row', id, budget, requester⟩ := keeps.requests r row
          refine ⟨q, row', by rw [of, id], by rwa [requester], db, run, .single step, old, ?_⟩
          rwa [budget]

/-! ### Commitments -/

/-- The approval a commitment was made on. -/
structure Backed (db : Db) (e : LedgerEntry) (q : PurchaseRequest) (v : RequestVersion) (d : DomainDecision) : Prop where
  request : q ∈ db.purchaseRequests.rows
  version : v ∈ db.purchaseRequestVersions.rows
  decision : d ∈ db.domainDecisions.rows
  ofRequest : e.requestId = some q.id.text ∧ v.requestId = q.id.text ∧ d.requestId = q.id.text
  ofVersion : e.requestVersion = .integer v.version ∧ d.requestVersion = v.version
  approved : d.decision = .approved
  instruction : d.instructionDigest = some e.instructionDigest
  decider : d.decidedBy = e.actor
  budget : e.budgetId = q.budgetId
  amount : e.amountMinor = v.amountMinor

theorem Backed.keeps {e : LedgerEntry} {q : PurchaseRequest} {v : RequestVersion} {d : DomainDecision}
    (h : Backed db e q v d) (keeps : Keeps db db') : ∃ q', Backed db' e q' v d := by
  obtain ⟨q', row', id, budget, -⟩ := keeps.requests q h.request
  refine ⟨q', row', keeps.versions h.version, keeps.decisions h.decision, ?_, h.ofVersion, h.approved, h.instruction,
    h.decider, h.budget.trans budget.symm, h.amount⟩
  rw [id]
  exact h.ofRequest

/-- What lets a commitment in is an approval of it. -/
theorem Posted.backed {e : LedgerEntry} {r : MutationReceipt} (posted : Posted rt db db' e r) (type : e.entryType = .commitment) :
    ∃ q v d, Backed db' e q v d := by
  have persists := posted.cause.persists
  cases posted.cause with
  | bootstrap type' => simp [type'] at type
  | change type' => simp [type, EntryType.signed] at type'
  | settlement _ _ _ type' => simp [type'] at type
  | cancellation _ _ _ type' => simp [type'] at type
  | commitment q v d now _ row _ request number budget version of current amount decision approved ofRequest ofVersion
      decider digest =>
    obtain ⟨q', row', id, budget', -⟩ := persists q row
    refine ⟨q', v, d, row', posted.versions ▸ version, posted.decisions ▸ decision, ?_, ?_, approved, digest, decider,
      budget.trans budget'.symm, amount⟩
    · rw [id]
      exact ⟨request, of, ofRequest⟩
    · rw [current]
      exact ⟨number, ofVersion⟩

theorem Reachable.backed (h : Reachable rt db) :
    ∀ e ∈ db.ledgerEntries.rows, e.entryType = .commitment → ∃ q v d, Backed db e q v d := by
  induction h with
  | refl => simp [Db.empty]
  | @tail db db' run step ih =>
    have outcome := Step.outcome run step
    have keeps := outcome.keeps
    intro e mem type
    have before : e ∈ db.ledgerEntries.rows → ∃ q v d, Backed db' e q v d := by
      intro old
      obtain ⟨q, v, d, backed⟩ := ih e old type
      obtain ⟨q', backed'⟩ := backed.keeps keeps
      exact ⟨q', v, d, backed'⟩
    cases outcome with
    | unchanged same => exact before (same ▸ mem)
    | request ledger effect => exact before (ledger.ledger ▸ mem)
    | posted e' r posted =>
      rw [posted.entries] at mem
      rcases List.mem_append.mp mem with old | new
      · exact before old
      · rw [List.mem_singleton.mp new] at type ⊢
        exact posted.backed type

end

/-- **No commitment without an independent approval.** In every reachable state every commitment has its approved
decision, of its own request, version and instruction; who decided is who commits, owned the budget before the decision
was there (and still does), and is not the requester; and the amount is the version's. -/
theorem commitments_approved (rt : Runtime) (db : Db) (h : Reachable rt db) :
    ∀ e ∈ db.ledgerEntries.rows, e.entryType = .commitment →
      ∃ q ∈ db.purchaseRequests.rows, ∃ v ∈ db.purchaseRequestVersions.rows, ∃ d ∈ db.domainDecisions.rows,
        d.decision = .approved ∧
        (e.requestId = some q.id.text ∧ d.requestId = q.id.text ∧ v.requestId = q.id.text) ∧
        (e.requestVersion = .integer v.version ∧ d.requestVersion = v.version) ∧
        d.instructionDigest = some e.instructionDigest ∧ d.decidedBy = e.actor ∧ d.decidedBy ≠ q.requester ∧
        e.budgetId = q.budgetId ∧ e.amountMinor = v.amountMinor ∧
        db.hasRole d.decidedBy .budgetOwner (some e.budgetId) = true ∧
        ∃ before, Reachable rt before ∧ Relation.ReflTransGen (Step rt) before db ∧ d ∉ before.domainDecisions.rows ∧
          before.hasRole d.decidedBy .budgetOwner (some e.budgetId) = true := by
  intro e mem type
  obtain ⟨q, v, d, backed⟩ := h.backed e mem type
  obtain ⟨q', row', of, other, before, reached, run, new, held⟩ := h.independent d backed.decision
  obtain rfl : q' = q := db.purchaseRequests.row_unique row' backed.request (of.symm.trans backed.ofRequest.2.2)
  rw [← backed.budget] at held
  exact ⟨q', row', v, backed.version, d, backed.decision, backed.approved,
    ⟨backed.ofRequest.1, of, backed.ofRequest.2.1⟩, backed.ofVersion, backed.instruction, backed.decider, other,
    backed.budget, backed.amount, hasRole_later reached run held, before, reached, run, new, held⟩

/-- The approval on which the request of the sample run is committed. -/
theorem commitments_approved_committed :
    ∃ e ∈ Sample.db.ledgerEntries.rows, e.entryType = .commitment ∧
      ∃ d ∈ Sample.db.domainDecisions.rows, d.decision = .approved ∧ d.instructionDigest = some e.instructionDigest ∧
        d.decidedBy = e.actor ∧ Sample.db.hasRole d.decidedBy .budgetOwner (some e.budgetId) = true := by
  obtain ⟨e, mem, type⟩ : ∃ e ∈ Sample.db.ledgerEntries.rows, e.entryType = .commitment := by decide +kernel
  obtain ⟨q, -, v, -, d, decision, approved, -, -, instruction, decider, -, -, -, held, -⟩ :=
    commitments_approved Sample.runtime Sample.db Sample.reachable e mem type
  exact ⟨e, mem, type, d, decision, approved, instruction, decider, held⟩

end RmtPlatform.Budget
