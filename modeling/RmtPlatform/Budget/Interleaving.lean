import RmtPlatform.Budget.Terms

/-! Calls of the budget service side by side.

Any number of calls interleave statement by statement, and each writes in one
transaction. Whatever comes in between, an approved decision holds the action that was
drawn up from the version its call had read (`Approved`), and an entry of the ledger was
predicted from the balance its call had read (`Predicted`). -/
namespace RmtPlatform.Budget

/-! ### What a run keeps -/

/-- The action an approved decision holds binds the version `n`, of which `v` is the row. -/
structure Drawn (models : Models) (db : Db) (d : DomainDecision) (n : Int) (action : Core.ActionRequest)
    (v : RequestVersion) : Prop where
  json : d.actionJson = some (models.modelDumpJson action)
  version : v ∈ db.purchaseRequestVersions.rows ∧ v.requestId = d.requestId ∧ v.version = n
  parameters : ∃ request actor decisionId available, d.id = decisionId.text ∧ d.balanceEvidenceMinor = some available ∧
    request.currentVersion = n ∧ action.parameters = commitmentParameters request d.requestId v actor decisionId available

/-- An approved decision holds what its call had drawn up, when `save_decision` was admitted. -/
def Approved (models : Models) (admits : Mark → Point Db Mark → Prop) (p : Point Db Mark) : Prop :=
  ∀ d ∈ p.state.domainDecisions.rows, d.decision = .approved → ∃ n action v, Drawn models p.state d n action v ∧
    ∃ before, admits (.decides d.requestId n) before ∧
      ∃ q ∈ before.state.purchaseRequests.rows, q.id.text = d.requestId ∧ q.status = .submitted ∧
        q.currentVersion = d.requestVersion

/-- The prediction of an entry: the instruction that was applied, with its receipt, and the balance it was told from. -/
structure Prediction (p : Point Db Mark) (before : List LedgerEntry) (e : LedgerEntry) (parameters : Dict)
    (seen : Option (String × Int)) (r : MutationReceipt) : Prop where
  applied : .applies parameters e.instructionDigest e.executionId seen ∈ p.trace
  receipt : r ∈ p.state.idempotencyReceipts.rows ∧ r.instructionDigest = e.instructionDigest ∧ r.createdAt = e.createdAt
  content : dumps parameters = .ok r.parametersJson
  observed : r.availableMinor = Db.available (before ++ [e]) e.budgetId
  budget : ∀ s ∈ seen, s.1 = e.budgetId
  told : parameters.get "expected_available_minor" = .int (Db.available (before ++ [e]) e.budgetId) ↔
    ∀ s ∈ seen, Db.available before s.1 = s.2

def Predicted (p : Point Db Mark) : Prop :=
  ∀ before e after, p.state.ledgerEntries.rows = before ++ e :: after →
    ∃ parameters seen r, Prediction p before e parameters seen r

structure Governed (models : Models) (admits : Mark → Point Db Mark → Prop) (p : Point Db Mark) : Prop where
  sound : Sound p.state
  consistent : Consistent p.state
  approved : Approved models admits p
  predicted : Predicted p

/-- The calls take nothing back, and keep all this. -/
def interleaved (models : Models) (admits : Mark → Point Db Mark → Prop) : Discipline Db Mark :=
  .shared (fun p q => Later p.state q.state) (Governed models admits) admits

/-- An instruction that a call hands to the adapter: it foretells what it leaves, and a commitment is one that a decision
holds. -/
structure Instructs (rt : Runtime) (models : Models) (db : Db) (action : Core.ActionRequest) (digest : String)
    (seen : Option (String × Int)) : Prop where
  plain : Plain action.parameters
  bound : digestOf rt action = .ok digest
  foretells : Foretells rt db action.parameters seen
  budget : ∀ s ∈ seen, mutation action.parameters ≠ .ok .bootstrap ∧ text action.parameters "budget_id" = .ok s.1
  approved : mutation action.parameters = .ok .commitment → ∃ d ∈ db.domainDecisions.rows, d.decision = .approved ∧
    d.actionJson = some (models.modelDumpJson action) ∧ models.modelDumpJson action ≠ ""

/-- What `decide` hands to `save_decision` with an approval: the action it has drawn up. -/
def Drafted (models : Models) (db : Db) (label : Option Mark) (input : DecisionInput) : Prop :=
  ∃ n action v, label = some (.decides input.requestId n) ∧ input.actionJson = some (models.modelDumpJson action) ∧
    (action.confidence = 100 ∧ action.requiresApproval = false) ∧
    (v ∈ db.purchaseRequestVersions.rows ∧ v.requestId = input.requestId ∧ v.version = n) ∧
    ∃ request decisionId available, input.decisionId = decisionId.text ∧ input.balanceEvidenceMinor = some available ∧
      request.currentVersion = n ∧
      action.parameters = commitmentParameters request input.requestId v input.actor decisionId available

/-- What a step of a call shows, and leaves in the tables. -/
inductive Does (rt : Runtime) (models : Models) (p : Point Db Mark) : Option Mark → Db → Prop where
  | nothing (label : Option Mark) : Does rt models p label p.state
  | request {db : Db} (ledger : SameLedger p.state db) (effect : RequestEffect p.state db)
      (decisions : db.domainDecisions = p.state.domainDecisions) : Does rt models p none db
  /-- An approval holds what its call has drawn up. -/
  | decision {db : Db} {u : Unit} (label : Option Mark) (env : Env) (input : DecisionInput)
      (stored : (saveDecisionBody rt env input).exec p.state = (.ok u, db))
      (drawn : input.decision = "approved" → Drafted models p.state label input) :
      Does rt models p label db
  | verified {db : Db} (v : FinancialVerification) (stored : p.state.insertVerification v = .ok db) : Does rt models p none db
  | applied {db : Db} {r : MutationReceipt} {seen : Option (String × Int)} (env : Env) (action : Core.ActionRequest)
      (digest executionId key encoded : String) (instructs : Instructs rt models p.state action digest seen)
      (hkey : text action.parameters "idempotency_key" = .ok key) (hencoded : dumps action.parameters = .ok encoded)
      (ran : (applyMutationBody rt env action.parameters digest executionId key encoded).exec p.state = (.ok r, db)) :
      Does rt models p (some (.applies action.parameters digest executionId seen)) db

/-- The calls can run under the discipline. -/
structure Hosts (rt : Runtime) (models : Models) (admits : Mark → Point Db Mark → Prop) (D : Discipline Db Mark) : Prop where
  quiet : Quiet D
  governed : ∀ p, D.inv p → Governed models admits p
  does : ∀ p label db, D.inv p → (∀ m ∈ label, D.admits m p) → Does rt models p label db →
    D.inv ⟨db, label.toList ++ p.trace⟩ ∧ D.guarantee p ⟨db, label.toList ++ p.trace⟩

section
variable {rt : Runtime} {models : Models} {admits : Mark → Point Db Mark → Prop} {env : Env} {p : Point Db Mark} {db : Db}
  {D : Discipline Db Mark}

theorem Instructs.later {db' : Db} {action : Core.ActionRequest} {digest : String} {seen : Option (String × Int)}
    (h : Instructs rt models db action digest seen) (later : Later db db') : Instructs rt models db' action digest seen := by
  refine ⟨h.plain, h.bound, h.foretells.later later, h.budget, fun commits => ?_⟩
  obtain ⟨d, row, held⟩ := h.approved commits
  exact ⟨d, later.keeps.decisions row, held⟩

theorem Drawn.later {db db' : Db} {d : DomainDecision} {n : Int} {action : Core.ActionRequest} {v : RequestVersion}
    (h : Drawn models db d n action v) (versions : db.purchaseRequestVersions.rows ⊆ db'.purchaseRequestVersions.rows) :
    Drawn models db' d n action v := ⟨h.json, ⟨versions h.version.1, h.version.2⟩, h.parameters⟩

/-- Decisions are left, and versions are not taken back. -/
theorem Approved.same (h : Approved models admits p) {l : List Mark}
    (decisions : db.domainDecisions.rows = p.state.domainDecisions.rows)
    (versions : p.state.purchaseRequestVersions.rows ⊆ db.purchaseRequestVersions.rows) : Approved models admits ⟨db, l⟩ := by
  intro d mem approved
  obtain ⟨n, action, v, drawn, before⟩ := h d (decisions ▸ mem) approved
  exact ⟨n, action, v, drawn.later versions, before⟩

theorem Prediction.later {before : List LedgerEntry} {e : LedgerEntry} {parameters : Dict} {seen : Option (String × Int)}
    {r : MutationReceipt} (h : Prediction p before e parameters seen r) {l : List Mark}
    (receipts : p.state.idempotencyReceipts.rows ⊆ db.idempotencyReceipts.rows) (trace : p.trace ⊆ l) :
    Prediction ⟨db, l⟩ before e parameters seen r :=
  ⟨trace h.applied, ⟨receipts h.receipt.1, h.receipt.2⟩, h.content, h.observed, h.budget, h.told⟩

/-- The ledger and the receipts are left. -/
theorem Predicted.same (h : Predicted p) {l : List Mark} (entries : db.ledgerEntries.rows = p.state.ledgerEntries.rows)
    (receipts : db.idempotencyReceipts.rows = p.state.idempotencyReceipts.rows) (trace : p.trace ⊆ l) :
    Predicted ⟨db, l⟩ := by
  intro before e after split
  obtain ⟨parameters, seen, r, prediction⟩ := h before e after (entries ▸ split)
  exact ⟨parameters, seen, r, prediction.later (receipts ▸ List.Subset.refl _) trace⟩

theorem Governed.marked (h : Governed models admits p) (l : List Mark) : Governed models admits ⟨p.state, l ++ p.trace⟩ :=
  ⟨h.sound, h.consistent, h.approved.same rfl (List.Subset.refl _),
    h.predicted.same rfl rfl (List.subset_append_right _ _)⟩

/-- A step that leaves the decisions and the books. -/
theorem Governed.request (h : Governed models admits p) (outcome : Outcome rt p.state db) {l : List Mark}
    (ledger : SameLedger p.state db) (decisions : db.domainDecisions = p.state.domainDecisions) :
    Governed models admits ⟨db, l ++ p.trace⟩ :=
  ⟨outcome.sound h.sound, outcome.consistent h.consistent, h.approved.same (by rw [decisions]) outcome.keeps.versions,
    h.predicted.same (by rw [ledger.ledger]) (by rw [ledger.receipts]) (List.subset_append_right _ _)⟩

/-! ### Steps -/

/-- A step takes nothing back. -/
theorem Does.later {label : Option Mark} (does : Does rt models p label db) (governed : Governed models admits p) :
    Later p.state db := by
  cases does with
  | nothing => exact .refl p.state
  | request ledger effect decisions =>
    have outcome : Outcome rt p.state db := .request ledger effect
    exact outcome.later
  | decision label env input stored drawn =>
    obtain ⟨ledger, effect⟩ := saveDecisionBody_ok stored
    have outcome : Outcome rt p.state db := .request ledger effect
    exact outcome.later
  | verified v stored =>
    obtain ⟨-, rfl⟩ := Db.guarded_ok.mp (Db.binding_ok.mp stored).2
    exact ⟨⟨.refl _, List.Subset.refl _, List.Subset.refl _, List.Subset.refl _⟩, List.Subset.refl _⟩
  | applied env action digest executionId key encoded instructs hkey hencoded ran =>
    rcases applyMutationBody_posts governed.sound.coherent ran with rfl | ⟨ev, e, -, -, -, posted, -⟩
    · exact .refl p.state
    · have outcome : Outcome rt p.state db := .posted e _ posted
      exact outcome.later

/-- The decision `save_decision` stores, and what it has checked. -/
theorem saveDecisionBody_row {input : DecisionInput} {u : Unit} {db' : Db}
    (h : (saveDecisionBody rt env input).exec db = (.ok u, db')) :
    ∃ q ∈ db.purchaseRequests.rows, ∃ verdict', q.id.text = input.requestId ∧ q.status = .submitted ∧
      verdict input.decision = some verdict' ∧
      db'.domainDecisions.rows = db.domainDecisions.rows ++ [⟨input.decisionId, input.requestId, q.currentVersion, verdict',
        input.actor, strip input.reason, input.instructionDigest, input.actionJson, input.balanceEvidenceMinor, env.now 0⟩] := by
  simp [saveDecisionBody, Script.exec_bind_ok, Db.insertDomainDecision, Db.updatePurchaseRequest] at h
  obtain ⟨q, hq, role, independent, status, verdict', hverdict, -, -, rfl⟩ := h
  obtain ⟨row, id⟩ := db.purchaseRequests.find?_eq_some.mp hq
  exact ⟨q, row, verdict', id, status, hverdict, rfl⟩

theorem verdict_approved {decision : String} (h : verdict decision = some .approved) : decision = "approved" := by
  unfold verdict at h
  split at h
  · rfl
  · cases h
  · cases h

/-- An approval that holds what its call has drawn up keeps what a run keeps. -/
theorem Governed.decided {label : Option Mark} {input : DecisionInput} {u : Unit} (governed : Governed models admits p)
    (admitted : ∀ m ∈ label, admits m p) (stored : (saveDecisionBody rt env input).exec p.state = (.ok u, db))
    (drawn : input.decision = "approved" → Drafted models p.state label input) :
    Governed models admits ⟨db, label.toList ++ p.trace⟩ := by
  obtain ⟨ledger, effect⟩ := saveDecisionBody_ok stored
  have outcome : Outcome rt p.state db := .request ledger effect
  refine ⟨outcome.sound governed.sound, outcome.consistent governed.consistent, ?_,
    governed.predicted.same (by rw [ledger.ledger]) (by rw [ledger.receipts]) (List.subset_append_right _ _)⟩
  obtain ⟨r, row, verdict', id, status, hverdict, decisions⟩ := saveDecisionBody_row stored
  intro d mem approved
  rw [decisions] at mem
  rcases List.mem_append.mp mem with old | new
  · obtain ⟨n, action, v, drawn', before⟩ := governed.approved d old approved
    exact ⟨n, action, v, drawn'.later outcome.keeps.versions, before⟩
  · rw [List.mem_singleton.mp new] at approved ⊢
    have chosen : input.decision = "approved" := by
      rw [show verdict' = .approved from approved] at hverdict
      exact verdict_approved hverdict
    obtain ⟨n, action, v, hlabel, json, -, version, request, decisionId, available, hid, evidence, number, parameters⟩ :=
      drawn chosen
    refine ⟨n, action, v, ⟨json, ⟨outcome.keeps.versions version.1, version.2⟩,
      request, input.actor, decisionId, available, hid, evidence, number, parameters⟩, p, ?_, r, row, id, status, rfl⟩
    exact admitted _ (by rw [hlabel]; rfl)

/-- **Applying an instruction keeps what a run keeps**, as it foretells what it leaves. -/
theorem Governed.applied {action : Core.ActionRequest} {digest executionId key encoded : String}
    {seen : Option (String × Int)} {r : MutationReceipt} (governed : Governed models admits p)
    (instructs : Instructs rt models p.state action digest seen) (hencoded : dumps action.parameters = .ok encoded)
    (ran : (applyMutationBody rt env action.parameters digest executionId key encoded).exec p.state = (.ok r, db)) :
    Governed models admits ⟨db, .applies action.parameters digest executionId seen :: p.trace⟩ := by
  rcases applyMutationBody_posts governed.sound.coherent ran with rfl | ⟨ev, e, new, valid, after, posted, receipted, named, -⟩
  · exact governed.marked [_]
  have outcome : Outcome rt p.state db := .posted e r posted
  refine ⟨outcome.sound governed.sound, outcome.consistent governed.consistent,
    governed.approved.same (by rw [posted.decisions]) outcome.keeps.versions, ?_⟩
  intro before e' rest split
  have receipts : p.state.idempotencyReceipts.rows ⊆ db.idempotencyReceipts.rows := by
    rw [posted.receipts]
    exact List.subset_append_left _ _
  replace split : db.ledgerEntries.rows = before ++ e' :: rest := split
  rw [posted.entries] at split
  rcases List.eq_nil_or_concat rest with rfl | ⟨rest', last, rfl⟩
  · -- The entry of this very mutation.
    obtain ⟨rfl, same⟩ := List.append_inj' split rfl
    obtain rfl : e = e' := by simpa using same
    have observed : r.availableMinor = Db.available (p.state.ledgerEntries.rows ++ [e]) e.budgetId := by
      rw [posted.observed, Db.availableMinor, posted.entries]
    obtain ⟨-, names⟩ := validateMutation_terms new valid
    have own : ∀ s ∈ seen, s.1 = e.budgetId := by
      intro s mem
      obtain ⟨later, its⟩ := instructs.budget s mem
      have other : ev.mutationType ≠ .bootstrap := fun initial => later (initial ▸ names.1)
      obtain ⟨b, hb, named'⟩ := names.2 other
      rw [its] at named'
      rw [named other] at hb
      rw [Except.ok.inj named', ← Option.some.inj hb]
    refine ⟨action.parameters, seen, r, ?_, ⟨?_, posted.digest, posted.created⟩, ?_, observed, own, ?_⟩
    · rw [← posted.digest, receipted.digest, receipted.execution.2]
      exact List.mem_cons_self
    · rw [posted.receipts]
      exact List.mem_append_right _ (List.mem_singleton_self r)
    · rw [receipted.parameters]
      exact hencoded
    · rw [← observed, after]
      exact instructs.foretells p.state (.refl _) governed.consistent env digest ev new valid
  · -- An entry that was there before.
    have split' : p.state.ledgerEntries.rows = before ++ e' :: rest' := by
      have : p.state.ledgerEntries.rows ++ [e] = (before ++ e' :: rest') ++ [last] := by
        rw [split]
        simp
      exact (List.append_inj' this rfl).1
    obtain ⟨parameters', seen', r', prediction⟩ := governed.predicted before e' rest' split'
    exact ⟨parameters', seen', r', prediction.later receipts (List.subset_cons_self _ _)⟩

/-- **Every step keeps what a run keeps.** -/
theorem Does.governed {label : Option Mark} (does : Does rt models p label db) (governed : Governed models admits p)
    (admitted : ∀ m ∈ label, admits m p) : Governed models admits ⟨db, label.toList ++ p.trace⟩ := by
  cases does with
  | nothing => exact governed.marked _
  | request ledger effect decisions =>
    have outcome : Outcome rt p.state db := .request ledger effect
    exact governed.request outcome ledger decisions
  | decision label env input stored drawn => exact governed.decided admitted stored drawn
  | verified v stored =>
    -- A row of `verifications` is nothing to the rest.
    obtain ⟨-, rfl⟩ := Db.guarded_ok.mp (Db.binding_ok.mp stored).2
    exact ⟨⟨governed.sound.coherent, governed.sound.solvent, governed.sound.summable⟩,
      ⟨governed.consistent.coupled, governed.consistent.numbered, governed.consistent.undecided, governed.consistent.once⟩,
      governed.approved.same rfl (List.Subset.refl _), governed.predicted.same rfl rfl (List.subset_append_right _ _)⟩
  | applied env action digest executionId key encoded instructs hkey hencoded ran =>
    exact governed.applied instructs hencoded ran

/-- The calls keep all this, and whatever else their steps keep. -/
theorem hosts_also {kept : Point Db Mark → Prop} (keeps : ∀ p label db, Governed models admits p → kept p →
    Does rt models p label db → kept ⟨db, label.toList ++ p.trace⟩) :
    Hosts rt models admits ((interleaved models admits).also kept) where
  quiet := ⟨fun _ _ later => later, fun p _ => .refl p.state⟩
  governed _ inv := inv.1
  does p label db inv admitted does :=
    ⟨⟨does.governed inv.1 admitted, keeps p label db inv.1 inv.2 does⟩, does.later inv.1⟩

/-! ### Transactions -/

/-- A transaction whose body, if it returns, is a step of a call. -/
theorem sees_transaction {α : Type} {label : Option Mark} {body : Sql Empty α} (hosts : Hosts rt models admits D)
    (does : ∀ q, D.rely p q → D.inv q → ∀ a db', body.exec q.state = (.ok a, db') → Does rt models q label db') :
    Sees D (fun _ _ => True) (immediateTransaction env label body) p := by
  apply Transaction.safe_script
  intro q rely inv admitted
  obtain ⟨kept, owed⟩ := hosts.does q label q.state inv admitted (.nothing label)
  refine ⟨fun a db' h => ?_, kept, owed, fun _ => trivial⟩
  obtain ⟨kept', owed'⟩ := hosts.does q label db' inv admitted (does q rely inv a db' h)
  exact ⟨kept', owed', trivial⟩

theorem sees_after {α β : Type} {x : Sql Mark α} {f : α → Sql Mark β}
    (hx : Sees D (fun _ _ => True) x p)
    (hf : ∀ a q, Sees D (fun _ _ => True) (f a) q) :
    Sees D (fun _ _ => True) (x >>= f) p :=
  hx.bind fun a q _ => hf a q

theorem sees_pure {α : Type} (a : α) : Sees D (fun _ _ => True) (pure a : Sql Mark α) p := trivial

theorem sees_look {α : Type} (hosts : Hosts rt models admits D) (f : Db → α) : Sees D (fun _ _ => True) (select f) p :=
  sees_select hosts.quiet fun _ _ _ => trivial

/-! ### Requests -/

theorem createRequestBody_decisions {actor b id : String} {input : RequestInput} {db' : Db}
    (h : (createRequestBody rt env actor b input).exec db = (.ok id, db')) : db'.domainDecisions = db.domainDecisions := by
  simp [createRequestBody, Script.exec_bind_ok, Db.insertPurchaseRequest, Db.insertRequestVersion] at h
  obtain ⟨-, row, -, -, -, ⟨-, -, -, rfl⟩, -⟩ := h
  rfl

theorem addRequestVersionBody_decisions {actor id : String} {input : RequestInput} {u : Unit} {db' : Db}
    (h : (addRequestVersionBody rt env actor id input).exec db = (.ok u, db')) : db'.domainDecisions = db.domainDecisions := by
  simp [addRequestVersionBody, Script.exec_bind_ok, Db.insertRequestVersion, Db.updatePurchaseRequest] at h
  obtain ⟨q, hq, -, status, -, -, -, -, -, -, -, rfl⟩ := h
  rfl

theorem submitRequestBody_decisions {actor id : String} {u : Unit} {db' : Db}
    (h : (submitRequestBody env actor id).exec db = (.ok u, db')) : db'.domainDecisions = db.domainDecisions := by
  simp [submitRequestBody, Script.exec_bind_ok, Db.updatePurchaseRequest] at h
  obtain ⟨q, hq, -, status, rfl⟩ := h
  rfl

theorem sees_requestDetail (hosts : Hosts rt models admits D) {actor requestId : String}
    {Q : RequestDetail → Point Db Mark → Prop} (h : ∀ q detail, Later p.state q.state → detail.request.id.text = requestId →
      (∀ v ∈ detail.versions, v ∈ q.state.purchaseRequestVersions.rows ∧ v.requestId = requestId) → Q detail q) :
    Sees D Q (requestDetail actor requestId) p := by
  apply sees_bind
  apply sees_request hosts.quiet
  intro q₁ request rely₁ _ _ id
  apply sees_bind
  have view : Sees D (fun _ q => Later p.state q.state) (mayView actor request : Sql Mark Bool) q₁ := by
    have later₁ := hosts.quiet.later _ _ rely₁
    unfold mayView
    split
    · exact later₁
    · exact sees_select hosts.quiet fun q rely _ => later₁.trans (hosts.quiet.later _ _ rely)
  refine view.mono (fun canView q₂ later₂ => ?_) fun _ _ _ => trivial
  apply sees_bind
  apply sees_raiseIf
  intro _
  apply sees_bind
  apply sees_select hosts.quiet
  intro q₃ rely₃ _
  apply sees_bind
  apply sees_select hosts.quiet
  intro q₄ rely₄ _
  have later₃ := hosts.quiet.later _ _ rely₃
  have later₄ := hosts.quiet.later _ _ rely₄
  refine h q₄ _ ((later₂.trans later₃).trans later₄) id fun v mem => ?_
  have row := (List.perm_insertionSort _ _).mem_iff.mp mem
  obtain ⟨row, of⟩ := List.mem_filter.mp row
  exact ⟨later₄.keeps.versions row, (of_decide_eq_true of).trans id⟩

theorem sees_detail (hosts : Hosts rt models admits D) {actor requestId : String} :
    Sees D (fun _ _ => True) (requestDetail actor requestId) p :=
  sees_requestDetail hosts fun _ _ _ _ _ => trivial

theorem sees_createRequest (hosts : Hosts rt models admits D) {actor budgetId : String} {input : RequestInput} :
    Sees D (fun _ _ => True) (createRequest rt env none actor budgetId input) p := by
  apply sees_bind
  apply sees_raiseIf
  intro _
  apply sees_bind
  apply sees_raiseIf
  intro _
  apply sees_after
  · apply sees_transaction hosts
    intro q _ _ id db' h
    obtain ⟨ledger, effect⟩ := createRequestBody_ok h
    exact .request ledger effect (createRequestBody_decisions h)
  · exact fun id q => sees_detail hosts

theorem sees_addRequestVersion (hosts : Hosts rt models admits D) {actor requestId : String} {input : RequestInput} :
    Sees D (fun _ _ => True) (addRequestVersion rt env none actor requestId input) p := by
  apply sees_bind
  apply sees_raiseIf
  intro _
  apply sees_after
  · apply sees_transaction hosts
    intro q _ _ u db' h
    obtain ⟨ledger, effect⟩ := addRequestVersionBody_ok h
    exact .request ledger effect (addRequestVersionBody_decisions h)
  · exact fun u q => sees_detail hosts

theorem sees_submitRequest (hosts : Hosts rt models admits D) {actor requestId : String} :
    Sees D (fun _ _ => True) (submitRequest env none actor requestId) p := by
  apply sees_after
  · apply sees_transaction hosts
    intro q _ _ u db' h
    obtain ⟨ledger, effect⟩ := submitRequestBody_ok h
    exact .request ledger effect (submitRequestBody_decisions h)
  · exact fun u q => sees_detail hosts

/-! ### Decisions -/

theorem sees_saveDecision (hosts : Hosts rt models admits D) {label : Option Mark} {input : DecisionInput}
    (drawn : input.decision = "approved" → Drafted models p.state label input) :
    Sees D (fun _ _ => True) (saveDecision rt env label input) p := by
  apply sees_after
  · apply sees_transaction hosts
    intro q rely _ u db' h
    refine .decision label env input h fun chosen => ?_
    obtain ⟨n, action, v, hlabel, json, plain, ⟨row, of⟩, rest⟩ := drawn chosen
    exact ⟨n, action, v, hlabel, json, plain, ⟨(hosts.quiet.later _ _ rely).keeps.versions row, of⟩, rest⟩
  · exact fun u q => sees_detail hosts

theorem sees_decide (hosts : Hosts rt models admits D) {o : Occasion} {actor requestId reason : String} {decision : Verdict} :
    Sees D (fun _ _ => True) (decide rt models o actor requestId decision reason) p := by
  apply sees_bind
  apply sees_requestDetail hosts
  intro q₁ detail later₁ id versions
  cases decision with
  | rejected =>
    apply sees_saveDecision hosts
    intro chosen
    have other : ("rejected" : String) ≠ "approved" := by decide
    exact absurd chosen other
  | approved =>
    apply sees_bind
    apply sees_found
    intro current there
    obtain ⟨row, of⟩ := versions current (List.mem_of_find?_eq_some there)
    have number : current.version = detail.request.currentVersion := by simpa using List.find?_some there
    apply sees_bind
    apply sees_availableOf hosts.quiet
    intro q₂ q₃ rely₂ rely₃ available
    have later := (hosts.quiet.later _ _ rely₂).trans (hosts.quiet.later _ _ rely₃)
    apply sees_bind
    apply sees_ofExcept
    intro digest _
    apply sees_saveDecision hosts
    intro _
    exact ⟨detail.request.currentVersion, _, current, rfl, rfl, ⟨rfl, rfl⟩, ⟨later.keeps.versions row, of, number⟩,
      detail.request, o.decisionId, _, rfl, rfl, rfl, rfl⟩

/-! ### Executions -/

theorem sees_recordVerification (hosts : Hosts rt models admits D) {values : VerificationInput} :
    Sees D (fun _ _ => True) (recordVerification env values) p := by
  apply sees_after
  · apply sees_transaction hosts
    intro q _ _ u db' h
    rw [exec_execute] at h
    exact .verified _ h
  · exact fun _ _ => sees_pure _

theorem sees_recordOutcome (hosts : Hosts rt models admits D) {executionId digest reason : String} {status : FinancialOutcome} {expected : Dict}
    {observed : Option Int} {entry : Option String} :
    Sees D (fun _ _ => True)
      (recordOutcome env executionId digest status reason expected observed entry) p := by
  apply sees_after
  · exact (sees_recordVerification hosts).caught
  · intro recorded q
    cases recorded with
    | ok _ => exact sees_pure _
    | error _ => exact sees_pure _

theorem sees_verify (hosts : Hosts rt models admits D) {executionId digest : String} {expected : Dict} :
    Sees D (fun _ _ => True) (verify env executionId digest expected) p := by
  apply sees_after (sees_look hosts _)
  intro receipt q
  cases receipt with
  | none => exact sees_recordOutcome hosts
  | some receipt =>
    dsimp only
    split
    · apply sees_after
      · have read : Sees D (fun _ _ => True) (availableMinorAt ‹String› receipt.createdAt) q := by
          apply sees_availableOf hosts.quiet
          exact fun _ _ _ _ _ => trivial
        exact read.caught
      · intro observed q
        split
        · unfold judge
          dsimp only
          split
          · exact sees_recordOutcome hosts
          · split
            · exact sees_recordOutcome hosts
            · exact sees_recordOutcome hosts
        · exact sees_recordOutcome hosts
    · exact sees_recordOutcome hosts

theorem sees_replay (hosts : Hosts rt models admits D) {key : String} {mutation : MutationType} {fields : Dict} :
    Sees D (fun _ _ => True) (replay env key mutation fields) p := by
  apply sees_after (sees_look hosts _)
  intro receipt q
  cases receipt with
  | none => exact sees_pure _
  | some receipt =>
    apply sees_bind
    apply sees_raiseIf
    intro _
    split
    · apply sees_bind
      apply sees_raiseIf
      intro _
      exact sees_after (sees_verify hosts) fun _ _ => sees_pure _
    · trivial

theorem sees_applyMutation (hosts : Hosts rt models admits D) {action : Core.ActionRequest} {digest executionId : String}
    {seen : Option (String × Int)} (instructs : Instructs rt models p.state action digest seen) :
    Sees D (fun _ _ => True) (applyMutation rt env (some (.applies action.parameters digest executionId seen))
      action.parameters digest executionId) p := by
  apply sees_bind
  apply sees_ofExcept
  intro key hkey
  apply sees_bind
  apply sees_ofExcept
  intro encoded hencoded
  apply sees_transaction hosts
  intro q rely _ r db' h
  exact .applied env action digest executionId key encoded (instructs.later (hosts.quiet.later _ _ rely)) hkey hencoded h

theorem sees_executeAction (hosts : Hosts rt models admits D) {o : Occasion} {action : Core.ActionRequest}
    {seen : Option (String × Int)}
    (instructs : ∀ digest, digestOf rt action = .ok digest → Instructs rt models p.state action digest seen) :
    Sees D (fun _ _ => True) (executeAction rt o action seen) p := by
  apply sees_bind
  apply sees_ofExcept
  intro digest bound
  split
  · apply sees_after
    · apply sees_after
      · exact (sees_applyMutation hosts (instructs digest bound)).caught
      · intro applied q
        cases applied with
        | ok _ => exact sees_pure _
        | error e => exact sees_after (sees_look hosts _) fun _ _ => sees_pure _
    · intro report q
      apply sees_after (sees_look hosts _)
      intro receipt q
      split
      · cases receipt with
        | none => exact sees_pure _
        | some receipt => exact sees_verify hosts
      · exact sees_pure _
  · exact sees_pure _

/-! ### Calls -/

theorem plain_commitment {request : PurchaseRequest} {requestId actor : String} {current : RequestVersion}
    {decisionId : Uuid} {available : Int} :
    Plain (commitmentParameters request requestId current actor decisionId available) := by
  refine ⟨?_, ?_⟩
  · have keys : (commitmentParameters request requestId current actor decisionId available).map Prod.fst =
        ["mutation_type", "organization_id", "budget_id", "request_id", "request_version", "currency", "amount_minor",
          "actor", "domain_approval_id", "idempotency_key", "balance_evidence_minor",
          "expected_available_minor"].map PyKey.str := rfl
    rw [keys]
    exact List.Nodup.map (fun _ _ same => PyKey.str.inj same) (by decide)
  · simp [commitmentParameters]

/-- What `approved_action` returns is what an approved decision holds. -/
theorem sees_approvedAction (hosts : Hosts rt models admits D) {actor requestId : String} {Q : String → Point Db Mark → Prop}
    (h : ∀ q d json, Governed models admits q → d ∈ q.state.domainDecisions.rows → d.decision = .approved →
      d.actionJson = some json → json ≠ "" → Q json q) :
    Sees D Q (approvedAction rt actor requestId) p := by
  apply sees_bind
  apply sees_request hosts.quiet
  intro q₁ request _ _ _ _
  apply sees_bind
  apply sees_requireRole hosts.quiet
  intro q₂ _ _
  apply sees_bind
  apply sees_select hosts.quiet
  intro q₃ _ inv
  cases found : q₃.state.approval? requestId request.currentVersion with
  | none => trivial
  | some d =>
    have row := (List.perm_insertionSort _ _).mem_iff.mp (List.mem_of_head? found)
    obtain ⟨row, which⟩ := List.mem_filter.mp row
    have approved : d.decision = .approved := (of_decide_eq_true which).2.2
    dsimp only
    cases held : d.actionJson with
    | none => trivial
    | some json =>
      apply sees_bind
      apply sees_raiseIf
      intro nonempty
      apply sees_bind
      apply sees_raiseIf
      intro _
      exact h q₃ d json (hosts.governed q₃ inv) row approved held nonempty

theorem sees_commit (hosts : Hosts rt models admits D) {o : Occasion} {actor requestId : String} :
    Sees D (fun _ _ => True) (commit rt models o actor requestId) p := by
  apply sees_bind
  apply sees_approvedAction hosts
  intro q d json governed row approved held nonempty
  apply sees_bind
  apply sees_orRaise
  intro action valid
  obtain ⟨n, action', v, drawn, -⟩ := governed.approved d row approved
  obtain ⟨request, actor', decisionId, available, id, evidence, -, parameters⟩ := drawn.parameters
  have read : models.modelValidateJson (models.modelDumpJson action') = some action' :=
    models.reads action' (parameters ▸ plain_commitment)
  obtain rfl : json = models.modelDumpJson action' := Option.some.inj (held.symm.trans drawn.json)
  obtain rfl : action = action' := Option.some.inj (valid.symm.trans read)
  apply sees_executeAction hosts
  intro digest bound
  refine ⟨parameters ▸ plain_commitment, bound, ?_, by simp, fun _ => ⟨d, row, approved, held, nonempty⟩⟩
  rw [parameters]
  exact foretells_commitment row id evidence

/-- Plain parameters stay plain with the balance they are to leave. -/
theorem plain_predicted {parameters : Dict} {after : Int} (plain : Plain parameters)
    (new : PyKey.str "expected_available_minor" ∉ parameters.map Prod.fst) : Plain (predicted parameters after) := by
  refine ⟨?_, ?_⟩
  · rw [predicted, List.map_append]
    exact plain.1.append (List.nodup_singleton _) (by simpa using new)
  · intro e mem
    rcases List.mem_append.mp mem with mem | mem
    · exact plain.2 e mem
    · rw [List.mem_singleton.mp mem]
      exact ⟨⟨_, rfl⟩, .inr ⟨_, rfl⟩⟩

theorem sees_performMutation (hosts : Hosts rt models admits D) {o : Occasion} {parameters : Dict}
    {decisionId component reason : String} {m : MutationType} (plain : Plain parameters)
    (type : parameters.get "mutation_type" = .str m.value) (direct : m ≠ .bootstrap ∧ m ≠ .commitment)
    (new : PyKey.str "expected_available_minor" ∉ parameters.map Prod.fst) :
    Sees D (fun _ _ => True) (performMutation rt o parameters decisionId component reason) p := by
  apply sees_bind
  have kind : mutation parameters = .ok m := mutation_of_type type
  have other : mutation parameters ≠ .ok .bootstrap ∧ mutation parameters ≠ .ok .commitment := by
    rw [kind]
    simpa using direct
  refine (sees_validateMutation hosts.quiet (fun _ _ d mem => by cases mem)).mono ?_ fun _ _ _ => trivial
  rintro ev q ⟨terms, names⟩
  have predicts : Predicts parameters (predicted parameters ev.availableAfter) ev.availableAfter := predicts_predicted new
  apply sees_executeAction hosts
  intro digest bound
  refine ⟨plain_predicted plain new, bound, foretells terms names predicts other, fun s mem => ?_, fun commits => ?_⟩
  · obtain ⟨b, hb, rfl⟩ := Option.map_eq_some_iff.mp mem
    obtain ⟨b', hb', named⟩ := names.2 fun initial => other.1 (initial ▸ names.1)
    show mutation (predicted parameters ev.availableAfter) ≠ _ ∧ text (predicted parameters ev.availableAfter) "budget_id" = .ok b
    rw [predicts.mutation, predicts.text (by decide), named, Option.some.inj (hb.symm.trans hb')]
    exact ⟨other.1, rfl⟩
  · exact absurd (predicts.mutation ▸ commits) other.2

section
variable {m : MutationType} {request : PurchaseRequest} {requestId actor approvalId key organizationId budgetId : String}
  {current : RequestVersion} {amount : Int} {input : ChangeInput} {correctionOf : List (PyKey × PyVal)}

theorem closing_type : (closingParameters m request requestId current amount actor approvalId key).get "mutation_type" =
    .str m.value := rfl

theorem closing_new : PyKey.str "expected_available_minor" ∉
    (closingParameters m request requestId current amount actor approvalId key).map Prod.fst := by
  simp [closingParameters]

/-- Keys that are distinct, and values that are told. -/
theorem plain_of {parameters : Dict} (keys : List String) (named : parameters.map Prod.fst = keys.map PyKey.str)
    (distinct : keys.Nodup) (values : ∀ e ∈ parameters, (∃ s, e.2 = .str s) ∨ ∃ i, e.2 = .int i) : Plain parameters := by
  refine ⟨?_, fun e mem => ⟨?_, values e mem⟩⟩
  · rw [named]
    exact List.Nodup.map (fun _ _ same => PyKey.str.inj same) distinct
  · have key : e.1 ∈ keys.map PyKey.str := named ▸ List.mem_map_of_mem mem
    obtain ⟨name, -, same⟩ := List.mem_map.mp key
    exact ⟨name, same.symm⟩

theorem closing_plain : Plain (closingParameters m request requestId current amount actor approvalId key) := by
  apply plain_of ["mutation_type", "organization_id", "budget_id", "request_id", "request_version", "currency",
    "amount_minor", "actor", "domain_approval_id", "idempotency_key"] rfl (by decide)
  simp [closingParameters]

theorem change_plain (correction : correctionOf = [] ∨ ∃ id, correctionOf = [(.str "correction_of", .str id)]) :
    Plain (changeParameters m organizationId budgetId actor input correctionOf) := by
  rcases correction with rfl | ⟨id, rfl⟩
  · apply plain_of ["mutation_type", "organization_id", "budget_id", "currency", "amount_minor", "reason", "actor",
      "idempotency_key"] rfl (by decide)
    simp [changeParameters]
  · apply plain_of ["mutation_type", "organization_id", "budget_id", "currency", "amount_minor", "reason", "correction_of",
      "actor", "idempotency_key"] rfl (by decide)
    simp [changeParameters]

theorem plain_bootstrap {o : Occasion} {input : BootstrapInput} : Plain (bootstrapParameters o actor input) := by
  apply plain_of ["mutation_type", "organization_id", "organization_name", "budget_id", "budget_name", "owner_type",
    "owner_name", "period_start", "period_end", "currency", "allocation_minor", "owner_principal", "requester_principal",
    "actor", "idempotency_key", "expected_available_minor"] rfl (by decide)
  simp [bootstrapParameters]

theorem change_type : (changeParameters m organizationId budgetId actor input correctionOf).get "mutation_type" =
    .str m.value := rfl

theorem change_new (new : PyKey.str "expected_available_minor" ∉ correctionOf.map Prod.fst) :
    PyKey.str "expected_available_minor" ∉
      (changeParameters m organizationId budgetId actor input correctionOf).map Prod.fst := by
  simpa [changeParameters] using new

end

theorem sees_currentVersion {detail : RequestDetail} :
    Sees D (fun _ _ => True) (currentVersion detail) p :=
  sees_found fun _ _ => trivial

theorem sees_approvedDecisionId {detail : RequestDetail} :
    Sees D (fun _ _ => True) (approvedDecisionId detail) p := by
  apply sees_bind
  apply sees_found
  intro decision _
  exact sees_pure _

theorem sees_settle (hosts : Hosts rt models admits D) {o : Occasion} {actor requestId key : String} {amountMinor : Int} :
    Sees D (fun _ _ => True) (settle rt o actor requestId amountMinor key) p := by
  apply sees_after (sees_replay hosts)
  intro before q
  cases before with
  | some outcome => exact sees_pure _
  | none =>
    apply sees_after (sees_detail hosts)
    intro detail q
    apply sees_after sees_currentVersion
    intro current q
    apply sees_after sees_approvedDecisionId
    intro approvalId q
    apply sees_performMutation hosts closing_plain closing_type (by decide) closing_new

theorem sees_cancel (hosts : Hosts rt models admits D) {o : Occasion} {actor requestId key : String} :
    Sees D (fun _ _ => True) (cancel rt o actor requestId key) p := by
  apply sees_after (sees_replay hosts)
  intro before q
  cases before with
  | some outcome => exact sees_pure _
  | none =>
    apply sees_after (sees_detail hosts)
    intro detail q
    apply sees_after sees_currentVersion
    intro current q
    apply sees_after sees_approvedDecisionId
    intro approvalId q
    apply sees_performMutation hosts closing_plain closing_type (by decide) closing_new

theorem sees_changeBalance (hosts : Hosts rt models admits D) {o : Occasion} {m : MutationType}
    {actor budgetId decisionId reason : String} {input : ChangeInput} {correctionOf : List (PyKey × PyVal)}
    (direct : m ≠ .bootstrap ∧ m ≠ .commitment)
    (correction : correctionOf = [] ∨ ∃ id, correctionOf = [(.str "correction_of", .str id)]) :
    Sees D (fun _ _ => True)
      (changeBalance rt o m actor budgetId input correctionOf decisionId reason) p := by
  apply sees_after (sees_replay hosts)
  intro before q
  cases before with
  | some outcome => exact sees_pure _
  | none =>
    apply sees_after (sees_look hosts _)
    intro organization q
    apply sees_bind
    apply sees_found
    intro organization _
    have new : PyKey.str "expected_available_minor" ∉ correctionOf.map Prod.fst := by
      rcases correction with rfl | ⟨id, rfl⟩ <;> simp
    exact sees_performMutation hosts (change_plain correction) change_type direct (change_new new)

theorem sees_bootstrap (hosts : Hosts rt models admits D) {o : Occasion} {actor : String} {input : BootstrapInput} :
    Sees D (fun _ _ => True) (bootstrap rt o actor input) p := by
  apply sees_after (sees_replay hosts)
  intro before q
  cases before with
  | some outcome => exact sees_pure _
  | none =>
    apply sees_executeAction hosts
    intro digest bound
    refine ⟨plain_bootstrap, bound, foretells_bootstrap, by simp, fun commits => ?_⟩
    have kind : mutation (bootstrapParameters o actor input) = .ok .bootstrap := mutation_of_type rfl
    rw [show mutation (bootstrapParameters o actor input) = .ok .commitment from commits] at kind
    cases kind

theorem sees_call (hosts : Hosts rt models admits D) (o : Occasion) (call : ServiceCall) :
    Sees D (fun _ _ => True) (call.script rt models o) p := by
  have discard : ∀ {α : Type} {x : Sql Mark α}, Sees D (fun _ _ => True) x p →
      Sees D (fun _ _ => True) (do let _ ← x : Sql Mark Unit) p :=
    fun h => sees_after h fun _ _ => sees_pure _
  cases call with
  | bootstrap actor input => exact discard (sees_bootstrap hosts)
  | createRequest actor budgetId input => exact discard (sees_createRequest hosts)
  | addRequestVersion actor requestId input => exact discard (sees_addRequestVersion hosts)
  | submitRequest actor requestId => exact discard (sees_submitRequest hosts)
  | decide actor requestId decision reason => exact discard (sees_decide hosts)
  | commit actor requestId => exact discard (sees_commit hosts)
  | settle actor requestId amountMinor key => exact discard (sees_settle hosts)
  | cancel actor requestId key => exact discard (sees_cancel hosts)
  | adjust actor budgetId input => exact discard (sees_changeBalance hosts (by decide) (.inl rfl))
  | correct actor budgetId correctionOf input => exact discard (sees_changeBalance hosts (by decide) (.inr ⟨correctionOf, rfl⟩))

/-! ### Runs -/

/-- Nothing is there yet, and no call is in progress. -/
def opening : Pool Db Mark (Except Err Unit) := ⟨[], ⟨.empty, []⟩⟩

/-- The runs in which any calls interleave, and every transaction that a run shows is admitted. -/
abbrev Interleaves (rt : Runtime) (models : Models) (admits : Mark → Point Db Mark → Prop) :=
  Pool.Reach (fun x _ => ∃ o call, x = ServiceCall.script rt models o call) admits opening

/-- **What every step keeps holds throughout a run.** -/
theorem Interleaves.keeps (kept : Point Db Mark → Prop) {c : Pool Db Mark (Except Err Unit)}
    (run : Interleaves rt models admits c) (initial : kept opening.point)
    (keeps : ∀ p label db, Governed models admits p → kept p → Does rt models p label db →
      kept ⟨db, label.toList ++ p.trace⟩) : Governed models admits c.point ∧ kept c.point := by
  have governed : Governed models admits opening.point :=
    ⟨sound_empty, consistent_empty, fun d mem => absurd mem List.not_mem_nil,
      fun before e after split => absurd split.symm (by simp [opening, Db.empty])⟩
  obtain ⟨held, -, -⟩ := Pool.reach_sound (D := (interleaved models admits).also kept) (fun _ _ _ => Later.trans)
    (fun a => Later.refl a.state) (fun _ _ later => later)
    (fun x q called _ => by
      obtain ⟨o, call, rfl⟩ := called
      exact Program.Safe.mono (sees_call (hosts_also keeps) o call) fun _ _ _ => trivial)
    run ⟨governed, initial⟩ (by simp [Pool.AllSafe, opening])
  exact held

theorem Interleaves.governed {c : Pool Db Mark (Except Err Unit)} (run : Interleaves rt models admits c) :
    Governed models admits c.point :=
  (run.keeps (fun _ => True) trivial fun _ _ _ _ _ _ => trivial).1

end

end RmtPlatform.Budget
