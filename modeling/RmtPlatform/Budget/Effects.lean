import RmtPlatform.Budget.Balance

/-! What each operation of the repository can do to the tables.

One lemma per function says what it returns and what it leaves; the invariants of
`Budget.Ledger` and `Budget.Requests` are then proved from `RequestEffect` and
`Posted` alone, never from the code. Validation reads only, so its lemmas say what
a successful validation has checked (`Validated`). -/
namespace RmtPlatform.Budget

/-! ### Statements -/

section
variable {L α : Type} {Q : α → Db → Prop} {X : Err → Prop} {db db' : Db}

@[simp] theorem exec_select (f : Db → α) : (select f : Sql L α).exec db = (.ok (f db), db) := rfl

@[simp] theorem exec_execute {f : Db → Except SqliteError Db} {u : Unit} :
    (execute f : Sql L Unit).exec db = (.ok u, db') ↔ f db = .ok db' := by
  unfold execute
  rw [Script.exec_step_ok]
  cases f db <;> simp

@[simp] theorem exec_orRaise {e : Err} {o : Option α} {a : α} :
    (orRaise e o : Sql L α).exec db = (.ok a, db') ↔ o = some a ∧ db' = db := by
  cases o <;> simp [orRaise, eq_comm]

@[simp] theorem exec_found {code message : String} {o : Option α} {a : α} :
    (found code message o : Sql L α).exec db = (.ok a, db') ↔ o = some a ∧ db' = db := exec_orRaise

@[simp] theorem exec_requireRole {rt : Runtime} {p : String} {role : BudgetRole} {b : Option String} {u : Unit} :
    (requireRole rt p role b : Sql L Unit).exec db = (.ok u, db') ↔ db.hasRole p role b = true ∧ db' = db := by
  simp only [requireRole, Script.exec_bind_ok, exec_select, Script.exec_raiseIf_ok]
  simpa using fun _ => eq_comm

@[simp] theorem exec_selectSums {f : Db → α} {terms : Db → List (List Int)} {a : α} :
    (selectSums f terms : Sql L α).exec db = (.ok a, db') ↔ (∀ column ∈ terms db, Adds column) ∧ a = f db ∧ db' = db := by
  simp only [selectSums, Script.exec_bind_ok, exec_select, Script.exec_raiseIf_ok, Script.exec_pure, not_not]
  constructor
  · rintro ⟨_, _, ⟨⟩, _, _, ⟨fits, rfl⟩, ⟨⟩⟩
    exact ⟨fits, rfl, rfl⟩
  · rintro ⟨fits, rfl, rfl⟩
    exact ⟨_, _, rfl, (), _, ⟨fits, rfl⟩, rfl⟩

/-- The sums a balance is made of can be added up, in the order of the rows' times. -/
structure Summable (rows : List LedgerEntry) (b : String) : Prop where
  balances : ∀ column ∈ Db.balanceTerms rows b, Adds column
  commitments : Adds (Db.openTerms rows b)

@[simp] theorem exec_availableOf {f : Db → List LedgerEntry} {b : String} {available : Int} :
    (availableOf f b : Sql L Int).exec db = (.ok available, db') ↔
      Summable (f db) b ∧ available = Db.available (f db) b ∧ db' = db := by
  simp only [availableOf, Script.exec_bind_ok, exec_selectSums, Script.exec_pure]
  constructor
  · rintro ⟨_, _, ⟨fits, rfl, rfl⟩, _, _, ⟨fits', rfl, rfl⟩, ⟨⟩⟩
    exact ⟨⟨fits, fits' _ List.mem_cons_self⟩, rfl, rfl⟩
  · rintro ⟨fits, rfl, rfl⟩
    exact ⟨_, _, ⟨fits.balances, rfl, rfl⟩, _, _, ⟨by simpa using fits.commitments, rfl, rfl⟩, rfl⟩

@[simp] theorem exec_availableMinor {b : String} {available : Int} :
    (availableMinor b : Sql L Int).exec db = (.ok available, db') ↔
      Summable db.ledgerEntries.rows b ∧ available = db.availableMinor b ∧ db' = db := exec_availableOf

@[simp] theorem exec_budget {b : String} {row : BudgetRow} :
    (budget b : Sql L BudgetRow).exec db = (.ok row, db') ↔ db.budgets.find? b = some row ∧ db' = db := by
  simp only [budget, Script.exec_bind_ok, exec_select, exec_found]
  simpa using fun _ => eq_comm

@[simp] theorem exec_request {r : String} {row : PurchaseRequest} :
    (request r : Sql L PurchaseRequest).exec db = (.ok row, db') ↔
      db.purchaseRequests.find? r = some row ∧ db' = db := by
  simp only [request, Script.exec_bind_ok, exec_select, exec_found]
  simpa using fun _ => eq_comm

@[simp] theorem exec_version {r : String} {n : Int} {row : RequestVersion} :
    (version r n : Sql L RequestVersion).exec db = (.ok row, db') ↔
      db.purchaseRequestVersions.find? (r, n) = some row ∧ db' = db := by
  simp only [version, Script.exec_bind_ok, exec_select, exec_found]
  simpa using fun _ => eq_comm

@[simp] theorem exec_openCommitment {r : String} {n : Int} {row : LedgerEntry} :
    (openCommitment r n : Sql L LedgerEntry).exec db = (.ok row, db') ↔
      db.openCommitment? r n = some row ∧ db' = db := by
  simp only [openCommitment, Script.exec_bind_ok, exec_select, exec_found]
  simpa using fun _ => eq_comm

@[simp] theorem exec_requireOpenPeriod {env : Env} {b : BudgetRow} {u : Unit} :
    (requireOpenPeriod env b : Sql L Unit).exec db = (.ok u, db') ↔
      (b.status = .open ∧ b.periodStart ≤ env.today ∧ env.today ≤ b.periodEnd) ∧ db' = db := by
  simp only [requireOpenPeriod, Script.exec_raiseIf_ok, not_or, not_not]

/-- What was approved is the text that the decision holds. -/
theorem approvedAction_exec {rt : Runtime} {requestId json : String} {q : PurchaseRequest} {d : DomainDecision}
    (request : db.purchaseRequests.find? requestId = some q)
    (role : db.hasRole d.decidedBy .budgetOwner (some q.budgetId) = true)
    (current : db.approval? requestId q.currentVersion = some d) (held : d.actionJson = some json) (text : json ≠ "") :
    (approvedAction rt d.decidedBy requestId : Sql L String).exec db = (.ok json, db) := by
  unfold approvedAction Budget.request requireRole
  simp [Script.exec_bind, request, found, orRaise, role, current, held, text, Script.exec_raiseIf]

end

/-! ### Parameters -/

theorem text_ok {parameters : Dict} {key t : String} (h : text parameters key = .ok t) :
    ∃ raw, parameters.get key = .str raw ∧ strip raw = t := by
  unfold text at h
  split at h
  · split at h
    · cases h
    · exact ⟨_, ‹_›, Except.ok.inj h⟩
  · cases h

theorem integer_ok {parameters : Dict} {key : String} {i : Int} (h : integer parameters key = .ok i) :
    parameters.get key = .int i := by
  unfold integer at h
  split at h
  · cases h; assumption
  · cases h

theorem positiveInt_ok {parameters : Dict} {key : String} {i : Int} (h : positiveInt parameters key = .ok i) :
    parameters.get key = .int i ∧ 0 < i := by
  unfold positiveInt at h
  cases hi : integer parameters key with
  | error e => simp [hi, bind, Except.bind] at h
  | ok j =>
    simp only [hi, bind, Except.bind] at h
    split at h
    · cases h
    · cases h
      exact ⟨integer_ok hi, by omega⟩

/-! ### Validation -/

/-- What the checks on a request's commitment, settlement or cancellation establish. -/
inductive OnRequest (db : Db) (digest : Option String) (actor : String) (q : PurchaseRequest)
    (v : RequestVersion) (amount : Int) : MutationType → Int → Prop where
  | commitment (d : DomainDecision) (status : q.status = .approved) (version : amount = v.amountMinor)
      (row : d ∈ db.domainDecisions.rows) (approved : d.decision = .approved)
      (request : d.requestId = q.id.text) (requestVersion : d.requestVersion = v.version)
      (decider : d.decidedBy = actor) (instruction : d.instructionDigest = digest)
      (evidence : d.balanceEvidenceMinor = some (db.availableMinor q.budgetId))
      (funds : amount ≤ db.availableMinor q.budgetId) :
      OnRequest db digest actor q v amount .commitment (db.availableMinor q.budgetId - amount)
  | settlement (c : LedgerEntry) (status : q.status = .committed)
      (row : db.openCommitment? q.id.text v.version = some c) (within_ : amount ≤ c.amountMinor) :
      OnRequest db digest actor q v amount .settlement (db.availableMinor q.budgetId + c.amountMinor - amount)
  | cancellation (c : LedgerEntry) (status : q.status = .committed)
      (row : db.openCommitment? q.id.text v.version = some c) (whole : amount = c.amountMinor) :
      OnRequest db digest actor q v amount .cancellation (db.availableMinor q.budgetId + amount)

/-- What a successful validation of an instruction without a receipt has checked. -/
inductive Validated (db : Db) (parameters : Dict) (digest : Option String) (ev : Evidence) : Prop where
  | bootstrap (amount : Int) (type : ev.mutationType = .bootstrap)
      (uninitialized : db.organizations.rows = []) (hamount : ev.amountMinor = .int amount)
      (positive : 0 < amount) (after : ev.availableAfter = amount)
  | change (budgetId : String) (amount : Int)
      (type : ev.mutationType = .adjustment ∨ ev.mutationType = .correction)
      (budget : ev.budgetId = some budgetId) (hamount : ev.amountMinor = .int amount)
      (after : ev.availableAfter = db.availableMinor budgetId + amount) (funds : 0 ≤ ev.availableAfter)
  | request (q : PurchaseRequest) (v : RequestVersion) (amount : Int) (actor : String)
      (row : q ∈ db.purchaseRequests.rows) (id : text parameters "request_id" = .ok q.id.text)
      (number : parameters.get "request_version" = .int q.currentVersion)
      (version : v ∈ db.purchaseRequestVersions.rows) (of : v.requestId = q.id.text)
      (current : v.version = q.currentVersion) (hactor : text parameters "actor" = .ok actor)
      (role : db.hasRole actor .budgetOwner (some q.budgetId) = true)
      (budget : ev.budgetId = some q.budgetId) (hamount : ev.amountMinor = .int amount)
      (positive : 0 < amount)
      (checked : OnRequest db digest actor q v amount ev.mutationType ev.availableAfter)

section
variable {L : Type} {rt : Runtime} {env : Env} {parameters : Dict} {db db' : Db} {digest : Option String}

theorem validateBootstrap_ok {actor currency : String} {ev : Evidence}
    (h : (validateBootstrap env parameters actor currency : Sql L Evidence).exec db = (.ok ev, db')) :
    db' = db ∧ Validated db parameters digest ev := by
  simp [validateBootstrap, Script.exec_bind_ok] at h
  obtain ⟨empty, -, amount, hamount, -, -, -, -, -, -, ⟨-, rfl⟩, rfl⟩ := h
  exact ⟨rfl, .bootstrap amount rfl empty rfl (positiveInt_ok hamount).2 rfl⟩

theorem validateChange_ok {m : MutationType} {b : String} {before amount after : Int}
    (h : (validateChange parameters m b before : Sql L (Int × Int)).exec db = (.ok (amount, after), db')) :
    db' = db ∧ after = before + amount ∧ 0 ≤ after := by
  by_cases hm : m = .correction
  · simp [validateChange, Script.exec_bind_ok, hm] at h
    obtain ⟨-, -, -, -, -, -, -, -, ⟨funds, rfl⟩, rfl⟩ := h
    exact ⟨rfl, rfl, funds⟩
  · simp [validateChange, Script.exec_bind_ok, hm] at h
    obtain ⟨-, -, ⟨funds, rfl⟩, rfl⟩ := h
    exact ⟨rfl, rfl, funds⟩

theorem validateCommitment_ok {actor : String} {q : PurchaseRequest} {v : RequestVersion} {amount after : Int}
    (h : (validateCommitment parameters actor digest q v amount (db.availableMinor q.budgetId) :
      Sql L Int).exec db = (.ok after, db')) :
    db' = db ∧ OnRequest db digest actor q v amount .commitment after := by
  simp [validateCommitment, Script.exec_bind_ok] at h
  obtain ⟨status, version, _, _, d, hd, ⟨approved, request, number, decider, -, digest⟩, evidence,
    ⟨funds, rfl⟩, rfl⟩ := h
  exact ⟨rfl, .commitment d status version (db'.domainDecisions.mem_of_find? hd) approved request number
    decider digest evidence funds⟩

theorem validateSettlement_ok {actor : String} {q : PurchaseRequest} {v : RequestVersion} {amount after : Int}
    (h : (validateSettlement q v amount (db.availableMinor q.budgetId) : Sql L Int).exec db = (.ok after, db')) :
    db' = db ∧ OnRequest db digest actor q v amount .settlement after := by
  simp [validateSettlement, Script.exec_bind_ok] at h
  obtain ⟨status, c, row, ⟨covered, rfl⟩, rfl⟩ := h
  exact ⟨rfl, .settlement c status row covered⟩

theorem validateCancellation_ok {actor : String} {q : PurchaseRequest} {v : RequestVersion} {amount after : Int}
    (h : (validateCancellation q v amount (db.availableMinor q.budgetId) : Sql L Int).exec db = (.ok after, db')) :
    db' = db ∧ OnRequest db digest actor q v amount .cancellation after := by
  simp [validateCancellation, Script.exec_bind_ok] at h
  obtain ⟨status, c, row, ⟨whole, rfl⟩, rfl⟩ := h
  exact ⟨rfl, .cancellation c status row whole⟩

theorem validateTransition_ok {m : MutationType} {actor : String} {q : PurchaseRequest} {v : RequestVersion}
    {amount after : Int}
    (h : (validateTransition parameters m actor digest q v amount (db.availableMinor q.budgetId) :
      Sql L Int).exec db = (.ok after, db')) :
    db' = db ∧ OnRequest db digest actor q v amount m after := by
  cases m with
  | commitment => exact validateCommitment_ok h
  | settlement => exact validateSettlement_ok h
  | cancellation => exact validateCancellation_ok h
  | bootstrap => simp [validateTransition] at h
  | adjustment => simp [validateTransition] at h
  | correction => simp [validateTransition] at h

theorem validateOnRequest_ok {m : MutationType} {actor b : String} {amount after : Int}
    (h : (validateOnRequest parameters m actor digest b (db.availableMinor b) : Sql L (Int × Int)).exec db =
      (.ok (amount, after), db')) :
    db' = db ∧ ∃ q v, q ∈ db.purchaseRequests.rows ∧ text parameters "request_id" = .ok q.id.text ∧
      parameters.get "request_version" = .int q.currentVersion ∧ v ∈ db.purchaseRequestVersions.rows ∧
      v.requestId = q.id.text ∧ v.version = q.currentVersion ∧ q.budgetId = b ∧ 0 < amount ∧
      OnRequest db digest actor q v amount m after := by
  simp [validateOnRequest, Script.exec_bind_ok] at h
  obtain ⟨id, hid, q, hq, rfl, hn, v, hv, ha, htransition⟩ := h
  obtain ⟨row, rfl⟩ := db.purchaseRequests.find?_eq_some.mp hq
  obtain ⟨hv, hkey⟩ := db.purchaseRequestVersions.find?_eq_some.mp hv
  obtain ⟨rfl, checked⟩ := validateTransition_ok htransition
  exact ⟨rfl, q, v, row, hid, (positiveInt_ok hn).1, hv, (Prod.mk.inj hkey).1, (Prod.mk.inj hkey).2, rfl,
    (positiveInt_ok ha).2, checked⟩

theorem validateOnBudget_ok {m : MutationType} {actor cur : String} {ev : Evidence}
    (hactor : text parameters "actor" = .ok actor)
    (h : (validateOnBudget rt env parameters m actor cur digest : Sql L Evidence).exec db = (.ok ev, db')) :
    db' = db ∧ Validated db parameters digest ev := by
  simp [validateOnBudget, Script.exec_bind_ok] at h
  obtain ⟨b, -, row, -, -, -, role, -, amount, after, heffect, rfl⟩ := h
  unfold validateEffect at heffect
  split at heffect
  · next hm =>
    obtain ⟨rfl, rfl, funds⟩ := validateChange_ok heffect
    exact ⟨rfl, .change b amount hm rfl rfl rfl funds⟩
  · obtain ⟨rfl, q, v, hq, hid, hn, hv, of, current, rfl, positive, checked⟩ := validateOnRequest_ok heffect
    exact ⟨rfl, .request q v amount actor hq hid hn hv of current hactor role rfl rfl positive checked⟩

/-- **What a successful validation has checked**, for an instruction without a receipt. -/
theorem validateMutation_ok {ev : Evidence}
    (new : ∀ d ∈ digest, d ≠ "" → db.idempotencyReceipts.find? d = none)
    (h : (validateMutation rt env parameters digest : Sql L Evidence).exec db = (.ok ev, db')) :
    db' = db ∧ Validated db parameters digest ev := by
  have unknown : (existingReceipt digest : Sql L (Option MutationReceipt)).exec db = (.ok none, db) := by
    cases digest with
    | none => rfl
    | some d =>
      by_cases hd : d = ""
      · simp [existingReceipt, hd]
      · simp [existingReceipt, hd, new d rfl hd]
  simp only [validateMutation, Script.exec_bind_ok, Script.exec_ofExcept, Prod.mk.injEq] at h
  obtain ⟨m, _, ⟨-, rfl⟩, actor, _, ⟨hactor, rfl⟩, cur, _, ⟨-, rfl⟩, receipt, _, hreceipt, h⟩ := h
  rw [unknown] at hreceipt
  cases hreceipt
  simp only at h
  split at h
  · exact validateBootstrap_ok h
  · exact validateOnBudget_ok hactor h

end

/-! ### Requests -/

/-- The rows after `UPDATE purchase_requests .. WHERE id = ?`. -/
def withStatus (rows : List PurchaseRequest) (id : String) (status : RequestStatus) (version : Option Int)
    (now : String) : List PurchaseRequest :=
  rows.map fun r => if r.id.text = id then
    { r with status, currentVersion := version.getD r.currentVersion, updatedAt := now } else r

/-- What an operation on requests does. -/
inductive RequestEffect (db db' : Db) : Prop where
  | create (r : PurchaseRequest) (v : RequestVersion)
      (status : r.status = .draft) (first : r.currentVersion = 1) (of : v.requestId = r.id.text)
      (number : v.version = 1)
      (requests : db'.purchaseRequests.rows = db.purchaseRequests.rows ++ [r])
      (versions : db'.purchaseRequestVersions.rows = db.purchaseRequestVersions.rows ++ [v])
      (decisions : db'.domainDecisions = db.domainDecisions)
  | revise (r : PurchaseRequest) (v : RequestVersion) (now : String) (row : r ∈ db.purchaseRequests.rows)
      (status : r.status ∉ [.committed, .settled, .cancelled]) (of : v.requestId = r.id.text)
      (number : v.version = r.currentVersion + 1)
      (requests : db'.purchaseRequests.rows =
        withStatus db.purchaseRequests.rows r.id.text .draft (some (r.currentVersion + 1)) now)
      (versions : db'.purchaseRequestVersions.rows = db.purchaseRequestVersions.rows ++ [v])
      (decisions : db'.domainDecisions = db.domainDecisions)
  | submit (r : PurchaseRequest) (now : String) (row : r ∈ db.purchaseRequests.rows)
      (status : r.status = .draft)
      (requests : db'.purchaseRequests.rows =
        withStatus db.purchaseRequests.rows r.id.text .submitted none now)
      (versions : db'.purchaseRequestVersions = db.purchaseRequestVersions)
      (decisions : db'.domainDecisions = db.domainDecisions)
  | decide (r : PurchaseRequest) (d : DomainDecision) (now : String) (row : r ∈ db.purchaseRequests.rows)
      (status : r.status = .submitted) (of : d.requestId = r.id.text)
      (number : d.requestVersion = r.currentVersion) (independent : d.decidedBy ≠ r.requester)
      (role : db.hasRole d.decidedBy .budgetOwner (some r.budgetId) = true)
      (requests : db'.purchaseRequests.rows =
        withStatus db.purchaseRequests.rows r.id.text d.decision.status none now)
      (versions : db'.purchaseRequestVersions = db.purchaseRequestVersions)
      (decisions : db'.domainDecisions.rows = db.domainDecisions.rows ++ [d])

/-- The tables the operations on requests leave alone. -/
structure SameLedger (db db' : Db) : Prop where
  ledger : db'.ledgerEntries = db.ledgerEntries
  receipts : db'.idempotencyReceipts = db.idempotencyReceipts
  roles : db'.roleAssignments = db.roleAssignments

section
variable {rt : Runtime} {env : Env} {db db' : Db} {actor : String}

theorem createRequestBody_ok {b id : String} {input : RequestInput}
    (h : (createRequestBody rt env actor b input).exec db = (.ok id, db')) :
    SameLedger db db' ∧ RequestEffect db db' := by
  simp [createRequestBody, Script.exec_bind_ok, Db.insertPurchaseRequest, Db.insertRequestVersion] at h
  obtain ⟨-, row, -, -, -, ⟨-, -, -, rfl⟩, -⟩ := h
  exact ⟨⟨rfl, rfl, rfl⟩, .create _ _ rfl rfl rfl rfl rfl rfl rfl⟩

theorem addRequestVersionBody_ok {id : String} {input : RequestInput} {u : Unit}
    (h : (addRequestVersionBody rt env actor id input).exec db = (.ok u, db')) :
    SameLedger db db' ∧ RequestEffect db db' := by
  simp [addRequestVersionBody, Script.exec_bind_ok, Db.insertRequestVersion, Db.updatePurchaseRequest] at h
  obtain ⟨q, hq, -, status, -, -, -, -, -, -, -, rfl⟩ := h
  obtain ⟨row, rfl⟩ := db.purchaseRequests.find?_eq_some.mp hq
  refine ⟨⟨rfl, rfl, rfl⟩, .revise q _ (env.now 0) row (by simpa using status) rfl rfl ?_ rfl rfl⟩
  simp [withStatus]

theorem submitRequestBody_ok {id : String} {u : Unit}
    (h : (submitRequestBody env actor id).exec db = (.ok u, db')) :
    SameLedger db db' ∧ RequestEffect db db' := by
  simp [submitRequestBody, Script.exec_bind_ok, Db.updatePurchaseRequest] at h
  obtain ⟨q, hq, -, status, rfl⟩ := h
  obtain ⟨row, rfl⟩ := db.purchaseRequests.find?_eq_some.mp hq
  refine ⟨⟨rfl, rfl, rfl⟩, .submit q (env.now 0) row status ?_ rfl rfl⟩
  simp [withStatus]

theorem saveDecisionBody_ok {input : DecisionInput} {u : Unit}
    (h : (saveDecisionBody rt env input).exec db = (.ok u, db')) :
    SameLedger db db' ∧ RequestEffect db db' := by
  simp [saveDecisionBody, Script.exec_bind_ok, Db.insertDomainDecision, Db.updatePurchaseRequest] at h
  obtain ⟨q, hq, role, independent, status, verdict, -, -, -, rfl⟩ := h
  obtain ⟨row, hid⟩ := db.purchaseRequests.find?_eq_some.mp hq
  refine ⟨⟨rfl, rfl, rfl⟩, .decide q _ (env.now 1) row status hid.symm rfl (Ne.symm independent) role ?_ rfl rfl⟩
  simp [withStatus, hid]

end

/-! ### Mutations -/

/-- No check but the one on the balance reports `invariant_failure`. -/
def Fails (e : Err) : Prop := ∀ message, e ≠ .budget "invariant_failure" message

@[simp] theorem fails_budget {code message : String} :
    Fails (.budget code message) ↔ code ≠ "invariant_failure" := by
  simp only [Fails, ne_eq, Err.budget.injEq, not_and]
  exact ⟨fun h hc => h message hc rfl, fun h _ hc => absurd hc h⟩

@[simp] theorem fails_sqlite {e : SqliteError} : Fails (.sqlite e) := fun _ h => by cases h

@[simp] theorem fails_python {name : String} : Fails (.python name) := fun _ h => by cases h

theorem fails_text {parameters : Dict} {key : String} {e : Err} (h : text parameters key = .error e) :
    Fails e := by
  unfold text at h
  split at h
  · split at h <;> cases h
    simp
  · cases h
    simp

theorem fails_integer {parameters : Dict} {key : String} {e : Err} (h : integer parameters key = .error e) :
    Fails e := by
  unfold integer at h
  split at h <;> cases h
  simp

theorem fails_positiveInt {parameters : Dict} {key : String} {e : Err}
    (h : positiveInt parameters key = .error e) : Fails e := by
  unfold positiveInt at h
  cases hi : integer parameters key with
  | error e' =>
    simp only [hi, bind, Except.bind, Except.error.injEq] at h
    exact h ▸ fails_integer hi
  | ok i =>
    simp only [hi, bind, Except.bind] at h
    split at h <;> cases h
    simp

theorem fails_dumps {parameters : Dict} {e : Err} (h : dumps parameters = .error e) : Fails e := by
  unfold dumps at h
  split at h <;> cases h
  simp

theorem fails_mutation {parameters : Dict} {e : Err} (h : mutation parameters = .error e) : Fails e := by
  unfold mutation at h
  split at h <;> cases h
  simp

theorem fails_currency {rt : Runtime} {parameters : Dict} {e : Err} (h : currency rt parameters = .error e) :
    Fails e := by
  unfold currency at h
  split at h
  · split at h <;> cases h
    simp
  · cases h
    simp

theorem fails_ownerType {parameters : Dict} {e : Err} (h : requireOwnerType parameters = .error e) :
    Fails e := by
  unfold requireOwnerType at h
  split at h
  · split at h <;> cases h
    simp
  all_goals
    cases h
    simp

theorem fails_replayEvidence {rt : Runtime} {parameters : Dict} {existing : MutationReceipt} {e : Err}
    (h : replayEvidence rt parameters existing = .error e) : Fails e := by
  unfold replayEvidence at h
  cases hd : dumps parameters with
  | error e' =>
    simp only [hd, bind, Except.bind, Except.error.injEq] at h
    exact h ▸ fails_dumps hd
  | ok encoded =>
    simp only [hd, bind, Except.bind] at h
    split at h
    · cases h
      simp
    · split at h <;> cases h
      simp

section
variable {L α : Type} {Q : α → Db → Prop} {db : Db} {parameters : Dict}

theorem ends_check {x : Except Err α} (h : ∀ e, x = .error e → Fails e) :
    Script.Ends Q Fails (Script.ofExcept x : Sql L α) db ↔ ∀ a, x = .ok a → Q a db := by
  rw [Script.ends_ofExcept]
  exact and_iff_left h

@[simp] theorem ends_text {Q : String → Db → Prop} {key : String} :
    Script.Ends Q Fails (Script.ofExcept (text parameters key) : Sql L String) db ↔
      ∀ t, text parameters key = .ok t → Q t db := ends_check fun _ => fails_text

@[simp] theorem ends_integer {Q : Int → Db → Prop} {key : String} :
    Script.Ends Q Fails (Script.ofExcept (integer parameters key) : Sql L Int) db ↔
      ∀ i, integer parameters key = .ok i → Q i db := ends_check fun _ => fails_integer

@[simp] theorem ends_positiveInt {Q : Int → Db → Prop} {key : String} :
    Script.Ends Q Fails (Script.ofExcept (positiveInt parameters key) : Sql L Int) db ↔
      ∀ i, positiveInt parameters key = .ok i → Q i db := ends_check fun _ => fails_positiveInt

@[simp] theorem ends_select {X : Err → Prop} {f : Db → α} : Script.Ends Q X (select f : Sql L α) db ↔ Q (f db) db := Iff.rfl

@[simp] theorem ends_selectSums {f : Db → α} {terms : Db → List (List Int)} :
    Script.Ends Q Fails (selectSums f terms : Sql L α) db ↔ ((∀ column ∈ terms db, Adds column) → Q (f db) db) := by
  simp [selectSums, Script.ends_bind]

@[simp] theorem ends_availableMinor {Q : Int → Db → Prop} {b : String} :
    Script.Ends Q Fails (availableMinor b : Sql L Int) db ↔
      (Summable db.ledgerEntries.rows b → Q (db.availableMinor b) db) := by
  simp only [availableMinor, availableOf, Script.ends_bind, ends_selectSums, Script.ends_pure]
  constructor
  · intro h fits
    exact h fits.balances (by simpa using fits.commitments)
  · intro h fits fits'
    exact h ⟨fits, fits' _ List.mem_cons_self⟩

@[simp] theorem ends_orRaise {X : Err → Prop} {e : Err} {o : Option α} :
    Script.Ends Q X (orRaise e o : Sql L α) db ↔ (∀ a, o = some a → Q a db) ∧ (o = none → X e) := by
  cases o <;> simp [orRaise]

@[simp] theorem ends_found {code message : String} {o : Option α} :
    Script.Ends Q Fails (found code message o : Sql L α) db ↔
      (∀ a, o = some a → Q a db) ∧ (o = none → code ≠ "invariant_failure") := by
  simp [found]

@[simp] theorem ends_execute {Q : Unit → Db → Prop} {f : Db → Except SqliteError Db} :
    Script.Ends Q Fails (execute f : Sql L Unit) db ↔ ∀ db', f db = .ok db' → Q () db' := by
  unfold execute
  rw [Script.ends_step]
  cases f db with
  | error e => simp
  | ok db' => simpa [Prod.ext_iff] using ⟨fun h => h (), fun h _ => h⟩

theorem validateTransition_fails {m : MutationType} {actor : String} {digest : Option String}
    {q : PurchaseRequest} {v : RequestVersion} {amount before : Int} :
    Script.Ends (fun _ _ => True) Fails (validateTransition parameters m actor digest q v amount before :
      Sql L Int) db := by
  cases m <;> simp [validateTransition, validateCommitment, validateSettlement, validateCancellation,
    openCommitment, Script.ends_bind]

theorem validateEffect_fails {m : MutationType} {actor b : String} {digest : Option String} {before : Int} :
    Script.Ends (fun _ _ => True) Fails (validateEffect parameters m actor digest b before :
      Sql L (Int × Int)) db := by
  unfold validateEffect
  split
  · by_cases hm : m = .correction <;> simp [validateChange, Script.ends_bind, hm]
  · simp [validateOnRequest, request, version, Script.ends_bind, validateTransition_fails]

theorem validateOnBudget_fails {rt : Runtime} {env : Env} {m : MutationType} {actor cur : String}
    {digest : Option String} :
    Script.Ends (fun _ _ => True) Fails (validateOnBudget rt env parameters m actor cur digest :
      Sql L Evidence) db := by
  simp [validateOnBudget, budget, requireOpenPeriod, requireRole, Script.ends_bind, validateEffect_fails]

theorem validateBootstrap_fails {env : Env} {actor cur : String} :
    Script.Ends (fun _ _ => True) Fails (validateBootstrap env parameters actor cur : Sql L Evidence) db := by
  simp [validateBootstrap, Script.ends_bind, ends_check fun _ => fails_ownerType]

theorem existingReceipt_ends {Q : Option MutationReceipt → Db → Prop} {digest : Option String}
    (h : ∀ existing, Q existing db) : Script.Ends Q Fails (existingReceipt digest : Sql L _) db := by
  unfold existingReceipt
  split
  · exact h none
  · split
    · exact h none
    · exact h _

theorem validateMutation_fails {rt : Runtime} {env : Env} {digest : Option String} :
    Script.Ends (fun _ _ => True) Fails (validateMutation rt env parameters digest : Sql L Evidence) db := by
  simp only [validateMutation, Script.ends_bind, ends_check fun _ => fails_mutation, ends_text,
    ends_check fun _ => fails_currency]
  intro m _ actor _ cur _
  refine existingReceipt_ends fun existing => ?_
  cases existing with
  | some existing => simp [ends_check fun _ => fails_replayEvidence]
  | none =>
    simp only
    split
    · exact validateBootstrap_fails
    · exact validateOnBudget_fails

end

end RmtPlatform.Budget
