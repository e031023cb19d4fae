import RmtPlatform.Budget.Effects

/-! What `apply_mutation` posts.

A mutation that commits either finds its receipt already there and changes
nothing, or adds one ledger entry and one receipt (`Posted`) for one of five
reasons (`Cause`). The balance it observes after the entry is the one validation
predicted, so its last check never fails (`applyMutationBody_fails`). -/
namespace RmtPlatform.Budget

/-- Every commitment stands on the budget of its request. -/
def Coherent (db : Db) : Prop :=
  ∀ c ∈ db.ledgerEntries.rows, c.entryType = .commitment →
    ∃ q ∈ db.purchaseRequests.rows, c.requestId = some q.id.text ∧ c.budgetId = q.budgetId

/-- Why an entry was posted, and the requests after it. -/
inductive Cause (db : Db) (requests : List PurchaseRequest) (e : LedgerEntry) : Prop where
  | bootstrap (type : e.entryType = .allocation) (uninitialized : db.organizations.rows = [])
      (positive : 0 < e.amountMinor) (same : requests = db.purchaseRequests.rows)
  | change (type : e.entryType.signed = true) (funds : 0 ≤ db.availableMinor e.budgetId + e.amountMinor)
      (same : requests = db.purchaseRequests.rows)
  | commitment (q : PurchaseRequest) (v : RequestVersion) (d : DomainDecision) (now : String)
      (type : e.entryType = .commitment)
      (row : q ∈ db.purchaseRequests.rows) (status : q.status = .approved)
      (request : e.requestId = some q.id.text) (number : e.requestVersion = .integer q.currentVersion)
      (budget : e.budgetId = q.budgetId)
      (version : v ∈ db.purchaseRequestVersions.rows) (of : v.requestId = q.id.text)
      (current : v.version = q.currentVersion) (amount : e.amountMinor = v.amountMinor)
      (decision : d ∈ db.domainDecisions.rows) (approved : d.decision = .approved)
      (ofRequest : d.requestId = q.id.text) (ofVersion : d.requestVersion = q.currentVersion)
      (decider : d.decidedBy = e.actor) (digest : d.instructionDigest = some e.instructionDigest)
      (evidence : d.balanceEvidenceMinor = some (db.availableMinor e.budgetId))
      (funds : e.amountMinor ≤ db.availableMinor e.budgetId)
      (moved : requests = withStatus db.purchaseRequests.rows q.id.text .committed none now)
  | settlement (q : PurchaseRequest) (c : LedgerEntry) (now : String) (type : e.entryType = .settlement)
      (row : q ∈ db.purchaseRequests.rows) (status : q.status = .committed) (budget : e.budgetId = q.budgetId)
      (closed : db.openCommitment? q.id.text q.currentVersion = some c)
      (related : e.relatedEntryId = some c.id) (covered : e.amountMinor ≤ c.amountMinor)
      (moved : requests = withStatus db.purchaseRequests.rows q.id.text .settled none now)
  | cancellation (q : PurchaseRequest) (c : LedgerEntry) (now : String) (type : e.entryType = .cancellation)
      (row : q ∈ db.purchaseRequests.rows) (status : q.status = .committed) (budget : e.budgetId = q.budgetId)
      (closed : db.openCommitment? q.id.text q.currentVersion = some c)
      (related : e.relatedEntryId = some c.id) (whole : e.amountMinor = c.amountMinor)
      (moved : requests = withStatus db.purchaseRequests.rows q.id.text .cancelled none now)

/-- One entry and its receipt. -/
structure Posted (rt : Runtime) (db db' : Db) (e : LedgerEntry) (r : MutationReceipt) : Prop where
  entries : db'.ledgerEntries.rows = db.ledgerEntries.rows ++ [e]
  receipts : db'.idempotencyReceipts.rows = db.idempotencyReceipts.rows ++ [r]
  entryId : r.ledgerEntryId = e.id
  digest : r.instructionDigest = e.instructionDigest
  observed : r.availableMinor = db'.availableMinor e.budgetId
  created : r.createdAt = e.createdAt
  content : r.contentDigest = rt.sha256 r.parametersJson
  versions : db'.purchaseRequestVersions = db.purchaseRequestVersions
  decisions : db'.domainDecisions = db.domainDecisions
  roles : db.roleAssignments.rows <+: db'.roleAssignments.rows
  storable : Storable e.amountMinor ∧ Storable r.availableMinor
  summable : Summable db'.ledgerEntries.rows e.budgetId
  cause : Cause db db'.purchaseRequests.rows e

theorem openCommitment?_some {db : Db} {r : String} {n : Int} {c : LedgerEntry}
    (h : db.openCommitment? r n = some c) :
    c ∈ db.ledgerEntries.rows ∧ c.requestId = some r ∧ c.requestVersion = .integer n ∧
      c.entryType = .commitment ∧ Db.isOpen db.ledgerEntries.rows c = true := by
  refine ⟨List.mem_of_find?_eq_some h, ?_⟩
  simpa using List.find?_some h

/-! ### The entry's own balance -/

section
variable {db : Db} {e : LedgerEntry}

/-- Nothing refers to an entry that is not there yet. -/
theorem isOpen_fresh (fresh : e.id ∉ db.ledgerEntries.rows.map (·.id)) :
    Db.isOpen db.ledgerEntries.rows e = true := by
  simp only [Db.isOpen, Bool.not_eq_true', List.any_eq_false, decide_eq_true_eq, not_and]
  intro t ht hrelated
  exact absurd (db.entry_related t ht _ hrelated) fresh

/-- Before the first organization there is no entry. -/
theorem entries_nil (uninitialized : db.organizations.rows = []) : db.ledgerEntries.rows = [] := by
  rw [List.eq_nil_iff_forall_not_mem]
  intro e he
  obtain ⟨b, hb, -⟩ := List.mem_map.mp (db.entry_budget e he)
  simpa [uninitialized] using db.budget_organization b hb

/-- A commitment a request's settlement or cancellation closes is on the request's budget. -/
theorem budget_of_open {q : PurchaseRequest} {n : Int} {c : LedgerEntry} (coherent : Coherent db)
    (row : q ∈ db.purchaseRequests.rows) (h : db.openCommitment? q.id.text n = some c) :
    c.budgetId = q.budgetId := by
  obtain ⟨hc, request, -, type, -⟩ := openCommitment?_some h
  obtain ⟨q', hq', request', budget⟩ := coherent c hc type
  obtain rfl : q' = q := db.purchaseRequests.row_unique hq' row (by simpa [request] using request'.symm)
  exact budget

end

/-! ### Before the entry -/

section
variable {L : Type} {rt : Runtime} {env : Env} {parameters : Dict} {db db' : Db}

/-- What preparing an entry leaves alone. -/
structure Prepared (db db' : Db) : Prop where
  entries : db'.ledgerEntries = db.ledgerEntries
  requests : db'.purchaseRequests = db.purchaseRequests
  versions : db'.purchaseRequestVersions = db.purchaseRequestVersions
  decisions : db'.domainDecisions = db.domainDecisions
  receipts : db'.idempotencyReceipts = db.idempotencyReceipts
  roles : db.roleAssignments.rows <+: db'.roleAssignments.rows

theorem Prepared.refl (db : Db) : Prepared db db := ⟨rfl, rfl, rfl, rfl, rfl, List.prefix_rfl⟩

theorem Prepared.trans {a b c : Db} (h : Prepared a b) (h' : Prepared b c) : Prepared a c :=
  ⟨h'.entries.trans h.entries, h'.requests.trans h.requests, h'.versions.trans h.versions,
    h'.decisions.trans h.decisions, h'.receipts.trans h.receipts, h.roles.trans h'.roles⟩

theorem Prepared.organization {o : Organization} (h : db.insertOrganization o = .ok db') : Prepared db db' := by
  obtain ⟨_, rfl⟩ := Db.guarded_ok.mp h
  exact ⟨rfl, rfl, rfl, rfl, rfl, List.prefix_rfl⟩

theorem Prepared.budget {b : BudgetRow} (h : db.insertBudget b = .ok db') : Prepared db db' := by
  obtain ⟨_, rfl⟩ := Db.guarded_ok.mp h
  exact ⟨rfl, rfl, rfl, rfl, rfl, List.prefix_rfl⟩

theorem Prepared.role {a : RoleAssignment} (h : db.insertRoleAssignment a = .ok db') : Prepared db db' := by
  obtain ⟨_, rfl⟩ := Db.guarded_ok.mp h
  exact ⟨rfl, rfl, rfl, rfl, rfl, List.prefix_append _ _⟩

theorem bootstrapTarget_ends {cur : String} :
    Script.Ends (fun _ => Prepared db) Fails (bootstrapTarget env parameters cur : Sql L Target) db := by
  simp only [bootstrapTarget, Script.ends_bind, ends_text, ends_execute, Script.ends_pure]
  intro _ _ _ _ _ _ _ _ db₁ h₁ _ _ _ _ _ _ _ _ _ _ db₂ h₂ _ _ _ _ db₃ h₃ db₄ h₄ db₅ h₅
  exact (Prepared.organization h₁).trans <| (Prepared.budget h₂).trans <| (Prepared.role h₃).trans <|
    (Prepared.role h₄).trans (Prepared.role h₅)

theorem relatedEntry_ends {Q : String → Db → Prop}
    (h : ∀ n c, rt.int (parameters.get "request_version") = some n →
      db.openCommitment? (rt.str (parameters.get "request_id")) n = some c → Q c.id db) :
    Script.Ends Q Fails (relatedEntry rt parameters : Sql L String) db := by
  simpa [relatedEntry, openCommitment, Script.ends_bind] using fun n hn c hc => h n c hn hc

/-- The commitment the mutation closes, as the entry will refer to it. -/
def Links (rt : Runtime) (db : Db) (parameters : Dict) (m : MutationType) (related : Option String) : Prop :=
  m = .settlement ∨ m = .cancellation → ∃ n c, rt.int (parameters.get "request_version") = some n ∧
    db.openCommitment? (rt.str (parameters.get "request_id")) n = some c ∧ related = some c.id

theorem entryLinks_ends {m : MutationType} :
    Script.Ends (fun links s => s = db ∧ Links rt db parameters m links.2) Fails
      (entryLinks rt parameters m : Sql L _) db := by
  cases m with
  | bootstrap => simp [entryLinks, Links]
  | adjustment => simp [entryLinks, Links]
  | commitment => simp [entryLinks, Links]
  | correction => simp [entryLinks, Links, Script.ends_bind]
  | settlement =>
    exact Script.ends_bind.mpr (relatedEntry_ends fun n c hn hc => ⟨rfl, fun _ => ⟨n, c, hn, hc, rfl⟩⟩)
  | cancellation =>
    exact Script.ends_bind.mpr (relatedEntry_ends fun n c hn hc => ⟨rfl, fun _ => ⟨n, c, hn, hc, rfl⟩⟩)

/-- What the entry will say of its budget, its actor and the commitment it closes. -/
theorem ledgerTarget_ends {ev : Evidence} :
    Script.Ends (fun t s => Prepared db s ∧ (ev.mutationType ≠ .bootstrap → ev.budgetId = some t.budgetId ∧
        text parameters "actor" = .ok t.actor ∧ Links rt db parameters ev.mutationType t.relatedEntryId)) Fails
      (ledgerTarget rt env parameters ev : Sql L Target) db := by
  unfold ledgerTarget
  split
  · next hm => exact bootstrapTarget_ends.mono (fun _ _ h => ⟨h, fun hne => absurd hm hne⟩) fun _ h => h
  · simp only [budgetTarget, budget, Script.ends_bind, ends_orRaise, ends_select, ends_found, ends_text,
      Script.ends_pure]
    refine ⟨fun b hb => ⟨fun row _ actor hactor => ?_, fun _ => by simp⟩, fun _ => by simp⟩
    refine entryLinks_ends.mono (fun links s h => ?_) fun _ h => h
    obtain ⟨rfl, links⟩ := h
    exact ⟨.refl _, fun _ => ⟨hb, hactor, links⟩⟩

/-! ### The entry -/

theorem amount_fails {ev : Evidence} {e : Err} (h : ev.amount = .error e) : Fails e := by
  unfold Evidence.amount at h
  split at h <;> cases h
  simp

theorem amount_ok {ev : Evidence} {amount : Int} (h : ev.amount = .ok amount) : ev.amountMinor = .int amount := by
  unfold Evidence.amount at h
  split at h
  · cases h
    assumption
  · cases h

theorem requestColumns_fails {e : Err} (h : requestColumns rt parameters = .error e) : Fails e := by
  unfold requestColumns at h
  split at h <;> cases h
  simp

theorem receiptColumns_fails {e : Err} (h : receiptColumns rt parameters = .error e) : Fails e := by
  unfold receiptColumns at h
  simp only at h
  split at h
  · split at h <;> cases h
    simp
  · cases h

/-- The columns of a mutation of a request are the request's own. -/
theorem requestColumns_ok {columns : Option String × Cell} {q : PurchaseRequest} {n : Int}
    (h : requestColumns rt parameters = .ok columns) (id : text parameters "request_id" = .ok q.id.text)
    (number : parameters.get "request_version" = .int n)
    (known : ∀ r ∈ columns.1, r ∈ db.purchaseRequests.rows.map (·.id.text)) :
    columns = (some q.id.text, .integer n) ∧ rt.str (parameters.get "request_id") = q.id.text ∧
      rt.int (parameters.get "request_version") = some n := by
  obtain ⟨raw, hraw, hstrip⟩ := text_ok id
  simp only [requestColumns, hraw, number, Runtime.bindText, Runtime.bindInteger, Except.ok.injEq] at h
  subst h
  -- Only an identifier as stored passes the foreign key, and those have no space to strip.
  obtain ⟨q', -, rfl⟩ := List.mem_map.mp (known raw rfl)
  rw [Uuid.strip_text] at hstrip
  simp [hraw, number, hstrip, Runtime.str, Runtime.int]

/-- The tables the request's transition leaves alone. -/
structure Transitioned (db db' : Db) : Prop where
  entries : db'.ledgerEntries = db.ledgerEntries
  versions : db'.purchaseRequestVersions = db.purchaseRequestVersions
  decisions : db'.domainDecisions = db.domainDecisions
  receipts : db'.idempotencyReceipts = db.idempotencyReceipts
  roles : db'.roleAssignments = db.roleAssignments

theorem transition_ends {q : PurchaseRequest} {now : String} {expected target : RequestStatus}
    (row : q ∈ db.purchaseRequests.rows) (status : q.status = expected) :
    Script.Ends (fun _ s => Transitioned db s ∧
        s.purchaseRequests.rows = withStatus db.purchaseRequests.rows q.id.text target none now) Fails
      (transition now q.id.text expected target : Sql L Unit) db := by
  simp only [transition, Script.ends_bind, Script.ends_step, Script.ends_raiseIf, Db.updatePurchaseRequest]
  refine ⟨fun n s h => ⟨fun _ => by simp, fun _ => ?_⟩, fun e h => ?_⟩
  · split at h
    · next heq =>
      obtain ⟨_, rfl⟩ := Db.guarded_ok.mp (Db.binding_ok.mp heq).2
      obtain ⟨-, rfl⟩ := Prod.mk.inj (Except.ok.inj h)
      refine ⟨⟨rfl, rfl, rfl, rfl, rfl⟩, List.map_congr_left fun r hr => ?_⟩
      have same : r.id.text = q.id.text → r.status = expected := fun h => by
        rw [db.purchaseRequests.row_unique hr row h, status]
      by_cases h : r.id.text = q.id.text <;> simp [h, same]
    · cases h
  · split at h <;> cases h
    simp

/-- The balance after the entry is the predicted one, and the transition gives the entry its cause. -/
def Accounted (L : Type) (rt : Runtime) (env : Env) (db : Db) (parameters : Dict) (ev : Evidence)
    (e : LedgerEntry) : Prop :=
  Db.available (db.ledgerEntries.rows ++ [e]) e.budgetId = ev.availableAfter ∧
    ∀ db₂ : Db, db₂.purchaseRequests = db.purchaseRequests →
      Script.Ends (fun _ s => Transitioned db₂ s ∧ Cause db s.purchaseRequests.rows e) Fails
        (transitionFor env ev.mutationType (rt.str (parameters.get "request_id")) : Sql L Unit) db₂

section
variable {ev : Evidence} {e : LedgerEntry} {digest : Option String} {q : PurchaseRequest} {v : RequestVersion}

/-- An entry that moves no request. -/
private theorem accounted_still {L : Type} (type : ev.mutationType ∈ [.bootstrap, .adjustment, .correction])
    (balance : Db.available (db.ledgerEntries.rows ++ [e]) e.budgetId = ev.availableAfter)
    (cause : Cause db db.purchaseRequests.rows e) :
    Accounted L rt env db parameters ev e := by
  refine ⟨balance, fun db₂ h => ?_⟩
  simp only [List.mem_cons, List.not_mem_nil, or_false] at type
  rcases type with hm | hm | hm <;> rw [hm]
  all_goals exact ⟨⟨rfl, rfl, rfl, rfl, rfl⟩, h ▸ cause⟩

/-- An entry that moves the request `q`. -/
private theorem accounted_moves {L : Type} {expected target : RequestStatus}
    (balance : Db.available (db.ledgerEntries.rows ++ [e]) e.budgetId = ev.availableAfter)
    (row : q ∈ db.purchaseRequests.rows) (status : q.status = expected)
    (call : (transitionFor env ev.mutationType (rt.str (parameters.get "request_id")) : Sql L Unit) =
      transition (env.now 1) q.id.text expected target)
    (cause : Cause db (withStatus db.purchaseRequests.rows q.id.text target none (env.now 1)) e) :
    Accounted L rt env db parameters ev e := by
  refine ⟨balance, fun db₂ h => ?_⟩
  rw [call]
  have row₂ : q ∈ db₂.purchaseRequests.rows := h ▸ row
  refine (transition_ends row₂ status).mono (fun _ s hs => ?_) fun _ h => h
  exact ⟨hs.1, by rw [hs.2, h]; exact cause⟩

/-- **The predicted balance is the balance after the entry**, whatever the mutation. -/
theorem accounted {t : Target} {amount : Int} {columns : Option String × Cell} {d executionId : String}
    (coherent : Coherent db) (valid : Validated db parameters (some d) ev)
    (he : e = newEntry env t ev amount columns d executionId)
    (target : ev.mutationType ≠ .bootstrap → ev.budgetId = some t.budgetId ∧
      text parameters "actor" = .ok t.actor ∧ Links rt db parameters ev.mutationType t.relatedEntryId)
    (hamount : ev.amountMinor = .int amount) (hcolumns : requestColumns rt parameters = .ok columns)
    (fresh : e.id ∉ db.ledgerEntries.rows.map (·.id))
    (known : ∀ r ∈ columns.1, r ∈ db.purchaseRequests.rows.map (·.id.text)) :
    Accounted L rt env db parameters ev e := by
  subst he
  cases valid with
  | bootstrap amount' type uninitialized hamount' positive after =>
    obtain rfl : amount' = amount := by simpa [hamount] using hamount'.symm
    refine accounted_still (by simp [type]) ?_
      (.bootstrap (by simp [newEntry, type, MutationType.entryType]) uninitialized positive rfl)
    rw [entries_nil uninitialized, available_change _ (.inl (by simp [newEntry, type, MutationType.entryType]))]
    simp [newEntry, after, Db.available, Db.balances, Db.openCommitments]
  | change budgetId amount' type budget hamount' after funds =>
    obtain rfl : amount' = amount := by simpa [hamount] using hamount'.symm
    have nb : ev.mutationType ≠ .bootstrap := by rcases type with h | h <;> simp [h]
    obtain rfl : t.budgetId = budgetId := by simpa [budget, eq_comm] using (target nb).1
    have signed : (newEntry env t ev amount' columns d executionId).entryType.signed = true := by
      rcases type with h | h <;> simp [newEntry, h, MutationType.entryType, EntryType.signed]
    refine accounted_still (by rcases type with h | h <;> simp [h]) ?_ (.change signed ?_ rfl)
    · rw [available_change _ (.inr signed), after]
      simp [newEntry, Db.availableMinor]
    · rw [after] at funds
      exact funds
  | request q v amount' actor row id number version of current hactor role budget hamount' positive checked =>
    obtain rfl : amount' = amount := by simpa [hamount] using hamount'.symm
    obtain ⟨rfl, hstr, hint⟩ := requestColumns_ok hcolumns id number known
    have nb : ev.mutationType ≠ .bootstrap := by
      intro h
      rw [h] at checked
      cases checked
    obtain ⟨hb, hactor', links⟩ := target nb
    obtain rfl : t.actor = actor := by simpa [hactor, eq_comm] using hactor'
    have hbudget : t.budgetId = q.budgetId := by simpa [budget, eq_comm] using hb
    generalize hm : ev.mutationType = m at checked
    generalize hafter : ev.availableAfter = after at checked
    cases checked with
    | commitment dd status amount decision approved ofRequest ofVersion decider instruction evidence funds =>
      have type : (newEntry env t ev amount' (some q.id.text, .integer q.currentVersion) d executionId).entryType =
          .commitment := by simp [newEntry, hm, MutationType.entryType]
      refine accounted_moves ?_ row status (by rw [hm, hstr]; rfl)
        (.commitment q v dd (env.now 1) type row status rfl rfl hbudget version of current amount decision approved
          ofRequest (by rw [ofVersion, current]) decider instruction ?_ ?_ rfl)
      · rw [available_commit _ type (isOpen_fresh fresh), hafter]
        simp [newEntry, Db.availableMinor, hbudget]
      · simpa [newEntry, hbudget] using evidence
      · simpa [newEntry, hbudget] using funds
    | settlement c status closed covered =>
      rw [current] at closed
      obtain ⟨n, c', hn, hc', related⟩ := links (.inl hm)
      obtain rfl : q.currentVersion = n := by simpa [hint] using hn
      obtain rfl : c = c' := by simpa [hstr, closed] using hc'
      have type : (newEntry env t ev amount' (some q.id.text, .integer q.currentVersion) d executionId).entryType =
          .settlement := by simp [newEntry, hm, MutationType.entryType]
      obtain ⟨hc, -, -, commitment, open_⟩ := openCommitment?_some closed
      refine accounted_moves ?_ row status (by rw [hm, hstr]; rfl)
        (.settlement q c (env.now 1) type row status hbudget closed related covered rfl)
      rw [available_close _ db.ledgerEntries.unique hc commitment open_
        ((budget_of_open coherent row closed).trans hbudget.symm) related (by rw [type]; rfl), hafter]
      simp only [LedgerEntry.direct, type, if_true]
      simp only [newEntry, Db.availableMinor, hbudget]
      omega
    | cancellation c status closed whole =>
      rw [current] at closed
      obtain ⟨n, c', hn, hc', related⟩ := links (.inr hm)
      obtain rfl : q.currentVersion = n := by simpa [hint] using hn
      obtain rfl : c = c' := by simpa [hstr, closed] using hc'
      have type : (newEntry env t ev amount' (some q.id.text, .integer q.currentVersion) d executionId).entryType =
          .cancellation := by simp [newEntry, hm, MutationType.entryType]
      obtain ⟨hc, -, -, commitment, open_⟩ := openCommitment?_some closed
      refine accounted_moves ?_ row status (by rw [hm, hstr]; rfl)
        (.cancellation q c (env.now 1) type row status hbudget closed related whole rfl)
      rw [available_close _ db.ledgerEntries.unique hc commitment open_
        ((budget_of_open coherent row closed).trans hbudget.symm) related (by rw [type]; rfl), hafter]
      simp only [LedgerEntry.direct, type, if_true]
      simp only [newEntry, Db.availableMinor, hbudget, whole]
      omega

end

/-- What the receipt of a new entry records. -/
structure Receipted (rt : Runtime) (digest executionId key encoded : String) (e : LedgerEntry)
    (r : MutationReceipt) : Prop where
  digest : r.instructionDigest = digest
  key : r.idempotencyKey = key
  content : r.contentDigest = rt.sha256 encoded
  parameters : r.parametersJson = encoded
  execution : r.executionId = executionId ∧ e.executionId = executionId

/-- **What recording a validated mutation does**: one entry and its receipt, and
never a balance other than the predicted one. -/
theorem recordMutation_ends {ev : Evidence} {digest executionId key encoded : String} (coherent : Coherent db)
    (valid : Validated db parameters (some digest) ev) :
    Script.Ends (fun r s => r.availableMinor = ev.availableAfter ∧ ∃ e, Posted rt db s e r ∧
        Receipted rt digest executionId key encoded e r ∧
        (ev.mutationType ≠ .bootstrap → ev.budgetId = some e.budgetId) ∧ e.createdAt = env.now 0 ∧
        e.entryType = ev.mutationType.entryType ∧ ev.amountMinor = .int e.amountMinor ∧
        r.mutationType = ev.mutationType ∧ requestColumns rt parameters = .ok (e.requestId, e.requestVersion)) Fails
      (recordMutation rt env parameters digest executionId key encoded ev : Sql L MutationReceipt) db := by
  refine ledgerTarget_ends.bind fun t db₁ ⟨prepared, target⟩ => ?_
  simp only [Script.ends_bind, ends_check fun _ => amount_fails, ends_check fun _ => requestColumns_fails,
    ends_execute]
  intro amount hamount columns hcolumns db₂ hinsert
  obtain ⟨fits, hinsert⟩ := Db.binding_ok.mp hinsert
  obtain ⟨guards, rfl⟩ := Db.guarded_ok.mp hinsert
  obtain ⟨balance, moves⟩ : Accounted L rt env db parameters ev _ :=
    accounted coherent valid rfl target (amount_ok hamount) hcolumns
    (by simpa [prepared.entries] using guards.1)
    (by simpa [prepared.requests, newEntry] using guards.2.2.2.1)
  refine (moves _ (by exact prepared.requests)).mono (fun _ db₃ hs => ?_) fun _ h => h
  obtain ⟨transitioned, cause⟩ := hs
  have entries : db₃.ledgerEntries.rows =
      db.ledgerEntries.rows ++ [newEntry env t ev amount columns digest executionId] := by
    rw [transitioned.entries, ← prepared.entries]
    rfl
  have observed : db₃.availableMinor t.budgetId = ev.availableAfter := by
    rw [Db.availableMinor, entries, ← balance]
    rfl
  refine ends_availableMinor.mpr fun summable => Script.ends_raiseIf.mpr ⟨fun h => absurd observed h, fun _ => ?_⟩
  refine (ends_check fun _ => receiptColumns_fails).mpr fun c _ db₄ hreceipt => ?_
  obtain ⟨fits', hreceipt⟩ := Db.binding_ok.mp hreceipt
  obtain ⟨_, rfl⟩ := Db.guarded_ok.mp hreceipt
  refine ⟨observed, _, ⟨entries, ?_, rfl, rfl, rfl, rfl, rfl, ?_, ?_, ?_,
    ⟨fits _ List.mem_cons_self, fits' _ List.mem_cons_self⟩, summable, cause⟩, ⟨rfl, rfl, rfl, rfl, rfl, rfl⟩,
    fun other => (target other).1, rfl, rfl, amount_ok hamount, rfl, hcolumns⟩
  · rw [Table.insert_rows, transitioned.receipts, ← prepared.receipts]
  · exact transitioned.versions.trans prepared.versions
  · exact transitioned.decisions.trans prepared.decisions
  · exact transitioned.roles ▸ prepared.roles

/-! ### The whole transaction -/

/-- What `apply_mutation` leaves: nothing new, with the receipt already there, or one posting. -/
inductive Applied (rt : Runtime) (digest executionId key encoded : String) (db db' : Db) (r : MutationReceipt) :
    Prop where
  | replay (same : db' = db) (row : r ∈ db.idempotencyReceipts.rows) (digest : r.instructionDigest = digest)
      (key : r.idempotencyKey = key) (content : r.contentDigest = rt.sha256 encoded)
  | posted (e : LedgerEntry) (posted : Posted rt db db' e r)
      (receipted : Receipted rt digest executionId key encoded e r)
      (newDigest : ∀ x ∈ db.idempotencyReceipts.rows, x.instructionDigest ≠ digest)
      (newKey : ∀ x ∈ db.idempotencyReceipts.rows, x.idempotencyKey ≠ key)

/-- **What a mutation does, and how it never fails.** -/
theorem applyMutationBody_ends {digest executionId key encoded : String} (coherent : Coherent db) :
    Script.Ends (fun r s => Applied rt digest executionId key encoded db s r) Fails
      (applyMutationBody rt env parameters digest executionId key encoded) db := by
  refine Script.ends_bind.mpr (ends_select.mpr ?_)
  cases hfind : db.idempotencyReceipts.find? digest with
  | some existing =>
    simp only [Script.ends_bind, Script.ends_raiseIf, Script.ends_pure, not_or, not_not]
    refine ⟨fun _ => by simp, fun h => ?_⟩
    obtain ⟨row, hdigest⟩ := db.idempotencyReceipts.find?_eq_some.mp hfind
    exact .replay rfl row hdigest h.2 h.1
  | none =>
    simp only [Script.ends_bind, ends_select, Script.ends_raiseIf]
    refine ⟨fun _ => by simp, fun hkey => ?_⟩
    have newKey : ∀ x ∈ db.idempotencyReceipts.rows, x.idempotencyKey ≠ key := by
      simpa [Db.receiptByKey?] using hkey
    have newDigest := db.idempotencyReceipts.find?_eq_none.mp hfind
    have valid : Script.Ends (fun ev s => s = db ∧ Validated db parameters (some digest) ev) Fails
        (validateMutation rt env parameters (some digest) : Sql Empty Evidence) db :=
      .of_exec (fun ev s h => validateMutation_ok (fun d hd _ => by cases hd; exact hfind) h)
        fun e s h => validateMutation_fails.error h
    refine valid.mono (fun ev s h => ?_) fun _ h => h
    obtain ⟨rfl, valid⟩ := h
    refine (recordMutation_ends coherent valid).mono (fun r s h => ?_) fun _ h => h
    obtain ⟨-, e, posted, receipted, -⟩ := h
    exact .posted e posted receipted newDigest newKey

/-- A mutation that commits is there already, or is validated and posted as validation expects. -/
theorem applyMutationBody_posts {digest executionId key encoded : String} {r : MutationReceipt} (coherent : Coherent db)
    (h : (applyMutationBody rt env parameters digest executionId key encoded).exec db = (.ok r, db')) :
    db' = db ∨ ∃ ev e, db.idempotencyReceipts.find? digest = none ∧
      (validateMutation rt env parameters (some digest) : Sql Empty Evidence).exec db = (.ok ev, db) ∧
      r.availableMinor = ev.availableAfter ∧ Posted rt db db' e r ∧ Receipted rt digest executionId key encoded e r ∧
      (ev.mutationType ≠ .bootstrap → ev.budgetId = some e.budgetId) ∧ e.createdAt = env.now 0 ∧
      e.entryType = ev.mutationType.entryType ∧ ev.amountMinor = .int e.amountMinor ∧
      r.mutationType = ev.mutationType ∧ requestColumns rt parameters = .ok (e.requestId, e.requestVersion) := by
  simp only [applyMutationBody, Script.exec_bind_ok, exec_select, Prod.mk.injEq, Except.ok.injEq] at h
  obtain ⟨_, _, ⟨rfl, rfl⟩, h⟩ := h
  cases hfind : db.idempotencyReceipts.find? digest with
  | some existing =>
    rw [hfind] at h
    simp only [Script.exec_bind_ok, Script.exec_raiseIf_ok, Script.exec_pure, Prod.mk.injEq] at h
    obtain ⟨_, _, ⟨-, rfl⟩, -, rfl⟩ := h
    exact .inl rfl
  | none =>
    rw [hfind] at h
    simp only [Script.exec_bind_ok, exec_select, Script.exec_raiseIf_ok, Prod.mk.injEq] at h
    obtain ⟨_, _, ⟨-, rfl⟩, _, _, ⟨-, rfl⟩, ev, s, hvalid, hrecord⟩ := h
    obtain ⟨rfl, valid⟩ := validateMutation_ok (fun d hd _ => by cases hd; exact hfind) hvalid
    obtain ⟨after, e, posted, receipted, budget, rest⟩ := (recordMutation_ends coherent valid).ok hrecord
    exact .inr ⟨ev, e, rfl, hvalid, after, posted, receipted, budget, rest⟩

end

end RmtPlatform.Budget
