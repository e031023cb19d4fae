import RmtPlatform.Budget.Replies
import RmtPlatform.Data.Canonical

/-! Submitting a request again.

A mutation that has been applied is found by its key; its stored parameters are compared
with the request's, and its receipt is answered. A commitment is executed again: the
instruction is the one its decision holds, so the adapter finds its receipt. What a
receipt tells of its instruction, and what a commitment's request and decision are from
then on, no later step takes away (`Told`). So whatever was committed in between, the
receipt is answered again (`replays_idempotent`), unless the key has space around it: it
is stored without. -/
namespace RmtPlatform.Budget

/-! ### Reading parameters back -/

theorem memberJson_plain {v : PyVal} (plain : (∃ s, v = .str s) ∨ ∃ i, v = .int i) : v.toJson = some (memberJson v) := by
  rcases plain with ⟨s, rfl⟩ | ⟨i, rfl⟩
  · rfl
  · rfl

theorem toJsonEntries_plain {parameters : Dict} (plain : ∀ e ∈ parameters, (∃ s, e.2 = .str s) ∨ ∃ i, e.2 = .int i) :
    PyVal.toJsonEntries parameters = some (parameters.map fun e => (e.1, memberJson e.2)) := by
  induction parameters with
  | nil => rfl
  | cons e rest ih =>
    obtain ⟨k, v⟩ := e
    rw [PyVal.toJsonEntries, memberJson_plain (plain (k, v) List.mem_cons_self), ih fun e mem =>
      plain e (List.mem_cons_of_mem _ mem)]
    rfl

/-- **What a receipt keeps of plain parameters reads back**, in another order. -/
theorem loads_dumps {parameters : Dict} {t : String} (plain : Plain parameters) (written : dumps parameters = .ok t) :
    ∃ loaded, (Json.loads t.toList).map PyVal.ofJson = some (.dict loaded) ∧
      ∀ key, Dict.get loaded key = parameters.get key := by
  have comparable : PyKey.comparable (parameters.map Prod.fst) = true := by
    have strings : (parameters.map Prod.fst).all PyKey.isStr = true := by
      rw [List.all_eq_true]
      intro k told
      obtain ⟨e, mem, rfl⟩ := List.mem_map.mp told
      obtain ⟨key, same⟩ := (plain.2 e mem).1
      rw [same]
      rfl
    simp [PyKey.comparable, strings]
  let sorted := parameters.insertionSort fun a b => a.1.le b.1
  have order : sorted.Perm parameters := List.perm_insertionSort _ _
  have tree : (PyVal.dict parameters).toJson = some (.object (sorted.map fun e => (e.1.text, memberJson e.2))) := by
    rw [PyVal.toJson, if_pos comparable, toJsonEntries_plain fun e mem => (plain.2 e mem).2]
    have same : (parameters.map fun e => (e.1, memberJson e.2)).insertionSort (fun a b => a.1.le b.1) =
        sorted.map fun e => (e.1, memberJson e.2) :=
      (List.map_insertionSort _ _ (fun e : PyKey × PyVal => (e.1, memberJson e.2)) parameters fun a _ b _ => Iff.rfl).symm
    rw [Option.map_some, same, List.map_map]
    rfl
  have sortedPlain : Plain ([] ++ sorted) :=
    ⟨(order.map Prod.fst).nodup_iff.mpr plain.1, fun e mem => plain.2 e (order.mem_iff.mp mem)⟩
  unfold dumps PyVal.canonical at written
  rw [tree] at written
  obtain rfl := Except.ok.inj written
  refine ⟨sorted, ?_, fun key => ?_⟩
  · rw [String.toList_ofList, Json.loads_render, Option.map_some, PyVal.ofJson, ofJsonMembers_plain sortedPlain]
    rfl
  · have distinct : (sorted.map Prod.fst).Nodup := sortedPlain.1
    unfold Dict.get
    rw [Json.lookup_of_perm distinct order]

/-! ### What receipts tell -/

/-- What a receipt tells of the parameters it is for. -/
structure Tells (rt : Runtime) (r : MutationReceipt) (parameters : Dict) : Prop where
  plain : Plain parameters
  key : text parameters "idempotency_key" = .ok r.idempotencyKey
  content : dumps parameters = .ok r.parametersJson
  digested : r.contentDigest = rt.sha256 r.parametersJson
  type : mutation parameters = .ok r.mutationType
  actor : ∃ actor, text parameters "actor" = .ok actor
  currency : ∃ code, Budget.currency rt parameters = .ok code
  storable : Storable r.availableMinor

/-- A request that has been committed, and the decision that holds its instruction. -/
structure CommittedBy (models : Models) (db : Db) (action : Core.ActionRequest) (digest : String) (q : PurchaseRequest)
    (d : DomainDecision) : Prop where
  bound : digest ≠ ""
  request : q ∈ db.purchaseRequests.rows
  decision : d ∈ db.domainDecisions.rows
  done : q.status ∈ [.committed, .settled, .cancelled]
  approved : d.decision = .approved
  of : d.requestId = q.id.text ∧ d.requestVersion = q.currentVersion
  json : d.actionJson = some (models.modelDumpJson action) ∧ models.modelDumpJson action ≠ ""
  parameters : ∃ request current decider decisionId available,
    action.parameters = commitmentParameters request q.id.text current decider decisionId available
  actor : text action.parameters "actor" = .ok d.decidedBy
  role : db.hasRole d.decidedBy .budgetOwner (some q.budgetId) = true

def Told (rt : Runtime) (models : Models) (p : Point Db Mark) : Prop :=
  ∀ r ∈ p.state.idempotencyReceipts.rows, ∃ action, Tells rt r action.parameters ∧
    digestOf rt action = .ok r.instructionDigest ∧
    (r.mutationType = .commitment → ∃ q d, CommittedBy models p.state action r.instructionDigest q d)

section
variable {rt : Runtime} {models : Models} {admits : Mark → Point Db Mark → Prop} {env : Env} {p : Point Db Mark} {db db' : Db}
  {parameters : Dict} {digest : String}

/-- What validation has read of an instruction without a receipt. -/
theorem validateMutation_read {ev : Evidence}
    (h : (validateMutation rt env parameters (some digest) : Sql Empty Evidence).exec db = (.ok ev, db')) :
    (∃ actor, text parameters "actor" = .ok actor) ∧ ∃ code, currency rt parameters = .ok code := by
  simp only [validateMutation, Script.exec_bind_ok, Script.exec_ofExcept, Prod.mk.injEq] at h
  obtain ⟨-, _, -, actor, _, ⟨hactor, -⟩, code, _, ⟨hcode, -⟩, -⟩ := h
  exact ⟨⟨actor, hactor⟩, code, hcode⟩

/-- The request and the decision of a commitment that is validated. -/
theorem validateMutation_commits {ev : Evidence} (type : mutation parameters = .ok .commitment)
    (new : db.idempotencyReceipts.find? digest = none)
    (h : (validateMutation rt env parameters (some digest) : Sql Empty Evidence).exec db = (.ok ev, db')) :
    ∃ q ∈ db.purchaseRequests.rows, ∃ d ∈ db.domainDecisions.rows, text parameters "request_id" = .ok q.id.text ∧
      text parameters "domain_approval_id" = .ok d.id ∧ d.decision = .approved ∧ d.requestId = q.id.text ∧
      d.requestVersion = q.currentVersion ∧ text parameters "actor" = .ok d.decidedBy ∧ digest ≠ "" ∧
      db.hasRole d.decidedBy .budgetOwner (some q.budgetId) = true := by
  have unknown : (existingReceipt (some digest) : Sql Empty (Option MutationReceipt)).exec db = (.ok none, db) := by
    by_cases hd : digest = ""
    · simp [existingReceipt, hd]
    · simp [existingReceipt, hd, new]
  simp only [validateMutation, Script.exec_bind_ok, Script.exec_ofExcept, Prod.mk.injEq] at h
  obtain ⟨m, _, ⟨hm, rfl⟩, actor, _, ⟨hactor, rfl⟩, code, _, ⟨-, rfl⟩, receipt, _, hreceipt, h⟩ := h
  rw [unknown] at hreceipt
  cases hreceipt
  obtain rfl : m = .commitment := Except.ok.inj (hm.symm.trans type)
  simp [validateOnBudget, validateEffect, validateOnRequest, validateTransition, validateCommitment,
    Script.exec_bind_ok] at h
  obtain ⟨-, id, q, -, -, -, -, role, -, v, ⟨hid, hq, -, hv, -, -, decisionId, hdecision, d, hd,
    ⟨approved, of, number, rfl, given, -⟩, -⟩, -⟩ := h
  obtain ⟨mem, rfl⟩ := db.purchaseRequests.find?_eq_some.mp hq
  obtain ⟨mem', rfl⟩ := db.domainDecisions.find?_eq_some.mp hd
  obtain ⟨-, hkey⟩ := db.purchaseRequestVersions.find?_eq_some.mp hv
  exact ⟨q, mem, d, mem', hid, hdecision, approved, of, number.trans (Prod.mk.inj hkey).2, hactor, given, role⟩

/-- A request that has been committed keeps its version, whatever is done to it. -/
structure Stays (q q' : PurchaseRequest) : Prop where
  id : q'.id = q.id
  budget : q'.budgetId = q.budgetId
  version : q'.currentVersion = q.currentVersion
  done : q'.status ∈ [.committed, .settled, .cancelled]

theorem stays_withStatus {q : PurchaseRequest} {rows : List PurchaseRequest} {id now : String} {status : RequestStatus}
    {version : Option Int} (row : q ∈ rows) (done : q.status ∈ [.committed, .settled, .cancelled])
    (moved : q.id.text = id → version = none ∧ status ∈ [.committed, .settled, .cancelled]) :
    ∃ q' ∈ withStatus rows id status version now, Stays q q' := by
  refine ⟨_, List.mem_map_of_mem row, ?_⟩
  split
  · next same =>
    obtain ⟨rfl, settled⟩ := moved same
    exact ⟨rfl, rfl, rfl, settled⟩
  · exact ⟨rfl, rfl, rfl, done⟩

theorem RequestEffect.stays {q : PurchaseRequest} (effect : RequestEffect db db') (row : q ∈ db.purchaseRequests.rows)
    (done : q.status ∈ [.committed, .settled, .cancelled]) : ∃ q' ∈ db'.purchaseRequests.rows, Stays q q' := by
  have other : ∀ {r : PurchaseRequest}, r ∈ db.purchaseRequests.rows → r.status ∉ [.committed, .settled, .cancelled] →
      q.id.text ≠ r.id.text := by
    intro r mem undone same
    rw [db.purchaseRequests.row_unique row mem same] at done
    exact undone done
  cases effect with
  | create r v _ _ _ _ requests => exact ⟨q, requests ▸ List.mem_append_left _ row, rfl, rfl, rfl, done⟩
  | revise r v now mem status _ _ requests =>
    rw [requests]
    exact stays_withStatus row done fun same => absurd same (other mem status)
  | submit r now mem status requests =>
    rw [requests]
    exact stays_withStatus row done fun same => absurd same (other mem (by simp [status]))
  | decide r d now mem status _ _ _ _ requests =>
    rw [requests]
    exact stays_withStatus row done fun same => absurd same (other mem (by simp [status]))

theorem Cause.stays {q : PurchaseRequest} {e : LedgerEntry} {requests : List PurchaseRequest} (cause : Cause db requests e)
    (row : q ∈ db.purchaseRequests.rows) (done : q.status ∈ [.committed, .settled, .cancelled]) :
    ∃ q' ∈ requests, Stays q q' := by
  cases cause with
  | bootstrap _ _ _ same => exact ⟨q, same ▸ row, rfl, rfl, rfl, done⟩
  | change _ _ same => exact ⟨q, same ▸ row, rfl, rfl, rfl, done⟩
  | commitment _ _ _ _ _ _ _ _ _ _ _ _ _ _ _ _ _ _ _ _ _ _ moved =>
    rw [moved]
    exact stays_withStatus row done fun _ => ⟨rfl, by simp⟩
  | settlement _ _ _ _ _ _ _ _ _ _ moved =>
    rw [moved]
    exact stays_withStatus row done fun _ => ⟨rfl, by simp⟩
  | cancellation _ _ _ _ _ _ _ _ _ _ moved =>
    rw [moved]
    exact stays_withStatus row done fun _ => ⟨rfl, by simp⟩

/-- No step undoes a commitment. -/
theorem Does.stays {label : Option Mark} {q : PurchaseRequest} (does : Does rt models p label db)
    (governed : Governed models admits p) (row : q ∈ p.state.purchaseRequests.rows)
    (done : q.status ∈ [.committed, .settled, .cancelled]) : ∃ q' ∈ db.purchaseRequests.rows, Stays q q' := by
  cases does with
  | nothing => exact ⟨q, row, rfl, rfl, rfl, done⟩
  | request ledger effect decisions => exact effect.stays row done
  | decision label env input stored drawn => exact (saveDecisionBody_ok stored).2.stays row done
  | verified v stored =>
    obtain ⟨-, rfl⟩ := Db.guarded_ok.mp (Db.binding_ok.mp stored).2
    exact ⟨q, row, rfl, rfl, rfl, done⟩
  | applied env action digest executionId key encoded instructs hkey hencoded ran =>
    rcases applyMutationBody_posts governed.sound.coherent ran with rfl | ⟨ev, e, -, -, -, posted, -⟩
    · exact ⟨q, row, rfl, rfl, rfl, done⟩
    · exact posted.cause.stays row done

theorem CommittedBy.later {label : Option Mark} {action : Core.ActionRequest} {q : PurchaseRequest} {d : DomainDecision}
    (h : CommittedBy models p.state action digest q d) (does : Does rt models p label db)
    (governed : Governed models admits p) : ∃ q', CommittedBy models db action digest q' d := by
  obtain ⟨q', row, stays⟩ := does.stays governed h.request h.done
  have later := does.later governed
  refine ⟨q', h.bound, row, later.keeps.decisions h.decision, stays.done, h.approved, ?_, h.json, ?_, h.actor, ?_⟩
  · rw [stays.id, stays.version]
    exact h.of
  · rw [stays.id]
    exact h.parameters
  · rw [stays.budget]
    exact later.keeps.hasRole h.role

/-- **What a commitment leaves**: its request, and the decision that holds its instruction. -/
theorem Instructs.committed {action : Core.ActionRequest} {seen : Option (String × Int)} {ev : Evidence} {e : LedgerEntry}
    {r : MutationReceipt} (instructs : Instructs rt models p.state action digest seen) (governed : Governed models admits p)
    (kind : mutation action.parameters = .ok .commitment) (new : p.state.idempotencyReceipts.find? digest = none)
    (valid : (validateMutation rt env action.parameters (some digest) : Sql Empty Evidence).exec p.state = (.ok ev, p.state))
    (posted : Posted rt p.state db e r) (type : e.entryType = .commitment)
    (columns : requestColumns rt action.parameters = .ok (e.requestId, e.requestVersion)) :
    ∃ q d, CommittedBy models db action digest q d := by
  obtain ⟨d, held, approved, json, nonempty⟩ := instructs.approved kind
  obtain ⟨n, action', v, drawn, -⟩ := governed.approved d held approved
  obtain ⟨request, actor, decisionId, available, id, -, -, parameters⟩ := drawn.parameters
  have texts : models.modelDumpJson action' = models.modelDumpJson action := Option.some.inj (drawn.json.symm.trans json)
  have read := models.reads action' (parameters ▸ plain_commitment)
  rw [texts, models.reads action instructs.plain] at read
  obtain rfl := Option.some.inj read
  obtain ⟨q, row, d', row', requestId, approval, -, of, number, decider, given, role⟩ := validateMutation_commits kind new valid
  have own : text action.parameters "domain_approval_id" = .ok decisionId.text := text_of_uuid (by rw [parameters]; rfl)
  obtain rfl : d' = d := by
    rw [own] at approval
    exact p.state.domainDecisions.row_unique row' held ((Except.ok.inj approval).symm.trans id.symm)
  have named : e.requestId = some d'.requestId := by
    have stored : action.parameters.get "request_id" = .str d'.requestId := by
      rw [parameters]
      rfl
    rw [requestColumns, stored] at columns
    cases version : rt.bindInteger (action.parameters.get "request_version") with
    | none =>
      rw [version] at columns
      cases columns
    | some cell =>
      rw [version] at columns
      obtain ⟨stored, -⟩ := Prod.mk.inj (Except.ok.inj columns)
      exact stored.symm
  cases posted.cause with
  | bootstrap type' => simp [type'] at type
  | change type' => simp [type, EntryType.signed] at type'
  | settlement _ _ _ type' => simp [type'] at type
  | cancellation _ _ _ type' => simp [type'] at type
  | commitment q₁ _ _ now _ row₁ _ request₁ _ _ _ _ _ _ _ _ _ _ _ _ _ _ moved =>
    -- The entry is on the request that validation has looked at.
    have same : q₁.id.text = q.id.text := Option.some.inj (request₁.symm.trans (named.trans (congrArg some of)))
    obtain rfl := p.state.purchaseRequests.row_unique row₁ row same
    have there : { q₁ with status := .committed, currentVersion := q₁.currentVersion, updatedAt := now } ∈
        db.purchaseRequests.rows := by
      rw [moved]
      exact List.mem_map.mpr ⟨q₁, row₁, if_pos rfl⟩
    exact ⟨_, d', given, there, posted.decisions ▸ held, by simp, approved, ⟨of, number⟩, ⟨json, nonempty⟩,
      ⟨request, v, actor, decisionId, available, of ▸ parameters⟩, decider, List.any_eq_true.mpr (by
        obtain ⟨a, mem, holds⟩ := List.any_eq_true.mp role
        exact ⟨a, posted.roles.subset mem, holds⟩)⟩

/-- The receipts a step leaves: those before, and one of the instruction it has applied. -/
theorem Does.receipts {label : Option Mark} (does : Does rt models p label db) (governed : Governed models admits p) :
    ∀ r ∈ db.idempotencyReceipts.rows, r ∈ p.state.idempotencyReceipts.rows ∨ ∃ action, Tells rt r action.parameters ∧
      digestOf rt action = .ok r.instructionDigest ∧
      (r.mutationType = .commitment → ∃ q d, CommittedBy models db action r.instructionDigest q d) := by
  intro r mem
  cases does with
  | nothing => exact .inl mem
  | request ledger effect decisions => exact .inl (ledger.receipts ▸ mem)
  | decision label env input stored drawn => exact .inl ((saveDecisionBody_ok stored).1.receipts ▸ mem)
  | verified v stored =>
    obtain ⟨free, same⟩ := Db.guarded_ok.mp (Db.binding_ok.mp stored).2
    rw [← same] at mem
    exact .inl mem
  | applied env action digest executionId key encoded instructs hkey hencoded ran =>
    rcases applyMutationBody_posts governed.sound.coherent ran with
      same | ⟨ev, e, new, valid, -, posted, receipted, -, -, entry, -, type, columns⟩
    · exact .inl (same ▸ mem)
    rw [posted.receipts] at mem
    rcases List.mem_append.mp mem with old | new'
    · exact .inl old
    rw [List.mem_singleton.mp new']
    obtain ⟨-, names, -⟩ := validateMutation_terms new valid
    obtain ⟨actor, code⟩ := validateMutation_read valid
    have bound : digestOf rt action = .ok _ := receipted.digest ▸ instructs.bound
    refine .inr ⟨action, ⟨instructs.plain, receipted.key ▸ hkey, receipted.parameters ▸ hencoded, posted.content,
      type ▸ names, actor, code, posted.storable.2⟩, bound, fun commits => ?_⟩
    have kind : ev.mutationType = .commitment := type.symm.trans commits
    rw [receipted.digest]
    exact instructs.committed governed (kind ▸ names) new valid posted (entry.trans (by rw [kind]; rfl)) columns

/-- **What receipts tell stays**, in every run. -/
theorem Interleaves.told {c : Pool Db Mark (Except Err Unit)} (run : Interleaves rt models admits c) :
    Told rt models c.point := by
  refine (run.keeps (Told rt models) (fun r mem => absurd mem List.not_mem_nil) ?_).2
  intro p label db governed told does r mem
  rcases does.receipts governed r mem with old | new
  · obtain ⟨action, tells, bound, commits⟩ := told r old
    refine ⟨action, tells, bound, fun type => ?_⟩
    obtain ⟨q, d, committed⟩ := commits type
    obtain ⟨q', committed'⟩ := committed.later does governed
    exact ⟨q', d, committed'⟩
  · exact new

/-- The actions that approved decisions hold are certain, ask for no approval of the core, and name who has decided. -/
def Ready (models : Models) (p : Point Db Mark) : Prop :=
  ∀ d ∈ p.state.domainDecisions.rows, d.decision = .approved → ∀ action : Core.ActionRequest, Plain action.parameters →
    d.actionJson = some (models.modelDumpJson action) →
    (action.confidence = 100 ∧ action.requiresApproval = false) ∧ action.parameters.get "actor" = .str d.decidedBy

theorem Does.ready {label : Option Mark} (does : Does rt models p label db) (governed : Governed models admits p)
    (ready : Ready models p) (l : List Mark) : Ready models ⟨db, l⟩ := by
  cases does with
  | nothing => exact ready
  | request ledger effect decisions =>
    intro d mem
    exact ready d (decisions ▸ mem)
  | decision label env input stored drawn =>
    obtain ⟨r, row, verdict', id, status, hverdict, decisions⟩ := saveDecisionBody_row stored
    intro d mem approved action plain json
    rw [show (⟨db, l⟩ : Point Db Mark).state.domainDecisions.rows = _ from decisions] at mem
    rcases List.mem_append.mp mem with old | new
    · exact ready d old approved action plain json
    · rw [List.mem_singleton.mp new] at approved json ⊢
      rw [show verdict' = .approved from approved] at hverdict
      obtain ⟨n, action', v, -, held, certain, -, request, decisionId, available, -, -, -, parameters⟩ :=
        drawn (verdict_approved hverdict)
      have texts : models.modelDumpJson action' = models.modelDumpJson action := Option.some.inj (held.symm.trans json)
      have read := models.reads action' (parameters ▸ plain_commitment)
      rw [texts, models.reads action plain] at read
      obtain rfl := Option.some.inj read
      exact ⟨certain, by rw [parameters]; rfl⟩
  | verified v stored =>
    obtain ⟨-, rfl⟩ := Db.guarded_ok.mp (Db.binding_ok.mp stored).2
    exact ready
  | applied env action digest executionId key encoded instructs hkey hencoded ran =>
    rcases applyMutationBody_posts governed.sound.coherent ran with rfl | ⟨ev, e, -, -, -, posted, -⟩
    · exact ready
    · intro d mem
      exact ready d (posted.decisions ▸ mem)

theorem Interleaves.ready {c : Pool Db Mark (Except Err Unit)} (run : Interleaves rt models admits c) :
    Ready models c.point :=
  (run.keeps (Ready models) (fun _ mem => absurd mem List.not_mem_nil) fun _ _ _ governed ready does =>
    does.ready governed ready _).2

end

/-! ### Looking the key up -/

theorem fieldIs_same {v : PyVal} (plain : (∃ s, v = .str s) ∨ ∃ i, v = .int i) : fieldIs v v = true := by
  rcases plain with ⟨s, rfl⟩ | ⟨i, rfl⟩
  · simp [fieldIs, PyVal.isStr]
  · simp [fieldIs, isInt]

/-- What SQLite stores is small. -/
theorem digits_of_storable {i : Int} (h : Storable i) {n : Nat} (enough : 20 ≤ n) : i.natAbs < 10 ^ n := by
  have small : (2 : Nat) ^ 63 < 10 ^ 20 := by decide
  have large : (10 : Nat) ^ 20 ≤ 10 ^ n := Nat.pow_le_pow_right (by decide) enough
  unfold Storable at h
  omega

theorem writable_of_storable {i : Int} (h : Storable i) : writable i = true := by
  unfold writable
  exact decide_eq_true (digits_of_storable h (by decide))

section
variable {L : Type} {rt : Runtime} {models : Models} {env : Env} {db : Db} {parameters : Dict}
  {digest executionId : String} {r : MutationReceipt}

/-- A receipt found by its key, of a request with the same content, is answered. -/
theorem replayed_exec {key : String} {m : MutationType} {fields : Dict} (row : r ∈ db.idempotencyReceipts.rows)
    (same : r.idempotencyKey = key) (type : r.mutationType = m)
    (stored : (Json.loads r.parametersJson.toList).map PyVal.ofJson = some (.dict parameters))
    (agree : ∀ f ∈ fields, fieldIs (parameters.get f.1.text) f.2 = true) :
    ∃ outcome after, (replayed env key m fields : Sql L (Option Reply)).exec db =
      (.ok (some ⟨r.instructionDigest, some r, outcome⟩), after) ∧ outcome.ofObserver ∧ SameBooks db after := by
  have found : db.receiptByKey? key = some r := by
    cases there : db.receiptByKey? key with
    | none =>
      rw [Db.receiptByKey?, List.find?_eq_none] at there
      exact absurd (decide_eq_true same) (there r row)
    | some x =>
      have held : x.idempotencyKey = key := by simpa using List.find?_some there
      have other := List.mem_of_find?_eq_some there
      rw [List.inj_on_of_nodup_map db.receipt_key other row (held.trans same.symm)]
  obtain ⟨outcome, after, ran, own, books⟩ := verify_ends L env db r.instructionDigest r.executionId parameters
  refine ⟨outcome, after, ?_, own, books⟩
  have content : (fields.any fun f => !fieldIs (parameters.get f.1.text) f.2) = false := by
    rw [List.any_eq_false]
    intro f mem
    simp [agree f mem]
  unfold replayed
  rw [Script.exec_bind, exec_select, found]
  dsimp only
  rw [Script.exec_bind, Script.exec_raiseIf, if_neg (not_not.mpr type)]
  dsimp only
  rw [stored]
  dsimp only
  rw [Script.exec_bind, Script.exec_raiseIf, content]
  simp only [Bool.false_eq_true, if_false]
  rw [Script.exec_bind, ran]
  rfl

theorem unlessReplayed_exec {before : Sql Mark (Option Reply)} {rest : Sql Mark Reply} {reply : Reply} {db' : Db}
    (answered : before.exec db = (.ok (some reply), db')) : (unlessReplayed before rest).exec db = (.ok reply, db') := by
  rw [unlessReplayed, Script.exec_bind, answered]
  rfl

/-! ### Executing a commitment again -/

/-- A version has one approval. -/
theorem approval?_of_row {d : DomainDecision} (consistent : Consistent db) (row : d ∈ db.domainDecisions.rows)
    (approved : d.decision = .approved) : db.approval? d.requestId d.requestVersion = some d := by
  have own : d ∈ (db.domainDecisions.rows.filter fun x =>
      x.requestId = d.requestId ∧ x.requestVersion = d.requestVersion ∧ x.decision = .approved).insertionSort
        fun a b => b.createdAt ≤ a.createdAt := by
    rw [(List.perm_insertionSort _ _).mem_iff]
    simp [row, approved]
  cases held : (db.domainDecisions.rows.filter fun x =>
      x.requestId = d.requestId ∧ x.requestVersion = d.requestVersion ∧ x.decision = .approved).insertionSort
        fun a b => b.createdAt ≤ a.createdAt with
  | nil => rw [held] at own; cases own
  | cons x rest =>
    have first : x ∈ x :: rest := List.mem_cons_self
    rw [← held, (List.perm_insertionSort _ _).mem_iff] at first
    simp only [List.mem_filter, decide_eq_true_eq] at first
    have same : x = d := List.inj_on_of_nodup_map consistent.once first.1 row
      (by rw [first.2.1, first.2.2.1])
    rw [Db.approval?, held, same]
    rfl

theorem CommittedBy.approved_exec {action : Core.ActionRequest} {q : PurchaseRequest} {d : DomainDecision}
    (h : CommittedBy models db action digest q d) (consistent : Consistent db) :
    (approvedAction rt d.decidedBy q.id.text : Sql L String).exec db = (.ok (models.modelDumpJson action), db) := by
  have found : db.purchaseRequests.find? q.id.text = some q := db.purchaseRequests.find?_of_mem h.request
  have current : db.approval? q.id.text q.currentVersion = some d := by
    rw [← h.of.1, ← h.of.2]
    exact approval?_of_row consistent h.decision h.approved
  exact approvedAction_exec found h.role current h.json.1 h.json.2

/-- An instruction with its receipt is validated by that. -/
theorem validateMutation_replay (tells : Tells rt r parameters) (row : r ∈ db.idempotencyReceipts.rows)
    (bound : r.instructionDigest ≠ "") (key : parameters.get "idempotency_key" = .str r.idempotencyKey)
    {budgetId : String} (budget : parameters.lookup (.str "budget_id") = some (.str budgetId))
    {amount : Int} (moves : parameters.lookup (.str "amount_minor") = some (.int amount)) :
    (validateMutation rt env parameters (some r.instructionDigest) : Sql L Evidence).exec db =
      (.ok ⟨r.mutationType, some budgetId, r.currency, .int amount, r.availableMinor, r.availableMinor,
        ["budget:receipt:" ++ r.instructionDigest, "budget:idempotent-replay"]⟩, db) := by
  obtain ⟨actor, hactor⟩ := tells.actor
  obtain ⟨code, hcode⟩ := tells.currency
  have found : db.idempotencyReceipts.find? r.instructionDigest = some r := db.idempotencyReceipts.find?_of_mem row
  have evidence : replayEvidence rt parameters r = .ok ⟨r.mutationType, some budgetId, r.currency, .int amount,
      r.availableMinor, r.availableMinor, ["budget:receipt:" ++ r.instructionDigest, "budget:idempotent-replay"]⟩ := by
    have matching : ¬(r.contentDigest ≠ rt.sha256 r.parametersJson ∨
        (!(parameters.get "idempotency_key").isStr r.idempotencyKey) = true) := by
      simp [tells.digested, key, PyVal.isStr]
    rw [replayEvidence, tells.content]
    show (if _ then _ else _) = _
    rw [if_neg matching, budget, moves]
    rfl
  unfold validateMutation existingReceipt
  simp [Script.exec_bind, exec_select, tells.type, hactor, hcode, bound, found, evidence]

/-- **The core lets a commitment through again.** -/
theorem governs_exec {action : Core.ActionRequest} (tells : Tells rt r action.parameters)
    (row : r ∈ db.idempotencyReceipts.rows) (digested : digestOf rt action = .ok r.instructionDigest)
    (certain : action.confidence = 100 ∧ action.requiresApproval = false) {q : PurchaseRequest} {d : DomainDecision}
    (committed : CommittedBy models db action r.instructionDigest q d) :
    (governs rt env action r.instructionDigest : Sql L Bool).exec db = (.ok true, db) := by
  obtain ⟨request, current, decider, decisionId, available, parameters⟩ := committed.parameters
  have own : text action.parameters "idempotency_key" = .ok ("commit:" ++ decisionId.text) := by
    have stored : action.parameters.get "idempotency_key" = .str ("commit:" ++ decisionId.text) := by
      rw [parameters]
      rfl
    have neat : strip ("commit:" ++ decisionId.text) = "commit:" ++ decisionId.text := by
      apply strip_of_no_space
      intro c mem
      rw [String.toList_append, List.mem_append] at mem
      rcases mem with mem | mem
      · revert c
        decide
      · exact decisionId.no_space c mem
    have some : "commit:" ++ decisionId.text ≠ "" := by
      intro empty
      have := congrArg String.toList empty
      simp at this
    rw [text, stored]
    simp only [neat, if_neg some]
  have key : action.parameters.get "idempotency_key" = .str r.idempotencyKey := by
    rw [← Except.ok.inj (own.symm.trans tells.key), parameters]
    rfl
  have budget : action.parameters.lookup (.str "budget_id") = some (.str request.budgetId) := by
    rw [parameters]
    rfl
  have moves : action.parameters.lookup (.str "amount_minor") = some (.int current.amountMinor) := by
    rw [parameters]
    rfl
  have small : writable current.amountMinor = true := by
    have all : (action.parameters.all fun e => (valueInts e.2).all writable) = true := by
      unfold digestOf at digested
      split at digested
      · assumption
      · cases digested
    rw [parameters, List.all_eq_true] at all
    have entry := all (.str "amount_minor", .int current.amountMinor) (by simp [commitmentParameters])
    simpa [valueInts] using entry
  have valid := @validateMutation_replay L rt env db action.parameters r tells row committed.bound key _ budget _ moves
  unfold governs
  simp only [Script.exec_bind, Script.exec_caught, valid]
  simp [policyResult, riskResult, valueInts, small, writable_of_storable tells.storable, Core.unsupported,
    Core.evaluateApproval, certain]

variable (env executionId) in
/-- The adapter finds the receipt, whatever the database refuses. -/
theorem adapterExecute_replay (label : Option L) (tells : Tells rt r parameters) (row : r ∈ db.idempotencyReceipts.rows) :
    ∃ message, (adapterExecute rt env label parameters r.instructionDigest executionId).exec db = (.ok ⟨true, message⟩, db) := by
  have found : db.idempotencyReceipts.find? r.instructionDigest = some r := db.idempotencyReceipts.find?_of_mem row
  have body : (applyMutationBody rt env parameters r.instructionDigest executionId r.idempotencyKey r.parametersJson).exec db =
      (.ok r, db) := by
    rw [applyMutationBody_replay row rfl, if_neg]
    simp [tells.digested]
  unfold adapterExecute
  rw [Script.exec_bind, Script.exec_caught, applyMutation_label, applyMutation_exec tells.key tells.content]
  rcases ran : Transaction.run (fun n => (env.faults n).map Err.sqlite) transactionError
    (applyMutationBody rt env parameters r.instructionDigest executionId r.idempotencyKey r.parametersJson) db with ⟨e | r', after⟩
  · rw [Transaction.run_error ran]
    dsimp only
    rw [Script.exec_bind, exec_select, found]
    cases e with
    | budget code message => exact ⟨_, rfl⟩
    | sqlite e => exact ⟨_, rfl⟩
    | python name => exact ⟨_, rfl⟩
  · have same := (Transaction.run_ok ran).symm.trans body
    rw [(Prod.mk.inj same).2]
    exact ⟨_, rfl⟩

/-- **A commitment that is executed again finds its receipt.** -/
theorem executed_exec {action : Core.ActionRequest} {o : Occasion} (tells : Tells rt r action.parameters)
    (row : r ∈ db.idempotencyReceipts.rows) (digested : digestOf rt action = .ok r.instructionDigest)
    (certain : action.confidence = 100 ∧ action.requiresApproval = false) {q : PurchaseRequest} {d : DomainDecision}
    (committed : CommittedBy models db action r.instructionDigest q d) :
    ∃ outcome after, (executed rt o action none).exec db = (.ok ⟨r.instructionDigest, some r, outcome⟩, after) ∧
      outcome.ofObserver ∧ SameBooks db after := by
  have found : db.idempotencyReceipts.find? r.instructionDigest = some r := db.idempotencyReceipts.find?_of_mem row
  obtain ⟨message, applied⟩ := adapterExecute_replay o.writing o.executionId
    (some (Mark.applies action.parameters r.instructionDigest o.executionId none)) tells row
  obtain ⟨outcome, after, ran, own, books⟩ := verify_ends Mark o.verifying db r.instructionDigest r.executionId action.parameters
  refine ⟨outcome, after, ?_, own, books⟩
  unfold executed
  rw [Script.exec_bind, Script.exec_ofExcept, digested]
  dsimp only
  rw [Script.exec_bind, governs_exec tells row digested certain committed]
  dsimp only
  rw [if_pos rfl, Script.exec_bind, applied]
  dsimp only
  rw [Script.exec_bind, exec_select, found]
  dsimp only
  rw [if_pos rfl, Script.exec_bind, ran]
  rfl

/-! ### Any request again -/

/-- What a receipt tells, and what its stored parameters do. -/
theorem replayed_submission {o : Occasion} {sub : Submission} {key : String} {told parameters : Dict} (tells : Tells rt r told)
    (row : r ∈ db.idempotencyReceipts.rows) (instructed : sub.Instructed o parameters)
    (stored : (Json.loads r.parametersJson.toList).map PyVal.ofJson = some (.dict parameters))
    (same : ∀ key, told.get key = parameters.get key) (chosen : sub.key? = some key) (neat : strip key = key) :
    ∃ outcome after, (replayed o.verifying key sub.mutation (sub.fields o) : Sql Mark (Option Reply)).exec db =
      (.ok (some ⟨r.instructionDigest, some r, outcome⟩), after) ∧ outcome.ofObserver ∧ SameBooks db after := by
  have own : told.get "idempotency_key" = .str key := (same _).trans (instructed.key key chosen)
  apply replayed_exec row _ _ stored
  · intro f mem
    rw [instructed.fields f mem]
    exact fieldIs_same (sub.fields_plain f mem)
  · have read := tells.key
    rw [text, own] at read
    dsimp only at read
    split at read
    · cases read
    · rw [← Except.ok.inj read, neat]
  · have type : mutation told = .ok sub.mutation := mutation_of_type ((same _).trans instructed.mutation)
    exact Except.ok.inj (tells.type.symm.trans type)

end

/-- **A request that has been applied is answered with its receipt again**, in every run, whatever was committed in between,
if its key has no space around it. -/
theorem replays_idempotent (rt : Runtime) (models : Models) (c : Pool Db Mark (Except Err Unit))
    (run : Interleaves rt models (fun _ _ => True) c) (sub : Submission) (neat : ∀ key ∈ sub.key?, strip key = key)
    (parameters : Dict) (makes : sub.Makes parameters) (r : MutationReceipt)
    (row : r ∈ c.point.state.idempotencyReceipts.rows) (content : dumps parameters = .ok r.parametersJson) (o : Occasion) :
    ∃ outcome db', (sub.reply rt models o).exec c.point.state = (.ok ⟨r.instructionDigest, some r, outcome⟩, db') ∧
      outcome.ofObserver ∧ db'.ledgerEntries = c.point.state.ledgerEntries ∧ db'.idempotencyReceipts = c.point.state.idempotencyReceipts := by
  obtain ⟨action, tells, digested, commits⟩ := run.told r row
  obtain ⟨loaded, stored, held⟩ := loads_dumps makes.plain content
  have told : ∀ key, action.parameters.get key = Dict.get loaded key := by
    intro key
    obtain ⟨loaded', stored', held'⟩ := loads_dumps tells.plain tells.content
    obtain rfl : loaded' = loaded := by simpa using stored'.symm.trans stored
    exact (held' key).symm
  have instructed : sub.Instructed o loaded := (makes.instructed o).of_get held
  have again : ∀ key, sub.key? = some key → ∃ outcome after,
      (replayed o.verifying key sub.mutation (sub.fields o) : Sql Mark (Option Reply)).exec c.point.state =
        (.ok (some ⟨r.instructionDigest, some r, outcome⟩), after) ∧ outcome.ofObserver ∧ SameBooks c.point.state after :=
    fun key chosen => replayed_submission tells row instructed stored told chosen (neat key chosen)
  have answered : ∃ outcome after, (sub.reply rt models o).exec c.point.state =
      (.ok ⟨r.instructionDigest, some r, outcome⟩, after) ∧ outcome.ofObserver ∧ SameBooks c.point.state after := by
    cases sub with
    | commit actor requestId =>
      have type : mutation action.parameters = .ok .commitment := mutation_of_type ((told _).trans instructed.mutation)
      obtain ⟨q, d, committed⟩ := commits (Except.ok.inj (tells.type.symm.trans type))
      obtain ⟨certain, decider⟩ := run.ready d committed.decision committed.approved action tells.plain committed.json.1
      have ofRequest : action.parameters.get "request_id" = .str requestId :=
        (told _).trans (instructed.fields (.str "request_id", .str requestId) (by simp [Submission.fields]))
      have byActor : action.parameters.get "actor" = .str actor :=
        (told _).trans (instructed.fields (.str "actor", .str actor) (by simp [Submission.fields]))
      obtain rfl : d.decidedBy = actor := by simpa [decider] using byActor
      obtain rfl : q.id.text = requestId := by
        obtain ⟨request, current, decider, decisionId, available, same⟩ := committed.parameters
        rw [same] at ofRequest
        exact PyVal.str.inj ofRequest
      obtain ⟨outcome, after, ran, ends⟩ := executed_exec (o := o) tells row digested certain committed
      refine ⟨outcome, after, ?_, ends⟩
      show (Submission.reply rt models o (.commit d.decidedBy q.id.text)).exec c.point.state = _
      unfold Submission.reply
      rw [Script.exec_bind, committed.approved_exec run.governed.consistent]
      dsimp only
      rw [models.reads action tells.plain]
      exact ran
    | bootstrap actor input =>
      obtain ⟨outcome, after, ran, ends⟩ := again _ rfl
      exact ⟨outcome, after, unlessReplayed_exec ran, ends⟩
    | settle actor requestId amountMinor key =>
      obtain ⟨outcome, after, ran, ends⟩ := again _ rfl
      exact ⟨outcome, after, unlessReplayed_exec ran, ends⟩
    | cancel actor requestId key =>
      obtain ⟨outcome, after, ran, ends⟩ := again _ rfl
      exact ⟨outcome, after, unlessReplayed_exec ran, ends⟩
    | adjust actor budgetId input =>
      obtain ⟨outcome, after, ran, ends⟩ := again _ rfl
      exact ⟨outcome, after, unlessReplayed_exec ran, ends⟩
    | correct actor budgetId correctionOf input =>
      obtain ⟨outcome, after, ran, ends⟩ := again _ rfl
      exact ⟨outcome, after, unlessReplayed_exec ran, ends⟩
  obtain ⟨outcome, after, ran, own, books⟩ := answered
  exact ⟨outcome, after, ran, own, books.entries, books.receipts⟩

namespace Sample

/-- The first budget, with a space after its key. -/
def padded : BootstrapInput := { opened with idempotencyKey := "boot-0001 " }

/-- `sha256`, as it is on these texts. -/
def paddedLibrary : Runtime := { runtime with sha256 := tabulated [
  ("\x7b\"action_id\":\"1-7\"", "5f0e19d828c38f0331466fe868bd5bd9877b03108eef6bcb015397a87834c308"),
  ("\x7b\"action_id\":\"2-7\"", "3f66dabb363168a4b2ed4c9c264f60212cda99c7bf33bccf0c91486e2acb089e"),
  ("\x7b\"actor\":\"root\"", "b1d65dfc7cb5f16d8d7e80f94b5293f01fede1e8c976e64b6e8886bbabed1e8a")] }

def bootstrapping : Pool Db Mark (Except Err Unit) :=
  ⟨[(ServiceCall.bootstrap "root" padded).script paddedLibrary actionModels (occasion 1)], ⟨.empty, []⟩⟩

def bootstrapped : Pool Db Mark (Except Err Unit) := bootstrapping.runSchedule (List.replicate 30 0)

theorem bootstrapped_run : Interleaves paddedLibrary actionModels (fun _ _ => True) bootstrapped := by
  have called : Interleaves paddedLibrary actionModels (fun _ _ => True) bootstrapping :=
    .tail .refl (.call _ ⟨occasion 1, .bootstrap "root" padded, rfl⟩)
  exact called.trans (Pool.runSchedule_reach _ _ _)

/-- The budget is stored, and the same request is stopped. -/
theorem bootstrapped_stored : ∃ r ∈ bootstrapped.point.state.idempotencyReceipts.rows,
    dumps (bootstrapParameters (occasion 1) "root" padded) = .ok r.parametersJson ∧
      (((Submission.bootstrap "root" padded).reply paddedLibrary actionModels (occasion 2)).exec bootstrapped.point.state).1.map
        (fun reply => (reply.receipt.isSome, reply.outcome)) = .ok (false, .blockedBeforeExecution) := by
  decide +kernel

end Sample

/-- The first budget once more, after a change of its balance. -/
theorem replays_idempotent_steady : ∃ r ∈ Sample.steady.point.state.idempotencyReceipts.rows, ∃ outcome db',
    ((Submission.bootstrap "root" Sample.opened).reply Sample.library actionModels (Sample.occasion 4)).exec
      Sample.steady.point.state = (.ok ⟨r.instructionDigest, some r, outcome⟩, db') ∧ outcome.ofObserver ∧
    db'.ledgerEntries = Sample.steady.point.state.ledgerEntries ∧
    db'.idempotencyReceipts = Sample.steady.point.state.idempotencyReceipts := by
  obtain ⟨-, r, row, content⟩ := Sample.steady_steps
  refine ⟨r, row, replays_idempotent Sample.library actionModels Sample.steady Sample.steady_run
    (.bootstrap "root" Sample.opened) ?_ _ (.bootstrap (Sample.occasion 1) "root" Sample.opened) r row content _⟩
  rintro key ⟨⟩
  decide

/-- **A request whose key ends in a space is stopped** when it is submitted again: its receipt is not found. -/
theorem replays_refused : ∃ c, Interleaves Sample.paddedLibrary actionModels (fun _ _ => True) c ∧
    ∃ (sub : Submission) (o : Occasion) (parameters : Dict), sub.Makes parameters ∧
      ∃ r ∈ c.point.state.idempotencyReceipts.rows, dumps parameters = .ok r.parametersJson ∧
        ((sub.reply Sample.paddedLibrary actionModels o).exec c.point.state).1.map (fun reply =>
          (reply.receipt.isSome, reply.outcome)) = .ok (false, .blockedBeforeExecution) ∧
        ¬∃ outcome db', (sub.reply Sample.paddedLibrary actionModels o).exec c.point.state =
          (.ok ⟨r.instructionDigest, some r, outcome⟩, db') := by
  obtain ⟨r, row, content, stopped⟩ := Sample.bootstrapped_stored
  refine ⟨Sample.bootstrapped, Sample.bootstrapped_run, .bootstrap "root" Sample.padded, Sample.occasion 2, _,
    .bootstrap (Sample.occasion 1) "root" Sample.padded, r, row, content, stopped, ?_⟩
  rintro ⟨outcome, db', answered⟩
  rw [answered] at stopped
  cases stopped

end RmtPlatform.Budget
