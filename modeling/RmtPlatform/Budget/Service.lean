import RmtPlatform.Budget.Receipts

/-! The budget service.

A call that moves money binds its instruction, has it governed, and the adapter applies
it: an `Execution` is such a call between its binding and its end. Other calls write no
ledger entry. `reconcile` looks for the receipt of an instruction, and where there is
none it answers that the instruction had no effect. That is so for good once no
execution of the instruction is under way, until one begins again (`absence_final`). -/
namespace RmtPlatform.Budget

/-! ### Calls -/

/-- A call that moves money, with its instruction bound. -/
structure Execution where
  instructionDigest : String
  parameters : Dict
  executionId : String

/-- What `reconcile` answers: nothing was applied, or the receipt, whose effect it then verifies. -/
inductive Reconciliation where
  | absent (financialStatus reason instructionDigest : String)
  | recorded (receipt : MutationReceipt)

def reconcile {L : Type} (instructionDigest : String) : Sql L Reconciliation := do
  match ← select (·.idempotencyReceipts.find? instructionDigest) with
  | none => pure (.absent "adapter_failed_no_effect" "No durable receipt exists; absence established" instructionDigest)
  | some receipt => pure (.recorded receipt)

/-- The database, and the executions under way. -/
structure Service where
  db : Db
  executions : List Execution

def Service.initial : Service := ⟨.empty, []⟩

/-- One step of the service. Each of the repository's calls writes in one transaction. -/
inductive ServiceStep (rt : Runtime) (s : Service) : Service → Prop where
  /-- A call about a request. -/
  | requests (env : Env) (call : Call) (other : ∀ parameters digest executionId, call ≠ .applyMutation parameters digest executionId) :
      ServiceStep rt s { s with db := ((call.script rt env).exec s.db).2 }
  /-- `_execute` binds the action of a call. -/
  | begins (e : Execution) : ServiceStep rt s { s with executions := e :: s.executions }
  /-- The adapter applies it. -/
  | applies (env : Env) (e : Execution) (before after : List Execution) (underway : s.executions = before ++ e :: after) :
      ServiceStep rt s
        ⟨((applyMutation rt env none e.parameters e.instructionDigest e.executionId : Sql Empty MutationReceipt).exec s.db).2,
          before ++ after⟩
  /-- It is blocked, or the call is interrupted. -/
  | ends (e : Execution) (before after : List Execution) (underway : s.executions = before ++ e :: after) :
      ServiceStep rt s { s with executions := before ++ after }
  /-- The observer records what it found. -/
  | verifies (env : Env) (values : VerificationInput) :
      ServiceStep rt s { s with db := ((recordVerification env values : Sql Empty String).exec s.db).2 }

abbrev Serves (rt : Runtime) : Service → Service → Prop := Relation.ReflTransGen (ServiceStep rt)

/-- The step begins no execution of the instruction. -/
def Leaves (digest : String) (s s' : Service) : Prop :=
  ∀ e ∈ s'.executions, e.instructionDigest = digest → e ∈ s.executions

/-- Nothing was applied of the instruction. -/
def Unapplied (db : Db) (digest : String) : Prop :=
  (∀ r ∈ db.idempotencyReceipts.rows, r.instructionDigest ≠ digest) ∧
    ∀ e ∈ db.ledgerEntries.rows, e.instructionDigest ≠ digest

/-! ### What a step does to the ledger -/

/-- The ledger and the receipts are left, and every request. -/
structure SameBooks (db db' : Db) : Prop where
  entries : db'.ledgerEntries = db.ledgerEntries
  receipts : db'.idempotencyReceipts = db.idempotencyReceipts
  requests : Persists db.purchaseRequests.rows db'.purchaseRequests.rows

theorem SameBooks.refl (db : Db) : SameBooks db db := ⟨rfl, rfl, .refl _⟩

theorem SameBooks.trans {a b c : Db} (h : SameBooks a b) (h' : SameBooks b c) : SameBooks a c := by
  refine ⟨h'.entries.trans h.entries, h'.receipts.trans h.receipts, fun q mem => ?_⟩
  obtain ⟨q', mem', id, budget, requester⟩ := h.requests q mem
  obtain ⟨q'', mem'', id', budget', requester'⟩ := h'.requests q' mem'
  exact ⟨q'', mem'', id'.trans id, budget'.trans budget, requester'.trans requester⟩

section
variable {L : Type} {rt : Runtime} {env : Env} {db db' : Db} {digest : String} {s s' : Service}

theorem immediateTransaction_same {α : Type} {label : Option L} {body : Sql Empty α}
    (h : ∀ db a db', body.exec db = (.ok a, db') → SameBooks db db') :
    Script.Moves SameBooks (immediateTransaction env label body) :=
  fun db => Transaction.run_keeps (I := SameBooks db) (.refl db) (h db)

theorem looking {α : Type} {x : Sql L α} (h : Script.ReadOnly x) : Script.Moves SameBooks x := h.moves .refl

/-- A call about a request leaves the books. -/
theorem requests_same (call : Call) (other : ∀ parameters digest executionId, call ≠ .applyMutation parameters digest executionId) :
    SameBooks db ((call.script rt env).exec db).2 := by
  have bind : ∀ {α β : Type} {x : Sql Empty α} {f : α → Sql Empty β}, Script.Moves SameBooks x →
      (∀ a, Script.Moves SameBooks (f a)) → Script.Moves SameBooks (x >>= f) :=
    fun hx hf => .bind (fun _ _ _ => .trans) hx hf
  have detail : ∀ actor requestId, Script.Moves SameBooks (requestDetail actor requestId : Sql Empty RequestDetail) :=
    fun actor requestId => looking (readOnly_requestDetail actor requestId)
  have check : ∀ (c : Prop) [Decidable c] (e : Err), Script.Moves SameBooks (Script.raiseIf c e : Sql Empty Unit) :=
    fun c _ e => looking (Script.readOnly_raiseIf c e)
  have discard : ∀ {α : Type} {x : Sql Empty α}, Script.Moves SameBooks x →
      Script.Moves SameBooks (do let _ ← x : Sql Empty Unit) :=
    fun hx => bind hx fun _ => looking (Script.readOnly_pure ())
  suffices moves : Script.Moves SameBooks (call.script rt env) from moves db
  cases call with
  | createRequest actor budgetId input =>
    apply discard
    refine bind (check _ _) fun _ => bind (check _ _) fun _ => bind ?_ fun id => detail actor id
    apply immediateTransaction_same
    intro db id db' h
    obtain ⟨ledger, effect⟩ := createRequestBody_ok h
    exact ⟨ledger.ledger, ledger.receipts, effect.persists⟩
  | addRequestVersion actor requestId input =>
    apply discard
    refine bind (check _ _) fun _ => bind ?_ fun _ => detail actor requestId
    apply immediateTransaction_same
    intro db u db' h
    obtain ⟨ledger, effect⟩ := addRequestVersionBody_ok h
    exact ⟨ledger.ledger, ledger.receipts, effect.persists⟩
  | submitRequest actor requestId =>
    apply discard
    refine bind ?_ fun _ => detail actor requestId
    apply immediateTransaction_same
    intro db u db' h
    obtain ⟨ledger, effect⟩ := submitRequestBody_ok h
    exact ⟨ledger.ledger, ledger.receipts, effect.persists⟩
  | saveDecision input =>
    apply discard
    refine bind ?_ fun _ => detail _ _
    apply immediateTransaction_same
    intro db u db' h
    obtain ⟨ledger, effect⟩ := saveDecisionBody_ok h
    exact ⟨ledger.ledger, ledger.receipts, effect.persists⟩
  | applyMutation parameters digest executionId => exact absurd rfl (other parameters digest executionId)

/-- So does what the observer records. -/
theorem recordVerification_same (values : VerificationInput) :
    SameBooks db ((recordVerification env values : Sql Empty String).exec db).2 := by
  suffices moves : Script.Moves SameBooks (recordVerification env values : Sql Empty String) from moves db
  refine .bind (fun _ _ _ => .trans) ?_ fun _ => looking (Script.readOnly_pure _)
  apply immediateTransaction_same
  intro db u db' h
  rw [exec_execute] at h
  obtain ⟨-, rfl⟩ := Db.guarded_ok.mp (Db.binding_ok.mp h).2
  exact ⟨rfl, rfl, .refl _⟩

/-- **What applying an instruction does to the books**: nothing, or an entry and a receipt of it. -/
theorem applyMutation_books (coherent : Coherent db) {parameters : Dict} {executionId : String} {result : Except Err MutationReceipt}
    (h : (applyMutation rt env none parameters digest executionId : Sql Empty MutationReceipt).exec db = (result, db')) :
    db' = db ∨ ∃ e r, Posted rt db db' e r ∧ r.instructionDigest = digest := by
  cases result with
  | error e => exact .inl (applyMutation_error h)
  | ok r =>
    cases hkey : text parameters "idempotency_key" with
    | error e =>
      rw [applyMutation, hkey] at h
      cases h
    | ok key =>
      cases hencoded : dumps parameters with
      | error e =>
        rw [applyMutation, hkey, hencoded] at h
        cases h
      | ok encoded =>
        rw [applyMutation_exec hkey hencoded] at h
        cases (applyMutationBody_ends coherent).ok (Transaction.run_ok h) with
        | replay same => exact .inl same
        | posted e posted receipted => exact .inr ⟨e, r, posted, receipted.digest⟩

/-! ### Runs -/

/-- What holds of the books: commitments stand on their requests' budgets, and entries and receipts are in pairs. -/
structure Kept (db : Db) : Prop where
  coherent : Coherent db
  paired : Paired db

theorem kept_empty : Kept .empty := ⟨sound_empty.coherent, .nil⟩

theorem SameBooks.kept (same : SameBooks db db') (kept : Kept db) : Kept db' := by
  refine ⟨kept.coherent.mono same.entries same.requests, ?_⟩
  rw [Paired, same.entries, same.receipts]
  exact kept.paired

theorem SameBooks.unapplied (same : SameBooks db db') (unapplied : Unapplied db digest) : Unapplied db' digest := by
  rw [Unapplied, same.entries, same.receipts]
  exact unapplied

theorem Posted.kept {e : LedgerEntry} {r : MutationReceipt} (posted : Posted rt db db' e r) (kept : Kept db) : Kept db' := by
  refine ⟨posted.coherent kept.coherent, ?_⟩
  rw [Paired, posted.entries, posted.receipts]
  exact List.rel_append kept.paired (.cons ⟨posted.entryId, posted.digest⟩ .nil)

theorem Posted.unapplied {e : LedgerEntry} {r : MutationReceipt} (posted : Posted rt db db' e r)
    (other : r.instructionDigest ≠ digest) (unapplied : Unapplied db digest) : Unapplied db' digest := by
  rw [Unapplied, posted.entries, posted.receipts]
  constructor
  · intro x mem
    rcases List.mem_append.mp mem with mem | mem
    · exact unapplied.1 x mem
    · rwa [List.mem_singleton.mp mem]
  · intro x mem
    rcases List.mem_append.mp mem with mem | mem
    · exact unapplied.2 x mem
    · rw [List.mem_singleton.mp mem, ← posted.digest]
      exact other

theorem ServiceStep.kept (step : ServiceStep rt s s') (kept : Kept s.db) : Kept s'.db := by
  cases step with
  | requests env call other => exact (requests_same call other).kept kept
  | begins e => exact kept
  | applies env e before after underway =>
    rcases applied : (applyMutation rt env none e.parameters e.instructionDigest e.executionId : Sql Empty MutationReceipt).exec
      s.db with ⟨result, db'⟩
    rcases applyMutation_books kept.coherent applied with same | ⟨x, r, posted, -⟩
    · rwa [same]
    · exact posted.kept kept
  | ends e before after underway => exact kept
  | verifies env values => exact (recordVerification_same values).kept kept

theorem Serves.kept (run : Serves rt .initial s) : Kept s.db := by
  induction run with
  | refl => exact kept_empty
  | tail _ step ih => exact step.kept ih

/-- No receipt, so no entry either. -/
theorem unapplied_of_absent (kept : Kept db) (absent : db.idempotencyReceipts.find? digest = none) : Unapplied db digest := by
  have receipts := db.idempotencyReceipts.find?_eq_none.mp absent
  refine ⟨receipts, fun e mem same => ?_⟩
  have both := kept.paired
  unfold Paired at both
  obtain ⟨i, bound, rfl⟩ := List.getElem_of_mem mem
  have bound' : i < db.idempotencyReceipts.rows.length := both.length_eq ▸ bound
  have pair := both.get bound bound'
  exact receipts _ (List.getElem_mem bound') (pair.2.trans same)

theorem ServiceStep.unapplied (step : ServiceStep rt s s') (leaves : Leaves digest s s') (kept : Kept s.db)
    (idle : ∀ e ∈ s.executions, e.instructionDigest ≠ digest) (unapplied : Unapplied s.db digest) :
    (∀ e ∈ s'.executions, e.instructionDigest ≠ digest) ∧ Unapplied s'.db digest := by
  refine ⟨fun e mem same => idle e (leaves e mem same) same, ?_⟩
  cases step with
  | requests env call other => exact (requests_same call other).unapplied unapplied
  | begins e => exact unapplied
  | applies env e before after underway =>
    have own : e ∈ s.executions := underway ▸ List.mem_append_right _ List.mem_cons_self
    rcases applied : (applyMutation rt env none e.parameters e.instructionDigest e.executionId : Sql Empty MutationReceipt).exec
      s.db with ⟨result, db'⟩
    rcases applyMutation_books kept.coherent applied with same | ⟨x, r, posted, digest⟩
    · rwa [same]
    · exact posted.unapplied (digest ▸ idle e own) unapplied
  | ends e before after underway => exact unapplied
  | verifies env values => exact (recordVerification_same values).unapplied unapplied

end

/-- **Reconciled absence is final** once no execution of the instruction is under way, and until one begins again. -/
theorem absence_final (rt : Runtime) (s : Service) (reached : Serves rt .initial s) (digest status reason : String)
    (answer : (reconcile digest : Sql Empty Reconciliation).exec s.db = (.ok (.absent status reason digest), s.db))
    (idle : ∀ e ∈ s.executions, e.instructionDigest ≠ digest) (s' : Service)
    (run : Relation.ReflTransGen (fun a b => ServiceStep rt a b ∧ Leaves digest a b) s s') : Unapplied s'.db digest := by
  have absent : s.db.idempotencyReceipts.find? digest = none := by
    cases found : s.db.idempotencyReceipts.find? digest with
    | none => rfl
    | some receipt =>
      rw [reconcile, Script.exec_bind, exec_select, found] at answer
      cases answer
  have later : Kept s'.db ∧ (∀ e ∈ s'.executions, e.instructionDigest ≠ digest) ∧ Unapplied s'.db digest := by
    induction run with
    | refl => exact ⟨reached.kept, idle, unapplied_of_absent reached.kept absent⟩
    | tail _ step ih =>
      obtain ⟨kept, idle, unapplied⟩ := ih
      exact ⟨step.1.kept kept, step.1.unapplied step.2 kept idle unapplied⟩
  exact later.2.2

namespace Sample

/-- The request of the sample run is approved, and not committed yet. -/
def approved : Db := runFrom 1 (calls.take 4) .empty

def booting : Execution := ⟨"digest-1", bootstrap, "exec-1"⟩

/-- The approved instruction. -/
def committing : Execution := ⟨"digest-2", commitment, "exec-2"⟩

/-- Another instruction, and the database once the adapter has applied it. -/
def restocking : Execution := ⟨"digest-3", adjustment, "exec-3"⟩

def restocked : Db :=
  ((applyMutation runtime (env 5) none adjustment "digest-3" "exec-3" : Sql Empty MutationReceipt).exec approved).2

/-- The database once the adapter has applied the approved instruction. -/
def applied : Db :=
  ((applyMutation runtime (env 5) none commitment "digest-2" "exec-2" : Sql Empty MutationReceipt).exec approved).2

theorem approved_served : Serves runtime .initial ⟨approved, []⟩ := by
  apply Relation.ReflTransGen.head (ServiceStep.begins booting)
  apply Relation.ReflTransGen.head (ServiceStep.applies (env 1) booting [] [] rfl)
  apply Relation.ReflTransGen.head (ServiceStep.requests (env 2) (.createRequest "ravi" "b1" ⟨300, "usd", "disks", ""⟩)
    fun _ _ _ same => by cases same)
  apply Relation.ReflTransGen.head (ServiceStep.requests (env 3) (.submitRequest "ravi" request) fun _ _ _ same => by cases same)
  apply Relation.ReflTransGen.head (ServiceStep.requests (env 4)
    (.saveDecision ⟨"decision-1", "olga", request, "approved", "ok", some "digest-2", none, some 1000⟩)
    fun _ _ _ same => by cases same)
  exact .refl

theorem committing_served : Serves runtime .initial ⟨approved, [committing]⟩ :=
  approved_served.tail (.begins committing)

theorem approved_absent : (reconcile "digest-2" : Sql Empty Reconciliation).exec approved =
    (.ok (.absent "adapter_failed_no_effect" "No durable receipt exists; absence established" "digest-2"), approved) := by
  have absent : approved.idempotencyReceipts.find? "digest-2" = none := by
    apply approved.idempotencyReceipts.find?_eq_none.mpr
    decide +kernel
  rw [reconcile, Script.exec_bind, exec_select, absent]
  rfl

theorem applied_applied : ¬Unapplied applied "digest-2" := by
  rintro ⟨none, -⟩
  have some : ∃ r ∈ applied.idempotencyReceipts.rows, r.instructionDigest = "digest-2" := by decide +kernel
  obtain ⟨r, mem, same⟩ := some
  exact none r mem same

end Sample

/-- Another instruction is begun and applied after the answer. -/
theorem absence_final_other : Sample.restocked.availableMinor "b1" = Sample.approved.availableMinor "b1" + 100 ∧
    Unapplied Sample.restocked "digest-2" := by
  have run : Relation.ReflTransGen (fun a b => ServiceStep Sample.runtime a b ∧ Leaves "digest-2" a b) ⟨Sample.approved, []⟩
      ⟨Sample.restocked, []⟩ := by
    refine .head ⟨.begins Sample.restocking, fun e mem same => ?_⟩
      (.single ⟨.applies (Sample.env 5) Sample.restocking [] [] rfl, fun e mem _ => absurd mem List.not_mem_nil⟩)
    rw [List.mem_singleton.mp mem] at same
    exact absurd same (by decide)
  refine ⟨by decide +kernel, ?_⟩
  exact absence_final Sample.runtime ⟨Sample.approved, []⟩ Sample.approved_served "digest-2" _ _ Sample.approved_absent
    (fun e mem => absurd mem List.not_mem_nil) _ run

/-- **Absence answered and then applied**: by the execution that was under way, and by one that begins afterwards. -/
theorem absence_undone :
    (Serves Sample.runtime .initial ⟨Sample.approved, [Sample.committing]⟩ ∧
      (reconcile "digest-2" : Sql Empty Reconciliation).exec Sample.approved =
        (.ok (.absent "adapter_failed_no_effect" "No durable receipt exists; absence established" "digest-2"), Sample.approved) ∧
      Serves Sample.runtime ⟨Sample.approved, [Sample.committing]⟩ ⟨Sample.applied, []⟩) ∧
    (Serves Sample.runtime .initial ⟨Sample.approved, []⟩ ∧
      Serves Sample.runtime ⟨Sample.approved, []⟩ ⟨Sample.approved, [Sample.committing]⟩) ∧
    ¬Unapplied Sample.applied "digest-2" := by
  refine ⟨⟨Sample.committing_served, Sample.approved_absent, .single ?_⟩, ⟨Sample.approved_served, .single ?_⟩,
    Sample.applied_applied⟩
  · exact .applies (Sample.env 5) Sample.committing [] [] rfl
  · exact .begins Sample.committing

end RmtPlatform.Budget
