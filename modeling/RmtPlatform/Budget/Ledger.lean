import RmtPlatform.Budget.Runs

/-! The ledger stays sound.

In every reachable state every commitment stands on its request's budget and no
budget is overdrawn (`Sound`); the balance is allocations, adjustments and
corrections less settlements and open commitments, and `apply_mutation` never finds
it to be other than the one it predicted. -/
namespace RmtPlatform.Budget

/-! ### Requests keep their identity -/

/-- Every request is still there, on its budget and with its requester. -/
def Persists (rows rows' : List PurchaseRequest) : Prop :=
  ∀ q ∈ rows, ∃ q' ∈ rows', q'.id = q.id ∧ q'.budgetId = q.budgetId ∧ q'.requester = q.requester

theorem Persists.refl (rows : List PurchaseRequest) : Persists rows rows := fun q hq => ⟨q, hq, rfl, rfl, rfl⟩

theorem persists_append (rows : List PurchaseRequest) (r : PurchaseRequest) : Persists rows (rows ++ [r]) :=
  fun q hq => ⟨q, List.mem_append_left _ hq, rfl, rfl, rfl⟩

theorem persists_withStatus (rows : List PurchaseRequest) (id : String) (status : RequestStatus)
    (version : Option Int) (now : String) : Persists rows (withStatus rows id status version now) := by
  intro q hq
  refine ⟨_, List.mem_map_of_mem hq, ?_⟩
  split <;> exact ⟨rfl, rfl, rfl⟩

theorem RequestEffect.persists {db db' : Db} (h : RequestEffect db db') :
    Persists db.purchaseRequests.rows db'.purchaseRequests.rows := by
  cases h with
  | create r v _ _ _ _ requests => exact requests ▸ persists_append _ r
  | revise r v now _ _ _ _ requests => exact requests ▸ persists_withStatus _ _ _ _ _
  | submit r now _ _ requests => exact requests ▸ persists_withStatus _ _ _ _ _
  | decide r d now _ _ _ _ _ _ requests => exact requests ▸ persists_withStatus _ _ _ _ _

theorem Cause.persists {db : Db} {requests : List PurchaseRequest} {e : LedgerEntry}
    (h : Cause db requests e) : Persists db.purchaseRequests.rows requests := by
  cases h with
  | bootstrap _ _ _ same => exact same ▸ .refl _
  | change _ _ same => exact same ▸ .refl _
  | commitment _ _ _ _ _ _ _ _ _ _ _ _ _ _ _ _ _ _ _ _ _ _ moved => exact moved ▸ persists_withStatus _ _ _ _ _
  | settlement _ _ _ _ _ _ _ _ _ _ moved => exact moved ▸ persists_withStatus _ _ _ _ _
  | cancellation _ _ _ _ _ _ _ _ _ _ moved => exact moved ▸ persists_withStatus _ _ _ _ _

/-! ### The invariant -/

/-- Commitments stand on their requests' budgets, no budget is overdrawn, and every sum is in range. -/
structure Sound (db : Db) : Prop where
  coherent : Coherent db
  solvent : ∀ budgetId, 0 ≤ db.availableMinor budgetId
  summable : ∀ budgetId, Summable db.ledgerEntries.rows budgetId

theorem sound_empty : Sound .empty :=
  ⟨fun c hc => by simp [Db.empty] at hc,
    fun budgetId => by simp [Db.availableMinor, Db.empty, Db.available, Db.balances, Db.openCommitments],
    fun budgetId => ⟨by simp [Adds, Storable, Db.empty, Db.balanceTerms, Db.scan],
      by simp [Adds, Storable, Db.empty, Db.openTerms, Db.scan]⟩⟩

theorem Coherent.mono {db db' : Db} (h : Coherent db) (entries : db'.ledgerEntries = db.ledgerEntries)
    (persists : Persists db.purchaseRequests.rows db'.purchaseRequests.rows) : Coherent db' := by
  intro c hc type
  rw [entries] at hc
  obtain ⟨q, hq, request, budget⟩ := h c hc type
  obtain ⟨q', hq', id, budget', -⟩ := persists q hq
  exact ⟨q', hq', by rw [request, id], budget.trans budget'.symm⟩

theorem Posted.coherent {rt : Runtime} {db db' : Db} {e : LedgerEntry} {r : MutationReceipt} (posted : Posted rt db db' e r)
    (h : Coherent db) : Coherent db' := by
  intro c hc type
  rw [posted.entries] at hc
  rcases List.mem_append.mp hc with hc | hc
  · obtain ⟨q, hq, request, budget⟩ := h c hc type
    obtain ⟨q', hq', id, budget', -⟩ := posted.cause.persists q hq
    exact ⟨q', hq', by rw [request, id], budget.trans budget'.symm⟩
  · obtain rfl := List.mem_singleton.mp hc
    have persists := posted.cause.persists
    cases posted.cause with
    | commitment q v d now _ row _ request _ budget =>
      obtain ⟨q', hq', id, budget', -⟩ := persists q row
      exact ⟨q', hq', by rw [request, id], budget.trans budget'.symm⟩
    | bootstrap type' => simp [type'] at type
    | change type' => simp [type, EntryType.signed] at type'
    | settlement _ _ _ type' => simp [type'] at type
    | cancellation _ _ _ type' => simp [type'] at type

/-- The entry of a posting is new. -/
theorem Posted.fresh {rt : Runtime} {db db' : Db} {e : LedgerEntry} {r : MutationReceipt} (posted : Posted rt db db' e r) :
    e.id ∉ db.ledgerEntries.rows.map (·.id) := by
  have unique := db'.ledgerEntries.unique
  rw [posted.entries, List.map_append, List.nodup_append] at unique
  exact fun h => unique.2.2 _ h e.id (by simp) rfl

/-- What a posting adds to its own budget's balance; no other balance moves. -/
theorem Posted.available {rt : Runtime} {db db' : Db} {e : LedgerEntry} {r : MutationReceipt} (posted : Posted rt db db' e r)
    (h : Sound db) : ∃ delta, 0 ≤ db.availableMinor e.budgetId + delta ∧
      ∀ b, db'.availableMinor b = db.availableMinor b + if e.budgetId = b then delta else 0 := by
  have solvent := h.solvent e.budgetId
  have closes : ∀ {q : PurchaseRequest} {c : LedgerEntry}, q ∈ db.purchaseRequests.rows →
      e.budgetId = q.budgetId → db.openCommitment? q.id.text q.currentVersion = some c →
      e.relatedEntryId = some c.id → e.entryType.terminal = true → e.amountMinor ≤ c.amountMinor →
      0 < c.amountMinor ∧ ∀ b, db'.availableMinor b =
        db.availableMinor b + if e.budgetId = b then c.amountMinor + e.direct else 0 := by
    intro q c row budget closed related terminal covered
    obtain ⟨hc, -, -, commitment, open_⟩ := openCommitment?_some closed
    refine ⟨?_, fun b => ?_⟩
    · simpa [commitment, EntryType.signed] using db.entry_amount c hc
    · rw [Db.availableMinor, posted.entries]
      exact available_close b db.ledgerEntries.unique hc commitment open_
        ((budget_of_open h.coherent row closed).trans budget.symm) related terminal
  cases posted.cause with
  | bootstrap type uninitialized positive =>
    refine ⟨e.amountMinor, by omega, fun b => ?_⟩
    rw [Db.availableMinor, posted.entries, available_change b (.inl type), Db.availableMinor]
  | change type funds =>
    refine ⟨e.amountMinor, funds, fun b => ?_⟩
    rw [Db.availableMinor, posted.entries, available_change b (.inr type), Db.availableMinor]
  | commitment q v d now type _ _ _ _ _ _ _ _ _ _ _ _ _ _ _ _ funds =>
    refine ⟨-e.amountMinor, by omega, fun b => ?_⟩
    rw [Db.availableMinor, posted.entries, available_commit b type (isOpen_fresh posted.fresh), Db.availableMinor]
    split <;> omega
  | settlement q c now type row _ budget closed related covered =>
    obtain ⟨-, moves⟩ := closes row budget closed related (by rw [type]; rfl) covered
    refine ⟨_, ?_, moves⟩
    simp only [LedgerEntry.direct, type]
    omega
  | cancellation q c now type row _ budget closed related whole =>
    obtain ⟨positive, moves⟩ := closes row budget closed related (by rw [type]; rfl) whole.le
    refine ⟨_, ?_, moves⟩
    simp only [LedgerEntry.direct, type]
    omega

/-- What a posting closes is a commitment of its own budget. -/
theorem Posted.closed_own {rt : Runtime} {db db' : Db} {e c : LedgerEntry} {r : MutationReceipt} (posted : Posted rt db db' e r)
    (coherent : Coherent db) (hc : c ∈ db.ledgerEntries.rows) (closes : e.closes c = true) : c.budgetId = e.budgetId := by
  simp only [LedgerEntry.closes, decide_eq_true_eq] at closes
  obtain ⟨refers, terminal⟩ := closes
  have own : ∀ {q : PurchaseRequest} {d : LedgerEntry}, q ∈ db.purchaseRequests.rows → e.budgetId = q.budgetId →
      db.openCommitment? q.id.text q.currentVersion = some d → e.relatedEntryId = some d.id → c.budgetId = e.budgetId := by
    intro q d row budget closed related
    obtain ⟨hd, -⟩ := openCommitment?_some closed
    have same : c.id = d.id := Option.some.inj (refers.symm.trans related)
    obtain rfl := db.ledgerEntries.row_unique hc hd same
    exact (budget_of_open coherent row closed).trans budget.symm
  cases posted.cause with
  | bootstrap type => simp [type, EntryType.terminal] at terminal
  | change type => cases h : e.entryType <;> simp_all [EntryType.signed, EntryType.terminal]
  | commitment _ _ _ _ type => simp [type, EntryType.terminal] at terminal
  | settlement q c now type row _ budget closed related => exact own row budget closed related
  | cancellation q c now type row _ budget closed related => exact own row budget closed related

/-- The rows of another budget are what they were. -/
theorem scan_other {rows : List LedgerEntry} {e : LedgerEntry} {b : String} (other : e.budgetId ≠ b) :
    Db.scan (rows ++ [e]) b = Db.scan rows b := by
  simp [Db.scan, List.filter_append, other]

/-- The sums of another budget are over the same terms in the same order. -/
theorem Posted.summable_other {rt : Runtime} {db db' : Db} {e : LedgerEntry} {r : MutationReceipt}
    (posted : Posted rt db db' e r) (coherent : Coherent db) {b : String} (other : e.budgetId ≠ b)
    (before : Summable db.ledgerEntries.rows b) : Summable db'.ledgerEntries.rows b := by
  rw [posted.entries]
  constructor
  · simpa only [Db.balanceTerms, scan_other other] using before.balances
  · have same : Db.openTerms (db.ledgerEntries.rows ++ [e]) b = Db.openTerms db.ledgerEntries.rows b := by
      unfold Db.openTerms
      rw [scan_other other]
      congr 1
      refine List.filter_congr fun c mem => ?_
      obtain ⟨hc, budget⟩ := List.mem_filter.mp ((List.perm_insertionSort _ _).mem_iff.mp mem)
      have kept : e.closes c = false := by
        by_contra closes
        have own := posted.closed_own coherent hc (by simpa using closes)
        exact other (own.symm.trans (of_decide_eq_true budget))
      simp [isOpen_append, kept]
    rw [same]
    exact before.commitments

theorem Outcome.sound {rt : Runtime} {db db' : Db} (h : Outcome rt db db') (sound : Sound db) : Sound db' := by
  cases h with
  | unchanged same => exact same ▸ sound
  | request ledger effect =>
    refine ⟨sound.coherent.mono ledger.ledger effect.persists, fun b => ?_, fun b => ?_⟩
    · rw [Db.availableMinor, ledger.ledger]
      exact sound.solvent b
    · rw [ledger.ledger]
      exact sound.summable b
  | posted e r posted =>
    refine ⟨posted.coherent sound.coherent, fun b => ?_, fun b => ?_⟩
    rotate_left
    · by_cases same : e.budgetId = b
      · exact same ▸ posted.summable
      · exact posted.summable_other sound.coherent same (sound.summable b)
    obtain ⟨delta, enough, moves⟩ := posted.available sound
    rw [moves b]
    split
    · next h => exact h ▸ enough
    · simpa using sound.solvent b

theorem Reachable.sound {rt : Runtime} {db : Db} (h : Reachable rt db) : Sound db := by
  induction h with
  | refl => exact sound_empty
  | tail _ hstep ih =>
    obtain ⟨env, call, rfl⟩ := hstep
    exact (call_outcome ih.coherent call).sound ih

/-! ### The check that never fails -/

theorem transactionError_fails {e : Err} (h : Fails e) : Fails (transactionError e) := by
  unfold transactionError
  split
  · split <;> simp
  · exact h

/-- **The recomputed balance is the predicted one**: no call reports `invariant_failure`. -/
theorem applyMutation_fails {L : Type} {rt : Runtime} {env : Env} {label : Option L} {parameters : Dict}
    {digest executionId : String} {db : Db} (coherent : Coherent db) :
    Script.Ends (fun _ _ => True) Fails
      (applyMutation rt env label parameters digest executionId) db := by
  simp only [applyMutation, Script.ends_bind, ends_text, ends_check fun _ => fails_dumps]
  intro key _ encoded _
  refine .of_exec (fun _ _ _ => trivial) fun e s h => ?_
  have body : Script.Ends (fun r s => Applied rt digest executionId key encoded db s r) Fails
      (applyMutationBody rt env parameters digest executionId key encoded) db :=
    applyMutationBody_ends coherent
  have ends := Transaction.run_ends (fun n => (env.faults n).map .sqlite) transactionError body
    (fun k e he => by
      obtain ⟨_, -, rfl⟩ := Option.map_eq_some_iff.mp he
      simp)
  have run : Transaction.run (fun n => (env.faults n).map .sqlite) transactionError
      (applyMutationBody rt env parameters digest executionId key encoded) db = (.error e, s) := h
  rw [run] at ends
  obtain ⟨-, e', fails, rfl⟩ := ends
  exact transactionError_fails fails

/-- The amounts of one kind of entry on a budget. -/
def total (db : Db) (budgetId : String) (type : EntryType) : Int :=
  ((db.ledgerEntries.rows.filter fun e => e.budgetId = budgetId ∧ e.entryType = type).map (·.amountMinor)).sum

/-- The amounts held by commitments with neither a settlement nor a cancellation. -/
def held (db : Db) (budgetId : String) : Int :=
  ((db.ledgerEntries.rows.filter fun c => c.budgetId = budgetId ∧ c.entryType = .commitment ∧
    ∀ t ∈ db.ledgerEntries.rows, t.relatedEntryId = some c.id →
      t.entryType ≠ .settlement ∧ t.entryType ≠ .cancellation).map (·.amountMinor)).sum

theorem held_eq (db : Db) (budgetId : String) :
    held db budgetId = ((unclosed db.ledgerEntries.rows budgetId).map (·.amountMinor)).sum := by
  unfold held unclosed
  congr 2
  refine List.filter_congr fun c _ => decide_eq_decide.mpr ?_
  have open_ : Db.isOpen db.ledgerEntries.rows c = true ↔ ∀ t ∈ db.ledgerEntries.rows,
      t.relatedEntryId = some c.id → t.entryType ≠ .settlement ∧ t.entryType ≠ .cancellation := by
    simp only [Db.isOpen, Bool.not_eq_true', List.any_eq_false, decide_eq_true_eq, not_and]
    refine forall₃_congr fun t _ _ => ?_
    cases t.entryType <;> simp [EntryType.terminal]
  rw [open_]

/-- **Budget ledger soundness.** In every reachable state the balance the code
computes is never negative and is the sum its terms make, and no mutation is ever
refused because its balance came out otherwise. -/
theorem ledger_sound (rt : Runtime) (db : Db) (h : Reachable rt db) :
    (∀ budgetId, ∃ available : Int,
      (availableMinor budgetId : Sql Empty Int).exec db = (.ok available, db) ∧ 0 ≤ available ∧
      available = total db budgetId .allocation + total db budgetId .adjustment +
        total db budgetId .correction - total db budgetId .settlement - held db budgetId) ∧
    ∀ (env : Env) (parameters : Dict) (digest executionId message : String) (db' : Db),
      (applyMutation rt env none parameters digest executionId : Sql Empty MutationReceipt).exec db ≠
        (.error (.budget "invariant_failure" message), db') := by
  refine ⟨fun budgetId => ⟨db.availableMinor budgetId, exec_availableMinor.mpr ⟨h.sound.summable budgetId, rfl, rfl⟩,
    h.sound.solvent budgetId, ?_⟩, ?_⟩
  · rw [held_eq]
    exact available_terms db.ledgerEntries.rows budgetId
  · intro env parameters digest executionId message db' hrun
    exact (applyMutation_fails h.sound.coherent).error hrun message rfl

/-- After a commitment of 300 out of an allocation of 1000. -/
theorem ledger_sound_committed :
    Reachable Sample.runtime Sample.db ∧ ∃ available : Int, Sample.db.availableMinor "b1" = 700 ∧
      (availableMinor "b1" : Sql Empty Int).exec Sample.db = (.ok available, Sample.db) ∧ 0 ≤ available := by
  obtain ⟨available, hrun, positive, -⟩ := (ledger_sound Sample.runtime Sample.db Sample.reachable).1 "b1"
  exact ⟨Sample.reachable, available, by decide +kernel, hrun, positive⟩

end RmtPlatform.Budget
