import RmtPlatform.Budget.Ledger

/-! Exactly one effect for each instruction.

Entries and receipts are added in pairs and never touched again (`Paired`). A call
whose instruction has its receipt gets that receipt back and changes nothing; a
call that shares only its digest or only its key with a receipt is refused. -/
namespace RmtPlatform.Budget

/-- The `n`-th receipt is the `n`-th entry's. -/
def Paired (db : Db) : Prop :=
  List.Forall₂ (fun e r => r.ledgerEntryId = e.id ∧ r.instructionDigest = e.instructionDigest)
    db.ledgerEntries.rows db.idempotencyReceipts.rows

/-- Every receipt's digest is that of the parameters it keeps. -/
def Faithful (rt : Runtime) (db : Db) : Prop :=
  ∀ r ∈ db.idempotencyReceipts.rows, r.contentDigest = rt.sha256 r.parametersJson

/-- Entries and receipts are only ever added. -/
def Extends (db db' : Db) : Prop :=
  db.ledgerEntries.rows <+: db'.ledgerEntries.rows ∧ db.idempotencyReceipts.rows <+: db'.idempotencyReceipts.rows

section
variable {rt : Runtime} {db db' : Db}

theorem Outcome.paired (h : Outcome rt db db') (paired : Paired db) : Paired db' := by
  cases h with
  | unchanged same => exact same ▸ paired
  | request ledger =>
    rw [Paired, ledger.ledger, ledger.receipts]
    exact paired
  | posted e r posted =>
    rw [Paired, posted.entries, posted.receipts]
    exact List.rel_append paired (.cons ⟨posted.entryId, posted.digest⟩ .nil)

theorem Outcome.faithful (h : Outcome rt db db') (faithful : Faithful rt db) : Faithful rt db' := by
  cases h with
  | unchanged same => exact same ▸ faithful
  | request ledger =>
    rw [Faithful, ledger.receipts]
    exact faithful
  | posted e r posted =>
    intro x hx
    rw [posted.receipts] at hx
    rcases List.mem_append.mp hx with hx | hx
    · exact faithful x hx
    · exact List.mem_singleton.mp hx ▸ posted.content

theorem Outcome.extends (h : Outcome rt db db') : Extends db db' := by
  cases h with
  | unchanged same => exact same ▸ ⟨List.prefix_rfl, List.prefix_rfl⟩
  | request ledger => exact ⟨ledger.ledger ▸ List.prefix_rfl, ledger.receipts ▸ List.prefix_rfl⟩
  | posted e r posted => exact ⟨posted.entries ▸ List.prefix_append _ _, posted.receipts ▸ List.prefix_append _ _⟩

theorem Reachable.paired (h : Reachable rt db) : Paired db ∧ Faithful rt db := by
  induction h with
  | refl => exact ⟨.nil, fun r hr => by simp [Db.empty] at hr⟩
  | tail hrun hstep ih =>
    obtain ⟨env, call, rfl⟩ := hstep
    have outcome : Outcome rt _ ((call.script rt env).exec _).2 := call_outcome (Reachable.sound hrun).coherent call
    exact ⟨outcome.paired ih.1, outcome.faithful ih.2⟩

/-- A whole run only adds. -/
theorem run_extends (h : Reachable rt db) (hrun : Relation.ReflTransGen (Step rt) db db') : Extends db db' := by
  induction hrun with
  | refl => exact ⟨List.prefix_rfl, List.prefix_rfl⟩
  | tail hrun hstep ih =>
    obtain ⟨env, call, rfl⟩ := hstep
    have outcome : Outcome rt _ ((call.script rt env).exec _).2 :=
      call_outcome (Reachable.sound (h.trans hrun)).coherent call
    exact ⟨ih.1.trans outcome.extends.1, ih.2.trans outcome.extends.2⟩

end

/-! ### One call -/

section
variable {rt : Runtime} {env : Env} {db : Db} {parameters : Dict} {digest executionId key encoded : String}

/-- The transaction a call of `apply_mutation` runs. -/
theorem applyMutation_exec (hkey : text parameters "idempotency_key" = .ok key)
    (hencoded : dumps parameters = .ok encoded) :
    (applyMutation rt env none parameters digest executionId : Sql Empty _).exec db =
      Transaction.run (fun n => (env.faults n).map .sqlite) transactionError
        (applyMutationBody rt env parameters digest executionId key encoded) db := by
  rw [applyMutation, hkey, hencoded]
  rfl

/-- **A call that raises changes nothing.** -/
theorem applyMutation_error {e : Err} {db' : Db}
    (h : (applyMutation rt env none parameters digest executionId : Sql Empty _).exec db = (.error e, db')) :
    db' = db := by
  cases hkey : text parameters "idempotency_key" with
  | error e' =>
    rw [applyMutation, hkey] at h
    exact (Prod.mk.inj h).2.symm
  | ok key =>
    cases hencoded : dumps parameters with
    | error e' =>
      rw [applyMutation, hkey, hencoded] at h
      exact (Prod.mk.inj h).2.symm
    | ok encoded =>
      rw [applyMutation_exec hkey hencoded] at h
      exact Transaction.run_error h

/-- An instruction with its receipt: the body is one look at it. -/
theorem applyMutationBody_replay {r : MutationReceipt} (row : r ∈ db.idempotencyReceipts.rows)
    (hdigest : r.instructionDigest = digest) :
    (applyMutationBody rt env parameters digest executionId key encoded).exec db =
      (if r.contentDigest ≠ rt.sha256 encoded ∨ r.idempotencyKey ≠ key then
        .error (.budget "idempotency_conflict" "Instruction digest was reused")
      else .ok r, db) := by
  have hfind : db.idempotencyReceipts.find? digest = some r := by
    rw [← hdigest]
    exact db.idempotencyReceipts.find?_of_mem row
  rw [applyMutationBody, Script.exec_bind, exec_select, hfind]
  by_cases differs : r.contentDigest ≠ rt.sha256 encoded ∨ r.idempotencyKey ≠ key
  · simp [Script.exec_bind, Script.exec_raiseIf, differs]
  · simp [Script.exec_bind, Script.exec_raiseIf, differs]

/-- A key another instruction's receipt has: the body refuses it. -/
theorem applyMutationBody_reused {r : MutationReceipt} (row : r ∈ db.idempotencyReceipts.rows)
    (hkey : r.idempotencyKey = key) (hdigest : r.instructionDigest ≠ digest) :
    ∃ e, (applyMutationBody rt env parameters digest executionId key encoded).exec db = (.error e, db) := by
  cases hfind : db.idempotencyReceipts.find? digest with
  | some x =>
    obtain ⟨hx, hxd⟩ := db.idempotencyReceipts.find?_eq_some.mp hfind
    -- The instruction's own receipt has another key: keys are unique.
    have other : x.idempotencyKey ≠ key := fun h => hdigest <| by
      rw [← List.inj_on_of_nodup_map db.receipt_key hx row (h.trans hkey.symm), hxd]
    exact ⟨_, by rw [applyMutationBody_replay hx hxd, if_pos (.inr other)]⟩
  | none =>
    have taken : (db.receiptByKey? key).isSome = true := by
      simpa [Db.receiptByKey?] using ⟨r, row, hkey⟩
    refine ⟨.budget "idempotency_conflict" "Idempotency key was reused", ?_⟩
    rw [applyMutationBody, Script.exec_bind, exec_select, hfind]
    simp [Script.exec_bind, Script.exec_raiseIf, taken]

/-- A transaction whose body cannot return raises, whatever the database refuses. -/
theorem run_refused {α : Type} {faults : Transaction.Faults Err} {body : Sql Empty α} {e : Err}
    (h : body.exec db = (.error e, db)) :
    ∃ e', Transaction.run faults transactionError body db = (.error e', db) := by
  rcases hrun : Transaction.run faults transactionError body db with ⟨e' | a, db'⟩
  · exact ⟨e', by rw [Transaction.run_error hrun]⟩
  · have := Transaction.run_ok hrun
    rw [h] at this
    cases this

end

/-- The call's surroundings refuse no statement. -/
def Env.faultless (env : Env) : Prop := ∀ n, env.faults n = none

/-- **Exactly one effect for each instruction.** In every reachable state entries
and receipts correspond one to one, with distinct digests and distinct keys; a call
that matches a receipt gets it back, a call that matches it in part is refused, a
call that raises changes nothing, and what is written stays. -/
theorem mutations_exactly_once (rt : Runtime) (db : Db) (h : Reachable rt db) :
    (List.Forall₂ (fun e r => r.ledgerEntryId = e.id ∧ r.instructionDigest = e.instructionDigest)
        db.ledgerEntries.rows db.idempotencyReceipts.rows ∧
      (db.ledgerEntries.rows.map (·.id)).Nodup ∧
      (db.idempotencyReceipts.rows.map (·.instructionDigest)).Nodup ∧
      (db.idempotencyReceipts.rows.map (·.idempotencyKey)).Nodup) ∧
    (∀ (env : Env) (parameters : Dict) (digest executionId key encoded : String) (r : MutationReceipt),
      text parameters "idempotency_key" = .ok key → dumps parameters = .ok encoded →
      r ∈ db.idempotencyReceipts.rows →
      let call := (applyMutation rt env none parameters digest executionId : Sql Empty _).exec db
      (r.instructionDigest = digest → r.parametersJson = encoded → r.idempotencyKey = key →
        (env.faultless → call = (.ok r, db)) ∧ (call = (.ok r, db) ∨ ∃ e, call = (.error e, db))) ∧
      (r.instructionDigest = digest ∨ r.idempotencyKey = key →
        ¬(r.instructionDigest = digest ∧ r.parametersJson = encoded ∧ r.idempotencyKey = key) →
        (rt.sha256 r.parametersJson = rt.sha256 encoded → r.parametersJson = encoded) →
        ∃ e, call = (.error e, db))) ∧
    (∀ (env : Env) (parameters : Dict) (digest executionId : String) (e : Err) (db' : Db),
      (applyMutation rt env none parameters digest executionId : Sql Empty _).exec db = (.error e, db') →
      db' = db) ∧
    ∀ db', Relation.ReflTransGen (Step rt) db db' →
      db.ledgerEntries.rows <+: db'.ledgerEntries.rows ∧
      db.idempotencyReceipts.rows <+: db'.idempotencyReceipts.rows := by
  obtain ⟨paired, faithful⟩ := h.paired
  refine ⟨⟨paired, db.ledgerEntries.unique, db.idempotencyReceipts.unique, db.receipt_key⟩, ?_,
    fun _ _ _ _ _ _ => applyMutation_error, fun _ => run_extends h⟩
  intro env parameters digest executionId key encoded r hkey hencoded row call
  have hcall : call = _ := applyMutation_exec hkey hencoded
  refine ⟨fun hdigest hcontent hk => ?_, fun shared differs collides => ?_⟩
  · have content : r.contentDigest = rt.sha256 encoded := by rw [faithful r row, hcontent]
    have body : (applyMutationBody rt env parameters digest executionId key encoded).exec db = _ :=
      applyMutationBody_replay row hdigest
    simp only [content, hk, ne_eq, not_true, or_self, if_false] at body
    constructor
    · intro clean
      rw [hcall, show (fun n => (env.faults n).map Err.sqlite) = fun _ => none from funext fun n => by
        rw [clean n]; rfl]
      exact Transaction.run_none body
    · rcases hrun : call with ⟨e | a, db'⟩
      · rw [hcall] at hrun
        exact .inr ⟨e, by rw [Transaction.run_error hrun]⟩
      · rw [hcall] at hrun
        have := Transaction.run_ok hrun
        rw [body] at this
        exact .inl this.symm
  · rw [hcall]
    by_cases hdigest : r.instructionDigest = digest
    · have changed : r.contentDigest ≠ rt.sha256 encoded ∨ r.idempotencyKey ≠ key := by
        by_contra same
        simp only [not_or, not_not] at same
        exact differs ⟨hdigest, collides (faithful r row ▸ same.1), same.2⟩
      have body : (applyMutationBody rt env parameters digest executionId key encoded).exec db = _ :=
        applyMutationBody_replay row hdigest
      rw [if_pos changed] at body
      exact run_refused body
    · have ⟨_, body⟩ : ∃ e, (applyMutationBody rt env parameters digest executionId key encoded).exec db =
          (.error e, db) := applyMutationBody_reused row (shared.resolve_left hdigest) hdigest
      exact run_refused body

/-- The commitment's instruction once more: its first receipt, and no second entry. -/
theorem mutations_exactly_once_replayed :
    ∃ r ∈ Sample.db.idempotencyReceipts.rows,
      (applyMutation Sample.runtime (Sample.env 6) none Sample.commitment "digest-2" "exec-3" : Sql Empty _).exec
        Sample.db = (.ok r, Sample.db) := by
  obtain ⟨r, row, hdigest, hcontent, hkey⟩ : ∃ r ∈ Sample.db.idempotencyReceipts.rows,
      r.instructionDigest = "digest-2" ∧ dumps Sample.commitment = .ok r.parametersJson ∧
        text Sample.commitment "idempotency_key" = .ok r.idempotencyKey := by
    decide +kernel
  exact ⟨r, row, (((mutations_exactly_once Sample.runtime Sample.db Sample.reachable).2.1 (Sample.env 6)
    Sample.commitment "digest-2" "exec-3" r.idempotencyKey r.parametersJson r hkey hcontent row).1
    hdigest rfl rfl).1 fun _ => rfl⟩

end RmtPlatform.Budget
