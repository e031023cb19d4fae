import RmtPlatform.Core.Lifecycle

/-! What a call of an entry point leaves in the audit and verification stores.

A call that comes as far as the engine (`Engages`) is stopped there before an adapter
is asked, or an adapter answers it (`Executed`); any other call leaves both stores as
they were. `boundary_yields` says so of both entry points. -/
namespace RmtPlatform.Core

variable {W L : Type} (P : Platform W L)

/-- The two entry points. -/
inductive Boundary where
  | governed (action : ActionRequest) (adapterName : String)
  | approval (approvalId approvedBy : String) (approved : Bool)

def Boundary.script : Boundary → Governed W L GovernedResult
  | governed action adapterName => executeGovernedAction P action adapterName
  | approval approvalId approvedBy approved => approveHeldAction P approvalId approvedBy approved

/-- The call comes to the engine, with this request for this adapter and in this state. -/
inductive Engages : Boundary → State W → ExecutionRequest → String → State W → Prop where
  | governed (action : ActionRequest) (adapterName : String) (s s₁ : State W) (assessment : GovernanceAssessment)
      (assessed : (resolveAssessment P action adapterName).exec s = (.ok assessment, s₁))
      (allowed : assessment.policyResult.allowed = true)
      (auto : (evaluateApproval action assessment.policyResult assessment.riskResult).1 = .auto) :
      Engages (.governed action adapterName) s (automaticRequest P s₁ action adapterName assessment) adapterName
        (automaticState P s₁ action assessment)
  | approval (approvalId approvedBy : String) (hold : ApprovalHold) (s s₁ : State W)
      (resumable : Resumable P s approvalId hold) (checked : s₁ = { s with ticks := checkedTicks s hold.expiresAt }) :
      Engages (.approval approvalId approvedBy true) s (manualRequest P s₁ hold) hold.adapterName
        (manualState P s₁ hold approvedBy approvalId)

/-- No check stops the request, and an adapter is asked to execute it or raises before. -/
def Taken (request : ExecutionRequest) (adapterName : String) (s : State W) : Prop :=
  refusal P s request adapterName = none ∧
    ∃ adapter, P.adapter? adapterName = some adapter ∧ ((adapter.supports request).exec s.world).1 ≠ .ok false

/-- The adapter may answer the request with this result. -/
def Answers (request : ExecutionRequest) (adapterName : String) (result : ExecutionResult) : Prop :=
  ∃ adapter w, P.adapter? adapterName = some adapter ∧ ((adapter.execute request).exec w).1 = .ok result

/-- What a call of the engine leaves in the two stores, if it returns. -/
inductive Executed (request : ExecutionRequest) (adapterName : String) (s : State W) : Execution → State W → Prop where
  | stopped (e : Execution) (s' : State W) (stopped : ¬Taken P request adapterName s) (failure : e.success = false)
      (id : e.executionId = request.executionId) (audits : s'.audits = s.audits)
      (verifications : s'.verifications = s.verifications) : Executed request adapterName s e s'
  | failed (e : Execution) (s' : State W) (result : ExecutionResult) (a : ExecutionAuditRecord)
      (taken : Taken P request adapterName s) (answer : Answers P request adapterName result)
      (failure : e.success = false) (id : e.executionId = result.executionId)
      (audited : a.executionId = result.executionId) (adapter : a.adapter = adapterName)
      (audits : s'.audits = s.audits.save a) (verifications : s'.verifications = s.verifications) :
      Executed request adapterName s e s'
  | succeeded (e : Execution) (s' : State W) (result : ExecutionResult) (a : ExecutionAuditRecord)
      (observed : Option ObservedState)
      (taken : Taken P request adapterName s) (answer : Answers P request adapterName result)
      (success : e.success = true) (id : e.executionId = result.executionId)
      (audited : a.executionId = result.executionId) (adapter : a.adapter = adapterName)
      (audits : s'.audits = s.audits.save a)
      (verifications : s'.verifications =
        s.verifications.save (verify result.executionId request.expectedOutcome observed)) :
      Executed request adapterName s e s'

/-- Neither store is changed. -/
structure Unrecorded (s s' : State W) : Prop where
  audits : s'.audits = s.audits
  verifications : s'.verifications = s.verifications
  draws : s.draws ≤ s'.draws

/-- What a call comes to that returns. -/
inductive Outcome (b : Boundary) (s : State W) : GovernedResult → State W → Prop where
  | unexecuted (r : GovernedResult) (s' : State W) (result : r.execution? = none) (same : Unrecorded s s') :
      Outcome b s r s'
  | executed (r : GovernedResult) (e : Execution) (request : ExecutionRequest) (adapterName : String) (s₁ s' : State W)
      (result : r.execution? = some e) (engages : Engages P b s request adapterName s₁)
      (executed : Executed P request adapterName s₁ e s') (draws : s₁.draws ≤ s'.draws) : Outcome b s r s'

section
variable {P} {s s₁ s' : State W} {request : ExecutionRequest} {adapterName : String}

theorem Unrecorded.refl (s : State W) : Unrecorded s s := ⟨rfl, rfl, le_rfl⟩

theorem Unrecorded.trans (h : Unrecorded s s₁) (h' : Unrecorded s₁ s') : Unrecorded s s' :=
  ⟨h'.audits.trans h.audits, h'.verifications.trans h.verifications, h.draws.trans h'.draws⟩

theorem Still.unrecorded (h : Still s s') : Unrecorded s s' := by
  refine ⟨?_, ?_, h.draws⟩
  · rw [h.same]
  · rw [h.same]

/-- The engine is called before anything is recorded, with an identifier of its own. -/
theorem Engages.before {b : Boundary} (h : Engages P b s request adapterName s₁) :
    Unrecorded s s₁ ∧ New P.uuid4 s s₁ request.executionId := by
  cases h with
  | governed action adapterName s s₁ assessment assessed allowed auto =>
    have spec : Script.Yields _ _ (resolveAssessment P action adapterName) s := resolveAssessment_yields
    have still : Still s s₁ := (spec.ok assessed).2.1
    refine ⟨still.unrecorded.trans ⟨rfl, rfl, Nat.le_add_right _ _⟩, s₁.draws + 2, ?_, ?_, rfl⟩
    · exact Nat.le_add_right_of_le still.draws
    · exact Nat.lt_succ_self (s₁.draws + 2)
  | approval approvalId approvedBy hold s s₁ resumable checked =>
    subst checked
    refine ⟨⟨rfl, rfl, Nat.le_add_right _ _⟩, s.draws + 1, Nat.le_succ _, ?_, rfl⟩
    exact Nat.lt_succ_self (s.draws + 1)

/-- An ending that returns without an audit record was stopped before the adapter. -/
theorem Ending.executed {labels : List (Event L)} {result : ExecutionResult} (h : Ending P request adapterName s labels
    (.ok result) s') : s'.verifications = s.verifications ∧ s'.draws = s.draws ∧
      ((¬Taken P request adapterName s ∧ result.success = false ∧ result.executionId = request.executionId ∧
          s'.audits = s.audits) ∨
        Taken P request adapterName s ∧ Answers P request adapterName result ∧
          ∃ a : ExecutionAuditRecord, a.executionId = result.executionId ∧ a.adapter = adapterName ∧
            s'.audits = s.audits.save a) := by
  cases h with
  | refused reason ticks t why id told =>
    refine ⟨rfl, rfl, .inl ⟨fun taken => ?_, rfl, rfl, rfl⟩⟩
    simp [taken.1] at why
  | unknown ticks passed adapter =>
    refine ⟨rfl, rfl, .inl ⟨?_, rfl, rfl, rfl⟩⟩
    rintro ⟨-, adapter', registered, -⟩
    simp [adapter] at registered
  | unsupported ticks adapter passed registered supports =>
    refine ⟨rfl, rfl, .inl ⟨?_, rfl, rfl, rfl⟩⟩
    rintro ⟨-, adapter', registered', supports'⟩
    obtain rfl : adapter = adapter' := by simpa [registered] using registered'
    exact supports' supports
  | returned ticks adapter result checkedAt authorization w a t passed registered supports executes audit id allows =>
    refine ⟨rfl, rfl, .inr ⟨⟨passed.1, adapter, registered, by simp [supports]⟩, ⟨adapter, w, registered, executes⟩, a, ?_⟩⟩
    rw [audit]
    exact ⟨rfl, rfl, rfl⟩

theorem Ending.unrecorded {labels : List (Event L)} {e : Raised} (h : Ending P request adapterName s labels (.error e) s') :
    Unrecorded s s' := by
  cases h with
  | unbound => exact ⟨rfl, rfl, le_rfl⟩
  | undetermined => exact ⟨rfl, rfl, le_rfl⟩
  | raised => exact ⟨rfl, rfl, le_rfl⟩

/-- **What executing and verifying leaves.** -/
theorem executed_yields : Script.Yields
    (fun e s' (_ : List (Event L)) => Executed P request adapterName s e s' ∧ s.draws ≤ s'.draws)
    (fun _ s' _ => Unrecorded s s') (executeAndVerify P request adapterName) s := by
  apply yields_executeAndVerify
  · intro e s₁ ls ending
    exact ending.unrecorded
  · intro result s₁ ls ending failure
    obtain ⟨verifications, draws, ⟨stopped, -, id, audits⟩ | ⟨taken, answer, a, audited, adapter, audits⟩⟩ := ending.executed
    · exact ⟨.stopped _ _ stopped rfl id audits verifications, draws.ge⟩
    · exact ⟨.failed _ _ result a taken answer rfl rfl audited adapter audits verifications, draws.ge⟩
  · intro result s₁ ls observed w ws ending success worlds
    obtain ⟨verifications, draws, ⟨-, failure, -⟩ | ⟨taken, answer, a, audited, adapter, audits⟩⟩ := ending.executed
    · simp [failure] at success
    · refine ⟨.succeeded _ _ result a observed taken answer rfl rfl audited adapter audits ?_, draws.ge⟩
      show s₁.verifications.save _ = s.verifications.save _
      rw [verifications]

/-- **What a call of an entry point leaves.** -/
theorem boundary_yields (b : Boundary) : Script.Yields
    (fun r s' (_ : List (Event L)) => Outcome P b s r s') (fun _ s' _ => Unrecorded s s') (b.script P) s := by
  have engaged : ∀ {request : ExecutionRequest} {adapterName : String} {s₁ : State W} {r : Execution → GovernedResult},
      Engages P b s request adapterName s₁ → (∀ e, (r e).execution? = some e) →
      Script.Yields (fun e s' (_ : List (Event L)) => Outcome P b s (r e) s') (fun _ s' _ => Unrecorded s s')
        (executeAndVerify P request adapterName) s₁ := fun {request adapterName s₁ r} engages result =>
    executed_yields.mono (fun e s' ls h => .executed (r e) e request adapterName s₁ s' (result e) engages h.1 h.2)
      fun e s' ls h => engages.before.1.trans h
  cases b with
  | governed action adapterName =>
    apply yields_executeGovernedAction
    · intro e s₁ ls answer only
      refine ⟨fun _ _ => only.still.unrecorded, ?_⟩
      exact .unexecuted _ _ rfl only.still.unrecorded
    · intro assessment s₁ ws answer assesses still worlds
      by_cases allowed : assessment.policyResult.allowed = true
      · rw [if_pos allowed]
        by_cases auto : (evaluateApproval action assessment.policyResult assessment.riskResult).1 = .auto
        · apply yields_proceed_auto auto
          exact engaged (.governed action adapterName s s₁ assessment answer allowed auto) fun _ => rfl
        · apply proceed_other auto
          · intro reason r _
            exact .unexecuted _ _ rfl (still.unrecorded.trans ⟨rfl, rfl, Nat.le_succ _⟩)
          · intro reason hold r _ _
            exact .unexecuted _ _ rfl (still.unrecorded.trans ⟨rfl, rfl, Nat.le_add_right _ _⟩)
      · rw [if_neg allowed]
        exact .unexecuted _ _ rfl still.unrecorded
  | approval approvalId approvedBy approved =>
    apply yields_approveHeldAction
    · intro r s' ls result resolved _ _
      apply Outcome.unexecuted _ _ result
      rw [resolved]
      exact ⟨rfl, rfl, le_rfl⟩
    · intro e s' hold _ _ resolved
      rw [resolved]
      exact ⟨rfl, rfl, le_rfl⟩
    · rintro hold s₁ resumable checked rfl
      exact engaged (.approval approvalId approvedBy hold s s₁ resumable checked) fun _ => rfl

end

end RmtPlatform.Core
