import RmtPlatform.Core.Service

/-! What each call of the core does to holds, approval records and authorizations.

Most of a call touches none of them (`Quiet`). A call that runs alone to its end,
returning or raising, has one of the effects of `Effect`; the invariants between
calls are proved from these alone. -/
namespace RmtPlatform.Core

variable {W L : Type} {P : Platform W L}

/-! ### What touches none of the three stores -/

structure Quiet (s s' : State W) : Prop where
  holds : s'.holds = s.holds
  records : s'.records = s.records
  authorizations : s'.authorizations = s.authorizations
  draws : s.draws ≤ s'.draws

theorem Quiet.refl (s : State W) : Quiet s s := ⟨rfl, rfl, rfl, le_rfl⟩

theorem Quiet.trans (s s' s'' : State W) (h : Quiet s s') (h' : Quiet s' s'') : Quiet s s'' :=
  ⟨h'.holds.trans h.holds, h'.records.trans h.records, h'.authorizations.trans h.authorizations,
    h.draws.trans h'.draws⟩

section
variable {α β : Type}

@[simp] theorem exec_uuid4 (s : State W) : (uuid4 P).exec s = (.ok (P.uuid4 s.draws).text, { s with draws := s.draws + 1 }) :=
  rfl

@[simp] theorem exec_now (s : State W) : (now P).exec s = (.ok (P.clock s.ticks), { s with ticks := s.ticks + 1 }) := rfl

@[simp] theorem exec_outside (x : Script W L Raised α) (s : State W) :
    (outside x).exec s = ((x.exec s.world).1, { s with world := (x.exec s.world).2 }) :=
  Program.run_within State.worldPart Event.world x s

/-- A script that moves none of the three stores. -/
abbrev QuietScript (x : Governed W L α) : Prop := Script.Moves Quiet x

/-- A step that moves none of them, with a label in `M`. -/
structure Calm (M : Event L → Prop) (s : State W) (l : Option (Event L)) (s' : State W) : Prop extends Quiet s s' where
  labels : ∀ m ∈ l, M m

/-- A script of such steps, from whatever state each is taken. -/
abbrev CalmScript (M : Event L → Prop) (x : Governed W L α) : Prop := Script.Steps (Calm M) x

variable {M : Event L → Prop}

theorem CalmScript.quiet {x : Governed W L α} (h : CalmScript M x) : QuietScript x :=
  Script.Steps.moves h Quiet.refl Quiet.trans fun _ _ _ h => h.toQuiet

theorem CalmScript.emitted {x : Governed W L α} (h : CalmScript M x) (s : State W) : ∀ m ∈ Script.emitted x s, M m :=
  Script.Steps.emitted h (fun _ m _ h => h.labels m rfl) s

theorem CalmScript.bind {x : Governed W L α} {f : α → Governed W L β} (hx : CalmScript M x)
    (hf : ∀ a, CalmScript M (f a)) : CalmScript M (x >>= f) :=
  Script.Steps.bind hx hf

theorem Calm.silent {s s' : State W} (h : Quiet s s') : Calm M s none s' := ⟨h, by simp⟩

theorem calm_pure (a : α) : CalmScript M (pure a : Governed W L α) := trivial

theorem calm_throw (e : Raised) : CalmScript M (throw e : Governed W L α) := trivial

theorem calm_ofExcept (r : Except Raised α) : CalmScript M (Script.ofExcept r : Governed W L α) :=
  Script.steps_ofExcept r

theorem calm_raiseIf (c : Prop) [Decidable c] (e : Raised) : CalmScript M (Script.raiseIf c e : Governed W L Unit) :=
  Script.steps_raiseIf c e

theorem calm_read (f : State W → α) : CalmScript M (Script.read f : Governed W L α) :=
  Script.steps_read fun s => .silent (Quiet.refl s)

theorem calm_uuid4 : CalmScript M (uuid4 P) := fun _ => ⟨.silent ⟨rfl, rfl, rfl, Nat.le_succ _⟩, trivial⟩

theorem calm_now : CalmScript M (now P) := fun _ => ⟨.silent ⟨rfl, rfl, rfl, le_rfl⟩, trivial⟩

theorem calm_announce {m : Event L} (hm : M m) : CalmScript M (Script.announce m : Governed W L Unit) :=
  Script.steps_modify fun s => ⟨Quiet.refl s, by simpa using hm⟩

theorem calm_saveTrace (t : ExecutionTrace) : CalmScript M (saveTrace t : Governed W L Unit) :=
  Script.steps_modify fun _ => .silent ⟨rfl, rfl, rfl, le_rfl⟩

theorem calm_saveAudit (a : ExecutionAuditRecord) : CalmScript M (saveAudit a : Governed W L Unit) :=
  Script.steps_modify fun _ => .silent ⟨rfl, rfl, rfl, le_rfl⟩

theorem calm_saveVerification (v : VerificationResult) : CalmScript M (saveVerification v : Governed W L Unit) :=
  Script.steps_modify fun _ => .silent ⟨rfl, rfl, rfl, le_rfl⟩

theorem calm_blocked (request : ExecutionRequest) (reason : String) :
    CalmScript M (blocked request reason : Governed W L ExecutionResult) :=
  (calm_saveTrace _).bind fun _ => calm_pure _

theorem calm_expired (expiresAt : Option Int) : CalmScript M (expired P expiresAt) := by
  unfold expired
  split
  · exact calm_pure _
  · exact calm_now.bind fun _ => calm_pure _

theorem calm_translate {action : ActionRequest} {id : String} {riskLevel : Option String} {adapterName : String}
    {assessment hold : Provenance} :
    CalmScript M (translateActionToExecution P action id riskLevel adapterName assessment hold) :=
  calm_uuid4.bind fun _ => calm_pure _

section
variable (world : ∀ l, M (.world l))
include world

theorem calm_outside (x : Script W L Raised α) : CalmScript M (outside x) :=
  Program.Steps.within fun t l s => ⟨⟨rfl, rfl, rfl, le_rfl⟩, by cases l <;> simp [world]⟩

theorem calm_evaluate {registration : AssessmentRegistration W L} {action : ActionRequest} {adapterName : String} :
    CalmScript M (evaluate P registration action adapterName) :=
  (calm_ofExcept _).bind fun _ => (calm_outside world _).bind fun _ => (calm_outside world _).bind fun _ => calm_pure _

theorem calm_resolveAssessment {action : ActionRequest} {adapterName : String}
    (assessed : ∀ assessment, M (.assessed action adapterName assessment)) :
    CalmScript M (resolveAssessment P action adapterName) := by
  unfold resolveAssessment
  split
  · exact calm_throw _
  · refine (calm_raiseIf _ _).bind fun _ => ?_
    refine (calm_raiseIf _ _).bind fun _ => ?_
    refine CalmScript.bind (Script.Steps.caught (calm_evaluate world)) fun answers => ?_
    split
    · exact calm_throw _
    · refine (calm_ofExcept _).bind fun _ => ?_
      refine (calm_ofExcept _).bind fun _ => ?_
      refine (calm_raiseIf _ _).bind fun _ => ?_
      exact calm_uuid4.bind fun _ => (calm_announce (assessed _)).bind fun _ => calm_pure _

theorem calm_perform {a : ExecutionAuthorization} {checkedAt : Option Int} {request : ExecutionRequest}
    {adapterName : String} (executes : M (.adapterExecute checkedAt a request adapterName)) :
    CalmScript M (perform P a checkedAt request adapterName) := by
  unfold perform
  dsimp only
  split
  · exact (calm_saveTrace _).bind fun _ => calm_pure _
  · split
    · exact calm_pure _
    · refine (calm_outside world _).bind fun supported => ?_
      split
      · exact calm_pure _
      · exact (calm_announce executes).bind fun _ => (calm_outside world _).bind fun _ => (calm_saveAudit _).bind fun _ =>
          (calm_saveTrace _).bind fun _ => calm_pure _

theorem calm_execute {request : ExecutionRequest} {adapterName : String}
    (executes : ∀ checkedAt a, M (.adapterExecute checkedAt a request adapterName)) :
    CalmScript M (execute P request adapterName) := by
  unfold execute
  refine (calm_read _).bind fun authorization => ?_
  split
  · exact calm_blocked _ _
  · split
    · exact calm_blocked _ _
    · refine (calm_expired _).bind fun late => ?_
      dsimp only
      split
      · exact calm_blocked _ _
      · split
        · exact calm_blocked _ _
        · refine (calm_ofExcept _).bind fun differs => ?_
          split
          · exact calm_blocked _ _
          · exact calm_perform world (executes _ _)

theorem calm_observe {request : ExecutionRequest} : CalmScript M (observe P request) := by
  unfold observe
  dsimp only
  split
  · refine CalmScript.bind (Script.Steps.caught (calm_outside world _)) fun modules => ?_
    split
    · exact calm_pure _
    · split <;> exact calm_pure _
  · exact calm_pure _

theorem calm_executeAndVerify {request : ExecutionRequest} {adapterName : String}
    (executes : ∀ checkedAt a, M (.adapterExecute checkedAt a request adapterName)) :
    CalmScript M (executeAndVerify P request adapterName) := by
  refine (calm_execute world executes).bind fun result => ?_
  split
  · exact CalmScript.bind ((calm_observe world).bind fun _ => (calm_saveVerification _).bind fun _ => calm_pure _)
      fun _ => calm_pure _
  · exact calm_pure _

end

theorem quiet_resolveAssessment {action : ActionRequest} {adapterName : String} :
    QuietScript (resolveAssessment P action adapterName) :=
  (calm_resolveAssessment (M := fun _ => True) (fun _ => trivial) fun _ => trivial).quiet

theorem quiet_expired (expiresAt : Option Int) : QuietScript (expired P expiresAt) :=
  (calm_expired (M := fun _ => True) expiresAt).quiet

/-- From the translation to the end. -/
theorem quiet_released {action : ActionRequest} {id : String} {riskLevel : Option String} {adapterName : String}
    {assessment hold : Provenance} {result : Execution → GovernedResult} : QuietScript (do
      let request ← translateActionToExecution P action id riskLevel adapterName assessment hold
      let execution ← executeAndVerify P request adapterName
      pure (result execution)) :=
  CalmScript.quiet (M := fun _ => True) (calm_translate.bind fun _ =>
    (calm_executeAndVerify (fun _ => trivial) fun _ _ => trivial).bind fun _ => calm_pure _)

end

/-! ### What a whole call does -/

/-- An identifier drawn between two states. -/
def New (uuid4 : Nat → Uuid) (s s' : State W) (id : String) : Prop :=
  ∃ n, s.draws ≤ n ∧ n < s'.draws ∧ id = (uuid4 n).text

/-- What the two entry points, run to their end, do to holds, approval records and authorizations. -/
inductive Effect (uuid4 : Nat → Uuid) (s s' : State W) : Prop where
  | quiet (quiet : Quiet s s')
  | recorded (r : ApprovalRecord) (id : New uuid4 s s' r.approvalId) (decision : r.decision = "rejected")
      (holds : s'.holds = s.holds) (records : s'.records = s.records.save r)
      (authorizations : s'.authorizations = s.authorizations)
  | held (h : ApprovalHold) (r : ApprovalRecord) (id : New uuid4 s s' h.approvalId) (status : h.status = .pending)
      (same : r.approvalId = h.approvalId) (decision : r.decision = "manual_required")
      (holds : s'.holds = s.holds.save h) (records : s'.records = s.records.save r)
      (authorizations : s'.authorizations = s.authorizations)
  | authorized (r : ApprovalRecord) (a : ExecutionAuthorization) (id : New uuid4 s s' r.approvalId)
      (authorizationId : New uuid4 s s' a.authorizationId) (decision : r.decision = "approved")
      (approval : a.approvalId = some r.approvalId) (type : a.authorizationType = "automatic")
      (holds : s'.holds = s.holds) (records : s'.records = s.records.save r)
      (authorizations : s'.authorizations = s.authorizations.save a)
  | expired (h : ApprovalHold) (row : s.hold? h.approvalId = some h) (status : h.status = .pending)
      (draws : s.draws ≤ s'.draws)
      (holds : s'.holds = s.holds.mutate (·.approvalId) h.approvalId fun h => { h with status := .rejected })
      (records : s'.records = s.records) (authorizations : s'.authorizations = s.authorizations)
  | rejected (h : ApprovalHold) (approver : String) (row : s.hold? h.approvalId = some h)
      (status : h.status = .pending) (draws : s.draws ≤ s'.draws)
      (holds : s'.holds = s.holds.mutate (·.approvalId) h.approvalId fun h => { h with status := .rejected })
      (records : s'.records = s.records.update (·.approvalId) h.approvalId fun r =>
        { r with decision := "rejected", approvedBy := approver })
      (authorizations : s'.authorizations = s.authorizations)
  | approved (h : ApprovalHold) (approver : String) (a : ExecutionAuthorization)
      (row : s.hold? h.approvalId = some h) (status : h.status = .pending)
      (authorizationId : New uuid4 s s' a.authorizationId) (approval : a.approvalId = some h.approvalId)
      (type : a.authorizationType = "manual")
      (holds : s'.holds = (s.holds.mutate (·.approvalId) h.approvalId fun h => { h with status := .approved }).mutate
        (·.approvalId) h.approvalId fun h => { h with approvedBy := some approver })
      (records : s'.records = s.records.update (·.approvalId) h.approvalId fun r =>
        { r with decision := "approved", approvedBy := approver })
      (authorizations : s'.authorizations = s.authorizations.save a)

section
variable {s s₁ s' : State W} {uuid4 : Nat → Uuid}

theorem New.mono {id : String} {t t' : State W} (h : New uuid4 s s' id) (before : t.draws ≤ s.draws)
    (after : s'.draws ≤ t'.draws) : New uuid4 t t' id := by
  obtain ⟨n, lower, upper, rfl⟩ := h
  exact ⟨n, before.trans lower, upper.trans_le after, rfl⟩

theorem Effect.after (h : Effect uuid4 s₁ s') (quiet : Quiet s s₁) : Effect uuid4 s s' := by
  have up : ∀ {id}, New uuid4 s₁ s' id → New uuid4 s s' id := fun h => h.mono quiet.draws le_rfl
  have row : ∀ {id h}, s₁.hold? id = some h → s.hold? id = some h := fun h => by
    unfold State.hold? at *
    rwa [quiet.holds] at h
  cases h with
  | quiet h => exact .quiet (quiet.trans _ _ _ h)
  | recorded r id decision holds records authorizations =>
    exact .recorded r (up id) decision (holds.trans quiet.holds) (quiet.records ▸ records)
      (authorizations.trans quiet.authorizations)
  | held h r id status same decision holds records authorizations =>
    exact .held h r (up id) status same decision (quiet.holds ▸ holds) (quiet.records ▸ records)
      (authorizations.trans quiet.authorizations)
  | authorized r a id authorizationId decision approval type holds records authorizations =>
    exact .authorized r a (up id) (up authorizationId) decision approval type (holds.trans quiet.holds)
      (quiet.records ▸ records) (quiet.authorizations ▸ authorizations)
  | expired h found status draws holds records authorizations =>
    exact .expired h (row found) status (quiet.draws.trans draws) (quiet.holds ▸ holds)
      (records.trans quiet.records) (authorizations.trans quiet.authorizations)
  | rejected h approver found status draws holds records authorizations =>
    exact .rejected h approver (row found) status (quiet.draws.trans draws) (quiet.holds ▸ holds)
      (quiet.records ▸ records) (authorizations.trans quiet.authorizations)
  | approved h approver a found status authorizationId approval type holds records authorizations =>
    exact .approved h approver a (row found) status (up authorizationId) approval type (quiet.holds ▸ holds)
      (quiet.records ▸ records) (quiet.authorizations ▸ authorizations)

theorem Effect.before (h : Effect uuid4 s s₁) (quiet : Quiet s₁ s') : Effect uuid4 s s' := by
  have up : ∀ {id}, New uuid4 s s₁ id → New uuid4 s s' id := fun h => h.mono le_rfl quiet.draws
  cases h with
  | quiet h => exact .quiet (h.trans _ _ _ quiet)
  | recorded r id decision holds records authorizations =>
    exact .recorded r (up id) decision (quiet.holds.trans holds) (quiet.records.trans records)
      (quiet.authorizations.trans authorizations)
  | held h r id status same decision holds records authorizations =>
    exact .held h r (up id) status same decision (quiet.holds.trans holds) (quiet.records.trans records)
      (quiet.authorizations.trans authorizations)
  | authorized r a id authorizationId decision approval type holds records authorizations =>
    exact .authorized r a (up id) (up authorizationId) decision approval type (quiet.holds.trans holds)
      (quiet.records.trans records) (quiet.authorizations.trans authorizations)
  | expired h found status draws holds records authorizations =>
    exact .expired h found status (draws.trans quiet.draws) (quiet.holds.trans holds)
      (quiet.records.trans records) (quiet.authorizations.trans authorizations)
  | rejected h approver found status draws holds records authorizations =>
    exact .rejected h approver found status (draws.trans quiet.draws) (quiet.holds.trans holds)
      (quiet.records.trans records) (quiet.authorizations.trans authorizations)
  | approved h approver a found status authorizationId approval type holds records authorizations =>
    exact .approved h approver a found status (up authorizationId) approval type (quiet.holds.trans holds)
      (quiet.records.trans records) (quiet.authorizations.trans authorizations)

/-- A quiet script before. -/
theorem effect_after {α β : Type} {x : Governed W L α} {f : α → Governed W L β} (hx : QuietScript x)
    (hf : ∀ a s₁, x.exec s = (.ok a, s₁) → Effect uuid4 s₁ ((f a).exec s₁).2) : Effect uuid4 s ((x >>= f).exec s).2 := by
  have quiet := hx s
  rw [Script.exec_bind]
  rcases h : x.exec s with ⟨e | a, s₁⟩ <;> rw [h] at quiet
  · exact .quiet quiet
  · exact (hf a s₁ h).after quiet

theorem holdForManualApproval_exec (action : ActionRequest) (decision : ApprovalDecision) (adapterName : String)
    (riskLevel : Option String) (assessment : Option GovernanceAssessment) :
    ∃ hold, (holdForManualApproval P action decision adapterName riskLevel assessment).exec s =
        (.ok hold, { s with draws := s.draws + 1, ticks := s.ticks + 1, holds := s.holds.save hold }) ∧
      hold.status = .pending ∧ hold.approvalId = (P.uuid4 s.draws).text :=
  ⟨_, rfl, rfl, rfl⟩

theorem processApproval_exec {action : ActionRequest} {policy : ActionPolicyResult} {risk : ActionSimulationResult} :
    (processApproval P action policy risk).exec s =
      (.ok ⟨(P.uuid4 s.draws).text, action.actionId, (evaluateApproval action policy risk).1,
        decide ((evaluateApproval action policy risk).1 = .auto), (evaluateApproval action policy risk).2⟩,
        { s with draws := s.draws + 1 }) :=
  rfl

theorem createExecutionAuthorization_exec (action : ActionRequest) (decision : ApprovalDecision)
    (assessment : Option GovernanceAssessment) (auto : decision.mode = .auto) (approved : decision.approved = true) :
    ∃ a, (createExecutionAuthorization P action decision assessment).exec s =
        (.ok (some a), { s with draws := s.draws + 1, ticks := s.ticks + 1 }) ∧
      a.authorizationId = (P.uuid4 s.draws).text ∧ a.approvalId = some decision.approvalId ∧
      a.authorizationType = "automatic" := by
  rw [createExecutionAuthorization, if_neg (by simp [auto]), if_neg (by simp [approved])]
  exact ⟨_, rfl, rfl, rfl, rfl⟩

/-- From the decision on. -/
theorem proceed_effect {action : ActionRequest} {adapterName : String} {assessment : GovernanceAssessment} :
    Effect P.uuid4 s ((processApproval P action assessment.policyResult assessment.riskResult >>= fun decision =>
      proceed P action adapterName assessment decision).exec s).2 := by
  rw [Script.exec_bind, processApproval_exec]
  generalize (evaluateApproval action assessment.policyResult assessment.riskResult).2 = reason
  cases mode : (evaluateApproval action assessment.policyResult assessment.riskResult).1 with
  | reject =>
    refine .recorded _ ⟨s.draws, le_rfl, Nat.lt_succ_self _, ?_⟩ rfl rfl rfl rfl
    simp [approvalRecord, orText]
  | manual =>
    obtain ⟨hold, hexec, status, id⟩ := holdForManualApproval_exec (P := P) (s := { s with draws := s.draws + 1 })
      action ⟨(P.uuid4 s.draws).text, action.actionId, .manual, false, reason⟩ adapterName
      (some assessment.riskResult.riskLevel) (some assessment)
    simp only [proceed, Script.exec_bind]
    simp only [reduceCtorEq, decide_false, hexec]
    refine .held hold _ ⟨s.draws + 1, Nat.le_succ _, Nat.lt_succ_self _, id⟩ status ?_ rfl rfl rfl rfl
    simp [approvalRecord, orText, id, Uuid.text_ne]
  | auto =>
    let decision : ApprovalDecision := ⟨(P.uuid4 s.draws).text, action.actionId, .auto, true, reason⟩
    let r := approvalRecord action decision "approved" "approval_policy" none (some assessment)
    obtain ⟨a, aexec, authorizationId, approval, type⟩ := createExecutionAuthorization_exec (P := P)
      (s := { s with draws := s.draws + 1, records := s.records.save r }) action decision (some assessment) rfl rfl
    have rest : QuietScript (do
        let request ← translateActionToExecution P action a.authorizationId (some assessment.riskResult.riskLevel)
          adapterName assessment.provenance .missing
        let execution ← executeAndVerify P request adapterName
        pure (GovernedResult.executed execution)) :=
      quiet_released
    have saved : Effect P.uuid4 s { s with
        draws := s.draws + 1 + 1
        ticks := s.ticks + 1
        records := s.records.save r
        authorizations := s.authorizations.save a } := by
      refine .authorized r a ⟨s.draws, le_rfl, Nat.lt_succ_of_lt (Nat.lt_succ_self _), ?_⟩
        ⟨s.draws + 1, Nat.le_succ _, Nat.lt_succ_self _, authorizationId⟩ rfl
        (approval.trans ?_) type rfl rfl rfl
      · simp [r, decision, approvalRecord, orText]
      · simp [r, decision, approvalRecord, orText]
    show Effect P.uuid4 s ((proceed P action adapterName assessment decision).exec { s with draws := s.draws + 1 }).2
    have proceeds : (proceed P action adapterName assessment decision).exec { s with draws := s.draws + 1 } =
        Script.exec (do
          let request ← translateActionToExecution P action a.authorizationId
            (some assessment.riskResult.riskLevel) adapterName assessment.provenance .missing
          let execution ← executeAndVerify P request adapterName
          pure (GovernedResult.executed execution)) { s with
            draws := s.draws + 1 + 1
            ticks := s.ticks + 1
            records := s.records.save r
            authorizations := s.authorizations.save a } := by
      simp only [proceed, decision]
      rw [Script.exec_bind, Script.exec_announce]
      dsimp only
      rw [Script.exec_bind, recordApprovalDecision, saveRecord, Script.exec_modify]
      dsimp only
      rw [Script.exec_bind, aexec]
      dsimp only
      rw [Script.exec_bind, saveAuthorization, Script.exec_modify]
    rw [proceeds]
    exact saved.before (rest _)

theorem executeGovernedAction_effect (action : ActionRequest) (adapterName : String) :
    Effect P.uuid4 s ((executeGovernedAction P action adapterName).exec s).2 := by
  refine effect_after (Script.Moves.caught quiet_resolveAssessment) fun answer s₁ _ => ?_
  split
  · exact .quiet (Quiet.refl s₁)
  · exact .quiet (Quiet.refl s₁)
  · split
    · exact .quiet (Quiet.refl s₁)
    · exact proceed_effect

theorem createManualAuthorization_exec (hold : ApprovalHold) (approvedBy approvalId : String) :
    ∃ a, (createManualAuthorization P hold approvedBy approvalId).exec s =
        (.ok a, { s with draws := s.draws + 1, ticks := s.ticks + 1 }) ∧
      a.authorizationId = (P.uuid4 s.draws).text ∧ a.approvalId = some approvalId ∧ a.authorizationType = "manual" :=
  ⟨_, rfl, rfl, rfl, rfl⟩

/-- What is stored of a hold that is resumed, and its record. -/
theorem resumeHold_quiet (hold : ApprovalHold) (approvedBy : String) :
    ∃ a c, a.authorizationId = (P.uuid4 s.draws).text ∧ a.approvalId = some hold.approvalId ∧
      a.authorizationType = "manual" ∧
      c = { s with
        holds := (s.holds.mutate (·.approvalId) hold.approvalId fun h => { h with status := .approved }).mutate
          (·.approvalId) hold.approvalId fun h => { h with approvedBy := some approvedBy }
        records := s.records.update (·.approvalId) hold.approvalId fun r => { r with decision := "approved", approvedBy }
        draws := s.draws + 1
        ticks := s.ticks + 1
        authorizations := s.authorizations.save a } ∧
      Quiet c ((resumeHold P hold hold.approvalId approvedBy).exec s).2 := by
  let holds := (s.holds.mutate (·.approvalId) hold.approvalId fun h => { h with status := .approved }).mutate
    (·.approvalId) hold.approvalId fun h => { h with approvedBy := some approvedBy }
  let records := s.records.update (·.approvalId) hold.approvalId fun r =>
    { r with decision := "approved", approvedBy }
  obtain ⟨a, aexec, authorizationId, approval, type⟩ := createManualAuthorization_exec (P := P)
    (s := { s with holds, records }) hold approvedBy hold.approvalId
  have rest : QuietScript (do
      let request ← translateActionToExecution P hold.action a.authorizationId hold.riskLevel hold.adapterName
        .missing hold.toProvenance
      let execution ← executeAndVerify P request hold.adapterName
      pure (GovernedResult.approvedAndExecuted execution hold.approvalId hold.actionId)) :=
    quiet_released
  have resumes : (resumeHold P hold hold.approvalId approvedBy).exec s =
      Script.exec (do
        let request ← translateActionToExecution P hold.action a.authorizationId hold.riskLevel hold.adapterName
          .missing hold.toProvenance
        let execution ← executeAndVerify P request hold.adapterName
        pure (GovernedResult.approvedAndExecuted execution hold.approvalId hold.actionId)) { s with
          holds
          records
          draws := s.draws + 1
          ticks := s.ticks + 1
          authorizations := s.authorizations.save a } := by
    rw [resumeHold, Script.exec_bind, setHold, Script.exec_modify]
    dsimp only
    rw [Script.exec_bind, setHold, Script.exec_modify]
    dsimp only
    rw [Script.exec_bind, updateRecord, Script.exec_modify]
    dsimp only
    rw [Script.exec_bind, aexec]
    dsimp only
    rw [Script.exec_bind, saveAuthorization, Script.exec_modify]
  refine ⟨a, _, authorizationId, approval, type, rfl, ?_⟩
  rw [resumes]
  exact rest _

theorem resumeHold_effect {hold : ApprovalHold} {approvedBy : String} (row : s.hold? hold.approvalId = some hold)
    (status : hold.status = .pending) :
    Effect P.uuid4 s ((resumeHold P hold hold.approvalId approvedBy).exec s).2 := by
  obtain ⟨a, c, authorizationId, approval, type, rfl, quiet⟩ := resumeHold_quiet (P := P) (s := s) hold approvedBy
  refine Effect.before (.approved hold approvedBy a row status ⟨s.draws, le_rfl, Nat.lt_succ_self _, authorizationId⟩
    approval type rfl rfl rfl) quiet

theorem approveHeldAction_effect (approvalId approvedBy : String) (approved : Bool) :
    Effect P.uuid4 s ((approveHeldAction P approvalId approvedBy approved).exec s).2 := by
  unfold approveHeldAction
  rw [Script.exec_bind, Script.exec_read]
  dsimp only
  split
  · exact .quiet (Quiet.refl s)
  · next hold found =>
    split
    · exact .quiet (Quiet.refl s)
    · next pending =>
      have status := not_not.mp pending
      obtain ⟨-, rfl⟩ := DurableStore.mem_of_get? found
      refine effect_after (quiet_expired _) fun late s₁ hlate => ?_
      have quiet := quiet_expired (P := P) hold.expiresAt s
      rw [hlate] at quiet
      have row : s₁.hold? hold.approvalId = some hold := by
        unfold State.hold? at *
        rwa [quiet.holds]
      split
      · exact .expired hold row status le_rfl rfl rfl rfl
      · split
        · exact .rejected hold approvedBy row status le_rfl rfl rfl rfl
        · split
          · exact .quiet (Quiet.refl s₁)
          · rw [Script.exec_bind, Script.exec_ofExcept]
            cases heldDigest P.rt hold with
            | error e => exact .quiet (Quiet.refl s₁)
            | ok digest =>
              dsimp only
              split
              · exact .quiet (Quiet.refl s₁)
              · exact resumeHold_effect row status

end

end RmtPlatform.Core
