import RmtPlatform.Core.Engine
import RmtPlatform.Core.Agreement

/-! What the two entry points come to, run alone.

Both end at the engine in the same way: an authorization and a request that say the
same of one action have just been made (`Granted`). Such a request is refused for one
reason only, that its authorization has expired (`Granted.refusal`). -/
namespace RmtPlatform.Core

variable {W L : Type} {P : Platform W L}

/-! ### The assessment -/

/-- What an assessment of the action says, whatever the evaluators answered. -/
structure Assesses (P : Platform W L) (action : ActionRequest) (adapterName : String) (a : GovernanceAssessment) :
    Prop where
  digest : bindAction P.rt action adapterName = .ok a.instructionDigest
  adapter : a.adapterName = adapterName
  version : a.canonicalizationVersion = canonicalizationVersion
  id : a.assessmentId ≠ ""
  evaluators : ∃ registration, P.registration? action.governanceDomain = some registration ∧
    a.policyEvaluatorId = registration.policyId ∧ a.policyEvaluatorVersion = registration.policyVersion ∧
    a.riskEvaluatorId = registration.riskId ∧ a.riskEvaluatorVersion = registration.riskVersion

/-- Only the world and the number of identifiers drawn may differ. -/
structure Still (s s' : State W) : Prop where
  same : s' = { s with world := s'.world, draws := s'.draws }
  draws : s.draws ≤ s'.draws

section
variable {s s₁ s' : State W} {action : ActionRequest} {adapterName : String}

theorem Still.refl (s : State W) : Still s s := ⟨rfl, le_rfl⟩

theorem Still.trans (s s₁ s' : State W) (h : Still s s₁) (h' : Still s₁ s') : Still s s' := by
  refine ⟨?_, h.draws.trans h'.draws⟩
  rw [h'.same, h.same]

/-- A label of the world. -/
def Event.isWorld : Event L → Prop
  | .world _ => True
  | _ => False

/-- Nothing was stored, and nothing but the world's labels emitted. -/
structure WorldOnly (s s' : State W) (labels : List (Event L)) : Prop where
  still : Still s s'
  labels : ∀ m ∈ labels, m.isWorld

theorem WorldOnly.refl (s : State W) : WorldOnly s s ([] : List (Event L)) := ⟨Still.refl s, by simp⟩

theorem WorldOnly.trans {ls ls' : List (Event L)} (h : WorldOnly s s₁ ls) (h' : WorldOnly s₁ s' ls') :
    WorldOnly s s' (ls' ++ ls) := by
  refine ⟨h.still.trans _ _ _ h'.still, ?_⟩
  intro m hm
  rcases List.mem_append.mp hm with hm | hm
  · exact h'.labels m hm
  · exact h.labels m hm

/-- Whatever runs outside changes the world and is seen as the world's. -/
theorem yields_outside {α : Type} {x : Script W L Raised α} {Q : α → State W → List (Event L) → Prop}
    {X : Raised → State W → List (Event L) → Prop} (hQ : ∀ a s' ls, WorldOnly s s' ls → Q a s' ls)
    (hX : ∀ e s' ls, WorldOnly s s' ls → X e s' ls) : Script.Yields Q X (outside x) s := by
  have only : WorldOnly s { s with world := (x.exec s.world).2 } ((x.emitted s.world).map Event.world) := by
    refine ⟨⟨rfl, le_rfl⟩, ?_⟩
    intro m hm
    obtain ⟨l, -, rfl⟩ := List.mem_map.mp hm
    trivial
  unfold Script.Yields
  rw [exec_outside, emitted_outside]
  cases (x.exec s.world).1 with
  | ok a => exact hQ a _ _ only
  | error e => exact hX e _ _ only

theorem yields_uuid4 {Q : String → State W → List (Event L) → Prop} {X : Raised → State W → List (Event L) → Prop} :
    Script.Yields Q X (uuid4 P) s ↔ Q (P.uuid4 s.draws).text { s with draws := s.draws + 1 } [] :=
  Iff.rfl

theorem yields_now {Q : Int → State W → List (Event L) → Prop} {X : Raised → State W → List (Event L) → Prop} :
    Script.Yields Q X (now P) s ↔ Q (P.clock s.ticks) { s with ticks := s.ticks + 1 } [] :=
  Iff.rfl

theorem evaluate_yields {registration : AssessmentRegistration W L} : Script.Yields
    (fun answers s' ls => bindAction P.rt action adapterName = .ok answers.1 ∧ WorldOnly s s' ls)
    (fun _ s' ls => WorldOnly s s' ls) (evaluate P registration action adapterName) s := by
  unfold evaluate
  apply Script.yields_bind.mpr
  refine Script.yields_ofExcept.mpr ⟨fun digest bound => ?_, fun e _ => WorldOnly.refl s⟩
  apply Script.yields_bind.mpr
  refine yields_outside (fun policy s₁ ls h => ?_) fun e s₁ ls h => by simpa using h
  apply Script.yields_bind.mpr
  refine yields_outside (fun risk s₂ ls' h' => ?_) fun e s₂ ls' h' => by simpa using h.trans h'
  exact ⟨bound, by simpa using h.trans h'⟩

/-- **What assessing an action comes to**: an assessment of it, announced once, or nothing. -/
theorem resolveAssessment_yields : Script.Yields
    (fun a s' ls => Assesses P action adapterName a ∧ Still s s' ∧
      ∃ ws, ls = .assessed action adapterName a :: ws ∧ ∀ m ∈ ws, m.isWorld)
    (fun _ s' ls => WorldOnly s s' ls) (resolveAssessment P action adapterName) s := by
  unfold resolveAssessment
  cases registered : P.registration? action.governanceDomain with
  | none => exact WorldOnly.refl s
  | some registration =>
    apply Script.yields_bind.mpr
    refine Script.yields_raiseIf.mpr ⟨fun _ => WorldOnly.refl s, fun _ => ?_⟩
    apply Script.yields_bind.mpr
    refine Script.yields_raiseIf.mpr ⟨fun _ => WorldOnly.refl s, fun _ => ?_⟩
    apply Script.yields_bind.mpr
    apply Script.yields_caught.mpr
    refine evaluate_yields.mono ?_ fun e s₁ ls h => by simpa using h
    rintro ⟨digest, policy, risk⟩ s₁ ls ⟨bound, h⟩
    apply Script.yields_bind.mpr
    refine Script.yields_ofExcept.mpr ⟨fun policyResult _ => ?_, fun e _ => by simpa using h⟩
    apply Script.yields_bind.mpr
    refine Script.yields_ofExcept.mpr ⟨fun riskResult _ => ?_, fun e _ => by simpa using h⟩
    apply Script.yields_bind.mpr
    refine Script.yields_raiseIf.mpr ⟨fun _ => by simpa using h, fun _ => ?_⟩
    apply Script.yields_bind.mpr
    apply yields_uuid4.mpr
    apply Script.yields_bind.mpr
    refine ⟨⟨bound, rfl, rfl, Uuid.text_ne _, registration, registered, rfl, rfl, rfl, rfl⟩, ?_, ls, by simp, h.labels⟩
    exact h.still.trans _ _ _ ⟨rfl, Nat.le_succ _⟩

end

/-! ### At the engine -/

/-- An authorization just stored and the request made for it: both say the same of the action. -/
structure Granted (P : Platform W L) (s : State W) (action : ActionRequest) (adapterName : String)
    (provenance : Provenance) (a : ExecutionAuthorization) (request : ExecutionRequest) (s' : State W) : Prop where
  stored : s'.authorizations = s.authorizations.save a
  clock : s'.ticks = s.ticks + 1
  id : New P.uuid4 s s' a.authorizationId
  status : a.status = "approved"
  expires : a.expiresAt = some (P.clock s.ticks + authorizationTtl)
  names : request.authorizationId = a.authorizationId
  instruction : request.instruction adapterName = action.instruction adapterName
  actionId : a.actionId = action.actionId
  target : a.target = action.component
  operation : a.operation = action.actionType.value
  outcome : a.expectedOutcome = action.expectedOutcome
  domain : a.governanceDomain = action.governanceDomain
  adapter : a.adapterName = some adapterName ∧ request.adapterName = some adapterName
  authorized : a.toProvenance = provenance
  requested : request.toProvenance = provenance

/-- No identifier that may still be drawn is that of a stored authorization. -/
def Fresh (uuid4 : Nat → Uuid) (s : State W) : Prop :=
  ∀ a ∈ s.authorizations.records, Drawn uuid4 s a.authorizationId

section
variable {s s' : State W} {action : ActionRequest} {adapterName : String} {provenance : Provenance}
  {a : ExecutionAuthorization} {request : ExecutionRequest}

theorem Granted.found (h : Granted P s action adapterName provenance a request s') (fresh : Fresh P.uuid4 s) :
    s'.authorization? request.authorizationId = some a := by
  have older : ∀ b ∈ s.authorizations.records, b.authorizationId ≠ a.authorizationId := fun b hb same =>
    h.id.fresh P.uuid4_fresh (same ▸ fresh b hb)
  have absent : s.authorizations.records.find? (fun b => b.authorizationId = a.authorizationId) = none :=
    List.find?_eq_none.mpr fun b hb => by simpa using older b hb
  unfold State.authorization? DurableStore.get?
  rw [h.stored, h.names]
  show (s.authorizations.records ++ [a]).find? (fun b => b.authorizationId = a.authorizationId) = some a
  rw [List.find?_append, absent]
  simp

/-- No action is one the engine's own policy denies. -/
theorem not_denied (h : request.instruction adapterName = action.instruction adapterName) : denied request = false := by
  have operation : request.operation = action.actionType.value := congrArg Instruction.operation h
  unfold denied
  rw [operation]
  cases action.actionType <;> decide

/-- A request made for an action has the digest the action is bound by. -/
theorem Granted.rebound (h : Granted P s action adapterName provenance a request s') {d : String}
    (digest : provenance.instructionDigest = some d) (bound : bindAction P.rt action adapterName = .ok d)
    (version : provenance.canonicalizationVersion = some canonicalizationVersion) :
    misbound P.rt request adapterName = .ok false := by
  have again : bindExecutionRequest P.rt request adapterName = .ok d := by
    rw [bindExecutionRequest, h.instruction]
    exact bound
  simp [misbound, again, h.requested, digest, version]

/-- **A request made with its authorization is refused only if that has expired.** -/
theorem Granted.refusal (h : Granted P s action adapterName provenance a request s') (fresh : Fresh P.uuid4 s)
    {d : String} (digest : provenance.instructionDigest = some d) (nonempty : d ≠ "")
    (bound : bindAction P.rt action adapterName = .ok d)
    (version : provenance.canonicalizationVersion = some canonicalizationVersion) :
    Core.refusal P s' request adapterName =
      if P.clock s.ticks + authorizationTtl < P.clock (s.ticks + 1) then some "Authorization expired" else none := by
  have same := h.instruction
  have matching : mismatch a request adapterName = none := by
    have actionId : request.actionId = action.actionId := congrArg Instruction.actionId same
    have target : request.target = action.component := congrArg Instruction.target same
    have operation : request.operation = action.actionType.value := congrArg Instruction.operation same
    have outcome : request.expectedOutcome = action.expectedOutcome := congrArg Instruction.expectedOutcome same
    have domain : request.governanceDomain = action.governanceDomain := congrArg Instruction.governanceDomain same
    simp [mismatch, h.actionId, h.target, h.operation, h.outcome, h.domain, h.adapter, h.authorized, h.requested,
      actionId, target, operation, outcome, domain, digest, nonempty]
  have bound' := h.rebound digest bound version
  simp [Core.refusal, h.found fresh, h.status, h.expires, late, h.clock, matching, bound', not_denied same]

/-! ### After the engine -/

section
variable {s : State W} {request : ExecutionRequest} {adapterName : String}

theorem observe_yields : Script.Yields (fun _ s' ls => s' = { s with world := s'.world } ∧ ∀ m ∈ ls, m.isWorld)
    (fun _ _ _ => False) (observe P request) s := by
  have nothing : s = { s with world := s.world } ∧ ∀ m ∈ ([] : List (Event L)), m.isWorld := ⟨rfl, by simp⟩
  unfold observe
  dsimp only
  split
  · apply Script.yields_bind.mpr
    apply Script.yields_caught.mpr
    unfold Script.Yields
    rw [exec_outside, emitted_outside]
    have worlds : ∀ m ∈ (P.getModules.emitted s.world).map (Event.world (L := L)), m.isWorld := by
      intro m hm
      obtain ⟨l, -, rfl⟩ := List.mem_map.mp hm
      trivial
    cases (P.getModules.exec s.world).1 with
    | error e => exact ⟨rfl, worlds⟩
    | ok modules =>
      cases Dict.get request.parameters "module_name" <;> exact ⟨rfl, worlds⟩
  · exact nothing

/-- Verifying stores what it finds, and nothing else. -/
theorem verifyExecution_yields {executionId : String} : Script.Yields
    (fun v s' ls => (∃ observed, v = verify executionId request.expectedOutcome observed) ∧
      s' = { s with world := s'.world, verifications := s.verifications.save v } ∧ ∀ m ∈ ls, m.isWorld)
    (fun _ _ _ => False) (verifyExecution P executionId request) s := by
  unfold verifyExecution
  apply Script.yields_bind.mpr
  refine observe_yields.mono (fun observed s₁ ls h => ?_) fun _ _ _ h => h
  apply Script.yields_bind.mpr
  apply Script.yields_modify.mpr
  apply Script.yields_pure.mpr
  obtain ⟨same, worlds⟩ := h
  refine ⟨⟨observed, rfl⟩, ?_, by simpa using worlds⟩
  rw [same]

/-- **How executing and verifying ends**, by how the engine's call ends. -/
theorem yields_executeAndVerify {Q : Execution → State W → List (Event L) → Prop}
    {X : Raised → State W → List (Event L) → Prop}
    (raised : ∀ e s₁ ls, Ending P request adapterName s ls (.error e) s₁ → X e s₁ ls)
    (failed : ∀ result s₁ ls, Ending P request adapterName s ls (.ok result) s₁ → result.success = false →
      Q ⟨result.executionId, result.status, false, result.message, none, ""⟩ s₁ ls)
    (succeeded : ∀ result s₁ ls observed w ws, Ending P request adapterName s ls (.ok result) s₁ → result.success = true →
      (∀ m ∈ ws, m.isWorld) →
      Q ⟨result.executionId, result.status, true, result.message,
          some (verify result.executionId request.expectedOutcome observed).status,
          (verify result.executionId request.expectedOutcome observed).reason⟩
        { s₁ with
          world := w
          verifications := s₁.verifications.save (verify result.executionId request.expectedOutcome observed) }
        (ws ++ ls)) :
    Script.Yields Q X (executeAndVerify P request adapterName) s := by
  have ending : Ending P request adapterName s ((execute P request adapterName).emitted s) _ _ := execute_ending
  unfold executeAndVerify
  apply Script.yields_bind.mpr
  apply Script.Yields.of_exec
  · intro result s₁ answer
    rw [answer] at ending
    cases success : result.success with
    | false =>
      rw [if_neg (by simp)]
      apply Script.yields_pure.mpr
      exact failed result s₁ _ ending success
    | true =>
      rw [if_pos rfl]
      apply Script.yields_bind.mpr
      refine verifyExecution_yields.mono ?_ fun _ _ _ h => h.elim
      rintro v s₂ ws ⟨⟨observed, rfl⟩, same, worlds⟩
      apply Script.yields_pure.mpr
      have finished := succeeded result s₁ _ observed s₂.world ws ending success worlds
      rw [← same] at finished
      simpa using finished
  · intro e s₁ answer
    rw [answer] at ending
    exact raised e s₁ _ ending

end

/-! ### The automatic way -/

/-- The automatic decision's reason. -/
def automaticReason (action : ActionRequest) (assessment : GovernanceAssessment) : String :=
  (evaluateApproval action assessment.policyResult assessment.riskResult).2

def automaticDecision (P : Platform W L) (s : State W) (action : ActionRequest) (assessment : GovernanceAssessment) :
    ApprovalDecision where
  approvalId := (P.uuid4 s.draws).text
  actionId := action.actionId
  mode := .auto
  approved := true
  reason := automaticReason action assessment

/-- What `proceed` authorizes in this state. -/
def automaticAuthorization (P : Platform W L) (s : State W) (action : ActionRequest)
    (assessment : GovernanceAssessment) : ExecutionAuthorization :=
  { assessment.provenance with
    authorizationId := (P.uuid4 (s.draws + 1)).text
    actionId := action.actionId
    status := "approved"
    authorizedBy := some "approval_policy"
    authorizationType := "automatic"
    decisionId := some action.decisionId
    approvalId := some (P.uuid4 s.draws).text
    expiresAt := some (P.clock s.ticks + authorizationTtl)
    reason := automaticReason action assessment
    target := action.component
    operation := action.actionType.value
    governanceDomain := action.governanceDomain
    adapterName := some assessment.adapterName
    expectedOutcome := action.expectedOutcome }

/-- The request it makes. -/
def automaticRequest (P : Platform W L) (s : State W) (action : ActionRequest) (adapterName : String)
    (assessment : GovernanceAssessment) : ExecutionRequest :=
  { assessment.provenance.or .missing with
    executionId := (P.uuid4 (s.draws + 2)).text
    authorizationId := (P.uuid4 (s.draws + 1)).text
    actionId := action.actionId
    decisionId := action.decisionId
    governanceDomain := action.governanceDomain
    target := action.component
    operation := action.actionType.value
    parameters := action.parameters
    riskLevel := some assessment.riskResult.riskLevel
    expectedOutcome := action.expectedOutcome
    adapterName := some adapterName }

/-- The state in which it calls the engine. -/
def automaticState (P : Platform W L) (s : State W) (action : ActionRequest) (assessment : GovernanceAssessment) :
    State W :=
  { s with
    draws := s.draws + 3
    ticks := s.ticks + 1
    records := s.records.save
      (approvalRecord action (automaticDecision P s action assessment) "approved" "approval_policy" none (some assessment))
    authorizations := s.authorizations.save (automaticAuthorization P s action assessment) }

theorem or_missing {p : Provenance} (id : p.assessmentId.getD "" ≠ "") (policyId : p.policyEvaluatorId.getD "" ≠ "")
    (policyVersion : p.policyEvaluatorVersion.getD "" ≠ "") (riskId : p.riskEvaluatorId.getD "" ≠ "")
    (riskVersion : p.riskEvaluatorVersion.getD "" ≠ "") (version : p.canonicalizationVersion.getD "" ≠ "")
    (digest : p.instructionDigest.getD "" ≠ "") : p.or .missing = p := by
  obtain ⟨i, pi, pv, ri, rv, v, d, pr, rr, u, rs⟩ := p
  simp only [Provenance.or, Provenance.missing, orText] at *
  rw [if_neg id, if_neg policyId, if_neg policyVersion, if_neg riskId, if_neg riskVersion, if_neg version,
    if_neg digest]
  congr 1
  · cases pr <;> rfl
  · cases rr <;> rfl
  · by_cases hu : u = "" <;> simp [hu]
  · by_cases hr : rs = "" <;> simp [hr]

theorem Assesses.digest_ne {assessment : GovernanceAssessment} (h : Assesses P action adapterName assessment) :
    assessment.instructionDigest ≠ "" := by
  obtain ⟨t, -, ht⟩ := Instruction.digest_ok h.digest
  exact fun empty => P.digest_ne t (ht.symm.trans empty)

theorem Assesses.or_missing {assessment : GovernanceAssessment} (h : Assesses P action adapterName assessment) :
    assessment.provenance.or .missing = assessment.provenance := by
  obtain ⟨registration, -, policyId, policyVersion, riskId, riskVersion⟩ := h.evaluators
  obtain ⟨hp, hpv, hr, hrv⟩ := registration.identified
  apply Core.or_missing
  · exact h.id
  · simpa [GovernanceAssessment.provenance, policyId] using hp
  · simpa [GovernanceAssessment.provenance, policyVersion] using hpv
  · simpa [GovernanceAssessment.provenance, riskId] using hr
  · simpa [GovernanceAssessment.provenance, riskVersion] using hrv
  · simp [GovernanceAssessment.provenance, h.version, canonicalizationVersion]
  · exact h.digest_ne

theorem automatic_granted {assessment : GovernanceAssessment} (h : Assesses P action adapterName assessment) :
    Granted P s action adapterName assessment.provenance (automaticAuthorization P s action assessment)
      (automaticRequest P s action adapterName assessment) (automaticState P s action assessment) where
  stored := rfl
  clock := rfl
  id := ⟨s.draws + 1, Nat.le_succ _, Nat.lt_succ_of_lt (Nat.lt_succ_self _), rfl⟩
  status := rfl
  expires := rfl
  names := rfl
  instruction := rfl
  actionId := rfl
  target := rfl
  operation := rfl
  outcome := rfl
  domain := rfl
  adapter := ⟨congrArg some h.adapter, rfl⟩
  authorized := rfl
  requested := h.or_missing

variable {X : Raised → State W → List (Event L) → Prop}

theorem processApproval_emitted {policy : ActionPolicyResult} {risk : ActionSimulationResult} :
    (processApproval P action policy risk).emitted s = [] := rfl

theorem yields_createExecutionAuthorization {Q : Option ExecutionAuthorization → State W → List (Event L) → Prop}
    {decision : ApprovalDecision} {assessment : GovernanceAssessment} (auto : decision.mode = .auto)
    (approved : decision.approved = true) :
    Script.Yields Q X (createExecutionAuthorization P action decision (some assessment)) s ↔
      Q (some
        { assessment.provenance with
          authorizationId := (P.uuid4 s.draws).text
          actionId := action.actionId
          status := "approved"
          authorizedBy := some "approval_policy"
          authorizationType := "automatic"
          decisionId := some action.decisionId
          approvalId := some decision.approvalId
          expiresAt := some (P.clock s.ticks + authorizationTtl)
          reason := decision.reason
          target := action.component
          operation := action.actionType.value
          governanceDomain := action.governanceDomain
          adapterName := some assessment.adapterName
          expectedOutcome := action.expectedOutcome })
        { s with draws := s.draws + 1, ticks := s.ticks + 1 } [] := by
  rw [createExecutionAuthorization, if_neg (by simp [auto]), if_neg (by simp [approved])]
  exact Iff.rfl

/-- Deciding and going on, where the decision is automatic. -/
theorem yields_proceed_auto {Q : GovernedResult → State W → List (Event L) → Prop} {assessment : GovernanceAssessment}
    (auto : (evaluateApproval action assessment.policyResult assessment.riskResult).1 = .auto)
    (h : Script.Yields
      (fun e s' ls => Q (.executed e) s' (ls ++ [.autoApproved action adapterName assessment]))
      (fun e s' ls => X e s' (ls ++ [.autoApproved action adapterName assessment]))
      (executeAndVerify P (automaticRequest P s action adapterName assessment) adapterName)
      (automaticState P s action assessment)) :
    Script.Yields Q X (processApproval P action assessment.policyResult assessment.riskResult >>= fun decision =>
      proceed P action adapterName assessment decision) s := by
  have decides : (processApproval P action assessment.policyResult assessment.riskResult).exec s =
      (.ok (automaticDecision P s action assessment), { s with draws := s.draws + 1 }) := by
    rw [processApproval_exec]
    simp [automaticDecision, automaticReason, auto]
  apply Script.yields_bind.mpr
  apply (Script.yields_of_exec decides processApproval_emitted).mpr
  have mode : (automaticDecision P s action assessment).mode = .auto := rfl
  unfold proceed
  rw [mode]
  dsimp only
  apply Script.yields_bind.mpr
  apply Script.yields_announce.mpr
  apply Script.yields_bind.mpr
  apply Script.yields_modify.mpr
  apply Script.yields_bind.mpr
  apply (yields_createExecutionAuthorization rfl rfl).mpr
  apply Script.yields_bind.mpr
  apply Script.yields_modify.mpr
  apply Script.yields_bind.mpr
  apply Script.yields_bind.mpr
  apply yields_uuid4.mpr
  apply Script.yields_pure.mpr
  apply Script.yields_bind.mpr
  refine Script.Yields.mono h (fun e s' ls hq => ?_) fun e s' ls hx => ?_
  · simpa using hq
  · simpa using hx

/-- A decision that is not automatic ends the call, and nothing is seen of it. -/
theorem proceed_other {assessment : GovernanceAssessment} {Q : GovernedResult → State W → List (Event L) → Prop}
    (other : (evaluateApproval action assessment.policyResult assessment.riskResult).1 ≠ .auto)
    (rejected : ∀ reason r, (evaluateApproval action assessment.policyResult assessment.riskResult).1 = .reject →
      Q (.rejected reason action.actionId) { s with draws := s.draws + 1, records := s.records.save r } [])
    (held : ∀ reason hold r, (evaluateApproval action assessment.policyResult assessment.riskResult).1 = .manual →
      (holdForManualApproval P action ⟨(P.uuid4 s.draws).text, action.actionId, .manual, false, reason⟩ adapterName
          (some assessment.riskResult.riskLevel) (some assessment)).exec { s with draws := s.draws + 1 } =
        (.ok hold, { s with draws := s.draws + 2, ticks := s.ticks + 1, holds := s.holds.save hold }) →
      Q (.manualApprovalRequired reason action.actionId hold.approvalId)
        { s with
          draws := s.draws + 2
          ticks := s.ticks + 1
          holds := s.holds.save hold
          records := s.records.save r } []) :
    Script.Yields Q X (processApproval P action assessment.policyResult assessment.riskResult >>= fun decision =>
      proceed P action adapterName assessment decision) s := by
  apply Script.yields_bind.mpr
  apply (Script.yields_of_exec processApproval_exec processApproval_emitted).mpr
  generalize (evaluateApproval action assessment.policyResult assessment.riskResult).2 = reason
  generalize hmode : (evaluateApproval action assessment.policyResult assessment.riskResult).1 = mode at *
  cases mode with
  | auto => exact absurd rfl other
  | reject => exact rejected reason _ rfl
  | manual => exact held reason _ _ rfl rfl

/-- **How a governed call ends**, by its assessment and its decision. -/
theorem yields_executeGovernedAction {Q : GovernedResult → State W → List (Event L) → Prop}
    (unassessed : ∀ e s₁ ls, (resolveAssessment P action adapterName).exec s = (.error e, s₁) → WorldOnly s s₁ ls →
      (∀ message, e = .other message → X e s₁ ls) ∧ Q (.assessmentFailed e.message action.actionId) s₁ ls)
    (assessed : ∀ assessment s₁ ws, (resolveAssessment P action adapterName).exec s = (.ok assessment, s₁) →
      Assesses P action adapterName assessment → Still s s₁ → (∀ m ∈ ws, m.isWorld) →
      if assessment.policyResult.allowed then
        Script.Yields (fun r s' ls => Q r s' (ls ++ .assessed action adapterName assessment :: ws))
          (fun e s' ls => X e s' (ls ++ .assessed action adapterName assessment :: ws))
          (processApproval P action assessment.policyResult assessment.riskResult >>= fun decision =>
            proceed P action adapterName assessment decision) s₁
      else Q (.policyDenied assessment.policyResult.reason assessment.policyResult.requiresApproval action.actionId) s₁
        (.assessed action adapterName assessment :: ws)) :
    Script.Yields Q X (executeGovernedAction P action adapterName) s := by
  have spec : Script.Yields _ _ (resolveAssessment P action adapterName) s := resolveAssessment_yields
  unfold executeGovernedAction
  apply Script.yields_bind.mpr
  apply Script.yields_caught.mpr
  unfold Script.Yields at spec ⊢
  rcases answer : (resolveAssessment P action adapterName).exec s with ⟨e | assessment, s₁⟩ <;> rw [answer] at spec
  · cases e with
    | other message => exact (unassessed _ s₁ _ answer spec).1 message rfl
    | assessment message => exact (unassessed _ s₁ _ answer spec).2
    | value message => exact (unassessed _ s₁ _ answer spec).2
  · obtain ⟨assesses, still, ws, labels, worlds⟩ := spec
    have goes_on := assessed assessment s₁ ws answer assesses still worlds
    dsimp only
    rw [labels]
    cases allowed : assessment.policyResult.allowed with
    | false =>
      rw [allowed] at goes_on
      exact goes_on
    | true =>
      rw [allowed] at goes_on
      exact goes_on

/-! ### The held way -/

/-- What `resumeHold` authorizes in this state. -/
def manualAuthorization (P : Platform W L) (s : State W) (hold : ApprovalHold) (approvedBy approvalId : String) :
    ExecutionAuthorization :=
  { hold.toProvenance with
    authorizationId := (P.uuid4 s.draws).text
    actionId := hold.action.actionId
    status := "approved"
    authorizedBy := some approvedBy
    authorizationType := "manual"
    decisionId := some hold.action.decisionId
    approvalId := some approvalId
    expiresAt := some (P.clock s.ticks + authorizationTtl)
    reason := hold.reason
    target := hold.action.component
    operation := hold.action.actionType.value
    governanceDomain := hold.action.governanceDomain
    adapterName := some hold.adapterName
    expectedOutcome := hold.action.expectedOutcome }

/-- The request it makes. -/
def manualRequest (P : Platform W L) (s : State W) (hold : ApprovalHold) : ExecutionRequest :=
  { Provenance.missing.or hold.toProvenance with
    executionId := (P.uuid4 (s.draws + 1)).text
    authorizationId := (P.uuid4 s.draws).text
    actionId := hold.action.actionId
    decisionId := hold.action.decisionId
    governanceDomain := hold.action.governanceDomain
    target := hold.action.component
    operation := hold.action.actionType.value
    parameters := hold.action.parameters
    riskLevel := hold.riskLevel
    expectedOutcome := hold.action.expectedOutcome
    adapterName := some hold.adapterName }

/-- The state in which it calls the engine. -/
def manualState (P : Platform W L) (s : State W) (hold : ApprovalHold) (approvedBy approvalId : String) : State W :=
  { s with
    draws := s.draws + 2
    ticks := s.ticks + 1
    holds := (s.holds.mutate (·.approvalId) approvalId fun h => { h with status := .approved }).mutate (·.approvalId)
      approvalId fun h => { h with approvedBy := some approvedBy }
    records := s.records.update (·.approvalId) approvalId fun r => { r with decision := "approved", approvedBy }
    authorizations := s.authorizations.save (manualAuthorization P s hold approvedBy approvalId) }

theorem manual_granted {hold : ApprovalHold} {approvedBy approvalId : String} :
    Granted P s hold.action hold.adapterName hold.toProvenance (manualAuthorization P s hold approvedBy approvalId)
      (manualRequest P s hold) (manualState P s hold approvedBy approvalId) where
  stored := rfl
  clock := rfl
  id := ⟨s.draws, le_rfl, Nat.lt_add_of_pos_right (by decide), rfl⟩
  status := rfl
  expires := rfl
  names := rfl
  instruction := rfl
  actionId := rfl
  target := rfl
  operation := rfl
  outcome := rfl
  domain := rfl
  adapter := ⟨rfl, rfl⟩
  authorized := rfl
  requested := Provenance.missing_or _

theorem yields_resumeHold {Q : GovernedResult → State W → List (Event L) → Prop} {hold : ApprovalHold}
    {approvedBy approvalId : String}
    (h : Script.Yields (fun e s' ls => Q (.approvedAndExecuted e approvalId hold.actionId) s' (ls ++ [.holdApproved hold]))
      (fun e s' ls => X e s' (ls ++ [.holdApproved hold]))
      (executeAndVerify P (manualRequest P s hold) hold.adapterName) (manualState P s hold approvedBy approvalId)) :
    Script.Yields Q X (resumeHold P hold approvalId approvedBy) s := by
  unfold resumeHold
  apply Script.yields_bind.mpr
  apply Script.yields_modify.mpr
  apply Script.yields_bind.mpr
  apply Script.yields_modify.mpr
  apply Script.yields_bind.mpr
  apply Script.yields_modify.mpr
  apply Script.yields_bind.mpr
  apply Script.yields_bind.mpr
  apply yields_uuid4.mpr
  apply Script.yields_bind.mpr
  apply yields_now.mpr
  apply Script.yields_pure.mpr
  apply Script.yields_bind.mpr
  apply Script.yields_modify.mpr
  apply Script.yields_bind.mpr
  apply Script.yields_bind.mpr
  apply yields_uuid4.mpr
  apply Script.yields_pure.mpr
  apply Script.yields_bind.mpr
  refine Script.Yields.mono h (fun e s' ls hq => ?_) fun e s' ls hx => ?_
  · simpa using hq
  · simpa using hx

/-- Only holds, approval records and the clock may differ. -/
def Resolved (s s' : State W) : Prop := s' = { s with holds := s'.holds, records := s'.records, ticks := s'.ticks }

/-- The held action has the digest it is held under. -/
def Unaltered (rt : Runtime) (hold : ApprovalHold) : Prop :=
  ∃ digest, heldDigest rt hold = .ok digest ∧ hold.instructionDigest = some digest

/-- A hold that may be resumed: the checks of `approveHeldAction` let it through. -/
structure Resumable (P : Platform W L) (s : State W) (approvalId : String) (hold : ApprovalHold) : Prop where
  found : s.hold? approvalId = some hold
  pending : hold.status = .pending
  timely : late P s hold.expiresAt = false
  bound : ∃ registration, P.registration? hold.governanceDomain = some registration ∧ boundTo registration hold = true
  digest : Unaltered P.rt hold

/-- **How an approval ends**: the hold is resumed, or the core's other stores are as they were. -/
theorem yields_approveHeldAction {Q : GovernedResult → State W → List (Event L) → Prop} {approvedBy approvalId : String}
    {approved : Bool}
    (ended : ∀ r s' ls, r.execution? = none → Resolved s s' → (∀ m ∈ ls, m = .holdExpired approvalId ∨ m = .holdRejected approvalId) →
      (∀ reason actionId, r = .assessmentInvalid reason approvalId actionId →
        reason = "Held governance domain is no longer registered" ∨ ∃ hold registration,
          s.hold? approvalId = some hold ∧ P.registration? hold.governanceDomain = some registration ∧
          (boundTo registration hold = true → ¬Unaltered P.rt hold)) → Q r s' ls)
    (unbound : ∀ e s' hold, s.hold? approvalId = some hold → heldDigest P.rt hold = .error e → Resolved s s' → X e s' [])
    (resumed : ∀ hold s₁, Resumable P s approvalId hold → s₁ = { s with ticks := checkedTicks s hold.expiresAt } →
      approved = true →
      Script.Yields (fun e s' ls => Q (.approvedAndExecuted e approvalId hold.actionId) s' (ls ++ [.holdApproved hold]))
        (fun e s' ls => X e s' (ls ++ [.holdApproved hold]))
        (executeAndVerify P (manualRequest P s₁ hold) hold.adapterName) (manualState P s₁ hold approvedBy approvalId)) :
    Script.Yields Q X (approveHeldAction P approvalId approvedBy approved) s := by
  unfold approveHeldAction
  apply Script.yields_bind.mpr
  apply Script.yields_read.mpr
  cases found : s.hold? approvalId with
  | none =>
    apply Script.yields_pure.mpr
    exact ended _ s [] rfl rfl (by simp) (fun _ _ h => by cases h)
  | some hold =>
    dsimp only
    by_cases pending : hold.status = .pending
    · rw [if_neg (by simp [pending])]
      apply Script.yields_bind.mpr
      obtain ⟨checkedAt, hexec, hemitted⟩ := expired_exec (P := P) (s := s) hold.expiresAt
      apply (Script.yields_of_exec hexec hemitted).mpr
      dsimp only
      cases timely : late P s hold.expiresAt with
      | true =>
        apply Script.yields_bind.mpr
        apply Script.yields_modify.mpr
        exact ended _ _ _ rfl rfl (by simp) (fun _ _ h => by cases h)
      | false =>
        rw [if_neg (by simp)]
        cases approved with
        | false =>
          apply Script.yields_bind.mpr
          apply Script.yields_modify.mpr
          apply Script.yields_bind.mpr
          apply Script.yields_modify.mpr
          exact ended _ _ _ rfl rfl (by simp) (fun _ _ h => by cases h)
        | true =>
          rw [if_neg (by simp)]
          cases registered : P.registration? hold.governanceDomain with
          | none =>
            refine ended _ _ _ rfl rfl (by simp) fun _ _ same => .inl ?_
            cases same
            rfl
          | some registration =>
            dsimp only
            apply Script.yields_bind.mpr
            refine Script.yields_ofExcept.mpr ⟨fun digest bound => ?_, fun e raises => unbound e _ hold found raises rfl⟩
            by_cases stopped : (!boundTo registration hold) = true ∨ some digest ≠ hold.instructionDigest
            · rw [if_pos stopped]
              refine ended _ _ _ rfl rfl (by simp) fun _ _ _ => .inr ⟨hold, registration, found, registered, ?_⟩
              rintro current ⟨digest', bound', same⟩
              obtain rfl : digest = digest' := Except.ok.inj (bound.symm.trans bound')
              simp [current, same] at stopped
            · rw [if_neg stopped]
              simp only [Bool.not_eq_true', not_or, Bool.not_eq_false, ne_eq, not_not] at stopped
              apply yields_resumeHold
              have goes_on := resumed hold { s with ticks := checkedTicks s hold.expiresAt }
                ⟨found, pending, timely, ⟨registration, registered, stopped.1⟩, digest, bound, stopped.2.symm⟩ rfl rfl
              simpa using goes_on
    · rw [if_pos pending]
      apply Script.yields_pure.mpr
      exact ended _ s [] rfl rfl (by simp) (fun _ _ h => by cases h)

end

end RmtPlatform.Core
