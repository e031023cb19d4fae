import RmtPlatform.Agent.Effects

/-! A preview and the call it previews.

Both resolve the proposal and assess its action; the default evaluators answer by the
action alone, so they answer alike. What may differ is the grant: it is looked at
again, and a grant that was in time at the preview may have run out since
(`preview_outlived`). With the grant still in time the two agree (`preview_agrees`). -/
namespace RmtPlatform.Agent

open Core Ops

variable {W L : Type}

/-- The ways in which a proposal that is handed to the core may end. -/
inductive Fate where
  | denied | manual | rejected | automatic
deriving DecidableEq

/-- The status the core's answer has then. -/
def Fate.status : Fate → String
  | denied => "policy_denied"
  | manual => "manual_approval_required"
  | rejected => "rejected"
  | automatic => "executed"

theorem Fate.status_injective : Function.Injective Fate.status := by
  intro a b h
  cases a <;> cases b <;> first | rfl | simp [status] at h

def fateOf (allowed : Bool) (mode : ApprovalMode) : Fate :=
  if !allowed then .denied
  else match mode with
    | .reject => .rejected
    | .manual => .manual
    | .auto => .automatic

/-- What a preview predicts. -/
def Predicted.fate (p : Predicted) : Fate := fateOf p.policyAllowed p.approvalMode

/-- Only the clock, the identifiers and the world outside may differ. -/
def Unstored (s s' : Site W) : Prop :=
  s' = { s with core := { s.core with world := s'.core.world, draws := s'.core.draws, ticks := s'.core.ticks } }

/-! ### The default evaluators -/

/-- What becomes of an action in the default domain. -/
def defaultFate (action : ActionRequest) : Fate :=
  fateOf (evaluateActionPolicy action .none).allowed
    (evaluateApproval action (evaluateActionPolicy action .none) (simulateAction action)).1

/-- It is the same whatever identifiers the action has. -/
theorem defaultFate_proposed (D : Deployment W L) (proposal : AgentProposal) (decisionId actionId decisionId' actionId' : String) :
    defaultFate (proposedAction D proposal decisionId actionId) =
      defaultFate (proposedAction D proposal decisionId' actionId') := by
  unfold defaultFate proposedAction
  cases proposal.mechanism <;> rfl

section
variable {P : Platform W L} {s : State W} {action : ActionRequest} {adapterName : String}

/-- An action of the default domain with no parameters. -/
structure Plain (P : Platform W L) (action : ActionRequest) : Prop where
  registered : P.registration? action.governanceDomain = some defaultRegistration
  domain : action.governanceDomain = defaultGovernanceDomain
  parameters : action.parameters = []

theorem Plain.bound (h : Plain P action) (nonempty : adapterName ≠ "") : ∃ d, bindAction P.rt action adapterName = .ok d := by
  have tree : (PyVal.dict (action.instruction adapterName).parameters).toJson = some (.object []) := by
    show (PyVal.dict action.parameters).toJson = _
    rw [h.parameters]
    rfl
  have canonical : ∃ t, (action.instruction adapterName).payload.canonical = some t := by
    rw [PyVal.canonical, Instruction.toJson_payload, tree]
    exact ⟨_, rfl⟩
  obtain ⟨t, ht⟩ := canonical
  have named : ¬((action.instruction adapterName).governanceDomain = "" ∨ (action.instruction adapterName).adapterName = "") := by
    rintro (empty | empty)
    · exact absurd (h.domain.symm.trans empty) (by decide)
    · exact nonempty empty
  refine ⟨P.rt.sha256 t, ?_⟩
  have copied : PyVal.copyErrorEntries (action.instruction adapterName).parameters P.rt.room = none := by
    show PyVal.copyErrorEntries action.parameters P.rt.room = none
    rw [h.parameters]
    rfl
  rw [bindAction, Instruction.digest_copied copied, Instruction.text, if_neg named, ht]
  rfl

/-- **The default evaluators answer by the action alone.** -/
theorem plain_assessment (h : Plain P action) : Script.Yields
    (fun a s' (_ : List (Event L)) => adapterName ∈ (@defaultRegistration W L).adapters ∧
      a.policyResult = evaluateActionPolicy action .none ∧ a.riskResult = simulateAction action ∧ Still s s')
    (fun _ s' _ => adapterName ∉ (@defaultRegistration W L).adapters ∧ Still s s')
    (resolveAssessment P action adapterName) s := by
  have operation : action.actionType.value ∈ (@defaultRegistration W L).operations := by
    cases action.actionType <;> simp [defaultRegistration, ActionType.value]
  have policy : checkPolicy (evaluateActionPolicy action .none).answer = .ok (evaluateActionPolicy action .none) := by
    unfold evaluateActionPolicy
    split_ifs <;> rfl
  have risk : checkRisk action (simulateAction action).answer = .ok (simulateAction action) := by
    unfold simulateAction
    cases type : action.actionType <;>
      simp [ActionSimulationResult.answer, checkRisk, checkRiskLevel, PyVal.unhashable, riskLevels, PyVal.isStr, strings, Core.evidence,
        type, bind, Except.bind]
  unfold resolveAssessment
  rw [h.registered]
  dsimp only
  apply Script.yields_bind.mpr
  refine Script.yields_raiseIf.mpr ⟨fun absent => absurd operation absent, fun _ => ?_⟩
  apply Script.yields_bind.mpr
  refine Script.yields_raiseIf.mpr ⟨fun absent => ⟨absent, Still.refl s⟩, fun present => ?_⟩
  have present : adapterName ∈ (@defaultRegistration W L).adapters := not_not.mp present
  have nonempty : adapterName ≠ "" := by
    rintro rfl
    exact absurd present (by simp [defaultRegistration])
  obtain ⟨d, bound⟩ := h.bound nonempty
  have answers : (evaluate P defaultRegistration action adapterName).exec s =
        (.ok (d, (evaluateActionPolicy action .none).answer, (simulateAction action).answer), s) ∧
      (evaluate P defaultRegistration action adapterName).emitted s = [] := by
    unfold evaluate
    rw [bound]
    exact ⟨rfl, rfl⟩
  apply Script.yields_bind.mpr
  apply Script.yields_caught.mpr
  apply (Script.yields_of_exec answers.1 answers.2).mpr
  dsimp only
  rw [policy, risk]
  have supported : ¬unsupported action (evaluateActionPolicy action .none) (simulateAction action) := fun h' => h'.1 h.domain
  apply Script.yields_bind.mpr
  refine Script.yields_ofExcept.mpr ⟨fun p hp => ?_, fun e he => by cases he⟩
  cases hp
  apply Script.yields_bind.mpr
  refine Script.yields_ofExcept.mpr ⟨fun r hr => ?_, fun e he => by cases he⟩
  cases hr
  apply Script.yields_bind.mpr
  refine Script.yields_raiseIf.mpr ⟨fun h' => absurd h' supported, fun _ => ?_⟩
  apply Script.yields_bind.mpr
  apply yields_uuid4.mpr
  exact ⟨present, rfl, rfl, ⟨rfl, Nat.le_succ _⟩⟩

/-- No adapter raises. -/
def Steady (P : Platform W L) : Prop :=
  ∀ name adapter, P.adapter? name = some adapter → ∀ request w,
    (∃ b, ((adapter.supports request).exec w).1 = .ok b) ∧ ∃ r, ((adapter.execute request).exec w).1 = .ok r

theorem Steady.returns {request : ExecutionRequest} {labels : List (Event L)} {e : Raised} {s' : State W} (h : Steady P)
    (bound : misbound P.rt request adapterName = .ok false)
    (ending : Ending P request adapterName s labels (.error e) s') : False := by
  cases ending with
  | unbound ticks e passed raises => simp [bound] at raises
  | undetermined ticks adapter e passed registered supports =>
    obtain ⟨⟨b, hb⟩, -⟩ := h adapterName adapter registered request s.world
    simp [hb] at supports
  | raised ticks adapter e checkedAt authorization w passed registered supports executes =>
    obtain ⟨-, r, hr⟩ := h adapterName adapter registered request w
    simp [hr] at executes

/-- **How a plain action ends.** -/
theorem plain_governed (h : Plain P action) (adapter : adapterName ∈ (@defaultRegistration W L).adapters)
    (steady : Steady P) : Script.Yields (fun r _ (_ : List (Event L)) => r.status = (defaultFate action).status)
    (fun _ _ _ => False) (executeGovernedAction P action adapterName) s := by
  have spec : Script.Yields _ _ (resolveAssessment P action adapterName) s := plain_assessment h
  apply yields_executeGovernedAction
  · intro e s₁ ls answer only
    exact absurd adapter (spec.error answer).1
  · intro assessment s₁ ws answer assesses still worlds
    obtain ⟨-, policy, risk, -⟩ := spec.ok answer
    unfold defaultFate fateOf
    rw [← policy, ← risk]
    by_cases allowed : assessment.policyResult.allowed = true
    · rw [if_pos allowed]
      simp only [allowed, Bool.not_true, Bool.false_eq_true, if_false]
      by_cases auto : (evaluateApproval action assessment.policyResult assessment.riskResult).1 = .auto
      · apply yields_proceed_auto auto
        rw [auto]
        apply yields_executeAndVerify
        · intro e s₂ ls ending
          have rebound := (automatic_granted (s := s₁) assesses).rebound rfl assesses.digest (congrArg some assesses.version)
          exact steady.returns rebound ending
        · intro result s₂ ls ending failure
          rfl
        · intro result s₂ ls observed w ws' ending success worlds'
          rfl
      · apply proceed_other auto
        · intro reason r reject
          rw [reject]
          rfl
        · intro reason hold r manual _
          rw [manual]
          rfl
    · rw [if_neg allowed]
      simp only [allowed, Bool.not_false, if_true]
      rfl

end

/-! ### Previewing -/

section
variable {D : Deployment W L} {s s₁ s' : Site W} {proposal : AgentProposal}

theorem Unstored.refl (s : Site W) : Unstored s s := rfl

theorem Unstored.trans (h : Unstored s s₁) (h' : Unstored s₁ s') : Unstored s s' := by
  unfold Unstored at *
  rw [h', h]

theorem unstored_of_still {c : State W} (h : Still s.core c) : Unstored s { s with core := c } := by
  unfold Unstored
  rw [h.same]

/-- **A preview stores nothing**, whether it returns or raises. -/
theorem previewProposal_unstored : Script.Yields (fun _ s' (_ : List (Notice L)) => Unstored s s')
    (fun _ s' _ => Unstored s s') (previewProposal D proposal) s := by
  unfold previewProposal
  split
  · exact Unstored.refl s
  · split
    · exact Unstored.refl s
    · apply Script.yields_bind.mpr
      refine resolveProposal_yields.mono ?_ fun _ _ _ h => h.elim
      rintro r s₁ ls ⟨resolved, rfl⟩
      have first : Unstored s s₁ := by
        unfold Unstored
        rw [resolved.same]
      apply Script.yields_bind.mpr
      apply Script.yields_caught.mpr
      apply yields_inCore.mpr
      have spec := @resolveAssessment_yields W L D.toPlatform s₁.core r.action
        (agentAdapterName D proposal.operationalContext)
      refine spec.mono ?_ ?_
      · rintro a c ls ⟨-, still, -⟩
        have second := first.trans (unstored_of_still still)
        apply Script.yields_bind.mpr
        apply yields_inCore.mpr
        apply (Script.yields_of_exec processApproval_exec processApproval_emitted).mpr
        exact second.trans (unstored_of_still ⟨rfl, Nat.le_succ _⟩)
      · intro e c ls only
        have second := first.trans (unstored_of_still only.still)
        cases e <;> exact second

theorem proposed_plain (default : D.registration? defaultGovernanceDomain = some defaultRegistration)
    (decisionId actionId : String) : Plain D.toPlatform (proposedAction D proposal decisionId actionId) :=
  ⟨default, rfl, rfl⟩

/-- What a preview says that finds the authority in order. -/
theorem previewProposal_predicts (default : D.registration? defaultGovernanceDomain = some defaultRegistration) :
    Script.Yields (fun p _ (_ : List (Notice L)) => ∀ action detail escalated escalationDetail predicted,
        p = .preview action true detail escalated escalationDetail predicted →
        D.agentEnabled = true ∧ Granting D s proposal.grantId proposal.mechanism.value proposal.target ∧
          agentAdapterName D proposal.operationalContext ∈ (@defaultRegistration W L).adapters ∧
          predicted.fate = defaultFate (proposedAction D proposal "" ""))
      (fun _ _ _ => True) (previewProposal D proposal) s := by
  unfold previewProposal
  split
  · intro _ _ _ _ _ h
    cases h
  · next enabled =>
    split
    · intro _ _ _ _ _ h
      cases h
    · apply Script.yields_bind.mpr
      refine resolveProposal_yields.mono ?_ fun _ _ _ h => h.elim
      rintro r s₁ ls ⟨resolved, rfl⟩
      obtain ⟨decisionId, actionId, action⟩ := resolved.action
      have granting := resolved.authOk
      apply Script.yields_bind.mpr
      apply Script.yields_caught.mpr
      apply yields_inCore.mpr
      rw [action]
      refine (plain_assessment (proposed_plain default decisionId actionId)).mono ?_ ?_
      · rintro a c ls ⟨adapter, policy, risk, -⟩
        apply Script.yields_bind.mpr
        apply yields_inCore.mpr
        apply (Script.yields_of_exec processApproval_exec processApproval_emitted).mpr
        intro _ _ _ _ predicted h
        obtain ⟨-, ok, -, -, -, rfl⟩ := Preview.preview.inj h
        refine ⟨by simpa using enabled, granting.mp ok, adapter, ?_⟩
        rw [defaultFate_proposed D proposal "" "" decisionId actionId, defaultFate, ← policy, ← risk]
        rfl
      · intro e c ls _
        cases e with
        | assessment message =>
          intro _ _ _ _ _ h
          cases h
        | value message => trivial
        | other message => trivial

/-- **A preview and the call agree** where the grant is in time at both, and the preview stores nothing. -/
theorem preview_agrees (D : Deployment W L) (proposal : AgentProposal) (s : Site W) :
    Unstored s ((previewProposal D proposal).exec s).2 ∧
    (D.registration? defaultGovernanceDomain = some defaultRegistration → Steady D.toPlatform →
      ∀ action detail escalated escalationDetail predicted,
      ((previewProposal D proposal).exec s).1 = .ok (.preview action true detail escalated escalationDetail predicted) →
      ∀ s' : Site W, s'.grants = s.grants →
      (∀ g, namedGrant s' proposal.grantId = some g → D.clock s'.core.ticks < g.expiresAt) →
      ∃ outcome s'', (proposeAndGovern D proposal).exec s' = (.ok outcome, s'') ∧
        ∀ fate : Fate, outcome.governedStatus = some fate.status ↔ predicted.fate = fate) := by
  constructor
  · have spec := @previewProposal_unstored W L D s proposal
    unfold Script.Yields at spec
    rcases answer : (previewProposal D proposal).exec s with ⟨e | p, s₁⟩ <;> rw [answer] at spec <;> exact spec
  · intro default steady action detail escalated escalationDetail predicted previewed s' grants timely
    obtain ⟨enabled, ⟨g, named, unused, -, scope⟩, adapter, fate⟩ :=
      (previewProposal_predicts default).ok (Prod.ext previewed rfl) _ _ _ _ _ rfl
    have granting : Granting D s' proposal.grantId proposal.mechanism.value proposal.target := by
      have named' : namedGrant s' proposal.grantId = some g := by
        rw [← named]
        unfold namedGrant Site.grant?
        rw [grants]
      exact ⟨g, named', unused, timely g named', scope⟩
    have calls : Script.Yields
        (fun outcome _ (_ : List (Notice L)) => outcome.governedStatus = some predicted.fate.status)
        (fun _ _ _ => False) (proposeAndGovern D proposal) s' := by
      unfold proposeAndGovern
      rw [enabled, if_neg (by simp)]
      apply Script.yields_bind.mpr
      refine resolveProposal_yields.mono ?_ fun _ _ _ h => h
      rintro r s₁ ls ⟨resolved, rfl⟩
      obtain ⟨decisionId, actionId, proposed⟩ := resolved.action
      rw [resolved.authOk.mpr granting, if_neg (by simp)]
      apply Script.yields_bind.mpr
      apply Script.yields_caught.mpr
      apply yields_governed.mpr
      rw [proposed]
      refine (plain_governed (proposed_plain default decisionId actionId) adapter steady).mono ?_ fun _ _ _ h => h.elim
      intro result c ls status
      refine (conclude_yields (by rw [proposed]; rfl)).mono ?_ fun _ _ _ h => h
      rintro outcome s₂ ls' ⟨governed, -⟩
      rw [governed, status, fate, defaultFate_proposed D proposal "" "" decisionId actionId]
    unfold Script.Yields at calls
    rcases answer : (proposeAndGovern D proposal).exec s' with ⟨e | outcome, s''⟩ <;> rw [answer] at calls
    · exact calls.elim
    · refine ⟨outcome, s'', rfl, fun f => ?_⟩
      rw [calls, Option.some.injEq]
      exact Fate.status_injective.eq_iff

end

/-! ### A grant that runs out -/

namespace Sample

def proposal : AgentProposal where
  agentId := "agent-1"
  operationalContext := "homelab"
  goal := "Keep web running"
  target := "web"
  mechanism := .start
  reason := "Scheduled start"
  confidence := 95
  expectedState := "running"
  grantId := some "grant-1"

def grantUntil (expiresAt : Int) : AuthorityGrant := ⟨"grant-1", "start", "web", "operator-1", expiresAt, false, none⟩

/-- Nothing stored but the proposal's grant. -/
def grantedUntil (expiresAt : Int) : Site Unit :=
  { Site.initial .sqlite () with grants := ⟨.sqlite, [grantUntil expiresAt], [grantUntil expiresAt]⟩ }

/-- What the preview of the proposal predicts. -/
def predicted : Predicted where
  policyAllowed := true
  policyReason := "Action type allowed by policy"
  riskLevel := "low"
  approvalMode := .auto
  approvalReason := "Action meets automatic approval criteria"

def previewed : Preview :=
  .preview (previewedAction (proposedAction Ops.Sample.deployment proposal "" "")) true "ok" false "" predicted

theorem steady : Steady Ops.Sample.deployment.toPlatform := by
  intro name adapter registered request w
  by_cases simulation : name = "simulation"
  · obtain rfl : simulationAdapter = adapter := by
      simpa [Ops.Sample.deployment, Core.Sample.platform, simulation] using registered
    exact ⟨⟨true, rfl⟩, _, rfl⟩
  · simp [Ops.Sample.deployment, Core.Sample.platform, simulation] at registered

end Sample

/-- A grant in time at both. -/
theorem preview_agrees_timely :
    ∃ outcome s', (proposeAndGovern Ops.Sample.deployment Sample.proposal).exec (Sample.grantedUntil 5000000) =
      (.ok outcome, s') ∧ ∀ fate : Fate, outcome.governedStatus = some fate.status ↔ Sample.predicted.fate = fate := by
  have previewed : ((previewProposal Ops.Sample.deployment Sample.proposal).exec (Sample.grantedUntil 5000000)).1 =
      .ok Sample.previewed := by decide +kernel
  refine (preview_agrees Ops.Sample.deployment Sample.proposal (Sample.grantedUntil 5000000)).2 rfl Sample.steady
    _ "ok" false "" Sample.predicted previewed _ rfl ?_
  intro g named
  obtain rfl : Sample.grantUntil 5000000 = g := Option.some.inj named
  decide

/-- **A grant that runs out in between**: execution is predicted, and the proposal has no authority. -/
theorem preview_outlived :
    let s := Sample.grantedUntil 500000
    let s' := ((previewProposal Ops.Sample.deployment Sample.proposal).exec s).2
    ((previewProposal Ops.Sample.deployment Sample.proposal).exec s).1 = .ok Sample.previewed ∧
      Sample.predicted.fate = .automatic ∧ s'.grants.records = s.grants.records ∧
      ((proposeAndGovern Ops.Sample.deployment Sample.proposal).exec s').1 =
        .ok (.ungoverned "no_authority" false (.text "grant_expired")) := by
  decide +kernel

end RmtPlatform.Agent
