import RmtPlatform.Core.Lifecycle
import RmtPlatform.Core.Safety

/-! What becomes of a policy's demand for approval.

The policy's answer says whether an action that is allowed requires approval, and
nothing reads it: `evaluateApproval` decides by risk, confidence, rollback and the
action's own flag. The demand is lost exactly where these let the action through;
where no governed call meets that, an adapter is called only on an approved hold or
where no approval was asked for (`policy_honoured_iff`). -/
namespace RmtPlatform.Core

variable {W L : Type}

section
variable {P : Platform W L} {s : State W} {action : ActionRequest} {adapterName : String}

/-- An adapter was called. -/
def Executes (labels : List (Event L)) : Prop :=
  ∃ checkedAt authorization request adapterName, .adapterExecute checkedAt authorization request adapterName ∈ labels

theorem not_executes {ls : List (Event L)} (h : ∀ m ∈ ls, m.isWorld) : ¬Executes ls := by
  rintro ⟨t, a, r, n, hm⟩
  exact h _ hm

/-- What the domain's evaluators answer, as it is checked, and the world they leave. -/
structure Evaluated (registration : AssessmentRegistration W L) (action : ActionRequest) (w : W) (policy : ActionPolicyResult)
    (risk : ActionSimulationResult) (w' : W) : Prop where
  answered : ∃ answer w₁ answer', (registration.policy action).exec w = (.ok answer, w₁) ∧
    checkPolicy answer = .ok policy ∧ (registration.risk action).exec w₁ = (.ok answer', w') ∧
    checkRisk action answer' = .ok risk
  supported : ¬unsupported action policy risk

/-- The policy asks for approval, and neither the risk, the confidence, the action's own flag nor the rollback does. -/
structure Waives (P : Platform W L) (action : ActionRequest) (adapterName : String) (s : State W)
    (registration : AssessmentRegistration W L) (digest : String) (policy : ActionPolicyResult)
    (risk : ActionSimulationResult) (w : W) : Prop where
  registered : P.registration? action.governanceDomain = some registration
  operation : action.actionType.value ∈ registration.operations
  adapter : adapterName ∈ registration.adapters
  bound : bindAction P.rt action adapterName = .ok digest
  evaluated : Evaluated registration action s.world policy risk w
  demanded : policy.allowed = true ∧ policy.requiresApproval = true
  low : risk.riskLevel = "low" ∨ risk.riskLevel = "medium"
  confidence : 90 ≤ action.confidence
  flag : action.requiresApproval = false
  rollback : risk.rollbackAvailable = true

def Waived (P : Platform W L) (action : ActionRequest) (adapterName : String) (s : State W) : Prop :=
  ∃ registration digest policy risk w, Waives P action adapterName s registration digest policy risk w

/-- What the assessment records of the answers. -/
def assessmentOf (P : Platform W L) (s : State W) (registration : AssessmentRegistration W L) (action : ActionRequest)
    (adapterName digest : String) (policyResult : ActionPolicyResult) (riskResult : ActionSimulationResult) :
    GovernanceAssessment where
  assessmentId := (P.uuid4 s.draws).text
  governanceDomain := action.governanceDomain
  policyResult
  riskResult
  policyEvaluatorId := registration.policyId
  policyEvaluatorVersion := registration.policyVersion
  riskEvaluatorId := registration.riskId
  riskEvaluatorVersion := registration.riskVersion
  instructionDigest := digest
  canonicalizationVersion
  adapterName
  policyEvidenceReferences := policyResult.evidenceReferences
  riskEvidenceReferences := riskResult.evidenceReferences
  uncertainty := riskResult.uncertainty
  recoverySemantics := riskResult.recoverySemantics

theorem evaluateApproval_auto {policy : ActionPolicyResult} {risk : ActionSimulationResult} :
    (evaluateApproval action policy risk).1 = .auto ↔ policy.allowed = true ∧
      (risk.riskLevel = "low" ∨ risk.riskLevel = "medium") ∧ 90 ≤ action.confidence ∧ action.requiresApproval = false ∧
      risk.rollbackAvailable = true := by
  have apart : risk.riskLevel = "low" ∨ risk.riskLevel = "medium" →
      risk.riskLevel ≠ "unknown" ∧ ¬(risk.riskLevel = "high" ∨ risk.riskLevel = "critical") := by
    rintro (level | level) <;> rw [level] <;> decide
  unfold evaluateApproval
  by_cases level : risk.riskLevel = "low" ∨ risk.riskLevel = "medium"
  · obtain ⟨known, low⟩ := apart level
    cases policy.allowed <;> cases action.requiresApproval <;> cases risk.rollbackAvailable <;>
      by_cases sure : action.confidence < 90 <;> simp [known, low, level, sure]
    omega
  · simp only [level, false_and, and_false, iff_false]
    split_ifs
    all_goals simp_all

/-- How the evaluators come to be asked, and answer. -/
theorem evaluate_ok {registration : AssessmentRegistration W L} {digest : String} {answer : PolicyAnswer}
    {answer' : RiskAnswer} {s₁ : State W} :
    (evaluate P registration action adapterName).exec s = (.ok (digest, answer, answer'), s₁) ↔
      bindAction P.rt action adapterName = .ok digest ∧ ∃ w₁ w, (registration.policy action).exec s.world = (.ok answer, w₁) ∧
        (registration.risk action).exec w₁ = (.ok answer', w) ∧ s₁ = { s with world := w } := by
  unfold evaluate
  simp only [Script.exec_bind_ok, Script.exec_ofExcept, exec_outside, Script.exec_pure, Prod.mk.injEq, Except.ok.injEq]
  constructor
  · rintro ⟨_, _, ⟨bound, rfl⟩, _, _, ⟨asked, rfl⟩, _, _, ⟨asked', rfl⟩, ⟨rfl, rfl, rfl⟩, rfl⟩
    exact ⟨bound, _, _, Prod.ext asked rfl, Prod.ext asked' rfl, rfl⟩
  · rintro ⟨bound, w₁, w, asked, asked', rfl⟩
    refine ⟨digest, s, ⟨bound, rfl⟩, answer, { s with world := w₁ }, ?_, answer', { s with world := w }, ?_, ⟨rfl, rfl, rfl⟩, rfl⟩
    · simp [asked]
    · simp [asked']

/-- How an assessment comes about. -/
theorem resolveAssessment_ok {assessment : GovernanceAssessment} {s₁ : State W} :
    (resolveAssessment P action adapterName).exec s = (.ok assessment, s₁) ↔
      ∃ registration digest policy risk w, P.registration? action.governanceDomain = some registration ∧
        action.actionType.value ∈ registration.operations ∧ adapterName ∈ registration.adapters ∧
        bindAction P.rt action adapterName = .ok digest ∧ Evaluated registration action s.world policy risk w ∧
        assessment = assessmentOf P s registration action adapterName digest policy risk ∧
        s₁ = { s with world := w, draws := s.draws + 1 } := by
  unfold resolveAssessment
  cases registered : P.registration? action.governanceDomain with
  | none => simp
  | some registration =>
    constructor
    · intro resolved
      obtain ⟨_, _, checks, after₁⟩ := Script.exec_bind_ok.mp resolved
      obtain ⟨operation, rfl⟩ := Script.exec_raiseIf_ok.mp checks
      obtain ⟨_, _, checks', after₂⟩ := Script.exec_bind_ok.mp after₁
      obtain ⟨adapter, rfl⟩ := Script.exec_raiseIf_ok.mp checks'
      obtain ⟨answers, s₂, evaluates, after₃⟩ := Script.exec_bind_ok.mp after₂
      rw [Script.exec_caught] at evaluates
      obtain ⟨answered, left⟩ := Prod.mk.inj evaluates
      cases answers with
      | error e => simp at after₃
      | ok answers =>
        obtain ⟨digest, answer, answer'⟩ := answers
        obtain ⟨bound, w₁, w, asked, asked', rfl⟩ := evaluate_ok.mp (Prod.ext (Except.ok.inj answered) left)
        obtain ⟨policy, _, checks₁, after₄⟩ := Script.exec_bind_ok.mp after₃
        obtain ⟨checked, rfl⟩ := Prod.mk.inj ((Script.exec_ofExcept _ _).symm.trans checks₁)
        obtain ⟨risk, _, checks₂, after₅⟩ := Script.exec_bind_ok.mp after₄
        obtain ⟨checked', rfl⟩ := Prod.mk.inj ((Script.exec_ofExcept _ _).symm.trans checks₂)
        obtain ⟨_, _, checks₃, after₆⟩ := Script.exec_bind_ok.mp after₅
        obtain ⟨supported, rfl⟩ := Script.exec_raiseIf_ok.mp checks₃
        obtain ⟨assessed, rfl⟩ := Prod.mk.inj after₆
        refine ⟨registration, digest, policy, risk, w, rfl, not_not.mp operation, not_not.mp adapter, bound, ?_,
          (Except.ok.inj assessed).symm, rfl⟩
        exact ⟨⟨answer, w₁, answer', asked, checked, asked', checked'⟩, supported⟩
    · rintro ⟨registration', digest, policy, risk, w, same, operation, adapter, bound,
        ⟨⟨answer, w₁, answer', asked, checked, asked', checked'⟩, supported⟩, rfl, rfl⟩
      obtain rfl := Option.some.inj same
      have answered := evaluate_ok.mpr ⟨bound, w₁, w, asked, asked', rfl⟩
      refine Script.exec_bind_ok.mpr ⟨(), s, Script.exec_raiseIf_ok.mpr ⟨not_not.mpr operation, rfl⟩, ?_⟩
      refine Script.exec_bind_ok.mpr ⟨(), s, Script.exec_raiseIf_ok.mpr ⟨not_not.mpr adapter, rfl⟩, ?_⟩
      refine Script.exec_bind_ok.mpr ⟨.ok (digest, answer, answer'), { s with world := w }, ?_, ?_⟩
      · rw [Script.exec_caught, answered]
      refine Script.exec_bind_ok.mpr ⟨policy, _, (Script.exec_ofExcept _ _).trans (Prod.ext checked rfl), ?_⟩
      refine Script.exec_bind_ok.mpr ⟨risk, _, (Script.exec_ofExcept _ _).trans (Prod.ext checked' rfl), ?_⟩
      exact Script.exec_bind_ok.mpr ⟨(), _, Script.exec_raiseIf_ok.mpr ⟨supported, rfl⟩, rfl⟩

/-- The demand that is made is waived by the decision. -/
def Drops (action : ActionRequest) (assessment : GovernanceAssessment) : Prop :=
  assessment.policyResult.allowed = true ∧ assessment.policyResult.requiresApproval = true ∧
    (evaluateApproval action assessment.policyResult assessment.riskResult).1 = .auto

/-- How an assessment comes to be made whose demand the decision drops. -/
theorem resolveAssessment_drops {assessment : GovernanceAssessment} {s₁ : State W} :
    (resolveAssessment P action adapterName).exec s = (.ok assessment, s₁) ∧ Drops action assessment ↔
      ∃ registration digest policy risk w, Waives P action adapterName s registration digest policy risk w ∧
        assessment = assessmentOf P s registration action adapterName digest policy risk ∧
        s₁ = { s with world := w, draws := s.draws + 1 } := by
  rw [resolveAssessment_ok]
  constructor
  · rintro ⟨⟨registration, digest, policy, risk, w, registered, operation, adapter, bound, evaluated, rfl, rfl⟩, allowed,
      demanded, auto⟩
    obtain ⟨-, low, sure, flag, rollback⟩ := evaluateApproval_auto.mp auto
    exact ⟨registration, digest, policy, risk, w, ⟨registered, operation, adapter, bound, evaluated, ⟨allowed, demanded⟩, low,
      sure, flag, rollback⟩, rfl, rfl⟩
  · rintro ⟨registration, digest, policy, risk, w, h, rfl, rfl⟩
    refine ⟨⟨registration, digest, policy, risk, w, h.registered, h.operation, h.adapter, h.bound, h.evaluated, rfl, rfl⟩,
      h.demanded.1, h.demanded.2, ?_⟩
    exact evaluateApproval_auto.mpr ⟨h.demanded.1, h.low, h.confidence, h.flag, h.rollback⟩

/-- What a call's labels say of the demand. -/
def Kept (action : ActionRequest) (adapterName : String) (labels : List (Event L)) : Prop :=
  ∀ assessment, .assessed action adapterName assessment ∈ labels →
    assessment.policyResult.allowed = true → assessment.policyResult.requiresApproval = true → ¬Executes labels

/-- An action is let through although its assessment demands approval. -/
def Event.Forgoes : Event L → Prop
  | .autoApproved _ _ assessment => assessment.policyResult.requiresApproval = true
  | _ => False

theorem Event.isWorld.kept {m : Event L} (h : m.isWorld) : ¬m.Forgoes := by
  cases m <;> simp_all [Event.isWorld, Event.Forgoes]

/-- Where a governed call forgoes a demand, the demand is waived. -/
theorem governed_forgoes :
    (∃ m ∈ (executeGovernedAction P action adapterName).emitted s, m.Forgoes) → Waived P action adapterName s := by
  apply Script.yields_labels (C := fun ls : List (Event L) => (∃ m ∈ ls, m.Forgoes) → Waived P action adapterName s) |>.mp
  apply yields_executeGovernedAction
  · intro e s₁ ls answer only
    have kept : (∃ m ∈ ls, m.Forgoes) → Waived P action adapterName s :=
      fun ⟨m, hm, forgoes⟩ => absurd forgoes (only.labels m hm).kept
    exact ⟨fun _ _ => kept, kept⟩
  · intro assessment s₁ ws answer assesses still worlds
    have assessing : ∀ m ∈ .assessed action adapterName assessment :: ws, ¬m.Forgoes := by
      intro m hm
      rcases List.mem_cons.mp hm with rfl | hm
      · exact id
      · exact (worlds m hm).kept
    have kept : (∃ m ∈ .assessed action adapterName assessment :: ws, m.Forgoes) → Waived P action adapterName s :=
      fun ⟨m, hm, forgoes⟩ => absurd forgoes (assessing m hm)
    cases allowed : assessment.policyResult.allowed with
    | false => exact kept
    | true =>
      rw [if_pos rfl]
      by_cases auto : (evaluateApproval action assessment.policyResult assessment.riskResult).1 = .auto
      · have executing : ∀ m ∈ (executeAndVerify P (automaticRequest P s₁ action adapterName assessment)
            adapterName).emitted (automaticState P s₁ action assessment), ¬m.Forgoes :=
          CalmScript.emitted (calm_executeAndVerify (fun _ => id) fun _ _ => id) _
        apply yields_proceed_auto auto
        apply Script.yields_labels.mpr
        rintro ⟨m, hm, forgoes⟩
        rcases List.mem_append.mp hm with hm | hm
        · rcases List.mem_append.mp hm with hm | hm
          · exact absurd forgoes (executing m hm)
          · obtain rfl := List.mem_singleton.mp hm
            obtain ⟨registration, digest, policy, risk, w, waives, -⟩ :=
              resolveAssessment_drops.mp ⟨answer, allowed, forgoes, auto⟩
            exact ⟨registration, digest, policy, risk, w, waives⟩
        · exact absurd forgoes (assessing m hm)
      · apply proceed_other auto
        · exact fun _ _ _ => kept
        · exact fun _ _ _ _ _ => kept

/-- Approving a hold lets no action through of itself. -/
theorem approve_forgoes {approvedBy approvalId : String} {approved : Bool} :
    ∀ m ∈ (approveHeldAction P approvalId approvedBy approved).emitted s, ¬m.Forgoes := by
  apply Script.yields_labels (C := fun ls : List (Event L) => ∀ m ∈ ls, ¬m.Forgoes) |>.mp
  apply yields_approveHeldAction
  · intro r s' ls _ _ resolved _ m hm
    rcases resolved m hm with rfl | rfl <;> exact id
  · intro e s' hold _ _ _
    simp
  · intro hold s₁ resumable _ _
    apply Script.yields_labels.mpr
    intro m hm
    rcases List.mem_append.mp hm with hm | hm
    · exact CalmScript.emitted (calm_executeAndVerify (M := fun m => ¬m.Forgoes) (fun _ => id) fun _ _ => id) _ m hm
    · obtain rfl := List.mem_singleton.mp hm
      exact id

/-- Only a governed call forgoes a demand. -/
theorem call_forgoes {call : Call} (forgoes : ∃ m ∈ (call.script P).emitted s, m.Forgoes) :
    ∃ action adapterName, call = .governed action adapterName ∧ Waived P action adapterName s := by
  have returns : ∀ {α : Type} (x : Governed W L α), (x >>= fun _ => (pure () : Governed W L Unit)).emitted s = x.emitted s := by
    intro α x
    rw [Script.emitted_bind]
    rcases x.exec s with ⟨e | a, s'⟩ <;> rfl
  have quiet : ∀ {α : Type} {x : Governed W L α}, CalmScript (fun m => ¬m.Forgoes) x → ∀ m ∈ x.emitted s, ¬m.Forgoes :=
    fun calm => CalmScript.emitted calm s
  obtain ⟨m, hm, forgoes⟩ := forgoes
  cases call with
  | governed action adapterName =>
    rw [Call.script, returns] at hm
    exact ⟨action, adapterName, rfl, governed_forgoes ⟨m, hm, forgoes⟩⟩
  | resolve action adapterName =>
    rw [Call.script, returns] at hm
    exact absurd forgoes (quiet (calm_resolveAssessment (fun _ => id) fun _ => id) m hm)
  | hold action decision adapterName riskLevel assessment =>
    rw [Call.script, returns] at hm
    cases hm
  | approve approvalId approvedBy approved =>
    rw [Call.script, returns] at hm
    exact absurd forgoes (approve_forgoes m hm)
  | engine request adapterName =>
    rw [Call.script, returns] at hm
    exact absurd forgoes (quiet (calm_execute (fun _ => id) fun _ _ => id) m hm)

/-- Calls one after the other, where no governed call starts that waives a demand. -/
inductive Heeds (P : Platform W L) (backend : Backend) (world : W) : Point (State W) (Event L) → Prop where
  | initial : Heeds P backend world (start L backend world).point
  | call {p : Point (State W) (Event L)} (before : Heeds P backend world p) (call : Call) (honest : call.Honest p.trace)
      (heeds : ∀ action adapterName, call = .governed action adapterName → ¬Waived P action adapterName p.state) :
      Heeds P backend world ⟨((call.script P).exec p.state).2, (call.script P).emitted p.state ++ p.trace⟩

section
variable {backend : Backend} {world : W} {p : Point (State W) (Event L)}

theorem Heeds.run (h : Heeds P backend world p) :
    ∃ c, Run P (fun call trace => call.Honest trace) (start L backend world) c ∧ c.point = p := by
  induction h with
  | initial => exact ⟨_, .refl, rfl⟩
  | call before call honest heeds ih =>
    obtain ⟨c, run, rfl⟩ := ih
    exact ⟨c.served (call.script P), run.trans (Pool.served_reach ⟨call, honest, rfl⟩), rfl⟩

theorem Heeds.kept (h : Heeds P backend world p) : ∀ m ∈ p.trace, ¬m.Forgoes := by
  induction h with
  | initial => simp [start]
  | call before call honest heeds ih =>
    intro m hm forgoes
    rcases List.mem_append.mp hm with hm | hm
    · obtain ⟨action, adapterName, governed, waived⟩ := call_forgoes ⟨m, hm, forgoes⟩
      exact heeds action adapterName governed waived
    · exact ih m hm forgoes

end

end

namespace Sample

/-- A domain whose components are critical: the policy allows the action and requires approval. -/
def critical : AssessmentRegistration Unit Empty where
  policyId := "homelab.action-policy"
  policyVersion := "1"
  policy action := pure { evaluateActionPolicy action (.str "critical") with evidenceReferences := ["context:web"] }.answer
  riskId := "homelab.action-simulation"
  riskVersion := "1"
  risk action := pure
    { simulateAction action with evidenceReferences := ["simulation:web"], recoverySemantics := "restart" }.answer
  operations := ["start", "stop"]
  adapters := ["simulation"]
  identified := by simp
  nonempty := by simp

end Sample

end RmtPlatform.Core
