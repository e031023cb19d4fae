import RmtPlatform.Core.Verdict

/-! Evolution of the platform.

A change proposal that is in scope and compatible goes to the core as the creation of a
module; any other is recorded as blocked and goes no further. -/
namespace RmtPlatform.Core

variable {W L : Type} (P : Platform W L)

structure ChangeProposal where
  changeId : String
  scope : String
  target : String
  operation : String
  version : String
  reason : String
  confidence : Int
  requiresApproval : Bool
  expectedOutcome : Option ExpectedOutcome

structure CompatibilityAssessment where
  changeId : Option String
  compatible : Bool
  reason : String
  scope : String

structure ChangeResult where
  changeId : Option String
  status : String
  actionId : Option String
  executionId : Option String
  verificationStatus : Option String
  verificationReason : String
  message : String

def supportedEvolutionOperations : List String := ["register_module"]

def ChangeProposal.assessed (proposal : ChangeProposal) (compatible : Bool) (reason : String) :
    CompatibilityAssessment :=
  ⟨some proposal.changeId, compatible, reason, proposal.scope⟩

def assessChange (proposal : ChangeProposal) : Governed W L CompatibilityAssessment := do
  if proposal.operation ∉ supportedEvolutionOperations then
    pure (proposal.assessed false "Unsupported evolution operation")
  else
    let modules ← outside P.getModules
    if modules.any fun m => m.name = proposal.target ∨ m.container = some proposal.target then
      pure (proposal.assessed false "Module already registered")
    else pure (proposal.assessed true "In scope and compatible")

/-- The change is what decided on the action. -/
def createAction (proposal : ChangeProposal) (actionId : String) : ActionRequest where
  actionId
  decisionId := proposal.changeId
  governanceDomain := defaultGovernanceDomain
  component := proposal.target
  actionType := .create
  reason := proposal.reason
  confidence := proposal.confidence
  requiresApproval := proposal.requiresApproval
  rollbackRequired := true
  parameters := [(.str "module_name", .str proposal.target), (.str "version", .str proposal.version),
    (.str "scope", .str proposal.scope)]
  expectedOutcome := proposal.expectedOutcome

def buildAction (proposal : ChangeProposal) : Governed W L ActionRequest := do
  let actionId ← uuid4 P
  pure (createAction proposal actionId)

def recordBlocked (action : ActionRequest) (reason : String) : Governed W L Unit := do
  let approvalId ← uuid4 P
  recordApprovalDecision action ⟨approvalId, action.actionId, .reject, false, reason⟩ "rejected" "evolution_boundary"
    none none

def blockedChange (proposal : ChangeProposal) (message : String) : Governed W L ChangeResult := do
  let action ← buildAction P proposal
  recordBlocked P action message
  pure ⟨some proposal.changeId, "blocked", some action.actionId, none, none, "", message⟩

/-- What is read of the core's answer. -/
def changeResult (proposal : ChangeProposal) (action : ActionRequest) (result : GovernedResult) : ChangeResult where
  changeId := some proposal.changeId
  status := result.status
  actionId := some action.actionId
  executionId := result.execution?.map (·.executionId)
  verificationStatus := result.execution?.bind (·.verificationStatus)
  verificationReason := (result.execution?.map (·.verificationReason)).getD ""
  message := (result.execution?.map (·.message)).getD ""

def executeGovernedChange (proposal : ChangeProposal) (adapterName : String) : Governed W L ChangeResult := do
  if adapterName ≠ "module_change" then blockedChange P proposal "Unsupported evolution adapter"
  else if proposal.operation ∉ supportedEvolutionOperations then
    blockedChange P proposal "Unsupported evolution operation"
  else
    let assessment ← assessChange P proposal
    if !assessment.compatible then blockedChange P proposal assessment.reason
    else
      let action ← buildAction P proposal
      let result ← executeGovernedAction P action adapterName
      pure (changeResult proposal action result)

/-! ### What a change comes to -/

/-- What is expected names the module, where the observer may report that. -/
def ChangeProposal.Aimed (proposal : ChangeProposal) : Prop :=
  ∀ e ∈ proposal.expectedOutcome, e.expectedState ∈ registryStates → e.Names proposal.target "create"

section
variable {P} {s : State W} {proposal : ChangeProposal} {adapterName : String}

theorem createAction_aimed (aimed : proposal.Aimed) (actionId : String) : (createAction proposal actionId).Aimed := by
  intro name looked e expected state
  have same : name = proposal.target := by
    simp only [createAction, ActionRequest.lookedFor, Dict.get] at looked
    split at looked
    · next text named =>
      cases named
      split at looked
      · exact (Option.some.inj looked).symm
      · cases looked
    · cases looked
  exact ⟨same, aimed e expected state⟩

/-- A change that is blocked leaves no more than an approval record. -/
theorem blockedChange_yields {message : String} : Script.Yields
    (fun _ s' (ls : List (Event L)) => Unrecorded s s' ∧ ls = []) (fun _ _ _ => False) (blockedChange P proposal message)
    s := by
  unfold blockedChange buildAction recordBlocked
  apply Script.yields_bind.mpr
  apply Script.yields_bind.mpr
  apply yields_uuid4.mpr
  apply Script.yields_pure.mpr
  apply Script.yields_bind.mpr
  apply Script.yields_bind.mpr
  apply yields_uuid4.mpr
  exact ⟨⟨rfl, rfl, Nat.le_add_right _ 2⟩, rfl⟩

/-- How a change goes: nothing is executed, or the core executes the creation of the module. -/
inductive Change (P : Platform W L) (proposal : ChangeProposal) (adapterName : String) (s : State W) :
    List (Event L) → State W → Prop where
  | blocked (ls : List (Event L)) (s' : State W) (same : Unrecorded s s') (worlds : ∀ m ∈ ls, m.isWorld) :
      Change P proposal adapterName s ls s'
  | governed (actionId : String) (s₁ : State W) (ws : List (Event L)) (same : Unrecorded s s₁) (worlds : ∀ m ∈ ws, m.isWorld)
      (adapter : adapterName = "module_change") (supported : proposal.operation ∈ supportedEvolutionOperations) :
      Change P proposal adapterName s
        ((executeGovernedAction P (createAction proposal actionId) adapterName).emitted s₁ ++ ws)
        ((executeGovernedAction P (createAction proposal actionId) adapterName).exec s₁).2

theorem WorldOnly.blocked {s' : State W} {ls : List (Event L)} (h : WorldOnly s s' ls) : Change P proposal adapterName s ls s' :=
  .blocked ls s' h.still.unrecorded h.labels

/-- **How every change goes.** -/
theorem change_course : Change P proposal adapterName s ((executeGovernedChange P proposal adapterName).emitted s)
    ((executeGovernedChange P proposal adapterName).exec s).2 := by
  have blocked : ∀ {message : String} {s₁ : State W} {ws : List (Event L)}, WorldOnly s s₁ ws →
      Script.Yields (fun _ s' ls => Change P proposal adapterName s (ls ++ ws) s')
        (fun _ s' ls => Change P proposal adapterName s (ls ++ ws) s') (blockedChange P proposal message) s₁ := by
    intro message s₁ ws only
    refine blockedChange_yields.mono ?_ fun _ _ _ h => h.elim
    rintro _ s' ls ⟨same, rfl⟩
    exact .blocked ws s' (only.still.unrecorded.trans same) only.labels
  apply (Script.yields_both (C := fun s' ls => Change P proposal adapterName s ls s')).mp
  unfold executeGovernedChange
  by_cases adapter : adapterName = "module_change"
  · rw [if_neg (by simp [adapter])]
    by_cases supported : proposal.operation ∈ supportedEvolutionOperations
    · rw [if_neg (by simp [supported])]
      unfold assessChange
      rw [if_neg (by simp [supported])]
      rw [Script.bind_assoc]
      apply Script.yields_bind.mpr
      refine yields_outside (fun modules s₁ ws only => ?_) fun e s₁ ws only => only.blocked
      by_cases registered : (modules.any fun m => m.name = proposal.target ∨ m.container = some proposal.target) = true
      · rw [if_pos registered]
        exact blocked only
      · rw [if_neg registered]
        apply Script.yields_bind.mpr
        apply Script.yields_pure.mpr
        simp only [ChangeProposal.assessed, Bool.not_true, Bool.false_eq_true, if_false, List.append_nil]
        unfold buildAction
        apply Script.yields_bind.mpr
        apply Script.yields_bind.mpr
        apply yields_uuid4.mpr
        apply Script.yields_pure.mpr
        apply Script.yields_bind.mpr
        simp only [Script.yields_pure, List.nil_append, List.append_nil]
        apply (Script.yields_both (C := fun s' ls => Change P proposal adapterName s (ls ++ ws) s')).mpr
        exact .governed _ _ ws (only.still.unrecorded.trans ⟨rfl, rfl, Nat.le_succ _⟩) only.labels adapter supported
    · rw [if_pos (by simpa using supported)]
      simpa using @blocked "Unsupported evolution operation" s [] (WorldOnly.refl s)
  · rw [if_pos adapter]
    simpa using @blocked "Unsupported evolution adapter" s [] (WorldOnly.refl s)

end

end RmtPlatform.Core
