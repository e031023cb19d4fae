import RmtPlatform.Ops.Effects
import RmtPlatform.Agent.Proposal

/-! What each part of a proposing call does.

Looking at a grant stores nothing. What follows the core's answer (`Concluded`) uses
the grant up and remembers who is behind a hold, or uses it up and looks at what was
executed, or leaves everything as it was. -/
namespace RmtPlatform.Agent

open Core Ops

variable {W L : Type} {D : Deployment W L} {s s' : Site W}

/-! ### Grants -/

/-- The grant is there, unused and in time, and it is for this operation on this target. -/
def Granting (D : Deployment W L) (s : Site W) (grantId : Option String) (operation target : String) : Prop :=
  ∃ g, namedGrant s grantId = some g ∧ g.consumed = false ∧ D.clock s.core.ticks < g.expiresAt ∧
    g.operation = operation ∧ g.target = target

/-- Only the clock was read. -/
def Ticked (s s' : Site W) : Prop := s' = { s with core := { s.core with ticks := s'.core.ticks } }

theorem check_yields {grantId : Option String} {operation target : String} : Script.Yields
    (fun answer s' (ls : List (Notice L)) =>
      (answer.1 = true ↔ Granting D s grantId operation target) ∧ Ticked s s' ∧ ls = [])
    (fun _ _ _ => False) (check D grantId operation target) s := by
  unfold check
  apply Script.yields_bind.mpr
  apply Script.yields_read.mpr
  cases found : namedGrant s grantId with
  | none => exact ⟨by simp [Granting, found], rfl, rfl⟩
  | some g =>
    dsimp only
    by_cases consumed : g.consumed = true
    · rw [if_pos consumed]
      exact ⟨by simp [Granting, found, consumed], rfl, rfl⟩
    · rw [if_neg consumed]
      apply Script.yields_bind.mpr
      apply yields_inCore.mpr
      apply yields_now.mpr
      by_cases late : g.expiresAt ≤ D.clock s.core.ticks
      · rw [if_pos late]
        refine ⟨iff_of_false (by simp) ?_, rfl, rfl⟩
        rintro ⟨g', found', -, timely, -⟩
        obtain rfl : g = g' := Option.some.inj (found.symm.trans found')
        omega
      · rw [if_neg late]
        by_cases other : g.operation ≠ operation ∨ g.target ≠ target
        · rw [if_pos other]
          refine ⟨iff_of_false (by simp) ?_, rfl, rfl⟩
          rintro ⟨g', found', -, -, scope⟩
          obtain rfl : g = g' := Option.some.inj (found.symm.trans found')
          exact other.elim (fun h => h scope.1) fun h => h scope.2
        · rw [if_neg other]
          push Not at other
          refine ⟨iff_of_true rfl ⟨g, found, by simpa using consumed, by omega, other⟩, rfl, rfl⟩

/-- The store of grants with the named one used up at a time. -/
def spentGrants (s : Site W) (grantId : Option String) (at_ : Int) : DurableStore AuthorityGrant :=
  match grantId.bind s.grant? with
  | none => s.grants
  | some g => if g.consumed then s.grants else s.grants.update (·.grantId) g.grantId (AuthorityGrant.spent at_)

/-- The named grant is used up, and nothing else has changed. -/
def Spent (grantId : Option String) (s s' : Site W) : Prop :=
  ∃ at_, s' = { s with core := { s.core with ticks := s'.core.ticks }, grants := spentGrants s grantId at_ }

theorem Spent.untold {grantId : Option String} (h : Spent grantId s s') : Untold s s' := by
  obtain ⟨at_, same⟩ := h
  rw [same]
  exact ⟨⟨rfl, rfl, le_rfl⟩, rfl⟩

theorem consume_yields {grantId : Option String} : Script.Yields
    (fun _ s' (ls : List (Notice L)) => Spent grantId s s' ∧ ls = []) (fun _ _ _ => False) (consume D grantId) s := by
  unfold consume
  apply Script.yields_bind.mpr
  apply Script.yields_read.mpr
  cases found : grantId.bind s.grant? with
  | none => exact ⟨⟨0, by simp [spentGrants, found]⟩, rfl⟩
  | some g =>
    dsimp only
    by_cases consumed : g.consumed = true
    · rw [if_pos consumed]
      exact ⟨⟨0, by simp [spentGrants, found, consumed]⟩, rfl⟩
    · rw [if_neg consumed]
      apply Script.yields_bind.mpr
      apply yields_inCore.mpr
      apply yields_now.mpr
      apply Script.yields_bind.mpr
      apply Script.yields_modify.mpr
      exact ⟨⟨D.clock s.core.ticks, by simp [spentGrants, found, consumed]⟩, rfl⟩

/-! ### Proposals -/

/-- What resolving a proposal comes to. -/
structure Resolved (D : Deployment W L) (proposal : AgentProposal) (s : Site W) (r : Resolution) (s' : Site W) : Prop where
  authOk : r.authOk = true ↔ Granting D s proposal.grantId proposal.mechanism.value proposal.target
  escalate : r.escalate = (escalateForDependencyCascade D proposal.target proposal.mechanism.value).1
  escReason : r.escReason = (escalateForDependencyCascade D proposal.target proposal.mechanism.value).2
  action : ∃ decisionId actionId, r.action = proposedAction D proposal decisionId actionId
  same : s' = { s with core := { s.core with ticks := s'.core.ticks, draws := s.core.draws + 2 } }

theorem resolveProposal_yields {proposal : AgentProposal} : Script.Yields
    (fun r s' (ls : List (Notice L)) => Resolved D proposal s r s' ∧ ls = []) (fun _ _ _ => False)
    (resolveProposal D proposal) s := by
  unfold resolveProposal
  apply Script.yields_bind.mpr
  refine check_yields.mono ?_ fun _ _ _ h => h
  rintro answer s₁ ls ⟨granting, ticked, rfl⟩
  apply Script.yields_bind.mpr
  apply yields_inCore.mpr
  apply yields_uuid4.mpr
  apply Script.yields_bind.mpr
  apply yields_inCore.mpr
  apply yields_uuid4.mpr
  apply Script.yields_pure.mpr
  refine ⟨⟨granting, rfl, rfl, ⟨_, _, rfl⟩, ?_⟩, rfl⟩
  rw [ticked]

theorem Resolved.untold {proposal : AgentProposal} {r : Resolution} (h : Resolved D proposal s r s') : Untold s s' := by
  rw [h.same]
  exact ⟨⟨rfl, rfl, Nat.le_add_right _ 2⟩, rfl⟩

/-! ### After the core's answer -/

/-- The entry that says who is behind a hold, and those that are not too old. -/
def remembered (s : Site W) (proposal : AgentProposal) (approvalId : String) (at_ : Int) : List HoldProvenance :=
  if approvalId = "" then s.provenance
  else put (·.approvalId)
    ⟨approvalId, proposal.grantId, (proposal.grantId.bind s.grant?).map (·.grantedBy), some proposal.agentId, at_⟩
    (s.provenance.filter fun p => at_ - p.recordedAt ≤ provenanceMaxAge)

/-- What follows the core's answer. -/
inductive Concluded (D : Deployment W L) (proposal : AgentProposal) (adapterName operation target : String)
    (r : GovernedResult) (s s' : Site W) : Prop where
  | held (reason actionId approvalId : String) (result : r = .manualApprovalRequired reason actionId approvalId)
      (s₁ : Site W) (spent : Spent proposal.grantId s s₁) (at_ : Int)
      (recorded : s' = { s₁ with
        core := { s₁.core with ticks := s'.core.ticks }, provenance := remembered s₁ proposal approvalId at_ })
  | verified (e : Execution) (result : r.execution? = some e) (success : e.success = true) (s₁ : Site W)
      (spent : Spent proposal.grantId s s₁) (watched : Watched D e.executionId adapterName operation target s₁ s')
  | failed (e : Execution) (result : r.execution? = some e) (failure : e.success = false) (s₁ : Site W)
      (spent : Spent proposal.grantId s s₁) (marked : Marked r s₁ s')
  | turnedAway (result : r.execution? = none) (unheld : ∀ reason actionId approvalId,
      r ≠ .manualApprovalRequired reason actionId approvalId) (same : s' = s)

/-- **What concluding comes to**: the outcome has the status of the core's answer. -/
theorem conclude_yields {proposal : AgentProposal} {resolution : Resolution} {adapterName : String} {r : GovernedResult}
    (expected : resolution.action.expectedOutcome.isSome = true) : Script.Yields
    (fun outcome s' (ls : List (Notice L)) =>
      outcome.governedStatus = some r.status ∧ Concluded D proposal adapterName resolution.action.actionType.value
        resolution.action.component r s s' ∧ ∀ m ∈ ls, m.isCore)
    (fun _ _ _ => False) (conclude D proposal resolution adapterName (.ok r)) s := by
  have away : r.execution? = none → (∀ reason actionId approvalId, r ≠ .manualApprovalRequired reason actionId approvalId) →
      conclude D proposal resolution adapterName (.ok r) = pure (turnedAway resolution r) := by
    intro none unheld
    unfold conclude
    cases r <;> first | rfl | exact absurd rfl (unheld _ _ _) | cases none
  have went : ∀ e, r.execution? = some e → conclude D proposal resolution adapterName (.ok r) = (do
      let _ ← consume D proposal.grantId
      let verification ← followUp D resolution adapterName r e
      pure (allowed resolution r e.executionId verification)) := by
    intro e some
    unfold conclude
    cases r <;> cases some <;> rfl
  by_cases executed : ∃ e, r.execution? = some e
  · obtain ⟨e, some⟩ := executed
    rw [went e some]
    apply Script.yields_bind.mpr
    refine consume_yields.mono ?_ fun _ _ _ h => h
    rintro _ s₁ ls ⟨spent, rfl⟩
    apply Script.yields_bind.mpr
    unfold followUp
    cases success : e.success with
    | true =>
      rw [if_pos ⟨rfl, expected⟩]
      apply Script.yields_bind.mpr
      refine verifyExecutedAction_yields.mono ?_ fun _ _ _ h => h
      rintro v s₂ ls ⟨watched, labels⟩
      exact ⟨rfl, .verified e some success s₁ spent watched, by simpa using labels⟩
    | false =>
      rw [if_neg (by simp), if_pos (show (!false) = true from rfl)]
      refine recordFailedExecutionEvidence_yields.mono ?_ fun _ _ _ h => h
      rintro v s₂ ls ⟨marked, rfl⟩
      exact ⟨rfl, .failed e some success s₁ spent marked, by simp⟩
  · have none : r.execution? = none := by
      cases h : r.execution? with
      | none => rfl
      | some e => exact absurd ⟨e, h⟩ executed
    by_cases held : ∃ reason actionId approvalId, r = .manualApprovalRequired reason actionId approvalId
    · obtain ⟨reason, actionId, approvalId, rfl⟩ := held
      unfold conclude
      apply Script.yields_bind.mpr
      refine consume_yields.mono ?_ fun _ _ _ h => h
      rintro _ s₁ ls ⟨spent, rfl⟩
      apply Script.yields_bind.mpr
      apply Script.yields_read.mpr
      apply Script.yields_bind.mpr
      unfold recordHoldProvenance
      by_cases empty : approvalId = ""
      · rw [if_pos empty]
        refine ⟨rfl, .held reason actionId approvalId rfl s₁ spent 0 ?_, by simp⟩
        simp [remembered, empty]
      · rw [if_neg empty]
        apply Script.yields_bind.mpr
        apply yields_inCore.mpr
        apply yields_now.mpr
        refine ⟨rfl, .held reason actionId approvalId rfl s₁ spent (D.clock s₁.core.ticks) ?_, by simp⟩
        simp [remembered, empty]
    · have unheld : ∀ reason actionId approvalId, r ≠ .manualApprovalRequired reason actionId approvalId :=
        fun reason actionId approvalId h => held ⟨reason, actionId, approvalId, h⟩
      rw [away none unheld]
      exact ⟨rfl, .turnedAway none unheld rfl, by simp⟩

end RmtPlatform.Agent
