import RmtPlatform.Agent.Effects

/-! Calls of the endpoints.

Each endpoint has the core do one thing at most (`Call.opening`); then it may verify
what was executed (`Call.watch`), and it may record that it failed (`Call.evidences`).
`call_course` says so of all of them. -/
namespace RmtPlatform.Ops

open Core Agent

variable {W L : Type} (D : Deployment W L)

/-! ### Calls -/

inductive Call where
  | execute (operatorName operation target : String) (image : Option String)
  | approve (approvalId operatorName : String) (approved : Bool)
  | remediate (observed : Option HealthEvaluation)
  /-- One component in a cycle of the operational loop. -/
  | cycle (observed : Option HealthEvaluation)
  | homelabApprove (approvalId operatorName : String) (approved : Bool)
  | propose (proposal : AgentProposal)
  | grant (operation target grantedBy : String) (ttlSeconds : Option Int)
  /-- What other parts of the platform have the core do. -/
  | direct (b : Boundary)

/-- The call, whatever it returns. -/
def Call.script : Call → Above W L Unit
  | execute operatorName operation target image => do let _ ← Ops.execute D operatorName operation target image
  | approve approvalId operatorName approved => do let _ ← Ops.approve D approvalId operatorName approved
  | remediate observed => do let _ ← homelabRemediate D observed
  | cycle observed => do let _ ← remediateComponent D observed
  | homelabApprove approvalId operatorName approved => do let _ ← Ops.homelabApprove D approvalId operatorName approved
  | propose proposal => do let _ ← proposeAndGovern D proposal
  | grant operation target grantedBy ttlSeconds => do let _ ← Agent.grant D operation target grantedBy ttlSeconds
  | direct b => do let _ ← governed (b.script D.toPlatform)

/-! ### The course of a call -/

/-- What the call has the core do, if anything. -/
def Call.opening : Call → Above W L (Option Boundary)
  | execute operatorName operation target image =>
    match operationToActionType operation with
    | none => pure none
    | some actionType => do
      let actionId ← inCore (uuid4 D.toPlatform)
      pure (some (.governed (operatorAction operatorName operation target image actionType actionId) (resolveAdapterName D)))
  | approve approvalId operatorName approved | homelabApprove approvalId operatorName approved => do
    let answer ← checkSeparation D approvalId operatorName
    pure (if answer.1 then some (.approval approvalId operatorName approved) else none)
  | remediate observed | cycle observed =>
    match observed with
    | none => pure none
    | some evaluation => do
      let action ← buildRemediationAction D evaluation (some evaluation.message)
      pure (action.map fun action => .governed action (resolveAdapterName D))
  | propose proposal =>
    if !D.agentEnabled then pure none
    else do
      let resolution ← resolveProposal D proposal
      pure (if resolution.authOk then some (.governed resolution.action (agentAdapterName D proposal.operationalContext))
        else none)
  | grant .. => pure none
  | direct b => pure (some b)

/-- A verification above the core. -/
structure Watch where
  execution : Execution
  adapterName : String
  operation : String
  target : String

/-- What the call verifies above the core, by where it called the core and what came back. -/
def Call.watch (s : Site W) (b : Boundary) (r : GovernedResult) (c : Call) : Option Watch :=
  match r.execution? with
  | none => none
  | some e =>
    match c, b with
    | execute _ operation target _, _ =>
      if e.success ∧ e.executionId ≠ "" then some ⟨e, resolveAdapterName D, operation, target⟩ else none
    | remediate _, .governed action _ | cycle _, .governed action _ =>
      if e.executionId ≠ "" then some ⟨e, "docker", action.actionType.value, action.component⟩ else none
    | homelabApprove approvalId _ _, _ =>
      match s.core.hold? approvalId with
      | some hold =>
        if attributable hold.action ∧ e.executionId ≠ "" ∧ hold.action.expectedOutcome.isSome then
          some ⟨e, hold.adapterName, hold.action.actionType.value, hold.action.component⟩
        else none
      | none => none
    | propose _, .governed action adapterName =>
      if e.success then some ⟨e, adapterName, action.actionType.value, action.component⟩ else none
    | _, _ => none

/-- The call records a failure, unless something is recorded already. -/
def Call.evidences : Call → Bool
  | execute .. | approve .. | remediate _ | homelabApprove .. | propose _ => true
  | cycle _ | grant .. | direct _ => false

/-- The verification, where there is one. -/
def Looked : Option Watch → Site W → Site W → Prop
  | none, s, s' => s' = s
  | some w, s, s' => Watched D w.execution.executionId w.adapterName w.operation w.target s s'

/-- The evidence of a failure, where the call records it. -/
def Noted (c : Call) (r : GovernedResult) (s s' : Site W) : Prop := if c.evidences then Marked r s s' else s' = s

/-- What follows the core's answer. -/
def Follows (c : Call) (s₁ : Site W) (b : Boundary) (r : GovernedResult) (s s' : Site W) : Prop :=
  ∃ s₂ s₃, Untold s s₂ ∧ Looked D (c.watch D s₁ b r) s₂ s₃ ∧ Noted c r s₃ s'

/-- How a call goes: the core has nothing to do, or raises; or it answers. -/
inductive Course (c : Call) (s : Site W) : List (Notice L) → Site W → Prop where
  | apart (ls : List (Notice L)) (s' : Site W) (untold : Untold s s') (labels : ∀ m ∈ ls, m.isCore) : Course c s ls s'
  | answered (b : Boundary) (r : GovernedResult) (s₁ : Site W) (k : State W) (ls : List (Notice L)) (s' : Site W)
      (opens : Script.exec (c.opening D) s = (.ok (some b), s₁)) (untold : Untold s s₁)
      (answer : (b.script D.toPlatform).exec s₁.core = (.ok r, k))
      (follows : Follows D c s₁ b r { s₁ with core := k } s')
      (told : .returned r ∈ ls) (labels : ∀ m ∈ ls, m.isCore ∨ m = .returned r) : Course c s ls s'

section
variable {D} {c : Call} {s s₁ s' : Site W} {α : Type}

theorem labels_answered {ls : List (Notice L)} {r : GovernedResult} (h : ∀ m ∈ ls, m.isCore) (events : List (Event L)) :
    ∀ m ∈ ls ++ .returned r :: events.map .core, m.isCore ∨ m = .returned r := by
  intro m hm
  rcases List.mem_append.mp hm with hm | hm
  · exact .inl (h m hm)
  · rcases List.mem_cons.mp hm with rfl | hm
    · exact .inr rfl
    · exact .inl (core_labels events m hm)

/-- The core's part of a call, and what follows it. -/
theorem course_governed {b : Boundary} {x : Governed W L GovernedResult} {f : GovernedResult → Above W L α}
    (called : b.script D.toPlatform = x) (opens : Script.exec (c.opening D) s = (.ok (some b), s₁)) (untold : Untold s s₁)
    (follows : ∀ r k, (b.script D.toPlatform).exec s₁.core = (.ok r, k) → Script.Yields
      (fun _ s' ls => Follows D c s₁ b r { s₁ with core := k } s' ∧ ∀ m ∈ ls, m.isCore) (fun _ _ _ => False)
      (f r) { s₁ with core := k }) :
    Script.Yields (fun _ s' ls => Course D c s ls s') (fun _ s' ls => Course D c s ls s')
      (governed x >>= f) s₁ := by
  subst called
  have spec := @boundary_yields W L D.toPlatform s₁.core b
  apply Script.yields_bind.mpr
  apply yields_governed.mpr
  apply Script.Yields.of_exec
  · intro r k answer
    refine (follows r k answer).mono ?_ fun _ _ _ h => h.elim
    rintro _ s' ls ⟨follows, labels⟩
    exact .answered b r s₁ k _ s' opens untold answer follows (by simp) (labels_answered labels _)
  · intro e k answer
    exact .apart _ _ (untold.trans ⟨spec.error answer, rfl⟩) (core_labels _)

theorem watch_none {b : Boundary} {r : GovernedResult} (h : r.execution? = none) : c.watch D s b r = none := by
  unfold Call.watch
  rw [h]

theorem noted_none {r : GovernedResult} (h : r.execution? = none) : Noted c r s s := by
  unfold Noted
  split
  · exact .unfailed (by simp [failedAttempt, h]) rfl
  · rfl

/-- Nothing follows an answer that says of no execution. -/
theorem follows_none {b : Boundary} {r : GovernedResult} (h : r.execution? = none) (untold : Untold s s') :
    Follows D c s₁ b r s s' := by
  refine ⟨s', s', untold, ?_, noted_none h⟩
  rw [watch_none h]
  rfl

theorem noted_marked {r : GovernedResult} (evidences : c.evidences = true) (marked : Marked r s s') : Noted c r s s' := by
  rw [Noted, if_pos evidences]
  exact marked

theorem noted_success {r : GovernedResult} {e : Execution} (executed : r.execution? = some e) (success : e.success = true) :
    Noted c r s s := by
  unfold Noted
  split
  · exact .unfailed (by simp [failedAttempt, executed, success]) rfl
  · rfl

theorem looked_watched {b : Boundary} {r : GovernedResult} {w : Watch} (h : c.watch D s₁ b r = some w)
    (watched : Watched D w.execution.executionId w.adapterName w.operation w.target s s') :
    Looked D (c.watch D s₁ b r) s s' := by
  rw [h]
  exact watched

theorem looked_none {b : Boundary} {r : GovernedResult} (h : c.watch D s₁ b r = none) :
    Looked D (c.watch D s₁ b r) s s := by
  rw [h]
  rfl

/-! ### Each call -/

theorem execute_course {operatorName operation target : String} {image : Option String} : Script.Yields
    (fun _ s' ls => Course D (.execute operatorName operation target image) s ls s')
    (fun _ s' ls => Course D (.execute operatorName operation target image) s ls s')
    (Ops.execute D operatorName operation target image) s := by
  unfold Ops.execute
  cases known : operationToActionType operation with
  | none => exact .apart [] s (Untold.refl s) (by simp)
  | some actionType =>
    apply Script.yields_bind.mpr
    apply yields_inCore.mpr
    apply yields_uuid4.mpr
    simp only [List.map_nil, List.append_nil]
    let action := operatorAction operatorName operation target image actionType (D.uuid4 s.core.draws).text
    have called : (Boundary.governed action (resolveAdapterName D)).script D.toPlatform =
      executeGovernedAction D.toPlatform action (resolveAdapterName D) := rfl
    refine course_governed called ?_ ?_ ?_
    · simp only [Call.opening, known]
      rfl
    · exact ⟨⟨rfl, rfl, Nat.le_succ _⟩, rfl⟩
    · intro r k answer
      apply Script.yields_bind.mpr
      refine recordFailedExecutionEvidence_yields.mono ?_ fun _ _ _ h => h
      rintro _ s₂ ls ⟨marked, rfl⟩
      cases executed : r.execution? with
      | none =>
        refine ⟨?_, by simp⟩
        obtain rfl : s₂ = _ := by
          cases marked with
          | unfailed attempt same => exact same
          | known e attempt => simp [failedAttempt, executed] at attempt
          | marked e attempt => simp [failedAttempt, executed] at attempt
        exact follows_none executed (Untold.refl _)
      | some e =>
        dsimp only
        by_cases verified : e.success = true ∧ e.executionId ≠ ""
        · rw [if_pos verified]
          obtain rfl : s₂ = _ := by
            cases marked with
            | unfailed attempt same => exact same
            | known e' attempt => simp [failedAttempt, executed, verified.1] at attempt
            | marked e' attempt => simp [failedAttempt, executed, verified.1] at attempt
          apply Script.yields_bind.mpr
          refine verifyExecutedAction_yields.mono ?_ fun _ _ _ h => h
          rintro v s₃ ls ⟨watched, labels⟩
          apply Script.yields_bind.mpr
          apply Script.yields_read.mpr
          apply Script.yields_pure.mpr
          refine ⟨⟨_, s₃, Untold.refl _, looked_watched (w := ⟨e, resolveAdapterName D, operation, target⟩) ?_ watched,
            noted_success executed verified.1⟩, by simpa using labels⟩
          simp [Call.watch, executed, verified]
        · rw [if_neg verified]
          refine ⟨⟨_, _, Untold.refl _, looked_none ?_, noted_marked rfl marked⟩, by simp⟩
          simp only [Call.watch, executed, if_neg verified]

theorem separated_course {c : Call} {approvalId operatorName : String} {approved : Bool}
    (opening : c.opening D = (do
      let answer ← checkSeparation D approvalId operatorName
      pure (if answer.1 then some (.approval approvalId operatorName approved) else none)))
    {f : Bool × String → Above W L α}
    (apart : ∀ answer s₁, answer.1 = false → Script.Yields (fun _ s' ls => s' = s₁ ∧ ls = []) (fun _ _ _ => False) (f answer) s₁)
    (goes : ∀ answer s₁, answer.1 = true → Script.exec (c.opening D) s =
        (.ok (some (.approval approvalId operatorName approved)), s₁) → Untold s s₁ →
      Script.Yields (fun _ s' ls => Course D c s ls s') (fun _ s' ls => Course D c s ls s') (f answer) s₁) :
    Script.Yields (fun _ s' ls => Course D c s ls s') (fun _ s' ls => Course D c s ls s')
      (checkSeparation D approvalId operatorName >>= f) s := by
  have spec := @checkSeparation_yields W L s D approvalId operatorName
  apply Script.yields_bind.mpr
  apply Script.Yields.of_exec
  · intro answer s₁ checked
    obtain ⟨glanced, silent⟩ := spec.ok checked
    have untold := glanced.untold
    rw [silent]
    simp only [List.append_nil]
    cases ok : answer.1 with
    | false =>
      refine (apart answer s₁ ok).mono ?_ fun _ _ _ h => h.elim
      rintro _ s' ls ⟨rfl, rfl⟩
      exact .apart [] _ untold (by simp)
    | true =>
      refine goes answer s₁ ok ?_ untold
      rw [opening, Script.exec_bind, checked]
      simp [ok]
  · intro e s₁ checked
    exact (spec.error checked).elim

theorem approve_course {approvalId operatorName : String} {approved : Bool} : Script.Yields
    (fun _ s' ls => Course D (.approve approvalId operatorName approved) s ls s')
    (fun _ s' ls => Course D (.approve approvalId operatorName approved) s ls s')
    (Ops.approve D approvalId operatorName approved) s := by
  unfold Ops.approve
  apply separated_course rfl
  · intro answer s₁ denied
    simp only [denied]
    exact ⟨rfl, rfl⟩
  · intro answer s₁ ok opens untold
    simp only [ok]
    have called : (Boundary.approval approvalId operatorName approved).script D.toPlatform =
      approveHeldAction D.toPlatform approvalId operatorName approved := rfl
    refine course_governed called opens untold fun r k answer => ?_
    apply Script.yields_bind.mpr
    refine recordFailedExecutionEvidence_yields.mono ?_ fun _ _ _ h => h
    rintro _ s₂ ls ⟨marked, rfl⟩
    refine ⟨⟨_, _, Untold.refl _, looked_none ?_, noted_marked rfl marked⟩, by simp⟩
    unfold Call.watch
    cases r.execution? <;> rfl

/-- What the call does with a reply: it records a failure, if it records any. -/
structure Closes (c : Call) (g : Reply → Above W L α) : Prop where
  nothing : ∀ reply s, (∀ r v e, reply ≠ .outcome r v e) →
    Script.Yields (fun _ s' ls => s' = s ∧ ls = []) (fun _ _ _ => False) (g reply) s
  outcome : ∀ r v e s, Script.Yields (fun _ s' ls => Noted c r s s' ∧ ls = []) (fun _ _ _ => False) (g (.outcome r v e)) s

theorem closes_evidence (evidences : c.evidences = true) : Closes c (Ops.evidence : Reply → Above W L Reply) where
  nothing reply s other := by
    cases reply with
    | outcome r v e => exact absurd rfl (other r v e)
    | unsupportedOperation => exact ⟨rfl, rfl⟩
    | forbidden => exact ⟨rfl, rfl⟩
    | noObservation => exact ⟨rfl, rfl⟩
    | noRemediation => exact ⟨rfl, rfl⟩
  outcome r v e s := by
    unfold Ops.evidence
    apply Script.yields_bind.mpr
    refine recordFailedExecutionEvidence_yields.mono ?_ fun _ _ _ h => h
    rintro _ s' ls ⟨marked, rfl⟩
    exact ⟨noted_marked evidences marked, rfl⟩

theorem closes_pure (evidences : c.evidences = false) : Closes c (fun _ => pure () : Reply → Above W L Unit) where
  nothing _ _ _ := ⟨rfl, rfl⟩
  outcome r v e s := ⟨by simp [Noted, evidences], rfl⟩

/-- Looking at what was executed, and then recording. -/
theorem looked_follows {b : Boundary} {r : GovernedResult} {x : Above W L Reply} {g : Reply → Above W L α} (closes : Closes c g)
    (h : Script.Yields (fun reply s' ls => (∃ v e, reply = .outcome r v e) ∧ Looked D (c.watch D s₁ b r) s s' ∧
      ∀ m ∈ ls, m.isCore) (fun _ _ _ => False) x s) :
    Script.Yields (fun _ s' ls => Follows D c s₁ b r s s' ∧ ∀ m ∈ ls, m.isCore) (fun _ _ _ => False) (x >>= g) s := by
  apply Script.yields_bind.mpr
  refine h.mono ?_ fun _ _ _ h => h
  rintro reply s₃ ls ⟨⟨v, e, rfl⟩, looked, labels⟩
  refine (closes.outcome r v e s₃).mono ?_ fun _ _ _ h => h
  rintro _ s' ls' ⟨noted, rfl⟩
  exact ⟨⟨s, s₃, Untold.refl s, looked, noted⟩, by simpa using labels⟩

theorem homelabApprove_course {approvalId operatorName : String} {approved : Bool} : Script.Yields
    (fun _ s' ls => Course D (.homelabApprove approvalId operatorName approved) s ls s')
    (fun _ s' ls => Course D (.homelabApprove approvalId operatorName approved) s ls s')
    (Ops.homelabApprove D approvalId operatorName approved) s := by
  unfold Ops.homelabApprove
  apply separated_course rfl
  · intro answer s₁ denied
    simp only [denied]
    exact ⟨rfl, rfl⟩
  · intro answer s₁ ok opens untold
    simp only [ok]
    have called : (Boundary.approval approvalId operatorName approved).script D.toPlatform =
      approveHeldAction D.toPlatform approvalId operatorName approved := rfl
    unfold continueRemediation
    rw [Bool.not_true, if_neg Bool.false_ne_true, Script.bind_assoc]
    apply Script.yields_bind.mpr
    apply Script.yields_read.mpr
    rw [Script.bind_assoc]
    simp only [List.append_nil]
    refine course_governed called opens untold fun r k answer => ?_
    apply looked_follows (closes_evidence rfl)
    cases found : s₁.core.hold? approvalId with
    | none =>
      refine ⟨⟨_, _, rfl⟩, looked_none ?_, by simp⟩
      unfold Call.watch
      cases r.execution? <;> simp only [found]
    | some hold =>
      dsimp only
      by_cases verified : attributable hold.action = true
      · rw [if_neg (by simp [verified])]
        cases executed : r.execution? with
        | none => exact ⟨⟨_, _, rfl⟩, looked_none (watch_none executed), by simp⟩
        | some e =>
          dsimp only
          by_cases watched : e.executionId ≠ "" ∧ hold.action.expectedOutcome.isSome = true
          · rw [if_pos watched]
            apply Script.yields_bind.mpr
            refine verifyExecutedAction_yields.mono ?_ fun _ _ _ h => h
            rintro v s₃ ls ⟨looked, labels⟩
            refine ⟨⟨_, _, rfl⟩, looked_watched (w := ⟨e, hold.adapterName, hold.action.actionType.value,
              hold.action.component⟩) ?_ looked, by simpa using labels⟩
            simp [Call.watch, executed, found, verified, watched]
          · rw [if_neg watched]
            refine ⟨⟨_, _, rfl⟩, looked_none ?_, by simp⟩
            simp only [Call.watch, executed, found]
            exact if_neg fun h => watched h.2
      · rw [if_pos (by simpa using verified)]
        refine ⟨⟨_, _, rfl⟩, looked_none ?_, by simp⟩
        unfold Call.watch
        cases r.execution? <;> simp [found, verified]

theorem remediate_course {observed : Option HealthEvaluation} {g : Reply → Above W L α} (closes : Closes c g)
    (called : c = .remediate observed ∨ c = .cycle observed) : Script.Yields
    (fun _ s' ls => Course D c s ls s') (fun _ s' ls => Course D c s ls s') (remediateComponent D observed >>= g) s := by
  have away : ∀ reply s₁, Untold s s₁ → (∀ r v e, reply ≠ .outcome r v e) →
      Script.Yields (fun _ s' ls => Course D c s ls s') (fun _ s' ls => Course D c s ls s') (g reply) s₁ := by
    intro reply s₁ untold other
    refine (closes.nothing reply s₁ other).mono ?_ fun _ _ _ h => h.elim
    rintro _ s' ls ⟨rfl, rfl⟩
    exact .apart [] _ untold (by simp)
  unfold remediateComponent
  cases observed with
  | none =>
    apply Script.yields_bind.mpr
    apply Script.yields_pure.mpr
    simp only [List.append_nil]
    exact away _ s (Untold.refl s) (by simp)
  | some evaluation =>
    have spec := @buildRemediationAction_yields W L s D evaluation (some evaluation.message)
    unfold remediateAndVerify
    rw [Script.bind_assoc]
    apply Script.yields_bind.mpr
    apply Script.Yields.of_exec
    · intro action s₁ built
      obtain ⟨untold, expected, silent⟩ := spec.ok built
      rw [silent]
      simp only [List.append_nil]
      cases action with
      | none =>
        apply Script.yields_bind.mpr
        apply Script.yields_pure.mpr
        simp only [List.append_nil]
        exact away _ s₁ untold (by simp)
      | some action =>
        dsimp only
        rw [Script.bind_assoc]
        have opens : Script.exec (c.opening D) s = (.ok (some (.governed action (resolveAdapterName D))), s₁) := by
          rcases called with rfl | rfl
          all_goals
            simp only [Call.opening]
            rw [Script.exec_bind, built]
            rfl
        have called' : (Boundary.governed action (resolveAdapterName D)).script D.toPlatform =
          executeGovernedAction D.toPlatform action (resolveAdapterName D) := rfl
        refine course_governed called' opens untold fun r k answer => ?_
        apply looked_follows closes
        cases executed : r.execution? with
        | none => exact ⟨⟨_, _, rfl⟩, looked_none (watch_none executed), by simp⟩
        | some e =>
          dsimp only
          have some_expected := (expected action rfl).1
          by_cases named : e.executionId ≠ ""
          · rw [if_pos ⟨named, some_expected⟩]
            apply Script.yields_bind.mpr
            refine verifyExecutedAction_yields.mono ?_ fun _ _ _ h => h
            rintro v s₃ ls ⟨looked, labels⟩
            refine ⟨⟨_, _, rfl⟩, looked_watched (w := ⟨e, "docker", action.actionType.value, action.component⟩) ?_ looked,
              by simpa using labels⟩
            rcases called with rfl | rfl <;> simp [Call.watch, executed, named]
          · rw [if_neg fun h => named h.1]
            refine ⟨⟨_, _, rfl⟩, looked_none ?_, by simp⟩
            rcases called with rfl | rfl <;> simp only [Call.watch, executed, if_neg named]
    · intro e s₁ built
      exact (spec.error built).elim

theorem concluded_follows {proposal : AgentProposal} {action : ActionRequest} {adapterName : String} {r : GovernedResult}
    (h : Concluded D proposal adapterName action.actionType.value action.component r s s') :
    Follows D (.propose proposal) s₁ (.governed action adapterName) r s s' := by
  cases h with
  | held reason actionId approvalId result s₂ spent at_ recorded =>
    have untold : Untold s₂ s' := by
      rw [recorded]
      exact ⟨⟨rfl, rfl, le_rfl⟩, rfl⟩
    exact follows_none (by rw [result]; rfl) (spent.untold.trans untold)
  | verified e result success s₂ spent watched =>
    refine ⟨s₂, s', spent.untold, looked_watched (w := ⟨e, adapterName, action.actionType.value, action.component⟩) ?_ watched,
      noted_success result success⟩
    simp [Call.watch, result, success]
  | failed e result failure s₂ spent marked =>
    refine ⟨s₂, s₂, spent.untold, looked_none ?_, noted_marked rfl marked⟩
    simp [Call.watch, result, failure]
  | turnedAway result unheld same =>
    rw [same]
    exact follows_none result (Untold.refl s)

theorem propose_course {proposal : AgentProposal} : Script.Yields
    (fun _ s' ls => Course D (.propose proposal) s ls s') (fun _ s' ls => Course D (.propose proposal) s ls s')
    (proposeAndGovern D proposal) s := by
  unfold proposeAndGovern
  by_cases enabled : D.agentEnabled = true
  · rw [if_neg (by simp [enabled])]
    have spec := @resolveProposal_yields W L D s proposal
    apply Script.yields_bind.mpr
    apply Script.Yields.of_exec
    · intro resolution s₁ answer
      obtain ⟨resolved, silent⟩ := spec.ok answer
      obtain ⟨decisionId, actionId, proposed⟩ := resolved.action
      rw [silent]
      simp only [List.append_nil]
      by_cases ok : resolution.authOk = true
      · rw [if_neg (by simp [ok])]
        have opens : Script.exec (Call.opening D (.propose proposal)) s =
            (.ok (some (.governed resolution.action (agentAdapterName D proposal.operationalContext))), s₁) := by
          simp only [Call.opening, enabled, Bool.not_true, Bool.false_eq_true, if_false]
          rw [Script.exec_bind, answer]
          simp [ok]
        have core := @boundary_yields W L D.toPlatform s₁.core
          (.governed resolution.action (agentAdapterName D proposal.operationalContext))
        apply Script.yields_bind.mpr
        apply Script.yields_caught.mpr
        apply yields_governed.mpr
        apply Script.Yields.of_exec
        · intro r k returned
          refine (conclude_yields (by rw [proposed]; rfl)).mono ?_ fun _ _ _ h => h.elim
          rintro outcome s' ls ⟨-, concluded, labels⟩
          refine .answered _ r s₁ k _ s' opens resolved.untold returned (concluded_follows concluded) (by simp) ?_
          exact labels_answered labels _
        · intro e k raised
          unfold conclude
          apply Script.yields_pure.mpr
          rw [List.nil_append]
          exact .apart _ _ (resolved.untold.trans ⟨core.error raised, rfl⟩) (core_labels _)
      · rw [if_pos (by simpa using ok)]
        exact .apart [] _ resolved.untold (by simp)
    · intro e s₁ answer
      exact (spec.error answer).elim
  · rw [if_pos (by simpa using enabled)]
    exact .apart [] s (Untold.refl s) (by simp)

/-- **How every call goes.** -/
theorem call_course : Course D c s ((c.script D).emitted s) (Script.exec (c.script D) s).2 := by
  -- What a call returns does not matter.
  have ignored : ∀ {β : Type} {x : Above W L β}, Script.Yields (fun _ s' ls => Course D c s ls s')
      (fun _ s' ls => Course D c s ls s') x s →
      Script.Yields (fun _ s' ls => Course D c s ls s') (fun _ s' ls => Course D c s ls s')
        (x >>= fun _ => (pure () : Above W L Unit)) s := fun {β x} h => by
    apply Script.yields_bind.mpr
    refine h.mono (fun _ s' ls course => ?_) fun _ _ _ h => h
    exact course
  apply (Script.yields_both (C := fun s' ls => Course D c s ls s')).mp
  cases c with
  | execute operatorName operation target image => exact ignored execute_course
  | approve approvalId operatorName approved => exact ignored approve_course
  | remediate observed => exact ignored (remediate_course (closes_evidence rfl) (.inl rfl))
  | cycle observed => exact remediate_course (closes_pure rfl) (.inr rfl)
  | homelabApprove approvalId operatorName approved => exact ignored homelabApprove_course
  | propose proposal => exact ignored propose_course
  | grant operation target grantedBy ttlSeconds =>
    apply ignored
    unfold Agent.grant
    apply Script.yields_bind.mpr
    apply yields_inCore.mpr
    apply yields_uuid4.mpr
    apply Script.yields_bind.mpr
    apply yields_inCore.mpr
    apply yields_now.mpr
    exact .apart [] _ ⟨⟨rfl, rfl, Nat.le_succ _⟩, rfl⟩ (by simp)
  | direct b =>
    have opens : Script.exec (Call.opening D (.direct b)) s = (.ok (some b), s) := rfl
    refine course_governed rfl opens (Untold.refl s) fun r k answer => ?_
    refine ⟨⟨_, _, Untold.refl _, looked_none ?_, rfl⟩, by simp⟩
    unfold Call.watch
    cases r.execution? <;> cases b <;> rfl

end

end RmtPlatform.Ops
