import RmtPlatform.Core.Outcome

/-! What a verdict is about.

The core's observer looks for the module that an action's parameters name, the verifier
compares only states, and the expected outcome is the caller's. So a verdict is about
what was executed where all three name the same (`ActionRequest.Aimed`):
`boundary_attests` says so of both entry points. -/
namespace RmtPlatform.Core

variable {W L : Type} (P : Platform W L)

/-- The outcome expected of an operation on a target. -/
def ExpectedOutcome.Names (e : ExpectedOutcome) (target operation : String) : Prop :=
  e.target = target ∧ e.operation = operation

instance (e : ExpectedOutcome) (target operation : String) : Decidable (e.Names target operation) :=
  inferInstanceAs (Decidable (_ ∧ _))

/-- What a success was observed of is the target, and what was expected names it and the operation. -/
def VerificationResult.About (v : VerificationResult) (target operation : String) : Prop :=
  v.status = "verified_success" →
    (∃ o, v.observed = some o ∧ o.target = target) ∧ ∃ e, v.expected = some e ∧ e.Names target operation

/-- The states the core's observer may report. -/
def registryStates : List String := ["registered", "not_registered"]

/-- The module that is looked for after the action, if there is one. -/
def ActionRequest.lookedFor (action : ActionRequest) : Option String :=
  match Dict.get action.parameters "module_name" with
  | .str name => if action.actionType = .create ∧ name ≠ "" then some name else none
  | _ => none

/-- What is looked for is the component, and what is expected of it names it, where the observer may report that. -/
def ActionRequest.Aimed (action : ActionRequest) : Prop :=
  ∀ name ∈ action.lookedFor, ∀ e ∈ action.expectedOutcome, e.expectedState ∈ registryStates →
    name = action.component ∧ e.Names action.component action.actionType.value

/-- The action an entry point may execute. -/
def Boundary.action (s : State W) : Boundary → Option ActionRequest
  | governed action _ => some action
  | approval approvalId _ approved =>
    match s.hold? approvalId with
    | some hold => if approved ∧ hold.status = .pending then some hold.action else none
    | none => none

/-- The requests that adapters were asked to execute. -/
def Event.request? : Event L → Option ExecutionRequest
  | .adapterExecute _ _ request _ => some request
  | _ => none

/-- Every record is one there was or is about the target, and so is every request that was executed. -/
structure Attests (target operation : String) (s s' : State W) (requests : List ExecutionRequest) : Prop where
  draws : s.draws ≤ s'.draws
  records : ∀ v ∈ s'.verifications.records, v ∈ s.verifications.records ∨ v.About target operation
  requests : ∀ request ∈ requests, request.target = target ∧ request.operation = operation ∧
    New P.uuid4 s s' request.executionId

section
variable {P} {s s₁ s' : State W} {target operation : String} {rs rs' : List ExecutionRequest}

theorem Attests.trans (h : Attests P target operation s s₁ rs) (h' : Attests P target operation s₁ s' rs') :
    Attests P target operation s s' (rs' ++ rs) := by
  refine ⟨h.draws.trans h'.draws, fun v hv => ?_, fun request hr => ?_⟩
  · rcases h'.records v hv with known | about
    · exact h.records v known
    · exact .inr about
  · rcases List.mem_append.mp hr with hr | hr
    · obtain ⟨sameTarget, sameOperation, new⟩ := h'.requests request hr
      exact ⟨sameTarget, sameOperation, new.mono h.draws le_rfl⟩
    · obtain ⟨sameTarget, sameOperation, new⟩ := h.requests request hr
      exact ⟨sameTarget, sameOperation, new.mono le_rfl h'.draws⟩

theorem Unrecorded.attests (h : Unrecorded s s') : Attests P target operation s s' [] := by
  refine ⟨h.draws, ?_, by simp⟩
  rw [h.verifications]
  exact fun v hv => .inl hv

theorem world_requests {ls : List (Event L)} (h : ∀ m ∈ ls, m.isWorld) : ls.filterMap Event.request? = [] := by
  apply List.filterMap_eq_nil_iff.mpr
  intro m hm
  cases m with
  | world l => rfl
  | assessed => exact (h _ hm).elim
  | autoApproved => exact (h _ hm).elim
  | holdApproved => exact (h _ hm).elim
  | holdRejected => exact (h _ hm).elim
  | holdExpired => exact (h _ hm).elim
  | adapterExecute => exact (h _ hm).elim

/-! ### Observing -/

variable {request : ExecutionRequest} {adapterName : String}

theorem lower_create {actionType : ActionType} (h : lower actionType.value = "create") : actionType = .create := by
  cases actionType <;> first | rfl | exact absurd h (by decide)

/-- **What the core's observer reports** is a state of the module the parameters name. -/
theorem observe_target : Script.Yields
    (fun observed _ (_ : List (Event L)) => ∀ o ∈ observed, lower request.operation = "create" ∧ o.target ≠ "" ∧
      Dict.get request.parameters "module_name" = .str o.target ∧ o.state ∈ registryStates)
    (fun _ _ _ => False) (observe P request) s := by
  unfold observe
  dsimp only
  split
  · next looks =>
    apply Script.yields_bind.mpr
    apply Script.yields_caught.mpr
    unfold Script.Yields
    rw [exec_outside]
    cases (P.getModules.exec s.world).1 with
    | error e => exact fun o ho => by cases ho
    | ok modules =>
      cases named : Dict.get request.parameters "module_name" with
      | str name =>
        intro o ho
        obtain rfl := Option.some.inj ho
        refine ⟨looks.1, ?_, rfl, ?_⟩
        · simpa [named, PyVal.truthy] using looks.2
        · dsimp only
          split <;> simp [registryStates]
      | _ => exact fun o ho => by cases ho
  · exact fun o ho => by cases ho

theorem verified_states {executionId : String} {expected : Option ExpectedOutcome} {observed : Option ObservedState}
    (h : (verify executionId expected observed).status = "verified_success") :
    ∃ e o, expected = some e ∧ observed = some o ∧ o.state = e.expectedState ∧
      verify executionId expected observed =
        ⟨executionId, "verified_success", some e, some o, "Observed state matches expected outcome"⟩ := by
  cases expected with
  | none => simp [verify] at h
  | some e =>
    cases observed with
    | none => simp [verify] at h
    | some o =>
      by_cases same : o.state = e.expectedState
      · exact ⟨e, o, rfl, rfl, same, by simp [verify, same]⟩
      · simp [verify, same] at h

/-- A request that says of an action what the observer and the verifier read. -/
structure Carries (request : ExecutionRequest) (action : ActionRequest) : Prop where
  target : request.target = action.component
  operation : request.operation = action.actionType.value
  parameters : request.parameters = action.parameters
  outcome : request.expectedOutcome = action.expectedOutcome

theorem Engages.carries {b : Boundary} (h : Engages P b s request adapterName s₁) :
    ∃ action, b.action s = some action ∧ Carries request action := by
  cases h with
  | governed action adapterName s s₁ assessment assessed allowed auto => exact ⟨action, rfl, rfl, rfl, rfl, rfl⟩
  | approval approvalId approvedBy hold s s₁ resumable checked =>
    refine ⟨hold.action, ?_, rfl, rfl, rfl, rfl⟩
    simp [Boundary.action, resumable.found, resumable.pending]

/-- **The core's verdict on an action that is aimed** is about it. -/
theorem verify_about {action : ActionRequest} {executionId : String} {observed : Option ObservedState}
    (carries : Carries request action) (aimed : action.Aimed)
    (reports : ∀ o ∈ observed, lower request.operation = "create" ∧ o.target ≠ "" ∧
      Dict.get request.parameters "module_name" = .str o.target ∧ o.state ∈ registryStates) :
    (verify executionId request.expectedOutcome observed).About action.component action.actionType.value := by
  intro success
  obtain ⟨e, o, expected, rfl, states, record⟩ := verified_states success
  obtain ⟨creates, nonempty, named, reported⟩ := reports o rfl
  rw [carries.operation] at creates
  rw [carries.parameters] at named
  have looked : o.target ∈ action.lookedFor := by
    unfold ActionRequest.lookedFor
    rw [named]
    exact if_pos ⟨lower_create creates, nonempty⟩
  obtain ⟨same, names⟩ := aimed o.target looked e (carries.outcome ▸ expected) (states ▸ reported)
  rw [record]
  exact ⟨⟨o, rfl, same⟩, e, rfl, names⟩

/-! ### Executing -/

/-- An ending that asks an adapter asks it for this request. -/
theorem Ending.requests {ls : List (Event L)} {r : Except Raised ExecutionResult} (h : Ending P request adapterName s ls r s') :
    ∀ r ∈ ls.filterMap Event.request?, r = request := by
  have worlds : ∀ (x : Script W L Raised Bool) w, ((x.emitted w).map Event.world).filterMap Event.request? = [] := by
    intro x w
    exact world_requests (by simp [Event.isWorld])
  have worlds' : ∀ (x : Script W L Raised ExecutionResult) w,
      ((x.emitted w).map Event.world).filterMap Event.request? = [] := by
    intro x w
    exact world_requests (by simp [Event.isWorld])
  cases h with
  | refused => simp
  | unbound => simp
  | unknown => simp
  | unsupported => rw [worlds]; simp
  | undetermined => rw [worlds]; simp
  | raised => simp [worlds, worlds', Event.request?]
  | returned => simp [worlds, worlds', Event.request?]

theorem Ending.unverified {ls : List (Event L)} {r : Except Raised ExecutionResult} (h : Ending P request adapterName s ls r s') :
    s'.verifications = s.verifications ∧ s'.draws = s.draws := by
  cases h <;> exact ⟨rfl, rfl⟩

/-- What executing and verifying adds. -/
structure Adds (request : ExecutionRequest) (action : ActionRequest) (s s' : State W) (ls : List (Event L)) : Prop where
  draws : s.draws = s'.draws
  records : ∀ v ∈ s'.verifications.records, v ∈ s.verifications.records ∨ v.About action.component action.actionType.value
  requests : ∀ r ∈ ls.filterMap Event.request?, r = request

theorem executeAndVerify_adds {action : ActionRequest} (carries : Carries request action) (aimed : action.Aimed) :
    Script.Yields (fun _ s' ls => Adds request action s s' ls) (fun _ s' ls => Adds request action s s' ls)
      (executeAndVerify P request adapterName) s := by
  have ending : Ending P request adapterName s ((execute P request adapterName).emitted s) _ _ := execute_ending
  have ended : ∀ {r : Except Raised ExecutionResult} {s₁ ls}, Ending P request adapterName s ls r s₁ →
      Adds request action s s₁ ls := by
    intro r s₁ ls ending
    obtain ⟨verifications, draws⟩ := ending.unverified
    refine ⟨draws.symm, ?_, ending.requests⟩
    rw [verifications]
    exact fun v hv => .inl hv
  unfold executeAndVerify
  apply Script.yields_bind.mpr
  apply Script.Yields.of_exec
  · intro result s₁ answer
    rw [answer] at ending
    have before := ended ending
    cases success : result.success with
    | false =>
      rw [if_neg (by simp)]
      apply Script.yields_pure.mpr
      exact before
    | true =>
      rw [if_pos rfl]
      unfold verifyExecution
      apply Script.yields_bind.mpr
      apply Script.yields_bind.mpr
      -- The observer's report, and that it changes nothing but the world.
      have reports : Script.Yields _ _ (observe P request) s₁ := observe_target
      have quiet : Script.Yields _ _ (observe P request) s₁ := observe_yields
      apply Script.Yields.of_exec
      · intro observed s₂ looked
        obtain ⟨same, worlds⟩ := quiet.ok looked
        have about : (verify result.executionId request.expectedOutcome observed).About action.component
            action.actionType.value := verify_about carries aimed (reports.ok looked)
        apply Script.yields_bind.mpr
        apply Script.yields_modify.mpr
        apply Script.yields_pure.mpr
        apply Script.yields_pure.mpr
        rw [same]
        refine ⟨before.draws, fun v hv => ?_, ?_⟩
        · rcases List.mem_append.mp hv with hv | hv
          · exact before.records v hv
          · obtain rfl := List.mem_singleton.mp hv
            exact .inr about
        · simpa [List.filterMap_append, world_requests worlds] using before.requests
      · intro e s₂ looked
        exact (reports.error looked).elim
  · intro e s₁ answer
    rw [answer] at ending
    exact ended ending

/-! ### The entry points -/

/-- **What an entry point attests**, where the action it may execute is aimed. -/
theorem boundary_attests {b : Boundary} (subject : ∀ action, b.action s = some action →
      action.Aimed ∧ action.component = target ∧ action.actionType.value = operation) :
    Script.Yields (fun _ s' ls => Attests P target operation s s' (ls.filterMap Event.request?))
      (fun _ s' ls => Attests P target operation s s' (ls.filterMap Event.request?)) (b.script P) s := by
  have quiet : ∀ {s' ls}, Unrecorded s s' → (ls : List (Event L)).filterMap Event.request? = [] →
      Attests P target operation s s' (ls.filterMap Event.request?) := by
    intro s' ls same none
    rw [none]
    exact same.attests
  -- What comes before and after the engine's call asks no adapter.
  have engaged : ∀ {request : ExecutionRequest} {adapterName : String} {sₑ : State W} {before : List (Event L)},
      Engages P b s request adapterName sₑ → before.filterMap Event.request? = [] →
      Script.Yields (fun _ s' ls => Attests P target operation s s' ((ls ++ before).filterMap Event.request?))
        (fun _ s' ls => Attests P target operation s s' ((ls ++ before).filterMap Event.request?))
        (executeAndVerify P request adapterName) sₑ := by
    intro request adapterName sₑ before engages silent
    obtain ⟨action, found, carries⟩ := engages.carries
    obtain ⟨aimed, rfl, rfl⟩ := subject action found
    obtain ⟨unrecorded, new⟩ := engages.before
    have attests : ∀ {s' ls}, Adds request action sₑ s' ls →
        Attests P action.component action.actionType.value s s' ((ls ++ before).filterMap Event.request?) := by
      intro s' ls adds
      rw [List.filterMap_append, silent, List.append_nil]
      refine ⟨unrecorded.draws.trans adds.draws.le, ?_, fun r hr => ?_⟩
      · rw [← unrecorded.verifications]
        exact adds.records
      · rw [adds.requests r hr]
        exact ⟨carries.target, carries.operation, new.mono le_rfl adds.draws.le⟩
    exact (executeAndVerify_adds carries aimed).mono (fun _ _ _ h => attests h) fun _ _ _ h => attests h
  cases b with
  | governed action adapterName =>
    apply yields_executeGovernedAction
    · intro e s₁ ls answer only
      have attests := quiet only.still.unrecorded (world_requests only.labels)
      exact ⟨fun _ _ => attests, attests⟩
    · intro assessment s₁ ws answer assesses still worlds
      have silent : (Event.assessed action adapterName assessment :: ws).filterMap Event.request? = [] := by
        rw [List.filterMap_cons_none rfl]
        exact world_requests worlds
      by_cases allowed : assessment.policyResult.allowed = true
      · rw [if_pos allowed]
        by_cases auto : (evaluateApproval action assessment.policyResult assessment.riskResult).1 = .auto
        · apply yields_proceed_auto auto
          simp only [List.append_assoc]
          apply engaged (.governed action adapterName s s₁ assessment answer allowed auto)
          exact silent
        · apply proceed_other auto
          · intro reason r _
            exact quiet (still.unrecorded.trans ⟨rfl, rfl, Nat.le_succ _⟩) silent
          · intro reason hold r _ _
            exact quiet (still.unrecorded.trans ⟨rfl, rfl, Nat.le_add_right _ _⟩) silent
      · rw [if_neg allowed]
        exact quiet still.unrecorded silent
  | approval approvalId approvedBy approved =>
    apply yields_approveHeldAction
    · intro r s' ls result resolved labels _
      refine quiet ?_ (List.filterMap_eq_nil_iff.mpr fun m hm => ?_)
      · rw [resolved]
        exact ⟨rfl, rfl, le_rfl⟩
      · rcases labels m hm with rfl | rfl <;> rfl
    · intro e s' hold _ _ resolved
      refine quiet ?_ rfl
      rw [resolved]
      exact ⟨rfl, rfl, le_rfl⟩
    · intro hold s₁ resumable checked approves
      subst approves
      subst checked
      exact engaged (.approval approvalId approvedBy hold s _ resumable rfl) rfl

end

end RmtPlatform.Core
