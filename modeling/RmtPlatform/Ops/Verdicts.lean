import RmtPlatform.Core.Evolution
import RmtPlatform.Ops.Failures

/-! What the verdicts of a run are about.

Whatever a call executes and verifies has one target and one operation; a verdict of
success on it says of that target and that operation, if the actions whose expected
outcome is the caller's are aimed (`Call.Aimed`). Over a run no two executions have the
same identifier, so what is stored under it is the verdict on that execution. -/
namespace RmtPlatform.Ops

open Core Agent

variable {W L α β : Type} (D : Deployment W L)

/-- The requests that adapters were asked to execute. -/
def Notice.request? : Notice L → Option ExecutionRequest
  | .core e => e.request?
  | .returned _ => none

/-- The part of a call attests to the target and the operation, however it ends. -/
def Attesting (target operation : String) (x : Above W L α) (s : Site W) : Prop :=
  Script.Yields (fun _ s' ls => Attests D.toPlatform target operation s.core s'.core (ls.filterMap Notice.request?))
    (fun _ s' ls => Attests D.toPlatform target operation s.core s'.core (ls.filterMap Notice.request?)) x s

/-- An observer reports on the target it is asked for. -/
def Observes (observer : String → Script W L Raised (Option ObservedState)) : Prop :=
  ∀ target w o, ((observer target).exec w).1 = .ok (some o) → o.target = target

/-- So do the observers that are registered. -/
structure OwnObservers : Prop where
  container : Observes D.observeContainer
  tag : Observes D.observeTag

/-- A container as it is listed. -/
structure Container where
  name : Option String
  status : Option String

/-- `observe_container_state`, by what docker lists. -/
def observeContainerState (dockerAvailable : Script W L Raised Bool) (getContainers : Script W L Raised (List Container))
    (target : String) : Script W L Raised (Option ObservedState) := do
  if !(← dockerAvailable) then pure none
  else match ← Script.caught getContainers with
    | .error _ => pure none
    | .ok containers =>
      match containers.find? fun c => c.name = some target with
      | some c => pure (some ⟨target, c.status.getD "unknown", "docker"⟩)
      | none => pure (some ⟨target, "absent", "docker"⟩)

/-- `_git_observer_factory`, by what git says of a repository. -/
def observeTagState (resolveRepoPath : Script W L Raised (Option String))
    (tagExists : String → String → Script W L Raised Bool) (target : String) :
    Script W L Raised (Option ObservedState) := do
  match ← resolveRepoPath with
  | none => pure none
  | some repoPath =>
    let state := if ← tagExists repoPath target then "present" else "absent"
    pure (some ⟨target, state, "git"⟩)

section
variable {D} {s s₁ s' : Site W} {target operation : String}

theorem core_requests (ls : List (Event L)) :
    (ls.map Notice.core).filterMap Notice.request? = ls.filterMap Event.request? :=
  List.filterMap_map

theorem Untold.attests (h : Untold s s') : Attests D.toPlatform target operation s.core s'.core [] := h.core.attests

theorem Attesting.bind {x : Above W L α} {f : α → Above W L β} (hx : Attesting D target operation x s)
    (hf : ∀ a s₁, Script.exec x s = (.ok a, s₁) → Attesting D target operation (f a) s₁) :
    Attesting D target operation (x >>= f) s := by
  apply Script.yields_bind.mpr
  apply Script.Yields.of_exec
  · intro a s₁ answer
    have before := hx.ok answer
    refine (hf a s₁ answer).mono ?_ ?_ <;> intro _ s' ls after <;> rw [List.filterMap_append] <;> exact before.trans after
  · exact fun e s₁ raised => hx.error raised

/-- A part that records nothing attests to anything. -/
theorem Attesting.of_untold {x : Above W L α}
    (h : Script.Yields (fun _ s' ls => Untold s s' ∧ ls = []) (fun _ _ _ => False) x s) :
    Attesting D target operation x s := by
  refine h.mono ?_ fun _ _ _ h => h.elim
  rintro _ s' ls ⟨untold, rfl⟩
  exact untold.attests

theorem attesting_pure (a : α) : Attesting D target operation (pure a : Above W L α) s := (Untold.refl s).attests

theorem attesting_read (f : Site W → α) : Attesting D target operation (Script.read f : Above W L α) s :=
  (Untold.refl s).attests

theorem Attesting.caught {x : Above W L α} (h : Attesting D target operation x s) :
    Attesting D target operation (Script.caught x) s :=
  Script.yields_caught.mpr h

theorem attesting_uuid4 : Attesting D target operation (inCore (uuid4 D.toPlatform)) s := by
  apply yields_inCore.mpr
  apply yields_uuid4.mpr
  exact Untold.attests ⟨⟨rfl, rfl, Nat.le_succ _⟩, rfl⟩

/-- A call of the core, whose action is aimed, if it is one with this target and operation. -/
theorem attesting_governed {b : Boundary} (subject : ∀ action, b.action s.core = some action →
      action.Aimed ∧ action.component = target ∧ action.actionType.value = operation) :
    Attesting D target operation (governed (b.script D.toPlatform)) s := by
  apply yields_governed.mpr
  refine (boundary_attests subject).mono ?_ ?_ <;> intro _ k ls attests
  · show Attests _ _ _ _ _ ((ls.map Notice.core).filterMap Notice.request?)
    rw [core_requests]
    exact attests
  · rw [core_requests]
    exact attests

/-! ### Observing above the core -/

theorem observes_of_yields {observer : String → Script W L Raised (Option ObservedState)}
    (h : ∀ target w, Script.Yields (fun observed _ _ => ∀ o ∈ observed, o.target = target) (fun _ _ _ => True)
      (observer target) w) : Observes observer :=
  fun target w o answer => (h target w).ok (Prod.ext answer rfl) o rfl

theorem observeContainerState_observes (dockerAvailable : Script W L Raised Bool)
    (getContainers : Script W L Raised (List Container)) : Observes (observeContainerState dockerAvailable getContainers) := by
  apply observes_of_yields
  intro target w
  unfold observeContainerState
  apply Script.yields_bind.mpr
  apply Script.Yields.of_exec
  · intro available w₁ _
    split
    · exact fun o ho => by cases ho
    · apply Script.yields_bind.mpr
      apply Script.yields_caught.mpr
      apply Script.Yields.of_exec
      · intro containers w₂ _
        dsimp only
        split
        · exact fun o ho => by cases ho; rfl
        · exact fun o ho => by cases ho; rfl
      · exact fun e w₂ _ => fun o ho => by cases ho
  · exact fun _ _ _ => trivial

theorem observeTagState_observes (resolveRepoPath : Script W L Raised (Option String))
    (tagExists : String → String → Script W L Raised Bool) : Observes (observeTagState resolveRepoPath tagExists) := by
  apply observes_of_yields
  intro target w
  unfold observeTagState
  apply Script.yields_bind.mpr
  apply Script.Yields.of_exec
  · intro path w₁ _
    cases path with
    | none => exact fun o ho => by cases ho
    | some repoPath =>
      apply Script.yields_bind.mpr
      apply Script.Yields.of_exec
      · exact fun found w₂ _ => fun o ho => by cases ho; rfl
      · exact fun _ _ _ => trivial
  · exact fun _ _ _ => trivial

/-- The platform's observers report on their own targets. -/
theorem ownObservers_of {dockerAvailable : Script W L Raised Bool} {getContainers : Script W L Raised (List Container)}
    {resolveRepoPath : Script W L Raised (Option String)} {tagExists : String → String → Script W L Raised Bool}
    (container : D.observeContainer = observeContainerState dockerAvailable getContainers)
    (tag : D.observeTag = observeTagState resolveRepoPath tagExists) : OwnObservers D := by
  constructor
  · rw [container]
    exact observeContainerState_observes dockerAvailable getContainers
  · rw [tag]
    exact observeTagState_observes resolveRepoPath tagExists

theorem resolveObserver_target (own : OwnObservers D) {adapterName : String}
    {observer : Script W L Raised (Option ObservedState)}
    (found : resolveObserver D adapterName operation target = some observer) (w : W) (o : ObservedState)
    (h : (observer.exec w).1 = .ok (some o)) : o.target = target := by
  unfold resolveObserver at found
  split at found
  · cases found
    exact own.container target w o h
  · split at found
    · cases found
      exact own.tag target w o h
    · cases found

/-- Settling reports what one of its observations did. -/
theorem settle_target {observer : Script W L Raised (Option ObservedState)} {expectedState : Option String} {polls : Nat}
    (reports : ∀ w o, (observer.exec w).1 = .ok (some o) → o.target = target) (w : W) : Script.Yields
    (fun observed _ _ => ∀ o ∈ observed, o.target = target) (fun _ _ _ => True) (settle observer expectedState polls) w := by
  have once : ∀ w, Script.Yields (fun observed _ _ => ∀ o ∈ observed, o.target = target) (fun _ _ _ => True) observer w := by
    intro w
    apply Script.Yields.of_exec
    · rintro observed w' answer o rfl
      exact reports w o (by rw [answer])
    · exact fun _ _ _ => trivial
  have again : ∀ state n observed w, (∀ o ∈ observed, o.target = target) →
      Script.Yields (fun observed _ _ => ∀ o ∈ observed, o.target = target) (fun _ _ _ => True)
        (observeAgain observer state n observed) w := by
    intro state n
    induction n with
    | zero => exact fun observed w known => known
    | succ n ih =>
      intro observed w known
      unfold observeAgain
      split
      · exact known
      · apply Script.yields_bind.mpr
        exact (once w).mono (fun next w' _ known => ih next w' known) fun _ _ _ h => h
  unfold settle
  apply Script.yields_bind.mpr
  refine (once w).mono (fun observed w' _ known => ?_) fun _ _ _ h => h
  cases expectedState with
  | none => exact known
  | some state => exact again state polls observed w' known

theorem aboveCoreResult_found (executionId adapterName : String) (expected : Option ExpectedOutcome)
    (observed : Option ObservedState) (supersedes : Bool) :
    (aboveCoreResult executionId adapterName expected observed supersedes).status =
        (verify executionId expected observed).status ∧
      (aboveCoreResult executionId adapterName expected observed supersedes).observed =
        (verify executionId expected observed).observed ∧
      (aboveCoreResult executionId adapterName expected observed supersedes).expected =
        (verify executionId expected observed).expected := by
  unfold aboveCoreResult
  generalize verify executionId expected observed = found
  exact ⟨rfl, rfl, rfl⟩

/-- A record above the core is about what was observed, if what was expected names it. -/
theorem aboveCoreResult_about {executionId adapterName : String} {expected : Option ExpectedOutcome}
    {observed : Option ObservedState} {supersedes : Bool} (names : ∀ e ∈ expected, e.Names target operation)
    (reports : ∀ o ∈ observed, o.target = target) :
    (aboveCoreResult executionId adapterName expected observed supersedes).About target operation := by
  intro success
  obtain ⟨status, sameObserved, sameExpected⟩ := aboveCoreResult_found executionId adapterName expected observed supersedes
  rw [status] at success
  obtain ⟨e, o, rfl, rfl, -, record⟩ := verified_states success
  rw [record] at sameObserved sameExpected
  exact ⟨⟨o, sameObserved, reports o rfl⟩, e, sameExpected, names e rfl⟩

theorem attesting_index {executionId adapterName : String} {actionId aboveCoreStatus : Option String} {op tg : String} :
    Attesting D target operation (updateIndexAndNotify executionId actionId adapterName op tg aboveCoreStatus) s := by
  refine updateIndexAndNotify_yields.mono ?_ fun _ _ _ h => h.elim
  rintro _ s' ls ⟨indexed, rfl⟩
  rw [indexed.same]
  exact Unrecorded.attests (Unrecorded.refl s.core)

/-- **Verifying above the core attests to its target.** -/
theorem attesting_verify (own : OwnObservers D) {executionId adapterName : String} {expected : Option ExpectedOutcome}
    {actionId : Option String}
    (names : resolveObserver D adapterName operation target ≠ none → ∀ e ∈ expected, e.Names target operation) :
    Attesting D target operation
      (verifyExecutedAction D executionId adapterName operation target expected actionId) s := by
  unfold verifyExecutedAction
  dsimp only
  cases found : resolveObserver D adapterName operation target with
  | none => exact attesting_index.bind fun _ s₁ _ => attesting_pure _
  | some observer =>
    have named : ∀ e ∈ expected.or ((expectedStateFor adapterName operation).map fun state => ⟨target, operation, state⟩),
        e.Names target operation := by
      intro e he
      cases expected with
      | some e' => exact names (by simp [found]) e he
      | none =>
        obtain ⟨state, -, rfl⟩ := Option.map_eq_some_iff.mp he
        exact ⟨rfl, rfl⟩
    generalize (expected.or ((expectedStateFor adapterName operation).map fun state => ⟨target, operation, state⟩)) =
      expected at named
    refine (attesting_read _).bind fun polls s₁ _ => ?_
    -- Observing changes the world alone, and reports on the target.
    have settled : Script.Yields (fun observed _ _ => ∀ o ∈ observed, o.target = target) (fun _ _ _ => True)
        (settle observer (expected.map (·.expectedState)) polls) s₁.core.world :=
      settle_target (resolveObserver_target own found) s₁.core.world
    have looked : Script.Yields (fun answer s₂ ls => (∀ o ∈ observation answer, o.target = target) ∧ Untold s₁ s₂ ∧
        ∀ m ∈ ls, m.request? = none) (fun _ _ _ => False)
        (Script.caught (inCore (outside (settle observer (expected.map (·.expectedState)) polls)))) s₁ := by
      apply Script.yields_caught.mpr
      apply yields_inCore.mpr
      unfold Script.Yields
      rw [exec_outside, emitted_outside]
      have silent : ∀ m ∈ (((settle observer (expected.map (·.expectedState)) polls).emitted s₁.core.world).map
          Event.world).map Notice.core, m.request? = none := by
        intro m hm
        obtain ⟨e, he, rfl⟩ := List.mem_map.mp hm
        obtain ⟨l, -, rfl⟩ := List.mem_map.mp he
        rfl
      cases answer : ((settle observer (expected.map (·.expectedState)) polls).exec s₁.core.world).1 with
      | error e => exact ⟨by simp [observation], ⟨⟨rfl, rfl, le_rfl⟩, rfl⟩, silent⟩
      | ok observed => exact ⟨settled.ok (Prod.ext answer rfl), ⟨⟨rfl, rfl, le_rfl⟩, rfl⟩, silent⟩
    have observes : Attesting D target operation
        (Script.caught (inCore (outside (settle observer (expected.map (·.expectedState)) polls)))) s₁ := by
      refine looked.mono ?_ fun _ _ _ h => h.elim
      rintro answer s₂ ls ⟨-, untold, silent⟩
      rw [List.filterMap_eq_nil_iff.mpr silent]
      exact untold.attests
    refine observes.bind fun answer s₂ answered => ?_
    have reports := (looked.ok answered).1
    refine (attesting_read _).bind fun coreStatus s₃ _ => ?_
    have about : (aboveCoreResult executionId adapterName expected (observation answer)
        (coreStatus = some "observation_unavailable")).About target operation := aboveCoreResult_about named reports
    generalize aboveCoreResult executionId adapterName expected (observation answer) _ = result at about ⊢
    have saves : Attesting D target operation (inCore (saveVerification result) : Above W L Unit) s₃ := by
      apply yields_inCore.mpr
      apply Script.yields_modify.mpr
      refine ⟨le_rfl, fun v hv => ?_, by simp⟩
      rcases List.mem_append.mp hv with hv | hv
      · exact .inl hv
      · obtain rfl := List.mem_singleton.mp hv
        exact .inr about
    exact saves.bind fun _ s₄ _ => attesting_index.bind fun _ s₅ _ => attesting_pure _

/-- Evidence of a failure is no verdict of success. -/
theorem attesting_failure {r : GovernedResult} {expected : Option ExpectedOutcome} :
    Attesting D target operation (recordFailedExecutionEvidence r expected) s := by
  refine recordFailedExecutionEvidence_yields.mono ?_ fun _ _ _ h => h.elim
  rintro _ s' ls ⟨marked, rfl⟩
  cases marked with
  | unfailed attempt same => rw [same]; exact (Untold.refl s).attests
  | known e attempt found same => rw [same]; exact (Untold.refl s).attests
  | marked e attempt absent v id status saved =>
    rw [saved]
    refine ⟨le_rfl, fun v' hv => ?_, by simp⟩
    rcases List.mem_append.mp hv with hv | hv
    · exact .inl hv
    · obtain rfl := List.mem_singleton.mp hv
      refine .inr fun success => ?_
      rw [status] at success
      exact absurd success (by decide)

end

/-! ### Calls -/

/-- The action an entry point may execute is aimed. -/
def Boundary.Aimed (s : State W) (b : Boundary) : Prop := ∀ action, b.action s = some action → action.Aimed

/-- So is that of the call; and where a held action is verified above the core, what was expected names it. -/
def Call.Aimed (s : Site W) : Call → Prop
  | .approve approvalId operatorName approved => Boundary.Aimed s.core (.approval approvalId operatorName approved)
  | .homelabApprove approvalId operatorName approved =>
    Boundary.Aimed s.core (.approval approvalId operatorName approved) ∧
      ∀ hold, s.core.hold? approvalId = some hold → hold.status = .pending → approved = true →
        attributable hold.action = true →
        resolveObserver D hold.adapterName hold.action.actionType.value hold.action.component ≠ none →
        ∀ e ∈ hold.action.expectedOutcome, e.Names hold.action.component hold.action.actionType.value
  | .direct b => Boundary.Aimed s.core b
  | .execute .. | .remediate _ | .cycle _ | .propose _ | .grant .. => True

section
variable {D} {s s₁ s' : Site W}

theorem operation_value {operation : String} {actionType : ActionType} (h : operationToActionType operation = some actionType) :
    actionType.value = operation := by
  unfold operationToActionType at h
  split at h <;> cases h <;> rfl

theorem aimed_of_lookedFor {action : ActionRequest} (h : action.lookedFor = none) : action.Aimed := by
  intro name looked
  rw [h] at looked
  cases looked

theorem operatorAction_aimed (operatorName operation target : String) (image : Option String) (actionType : ActionType)
    (actionId : String) : (operatorAction operatorName operation target image actionType actionId).Aimed := by
  intro name looked e expected
  cases expected

theorem execute_attests (own : OwnObservers D) {operatorName operation target : String} {image : Option String} :
    Attesting D target operation (Ops.execute D operatorName operation target image) s := by
  unfold Ops.execute
  cases known : operationToActionType operation with
  | none => exact attesting_pure _
  | some actionType =>
    refine attesting_uuid4.bind fun actionId s₁ _ => ?_
    have subject : ∀ action, Boundary.action s₁.core (.governed (operatorAction operatorName operation target image actionType
        actionId) (resolveAdapterName D)) = some action →
        action.Aimed ∧ action.component = target ∧ action.actionType.value = operation := by
      rintro action h
      cases h
      exact ⟨operatorAction_aimed _ _ _ _ _ _, rfl, operation_value known⟩
    refine (attesting_governed subject).bind fun r s₂ _ => ?_
    refine attesting_failure.bind fun _ s₃ _ => ?_
    cases r.execution? with
    | none => exact attesting_pure _
    | some e =>
      dsimp only
      split
      · refine Attesting.bind (attesting_verify own fun _ e he => by cases he) fun _ s₄ _ => ?_
        exact (attesting_read _).bind fun _ s₅ _ => attesting_pure _
      · exact attesting_pure _

/-- What an approval is of: the target and the operation of its hold. -/
def heldTarget (s : State W) (approvalId : String) : String × String :=
  match s.hold? approvalId with
  | some hold => (hold.action.component, hold.action.actionType.value)
  | none => ("", "")

theorem approval_subject {s : State W} {approvalId operatorName : String} {approved : Bool}
    (aimed : Boundary.Aimed s (.approval approvalId operatorName approved)) (action : ActionRequest)
    (h : Boundary.action s (.approval approvalId operatorName approved) = some action) :
    action.Aimed ∧ action.component = (heldTarget s approvalId).1 ∧ action.actionType.value = (heldTarget s approvalId).2 := by
  refine ⟨aimed action h, ?_⟩
  unfold Boundary.action at h
  unfold heldTarget
  cases found : s.hold? approvalId with
  | none => simp [found] at h
  | some hold =>
    simp only [found] at h
    split at h
    · cases h
      exact ⟨rfl, rfl⟩
    · cases h

theorem Glanced.holds (h : Glanced s s') : s'.core.holds = s.core.holds := by
  rw [h]

theorem attesting_separation {target operation approvalId approver : String} :
    Attesting D target operation (checkSeparation D approvalId approver) s :=
  .of_untold (checkSeparation_yields.mono (fun _ _ _ h => ⟨h.1.untold, h.2⟩) fun _ _ _ h => h)

/-- Checking the separation of duties leaves the holds as they are. -/
theorem separation_hold {approvalId approver : String} {answer : Bool × String}
    (checked : Script.exec (checkSeparation D approvalId approver) s = (.ok answer, s₁)) (id : String) :
    s.core.hold? id = s₁.core.hold? id := by
  have glanced : Script.Yields _ _ (checkSeparation D approvalId approver) s := checkSeparation_yields
  unfold State.hold?
  rw [(glanced.ok checked).1.holds]

theorem separation_target {approvalId approver : String} {answer : Bool × String}
    (checked : Script.exec (checkSeparation D approvalId approver) s = (.ok answer, s₁)) (id : String) :
    heldTarget s.core id = heldTarget s₁.core id := by
  unfold heldTarget
  rw [separation_hold checked]

theorem separation_aimed {approvalId approver : String} {answer : Bool × String}
    (checked : Script.exec (checkSeparation D approvalId approver) s = (.ok answer, s₁)) (id name : String)
    (approved : Bool) : Boundary.Aimed s.core (.approval id name approved) = Boundary.Aimed s₁.core (.approval id name approved) := by
  simp only [Boundary.Aimed, Boundary.action, separation_hold checked]

theorem approve_attests {approvalId operatorName : String} {approved : Bool}
    (aimed : Boundary.Aimed s.core (.approval approvalId operatorName approved)) :
    Attesting D (heldTarget s.core approvalId).1 (heldTarget s.core approvalId).2
      (Ops.approve D approvalId operatorName approved) s := by
  unfold Ops.approve
  refine attesting_separation.bind fun answer s₁ checked => ?_
  rw [separation_target checked]
  rw [separation_aimed checked] at aimed
  dsimp only
  split
  · exact attesting_pure _
  · refine (attesting_governed (approval_subject aimed)).bind fun r s₂ _ => ?_
    exact attesting_failure.bind fun _ s₃ _ => attesting_pure _

theorem attesting_evidence {target operation : String} {reply : Reply} :
    Attesting D target operation (Ops.evidence reply : Above W L Reply) s := by
  unfold Ops.evidence
  cases reply with
  | outcome r v e => exact attesting_failure.bind fun _ s₁ _ => attesting_pure _
  | unsupportedOperation => exact attesting_pure _
  | forbidden => exact attesting_pure _
  | noObservation => exact attesting_pure _
  | noRemediation => exact attesting_pure _

theorem governed_answer {x : Governed W L GovernedResult} {r : GovernedResult}
    (h : Script.exec (governed x) s = (.ok r, s₁)) : ∃ k, x.exec s.core = (.ok r, k) := by
  have answers : Script.Yields (fun r _ _ => ∃ k, x.exec s.core = (.ok r, k)) (fun _ _ _ => True) (governed x) s := by
    apply yields_governed.mpr
    exact Script.Yields.of_exec (fun r k answer => ⟨k, answer⟩) fun _ _ _ => trivial
  exact answers.ok h

/-- What is executed once an approval is given is the hold's action. -/
theorem approved_hold {approvalId operatorName : String} {approved : Bool} {r : GovernedResult} {e : Execution}
    {s : State W} {k : State W} (answer : (approveHeldAction D.toPlatform approvalId operatorName approved).exec s = (.ok r, k))
    (executed : r.execution? = some e) : approved = true ∧ ∃ hold, s.hold? approvalId = some hold ∧ hold.status = .pending := by
  have outcome := (@boundary_yields W L D.toPlatform s (.approval approvalId operatorName approved)).ok answer
  cases outcome with
  | unexecuted _ result same =>
    rw [result] at executed
    cases executed
  | executed e' request adapterName sₑ _ result engages =>
    cases engages with
    | approval _ _ hold s s₁ resumable checked => exact ⟨rfl, hold, resumable.found, resumable.pending⟩

theorem homelabApprove_attests (own : OwnObservers D) {approvalId operatorName : String} {approved : Bool}
    (aimed : Call.Aimed D s (.homelabApprove approvalId operatorName approved)) :
    Attesting D (heldTarget s.core approvalId).1 (heldTarget s.core approvalId).2
      (Ops.homelabApprove D approvalId operatorName approved) s := by
  obtain ⟨boundary, names⟩ := aimed
  unfold Ops.homelabApprove
  refine attesting_separation.bind fun answer s₁ checked => ?_
  rw [separation_target checked]
  rw [separation_aimed checked] at boundary
  rw [separation_hold checked] at names
  dsimp only
  split
  · exact attesting_pure _
  · unfold continueRemediation
    rw [Script.bind_assoc]
    apply Script.yields_bind.mpr
    apply Script.yields_read.mpr
    simp only [List.append_nil]
    rw [Script.bind_assoc]
    refine (attesting_governed (approval_subject boundary)).bind fun r s₂ answered => ?_
    cases found : s₁.core.hold? approvalId with
    | none => exact Attesting.bind (attesting_pure _) fun _ s₃ _ => attesting_evidence
    | some hold =>
      have target : heldTarget s₁.core approvalId = (hold.action.component, hold.action.actionType.value) := by
        simp [heldTarget, found]
      rw [target]
      dsimp only
      refine Attesting.bind ?_ fun _ s₃ _ => attesting_evidence
      split
      · exact attesting_pure _
      · next attributed =>
        cases executed : r.execution? with
        | none => exact attesting_pure _
        | some e =>
          dsimp only
          split
          · obtain ⟨k, core⟩ := governed_answer answered
            obtain ⟨approves, held, same, pending⟩ := approved_hold core executed
            obtain rfl : hold = held := Option.some.inj (found.symm.trans same)
            have named := names hold found pending approves (by simpa using attributed)
            exact Attesting.bind (attesting_verify own named) fun _ s₄ _ => attesting_pure _
          · exact attesting_pure _

/-- What is built to remedy a component looks for no module, and expects what it is built for. -/
theorem remediation_yields {evaluation : HealthEvaluation} {decisionReason : Option String} : Script.Yields
    (fun action s' (ls : List (Notice L)) => Untold s s' ∧ (∀ a ∈ action, a.Aimed ∧ a.component = evaluation.component ∧
      a.actionType.value = "restart" ∧ ∀ e ∈ a.expectedOutcome, e.Names evaluation.component "restart") ∧ ls = [])
    (fun _ _ _ => False) (buildRemediationAction D evaluation decisionReason) s := by
  unfold buildRemediationAction
  split
  · exact ⟨Untold.refl s, by simp, rfl⟩
  · split
    · exact ⟨Untold.refl s, by simp, rfl⟩
    · apply Script.yields_bind.mpr
      apply yields_inCore.mpr
      apply yields_uuid4.mpr
      apply Script.yields_bind.mpr
      apply yields_inCore.mpr
      apply yields_uuid4.mpr
      refine ⟨⟨⟨rfl, rfl, Nat.le_add_right _ 2⟩, rfl⟩, ?_, rfl⟩
      rintro action h
      obtain rfl := Option.some.inj h
      refine ⟨aimed_of_lookedFor rfl, rfl, rfl, ?_⟩
      rintro e he
      obtain rfl := Option.some.inj he
      exact ⟨rfl, rfl⟩

theorem remediate_attests (own : OwnObservers D) {evaluation : HealthEvaluation} {decisionReason : Option String} :
    Attesting D evaluation.component "restart" (remediateAndVerify D evaluation decisionReason) s := by
  have built : Script.Yields _ _ (buildRemediationAction D evaluation decisionReason) s := remediation_yields
  unfold remediateAndVerify
  refine Attesting.bind (.of_untold (built.mono (fun _ _ _ h => ⟨h.1, h.2.2⟩) fun _ _ _ h => h)) fun action s₁ answer => ?_
  cases action with
  | none => exact attesting_pure _
  | some action =>
    obtain ⟨aimed, component, operation, names⟩ := (built.ok answer).2.1 action rfl
    have subject : ∀ action', Boundary.action s₁.core (.governed action (resolveAdapterName D)) = some action' →
        action'.Aimed ∧ action'.component = evaluation.component ∧ action'.actionType.value = "restart" := by
      rintro action' h
      cases h
      exact ⟨aimed, component, operation⟩
    refine (attesting_governed subject).bind fun r s₂ _ => ?_
    cases r.execution? with
    | none => exact attesting_pure _
    | some e =>
      dsimp only
      split
      · rw [component, operation]
        exact (attesting_verify own fun _ => names).bind fun _ s₃ _ => attesting_pure _
      · exact attesting_pure _

theorem remediateComponent_attests (own : OwnObservers D) {observed : Option HealthEvaluation} :
    ∃ target operation, Attesting D target operation (remediateComponent D observed) s := by
  cases observed with
  | none => exact ⟨"", "", attesting_pure _⟩
  | some evaluation => exact ⟨evaluation.component, "restart", remediate_attests own⟩

/-- Consuming a grant, and noting who is behind a hold, record nothing. -/
theorem attesting_consume {target operation : String} {grantId : Option String} :
    Attesting D target operation (consume D grantId) s :=
  .of_untold (consume_yields.mono (fun _ _ _ h => ⟨h.1.untold, h.2⟩) fun _ _ _ h => h)

theorem conclude_attests (own : OwnObservers D) {proposal : AgentProposal} {resolution : Resolution} {adapterName : String}
    {answer : Except Raised GovernedResult} (decided : ∃ decisionId actionId, resolution.action = proposedAction D proposal decisionId actionId) :
    Attesting D proposal.target proposal.mechanism.value (conclude D proposal resolution adapterName answer) s := by
  obtain ⟨decisionId, actionId, proposed⟩ := decided
  have named : ∀ e ∈ resolution.action.expectedOutcome, e.Names proposal.target proposal.mechanism.value := by
    rw [proposed]
    rintro e he
    obtain rfl := Option.some.inj he
    exact ⟨rfl, rfl⟩
  have component : resolution.action.component = proposal.target := by rw [proposed]; rfl
  have operation : resolution.action.actionType = proposal.mechanism := by rw [proposed]; rfl
  have follows : ∀ {r : GovernedResult} {e : Execution} {s : Site W},
      Attesting D proposal.target proposal.mechanism.value (followUp D resolution adapterName r e) s := by
    intro r e s
    unfold followUp
    dsimp only
    split
    · rw [component, operation]
      exact (attesting_verify own fun _ => named).bind fun _ s₁ _ => attesting_pure _
    · split
      · exact attesting_failure
      · exact attesting_pure _
  unfold conclude
  cases answer with
  | error e => exact attesting_pure _
  | ok r =>
    dsimp only
    split
    · refine attesting_consume.bind fun _ s₁ _ => ?_
      refine (attesting_read _).bind fun grant s₂ _ => ?_
      exact Attesting.bind (.of_untold recordHoldProvenance_yields) fun _ s₃ _ => attesting_pure _
    · split
      · refine attesting_consume.bind fun _ s₁ _ => ?_
        exact follows.bind fun _ s₂ _ => attesting_pure _
      · exact attesting_pure _

theorem propose_attests (own : OwnObservers D) {proposal : AgentProposal} :
    Attesting D proposal.target proposal.mechanism.value (proposeAndGovern D proposal) s := by
  unfold proposeAndGovern
  split
  · exact attesting_pure _
  · have resolves : Script.Yields _ _ (resolveProposal D proposal) s := resolveProposal_yields
    refine Attesting.bind (.of_untold (resolves.mono (fun _ _ _ h => ⟨h.1.untold, h.2⟩) fun _ _ _ h => h))
      fun resolution s₁ answer => ?_
    obtain ⟨decisionId, actionId, proposed⟩ := (resolves.ok answer).1.action
    split
    · exact attesting_pure _
    · have subject : ∀ action, Boundary.action s₁.core (.governed resolution.action
          (agentAdapterName D proposal.operationalContext)) = some action →
          action.Aimed ∧ action.component = proposal.target ∧ action.actionType.value = proposal.mechanism.value := by
        rintro action h
        cases h
        rw [proposed]
        exact ⟨aimed_of_lookedFor rfl, rfl, rfl⟩
      refine Attesting.bind (attesting_governed subject).caught fun answer s₂ _ => ?_
      exact conclude_attests own ⟨decisionId, actionId, proposed⟩

/-- **What every call attests to.** -/
theorem call_attests (own : OwnObservers D) {c : Call} (aimed : c.Aimed D s) :
    ∃ target operation, Attests D.toPlatform target operation s.core (Script.exec (c.script D) s).2.core
      (((c.script D).emitted s).filterMap Notice.request?) := by
  have attested : ∀ {target operation : String}, Attesting D target operation (c.script D) s →
      ∃ target operation, Attests D.toPlatform target operation s.core (Script.exec (c.script D) s).2.core
        (((c.script D).emitted s).filterMap Notice.request?) :=
    fun {target operation} h => ⟨target, operation, Script.yields_both.mp h⟩
  cases c with
  | execute operatorName operation target image => exact attested ((execute_attests own).bind fun _ _ _ => attesting_pure _)
  | approve approvalId operatorName approved => exact attested ((approve_attests aimed).bind fun _ _ _ => attesting_pure _)
  | homelabApprove approvalId operatorName approved =>
    exact attested ((homelabApprove_attests own aimed).bind fun _ _ _ => attesting_pure _)
  | propose proposal => exact attested ((propose_attests own).bind fun _ _ _ => attesting_pure _)
  | remediate observed =>
    obtain ⟨target, operation, attests⟩ := @remediateComponent_attests W L D s own observed
    exact attested ((attests.bind fun _ _ _ => attesting_evidence).bind fun _ _ _ => attesting_pure _)
  | cycle observed =>
    obtain ⟨target, operation, attests⟩ := @remediateComponent_attests W L D s own observed
    exact attested (attests.bind fun _ _ _ => attesting_pure _)
  | grant operation target grantedBy ttlSeconds =>
    refine @attested target operation ?_
    refine Attesting.bind ?_ fun _ _ _ => attesting_pure _
    unfold Agent.grant
    refine attesting_uuid4.bind fun _ s₁ _ => ?_
    apply Script.yields_bind.mpr
    apply yields_inCore.mpr
    apply yields_now.mpr
    exact Untold.attests (s := s₁) ⟨⟨rfl, rfl, le_rfl⟩, rfl⟩
  | direct b =>
    cases found : b.action s.core with
    | none =>
      refine @attested "" "" (Attesting.bind (attesting_governed ?_) fun _ _ _ => attesting_pure _)
      rw [found]
      exact fun _ h => by cases h
    | some action =>
      refine @attested action.component action.actionType.value
        (Attesting.bind (attesting_governed ?_) fun _ _ _ => attesting_pure _)
      rw [found]
      rintro _ h
      cases h
      exact ⟨aimed action found, rfl, rfl⟩

end

/-! ### Histories -/

/-- What may be called: an endpoint, the core, or the evolution of the platform. -/
inductive Entry where
  | call (c : Call)
  | change (proposal : ChangeProposal) (adapterName : String)

def Entry.script : Entry → Above W L Unit
  | call c => c.script D
  | change proposal adapterName => do let _ ← inCore (executeGovernedChange D.toPlatform proposal adapterName)

def Entry.Aimed (e : Entry) (s : Site W) : Prop :=
  match e with
  | call c => c.Aimed D s
  | change proposal adapterName =>
    adapterName = "module_change" → proposal.operation ∈ supportedEvolutionOperations → proposal.Aimed

/-- The states of a history whose entries all meet `admits`, and the requests that adapters were asked to execute. -/
inductive History (admits : Entry → Site W → Prop) : Site W → Set ExecutionRequest → Prop where
  | start (backend : Backend) (world : W) : History admits (.initial backend world) ∅
  | enter {s : Site W} {executed : Set ExecutionRequest} (e : Entry) (before : History admits s executed)
      (admitted : admits e s) : History admits (Script.exec (e.script D) s).2
        (executed ∪ {r | r ∈ ((e.script D).emitted s).filterMap Notice.request?})
  | restart {s : Site W} {executed : Set ExecutionRequest} (before : History admits s executed) :
      History admits (s.restart D) executed

section
variable {D} {s s₁ s' : Site W}

theorem exec_inCore (x : Governed W L α) (s : Site W) :
    Script.exec (inCore x) s = ((x.exec s.core).1, { s with core := (x.exec s.core).2 }) :=
  Program.run_within Site.corePart Notice.core x s

theorem emitted_inCore (x : Governed W L α) (s : Site W) : Script.emitted (inCore x) s = (x.emitted s.core).map .core :=
  Program.emitted_within Site.corePart Notice.core x s

/-- A part of the core, whatever it returns. -/
theorem run_inCore (x : Governed W L α) (s : Site W) :
    (Script.exec (inCore x >>= fun _ => (pure () : Above W L Unit)) s).2 = { s with core := (x.exec s.core).2 } ∧
      Script.emitted (inCore x >>= fun _ => (pure () : Above W L Unit)) s = (x.emitted s.core).map .core := by
  rw [Script.exec_bind, Script.emitted_bind, exec_inCore, emitted_inCore]
  cases (x.exec s.core).1 <;> exact ⟨rfl, rfl⟩

/-- Nothing is recorded, or what is recorded and executed is about one execution, which is new. -/
def Single (D : Deployment W L) (s s' : Site W) : Prop :=
  Untold s s' ∨ ∃ executionId, Confined executionId s s' ∧ (OwnAnswers D.toPlatform → New D.uuid4 s.core s'.core executionId)

theorem call_single (c : Call) : Single D s (Script.exec (c.script D) s).2 := by
  rcases @call_confined W L D c s with untold | ⟨r, e, -, -, confined, new⟩
  · exact .inl untold
  · exact .inr ⟨e.executionId, confined, new⟩

theorem Single.after (untold : Untold s s₁) (h : Single D s₁ s') : Single D s s' := by
  rcases h with h | ⟨executionId, confined, new⟩
  · exact .inl (untold.trans h)
  · exact .inr ⟨executionId, untold.confined.trans confined, fun own => (new own).mono untold.core.draws le_rfl⟩

theorem direct_core (b : Boundary) (s : Site W) : (Script.exec ((Call.direct b).script D) s).2 =
    { s with core := ((b.script D.toPlatform).exec s.core).2 } := by
  show (Script.exec (governed (b.script D.toPlatform) >>= fun _ => (pure () : Above W L Unit)) s).2 = _
  unfold governed
  rw [Script.bind_assoc, Script.exec_bind, exec_inCore]
  cases ((b.script D.toPlatform).exec s.core).1 <;> rfl

theorem change_core (proposal : ChangeProposal) (adapterName : String) (s : Site W) :
    (Script.exec ((Entry.change proposal adapterName).script D) s).2 =
        { s with core := ((executeGovernedChange D.toPlatform proposal adapterName).exec s.core).2 } ∧
      ((Entry.change proposal adapterName).script D).emitted s =
        ((executeGovernedChange D.toPlatform proposal adapterName).emitted s.core).map .core :=
  run_inCore (executeGovernedChange D.toPlatform proposal adapterName) s

theorem entry_single (e : Entry) : Single D s (Script.exec (e.script D) s).2 := by
  cases e with
  | call c => exact call_single c
  | change proposal adapterName =>
    have course : Change D.toPlatform proposal adapterName s.core _ _ := change_course
    rw [(change_core proposal adapterName s).1]
    generalize ((executeGovernedChange D.toPlatform proposal adapterName).exec s.core).2 = k at course ⊢
    generalize (executeGovernedChange D.toPlatform proposal adapterName).emitted s.core = ls at course
    cases course with
    | blocked _ _ same worlds => exact .inl ⟨same, rfl⟩
    | governed actionId s₁ ws same worlds adapter supported =>
      have direct := @call_single W L D { s with core := s₁ }
        (.direct (.governed (createAction proposal actionId) adapterName))
      rw [direct_core] at direct
      have untold : Untold s { s with core := s₁ } := ⟨same, rfl⟩
      exact Single.after untold direct

/-- **What every entry attests to.** -/
theorem entry_attests (own : OwnObservers D) {e : Entry} (aimed : e.Aimed D s) :
    ∃ target operation, Attests D.toPlatform target operation s.core (Script.exec (e.script D) s).2.core
      (((e.script D).emitted s).filterMap Notice.request?) := by
  cases e with
  | call c => exact call_attests own aimed
  | change proposal adapterName =>
    have course : Change D.toPlatform proposal adapterName s.core _ _ := change_course
    obtain ⟨state, labels⟩ := change_core (D := D) proposal adapterName s
    rw [state, labels, core_requests]
    refine ⟨proposal.target, "create", ?_⟩
    dsimp only
    generalize ((executeGovernedChange D.toPlatform proposal adapterName).exec s.core).2 = k at course ⊢
    generalize (executeGovernedChange D.toPlatform proposal adapterName).emitted s.core = ls at course ⊢
    cases course with
    | blocked _ _ same worlds =>
      rw [world_requests worlds]
      exact same.attests
    | governed actionId s₁ ws same worlds adapter supported =>
      rw [List.filterMap_append, world_requests worlds, List.append_nil]
      have subject : ∀ action, Boundary.action s₁ (.governed (createAction proposal actionId) adapterName) = some action →
          action.Aimed ∧ action.component = proposal.target ∧ action.actionType.value = "create" := by
        rintro action h
        cases h
        exact ⟨createAction_aimed (aimed adapter supported) actionId, rfl, rfl⟩
      have attests : Script.Yields _ _ (Boundary.script D.toPlatform (.governed (createAction proposal actionId) adapterName)) s₁ :=
        boundary_attests subject
      have trans := Attests.trans same.attests ((Script.yields_both (C := fun k ls => Attests D.toPlatform proposal.target
        "create" s₁ k (ls.filterMap Event.request?))).mp attests)
      rw [List.append_nil] at trans
      exact trans

theorem Tidy.single (own : OwnAnswers D.toPlatform) (h : Tidy D s) (single : Single D s s') : Tidy D s' := by
  rcases single with untold | ⟨executionId, confined, new⟩
  · exact h.untold untold
  · exact h.confined confined (new own).drawn

/-- Whatever is stored under the identifier of an execution is about it. -/
structure Attributed (D : Deployment W L) (s : Site W) (executed : Set ExecutionRequest) : Prop where
  tidy : Tidy D s
  drawn : ∀ request ∈ executed, Drawn D.uuid4 s.core request.executionId
  about : ∀ request ∈ executed, ∀ v ∈ s.core.verifications.records, v.executionId = request.executionId →
    v.About request.target request.operation

theorem Attributed.enter {executed : Set ExecutionRequest} (own : OwnAnswers D.toPlatform) (observers : OwnObservers D)
    (h : Attributed D s executed) {e : Entry} (aimed : e.Aimed D s) : Attributed D (Script.exec (e.script D) s).2
      (executed ∪ {r | r ∈ ((e.script D).emitted s).filterMap Notice.request?}) := by
  have single : Single D s (Script.exec (e.script D) s).2 := entry_single e
  obtain ⟨target, operation, attests⟩ := entry_attests observers aimed
  generalize ((e.script D).emitted s).filterMap Notice.request? = requests at attests ⊢
  generalize (Script.exec (e.script D) s).2 = s' at single attests ⊢
  refine ⟨h.tidy.single own single, ?_, ?_⟩
  · rintro request (hr | hr)
    · exact (h.drawn request hr).mono attests.draws
    · exact (attests.requests request hr).2.2.drawn
  · -- A record of before has an identifier drawn before, and a new one an identifier drawn since.
    rintro request (hr | hr) v hv same
    · rcases single with untold | ⟨executionId, confined, new⟩
      · rw [untold.core.verifications] at hv
        exact h.about request hr v hv same
      · obtain ⟨vs, hvs, appended⟩ := confined.verifications.records
        rw [appended] at hv
        rcases List.mem_append.mp hv with hv | hv
        · exact h.about request hr v hv same
        · have fresh := (new own).fresh D.uuid4_fresh
          rw [← hvs v hv, same] at fresh
          exact absurd (h.drawn request hr) fresh
    · obtain ⟨sameTarget, sameOperation, new⟩ := attests.requests request hr
      rcases attests.records v hv with known | about
      · exact absurd (same ▸ h.tidy.verifications v known) (new.fresh D.uuid4_fresh)
      · rw [sameTarget, sameOperation]
        exact about

theorem Attributed.restart {executed : Set ExecutionRequest} (h : Attributed D s executed) :
    Attributed D (s.restart D) executed := by
  obtain ⟨holds, core⟩ := @restart_core W L D s
  have draws : (s.restart D).core.draws = s.core.draws := by rw [core]; rfl
  refine ⟨h.tidy.restart, fun request hr => (h.drawn request hr).mono draws.ge, ?_⟩
  rw [h.tidy.restored.1]
  exact h.about

/-- **A verdict of success is about what was executed**, if every action whose expected outcome is the caller's is aimed. -/
theorem verdicts_about (D : Deployment W L) (own : OwnAnswers D.toPlatform) (observers : OwnObservers D) (s : Site W)
    (executed : Set ExecutionRequest) (history : History D (Entry.Aimed D) s executed) (request : ExecutionRequest)
    (executes : request ∈ executed) (v : VerificationResult) (stored : v ∈ s.core.verifications.records)
    (same : v.executionId = request.executionId) : v.About request.target request.operation := by
  have attributed : Attributed D s executed := by
    clear executes stored
    induction history with
    | start backend world =>
      refine ⟨tidy_initial backend world, ?_, ?_⟩
      · rintro request ⟨⟩
      · rintro request ⟨⟩
    | enter e before admitted ih => exact ih.enter own observers admitted
    | restart before ih => exact ih.restart
  exact attributed.about request executes v stored same

end

/-! ### A verdict on another module

A registry that has a module "billing". Each history digests one instruction. -/

namespace Sample

def registry : Deployment Unit Empty := { simulated with getModules := pure [⟨"billing", some "billing"⟩] }

theorem registry_own : OwnAnswers registry.toPlatform := simulated_own

theorem registry_observers : OwnObservers registry where
  container target w o h := by cases h
  tag target w o h := by cases h

/-- The creation of a component, of which a module is looked for. -/
def creation (component : String) (expected : ExpectedOutcome) : Entry :=
  .call (.direct (.governed
    { Core.Sample.action with
      component
      actionType := .create
      parameters := [(.str "module_name", .str "billing")]
      expectedOutcome := some expected } "simulation"))

/-- The site after an entry, and the requests it has had executed. -/
def entered (e : Entry) : Site Unit := (Script.exec (e.script registry) (.initial .sqlite ())).2

def requested (e : Entry) : List ExecutionRequest := ((e.script registry).emitted (.initial .sqlite ())).filterMap Notice.request?

theorem entered_history {admits : Entry → Site Unit → Prop} (e : Entry) (admitted : admits e (.initial .sqlite ())) :
    History registry admits (entered e) (∅ ∪ {r | r ∈ requested e}) :=
  .enter e (.start .sqlite ()) admitted

def aimed : Entry := creation "billing" ⟨"billing", "create", "registered"⟩

def misaimed : Entry := creation "web" ⟨"database", "restart", "registered"⟩

end Sample

/-- The verdict on the creation of the module's own component is about it. -/
theorem verdicts_about_aimed : ∃ request ∈ Sample.requested Sample.aimed,
    ∃ v ∈ (Sample.entered Sample.aimed).core.verifications.records, v.status = "verified_success" ∧
      v.About request.target request.operation := by
  have stored : ∃ request ∈ Sample.requested Sample.aimed,
      ∃ v ∈ (Sample.entered Sample.aimed).core.verifications.records,
        v.executionId = request.executionId ∧ v.status = "verified_success" := by decide +kernel
  have aimed : Entry.Aimed Sample.registry Sample.aimed (.initial .sqlite ()) := by
    rintro action h name looked e expected -
    cases h
    cases expected
    have named : some "billing" = some name := looked
    cases named
    exact ⟨rfl, rfl, rfl⟩
  obtain ⟨request, hr, v, hv, same, success⟩ := stored
  refine ⟨request, hr, v, hv, success, ?_⟩
  exact verdicts_about Sample.registry Sample.registry_own Sample.registry_observers _ _
    (Sample.entered_history Sample.aimed aimed) request (.inr hr) v hv same

/-- **A success that is of something else**: the module "billing" was observed, the restart of a database was expected,
and "web" was created. -/
theorem verdict_misattributed : ∃ s executed, History Sample.registry (fun _ _ => True) s executed ∧
    ∃ request ∈ executed, ∃ v ∈ s.core.verifications.records, v.executionId = request.executionId ∧
      v.status = "verified_success" ∧ ¬v.About request.target request.operation ∧
      request.target = "web" ∧ request.operation = "create" ∧ v.observed.map (·.target) = some "billing" ∧
      v.expected = some ⟨"database", "restart", "registered"⟩ := by
  have stored : ∃ request ∈ Sample.requested Sample.misaimed,
      ∃ v ∈ (Sample.entered Sample.misaimed).core.verifications.records,
        v.executionId = request.executionId ∧ v.status = "verified_success" ∧ request.target = "web" ∧
        request.operation = "create" ∧ v.observed.map (·.target) = some "billing" ∧
        v.expected = some ⟨"database", "restart", "registered"⟩ := by decide +kernel
  obtain ⟨request, hr, v, hv, same, success, target, operation, observed, expected⟩ := stored
  refine ⟨_, _, Sample.entered_history Sample.misaimed trivial, request, .inr hr, v, hv, same, success, fun about => ?_,
    target, operation, observed, expected⟩
  obtain ⟨⟨o, seen, named⟩, -⟩ := about success
  rw [seen, Option.map_some, Option.some.injEq, named, target] at observed
  exact absurd observed (by decide)

end RmtPlatform.Ops
