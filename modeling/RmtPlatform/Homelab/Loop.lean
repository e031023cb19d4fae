import RmtPlatform.Homelab.Holds

/-! The operational loop.

A cycle goes through the components of the remediation policy. A quarantined component
is only observed; one with a hold that waits for an approval, or that is cooling down,
is passed over; any other has a remediation routed for it (`processComponent`). What
that comes to decides whether the attempt counts towards the quarantine and whether the
component cools down. Whatever raises is registered as a failure. Times are in
microseconds, and the settings in seconds. -/
namespace RmtPlatform.Homelab

open Core Ops

variable {W : Type}

/-! ### Settings and states -/

structure LoopConfig where
  flapWindowSeconds : Int
  maxAttemptsPerWindow : Int
  cooldownSeconds : Int
  recoveryHealthyStreak : Int

structure ComponentLoopState where
  component : String
  lastOutcome : Option String
  lastDetail : Option String
  lastAttemptAt : Option Int
  cooldownUntil : Option Int
  attemptTimes : List Int
  consecutiveFailures : Nat
  healthyStreak : Nat
  quarantined : Bool
  quarantinedAt : Option Int
  quarantineReason : Option String
deriving DecidableEq

def ComponentLoopState.new (component : String) : ComponentLoopState where
  component
  lastOutcome := none
  lastDetail := none
  lastAttemptAt := none
  cooldownUntil := none
  attemptTimes := []
  consecutiveFailures := 0
  healthyStreak := 0
  quarantined := false
  quarantinedAt := none
  quarantineReason := none

structure OperationalLoop where
  components : List ComponentLoopState
  cycleCount : Nat
  lastCycleAt : Option Int

def OperationalLoop.new : OperationalLoop := ⟨[], 0, none⟩

/-- `_get_state`. -/
def OperationalLoop.stateOf (l : OperationalLoop) (component : String) : ComponentLoopState :=
  (get? (·.component) component l.components).getD (.new component)

def OperationalLoop.setState (l : OperationalLoop) (state : ComponentLoopState) : OperationalLoop :=
  { l with components := put (·.component) state l.components }

/-- What a cycle says of a component. -/
structure ComponentResult where
  component : String
  outcome : String
  detail : String
  quarantined : Option Bool
deriving DecidableEq

/-! ### What a component meets -/

/-- What `remediate_component` comes to. -/
inductive Remediation where
  /-- With the exception's `repr`. -/
  | raised (error : String)
  | outcome (status reason approvalId : Option String) (success : Option Bool) (dockerVerificationStatus : Option String)
deriving DecidableEq

/-- What `observe_container_state` comes to. -/
inductive Observation where
  | raised (error : String)
  | observed (state : Option String)
deriving DecidableEq

/-- What a component meets in a cycle: the approval stores, the clock when they are read, and what is done and seen. -/
structure Surroundings (W : Type) where
  stores : State W
  readAt : Int
  remediation : Remediation
  observation : Observation

/-! ### Classification -/

def healthyStatuses : List String := ["no_remediation"]

def countsTowardFlap : List String :=
  ["manual_approval_required", "policy_denied", "rejected", "authorization_not_created", "error"]

def setsCooldown : List String := countsTowardFlap ++ ["executed"]

def healthyObservedStates : List String := ["running"]

/-! ### Transitions -/

section
variable (cfg : LoopConfig)

def cooldownFrom (now : Int) : Int := now + cfg.cooldownSeconds * 1000000

def ComponentLoopState.pruneWindow (state : ComponentLoopState) (now : Int) : ComponentLoopState :=
  { state with attemptTimes := state.attemptTimes.filter fun t => now - t ≤ cfg.flapWindowSeconds * 1000000 }

def registerFailure (state : ComponentLoopState) (status detail : String) (now : Int) : ComponentLoopState :=
  { state with
    lastOutcome := some status
    lastDetail := some detail
    lastAttemptAt := some now
    consecutiveFailures := state.consecutiveFailures + 1
    attemptTimes := if status ∈ countsTowardFlap then state.attemptTimes ++ [now] else state.attemptTimes
    cooldownUntil := if status ∈ setsCooldown then some (cooldownFrom cfg now) else state.cooldownUntil }

def maybeQuarantine (state : ComponentLoopState) (now : Int) : ComponentLoopState :=
  if state.quarantined then state
  else
    let state := state.pruneWindow cfg now
    if cfg.maxAttemptsPerWindow ≤ state.attemptTimes.length then
      { state with
        quarantined := true
        quarantinedAt := some now
        quarantineReason := some (toString state.attemptTimes.length ++ " held/failed remediation attempts within " ++
          toString cfg.flapWindowSeconds ++ "s (last: " ++ state.lastOutcome.getD "None" ++ ")")
        healthyStreak := 0 }
    else state

/-- `_do_clear_quarantine`. -/
def doClearQuarantine (state : ComponentLoopState) : ComponentLoopState :=
  { state with
    quarantined := false
    quarantinedAt := none
    quarantineReason := none
    attemptTimes := []
    consecutiveFailures := 0
    cooldownUntil := none }

/-- `_check_recovery`, of what was observed. -/
def checkRecovery (state : ComponentLoopState) (observed : Option String) : ComponentLoopState × ComponentResult :=
  let healthy := observed.any (· ∈ healthyObservedStates)
  let streak := if healthy then state.healthyStreak + 1 else 0
  let cleared := healthy && cfg.recoveryHealthyStreak ≤ streak
  let state := { state with healthyStreak := streak }
  let state := if cleared then doClearQuarantine state else state
  (state,
    { component := state.component
      outcome := "quarantined"
      detail := "observed=" ++ observed.getD "None" ++ " healthy_streak=" ++ toString streak ++
        (if cleared then " -> cleared" else "")
      quarantined := some state.quarantined })

/-- What an outcome of a remediation does to the component's state. -/
def settleOutcome (state : ComponentLoopState) (status detail : String) (now : Int) : ComponentLoopState :=
  let state :=
    { state with lastOutcome := some status, lastDetail := some detail, lastAttemptAt := some now }
  let state :=
    if status ∈ healthyStatuses then
      { state with attemptTimes := [], consecutiveFailures := 0, healthyStreak := state.healthyStreak + 1 }
    else if status = "executed" then
      { state with
        attemptTimes := []
        consecutiveFailures := 0
        healthyStreak := 0
        cooldownUntil := some (cooldownFrom cfg now) }
    else if status = "no_observation" then state
    else registerFailure cfg state status detail now
  maybeQuarantine cfg state now

/-- `outcome.get("reason") or outcome.get("approval_id") or status`. -/
def detailOf (reason approvalId : Option String) (status : String) : String :=
  (orText reason (orText approvalId (some status))).getD status

/-- `_process_component`; it may raise, and then leaves the state as it was. -/
def processComponent (around : Surroundings W) (now : Int) (state : ComponentLoopState) :
    Except String (ComponentLoopState × ComponentResult) :=
  if state.quarantined then
    match around.observation with
    | .raised error => .error error
    | .observed observed => .ok (checkRecovery cfg state observed)
  else match pendingHoldFor around.stores state.component around.readAt with
    | some hold =>
      let detail := "pending hold " ++ hold.approvalId
      .ok ({ state with lastOutcome := some "awaiting_approval", lastDetail := some detail },
        ⟨state.component, "awaiting_approval", detail, some state.quarantined⟩)
    | none =>
      if state.cooldownUntil.any (now < ·) then
        .ok (state, ⟨state.component, "skipped_cooldown", "cooldown until " ++ toString (state.cooldownUntil.getD 0), none⟩)
      else match around.remediation with
        | .raised error => .error error
        | .outcome status reason approvalId _ _ =>
          let status := status.getD "unknown"
          let detail := detailOf reason approvalId status
          let settled := settleOutcome cfg state status detail now
          .ok (settled, ⟨state.component, status, detail, some settled.quarantined⟩)

/-- A component's part of a cycle. -/
def componentCycle (around : Surroundings W) (now : Int) (state : ComponentLoopState) :
    ComponentLoopState × ComponentResult :=
  match processComponent cfg around now state with
  | .ok done => done
  | .error error => (maybeQuarantine cfg (registerFailure cfg state "error" error now) now, ⟨state.component, "error", error, none⟩)

/-- The components, one after another. -/
def cycleThrough (around : String → Surroundings W) (now : Int) : List String → OperationalLoop →
    OperationalLoop × List ComponentResult
  | [], l => (l, [])
  | component :: rest, l =>
    let (state, result) := componentCycle cfg (around component) now (l.stateOf component)
    let (l', results) := cycleThrough around now rest (l.setState state)
    (l', result :: results)

def runCycleOnce (around : String → Surroundings W) (now : Int) (l : OperationalLoop) :
    OperationalLoop × List ComponentResult :=
  cycleThrough cfg around now remediationPolicy { l with cycleCount := l.cycleCount + 1, lastCycleAt := some now }

/-- `clear_quarantine`: an operator's. -/
def clearQuarantine (component : String) (l : OperationalLoop) : OperationalLoop :=
  match get? (·.component) component l.components with
  | none => l
  | some state => if state.quarantined then l.setState (doClearQuarantine state) else l

end

/-! ### Components apart -/

section
variable {cfg : LoopConfig} {l : OperationalLoop} {state : ComponentLoopState} {component : String}

theorem stateOf_setState (l : OperationalLoop) (state : ComponentLoopState) (component : String) :
    (l.setState state).stateOf component = if state.component = component then state else l.stateOf component := by
  unfold OperationalLoop.stateOf OperationalLoop.setState
  rw [get?_put]
  split <;> rfl

theorem stateOf_component (l : OperationalLoop) (component : String) : (l.stateOf component).component = component := by
  unfold OperationalLoop.stateOf
  cases found : get? (·.component) component l.components with
  | none => rfl
  | some state => simpa using List.find?_some found

theorem maybeQuarantine_component (now : Int) : (maybeQuarantine cfg state now).component = state.component := by
  unfold maybeQuarantine
  dsimp only
  split_ifs <;> rfl

theorem settleOutcome_component {status detail : String} {now : Int} :
    (settleOutcome cfg state status detail now).component = state.component := by
  unfold settleOutcome
  dsimp only
  rw [maybeQuarantine_component]
  split_ifs <;> rfl

theorem componentCycle_component {around : Surroundings W} {now : Int} :
    (componentCycle cfg around now state).1.component = state.component := by
  unfold componentCycle processComponent
  split
  · next done h =>
    split at h
    · split at h
      · cases h
      · cases h
        unfold checkRecovery
        dsimp only
        split_ifs <;> rfl
    · split at h
      · cases h
        rfl
      · split at h
        · cases h
          rfl
        · split at h
          · cases h
          · cases h
            exact settleOutcome_component
  · exact maybeQuarantine_component now

/-- **A cycle is each component's own.** -/
theorem cycleThrough_stateOf (around : String → Surroundings W) (now : Int) (components : List String)
    (distinct : components.Nodup) (l : OperationalLoop) (component : String) :
    (cycleThrough cfg around now components l).1.stateOf component =
      if component ∈ components then (componentCycle cfg (around component) now (l.stateOf component)).1
      else l.stateOf component := by
  induction components generalizing l with
  | nil => rfl
  | cons first rest ih =>
    obtain ⟨new, distinct⟩ := List.nodup_cons.mp distinct
    have named : (componentCycle cfg (around first) now (l.stateOf first)).1.component = first := by
      rw [componentCycle_component, stateOf_component]
    unfold cycleThrough
    dsimp only
    rw [ih distinct, stateOf_setState, named]
    by_cases own : first = component
    · subst own
      simp [new]
    · rw [if_neg own]
      by_cases later : component ∈ rest
      · simp [later]
      · simp [later, Ne.symm own]

theorem runCycleOnce_stateOf (around : String → Surroundings W) (now : Int) (l : OperationalLoop) (component : String) :
    (runCycleOnce cfg around now l).1.stateOf component =
      if component ∈ remediationPolicy then (componentCycle cfg (around component) now (l.stateOf component)).1
      else l.stateOf component := by
  unfold runCycleOnce
  rw [cycleThrough_stateOf around now remediationPolicy (by decide)]
  rfl

theorem cycleThrough_lastCycleAt (around : String → Surroundings W) (now : Int) (components : List String)
    (l : OperationalLoop) : (cycleThrough cfg around now components l).1.lastCycleAt = l.lastCycleAt := by
  induction components generalizing l with
  | nil => rfl
  | cons first rest ih => exact ih _

theorem clearQuarantine_stateOf (component other : String) (l : OperationalLoop) :
    (clearQuarantine component l).stateOf other =
      if component = other ∧ (l.stateOf other).quarantined then doClearQuarantine (l.stateOf other) else l.stateOf other := by
  unfold clearQuarantine
  cases found : get? (·.component) component l.components with
  | none =>
    rw [if_neg]
    rintro ⟨rfl, quarantined⟩
    simp [OperationalLoop.stateOf, found, ComponentLoopState.new] at quarantined
  | some state =>
    have named : state.component = component := by simpa using List.find?_some found
    have own : l.stateOf component = state := by simp [OperationalLoop.stateOf, found]
    dsimp only
    split
    · next quarantined =>
      rw [stateOf_setState]
      by_cases same : component = other
      · subst same
        simp [doClearQuarantine, named, own, quarantined]
      · simp [doClearQuarantine, named, same]
    · next free =>
      rw [if_neg]
      rintro ⟨rfl, quarantined⟩
      exact free (own ▸ quarantined)

theorem clearQuarantine_lastCycleAt : (clearQuarantine component l).lastCycleAt = l.lastCycleAt := by
  unfold clearQuarantine
  split
  · rfl
  · split <;> rfl

end

end RmtPlatform.Homelab
