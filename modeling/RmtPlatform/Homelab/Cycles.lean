import RmtPlatform.Homelab.Loop

/-! Runs of the operational loop.

A run is any sequence of cycles, with whatever each component meets in them, and of
quarantines cleared by an operator. Each component has a history of what was done with
it (`Happening`), newest first. Three laws are about that history: attempts do not add
up without a quarantine, they are not closer than the cooldown, and a quarantine ends
only when the component has recovered. Each fails on one outcome, and holds in every run
without it. -/
namespace RmtPlatform.Homelab

open Core Ops

variable {W : Type}

/-! ### Histories -/

/-- What is done with a component. -/
inductive Happening where
  /-- Quarantined, and observed. -/
  | observed (at_ : Int) (observation : Observation)
  /-- Passed over. -/
  | waited (at_ : Int)
  /-- A remediation was routed. -/
  | remediated (at_ : Int) (remediation : Remediation)
  /-- The quarantine was lifted, by an operator or after a recovery. -/
  | cleared
deriving DecidableEq

/-- What a cycle does with a component in this state. -/
def happens (around : Surroundings W) (now : Int) (state : ComponentLoopState) : Happening :=
  if state.quarantined then .observed now around.observation
  else if (pendingHoldFor around.stores state.component around.readAt).isSome ∨ state.cooldownUntil.any (now < ·) then
    .waited now
  else .remediated now around.remediation

section
variable (cfg : LoopConfig)

/-- The component's history with a cycle more. -/
def lengthened (around : Surroundings W) (now : Int) (state : ComponentLoopState) (history : List Happening) :
    List Happening :=
  let history := happens around now state :: history
  if state.quarantined ∧ !(componentCycle cfg around now state).1.quarantined then .cleared :: history else history

/-- The loops of runs whose cycles all meet `admits`, and each component's history. -/
inductive Runs (admits : OperationalLoop → Int → (String → Surroundings W) → Prop) :
    OperationalLoop → (String → List Happening) → Prop where
  | new : Runs admits .new fun _ => []
  | cycle {l : OperationalLoop} {history : String → List Happening} (before : Runs admits l history) (now : Int)
      (around : String → Surroundings W) (admitted : admits l now around) :
      Runs admits (runCycleOnce cfg around now l).1 fun component =>
        if component ∈ remediationPolicy then lengthened cfg (around component) now (l.stateOf component) (history component)
        else history component
  | clear {l : OperationalLoop} {history : String → List Happening} (before : Runs admits l history) (cleared : String) :
      Runs admits (clearQuarantine cleared l) fun component =>
        if cleared = component ∧ (l.stateOf component).quarantined then .cleared :: history component
        else history component

end

/-- The clock does not go back. -/
def Onward (l : OperationalLoop) (now : Int) : Prop := ∀ t, l.lastCycleAt = some t → t ≤ now

/-! ### Scripted runs -/

namespace Sample

/-- The settings as they come, but for how many attempts are allowed. -/
def config (maxAttempts : Int) : LoopConfig := ⟨900, maxAttempts, 300, 2⟩

/-- Every component meets this; nothing is held. -/
def meeting (remediation : Remediation) (observation : Observation) : String → Surroundings Unit :=
  fun _ => ⟨.initial .sqlite (), 0, remediation, observation⟩

def minutes (n : Int) : Int := n * 60000000

/-- The loop and the histories after these cycles, newest first. -/
def cycled (cfg : LoopConfig) : List (Int × Remediation × Observation) → OperationalLoop × (String → List Happening)
  | [] => (.new, fun _ => [])
  | (now, r, o) :: older =>
    let (l, history) := cycled cfg older
    ((runCycleOnce cfg (meeting r o) now l).1, fun component =>
      if component ∈ remediationPolicy then lengthened cfg (meeting r o component) now (l.stateOf component) (history component)
      else history component)

/-- Each of these cycles may be. -/
def Admitted (cfg : LoopConfig) (admits : OperationalLoop → Int → (String → Surroundings Unit) → Prop) :
    List (Int × Remediation × Observation) → Prop
  | [] => True
  | (now, r, o) :: older => admits (cycled cfg older).1 now (meeting r o) ∧ Admitted cfg admits older

theorem cycled_runs {cfg : LoopConfig} {admits : OperationalLoop → Int → (String → Surroundings Unit) → Prop}
    {cycles : List (Int × Remediation × Observation)} (admitted : Admitted cfg admits cycles) :
    Runs cfg admits (cycled cfg cycles).1 (cycled cfg cycles).2 := by
  induction cycles with
  | nil => exact .new
  | cons last older ih => exact .cycle (ih admitted.2) last.1 (meeting last.2.1 last.2.2) admitted.1

/-- What is remediated comes to what the component meets. -/
theorem happens_remediated {r r' : Remediation} {o : Observation} {now : Int} {component : String} {state : ComponentLoopState}
    (happened : happens (meeting r o component) now state = .remediated now r') : r' = r := by
  unfold happens at happened
  split at happened
  · cases happened
  · split at happened
    · cases happened
    · exact (Happening.remediated.inj happened).2.symm

def uptimeKuma : String := "uptime-kuma"

/-- Held for an approval. -/
def held : Remediation := .outcome (some "manual_approval_required") none (some "approval-1") none none

/-- No evaluator could assess the action. -/
def unassessed : Remediation := .outcome (some "assessment_failed") (some "no risk evaluator") none none none

def running : Observation := .observed (some "running")

end Sample

/-! ### What one cycle does -/

/-- **What a cycle comes to for a component**, case by case. -/
inductive Passes (cfg : LoopConfig) (now : Int) (state : ComponentLoopState) : Happening → ComponentLoopState → Prop where
  | unseen (error : String) (quarantined : state.quarantined = true) :
      Passes cfg now state (.observed now (.raised error)) (registerFailure cfg state "error" error now)
  | seen (observed : Option String) (quarantined : state.quarantined = true) :
      Passes cfg now state (.observed now (.observed observed)) (checkRecovery cfg state observed).1
  | waited (state' : ComponentLoopState) (free : state.quarantined = false)
      (same : state' = { state with lastOutcome := state'.lastOutcome, lastDetail := state'.lastDetail }) :
      Passes cfg now state (.waited now) state'
  | failed (error : String) (free : state.quarantined = false) (cooled : ¬state.cooldownUntil.any (now < ·) = true) :
      Passes cfg now state (.remediated now (.raised error))
        (maybeQuarantine cfg (registerFailure cfg state "error" error now) now)
  | settled (status reason approvalId : Option String) (success : Option Bool) (verification : Option String)
      (free : state.quarantined = false) (cooled : ¬state.cooldownUntil.any (now < ·) = true) :
      Passes cfg now state (.remediated now (.outcome status reason approvalId success verification))
        (settleOutcome cfg state (status.getD "unknown") (detailOf reason approvalId (status.getD "unknown")) now)

theorem componentCycle_passes (cfg : LoopConfig) (around : Surroundings W) (now : Int) (state : ComponentLoopState) :
    Passes cfg now state (happens around now state) (componentCycle cfg around now state).1 := by
  unfold componentCycle processComponent happens
  cases quarantined : state.quarantined with
  | true =>
    simp only [if_true]
    cases observation : around.observation with
    | raised error =>
      have stays : maybeQuarantine cfg (registerFailure cfg state "error" error now) now =
          registerFailure cfg state "error" error now := by
        unfold maybeQuarantine
        exact if_pos quarantined
      dsimp only
      rw [stays]
      exact .unseen error quarantined
    | observed observed => exact .seen observed quarantined
  | false =>
    simp only [Bool.false_eq_true, if_false]
    cases pending : pendingHoldFor around.stores state.component around.readAt with
    | some hold =>
      simp only [Option.isSome_some, true_or, if_true]
      exact .waited _ quarantined (by simp [quarantined])
    | none =>
      by_cases cooling : state.cooldownUntil.any (now < ·) = true
      · simp only [cooling, or_true, if_true]
        exact .waited state quarantined rfl
      · simp only [cooling, Option.isSome_none, Bool.false_eq_true, or_self, if_false]
        cases remediation : around.remediation with
        | raised error => exact .failed error quarantined cooling
        | outcome status reason approvalId success verification =>
          exact .settled status reason approvalId success verification quarantined cooling

section
variable {cfg : LoopConfig} {admits : OperationalLoop → Int → (String → Surroundings W) → Prop}

/-- An invariant of a component and its history, from what one cycle and one clearing keep of it. -/
theorem Runs.invariant (I : Option Int → ComponentLoopState → List Happening → Prop) (component : String)
    (new : I none (.new component) [])
    (cycle : ∀ l now around state' (history : List Happening), admits l now around → component ∈ remediationPolicy →
      I l.lastCycleAt (l.stateOf component) history →
      Passes cfg now (l.stateOf component) (happens (around component) now (l.stateOf component)) state' →
      I (some now) state'
        (if (l.stateOf component).quarantined ∧ !state'.quarantined then
          .cleared :: happens (around component) now (l.stateOf component) :: history
        else happens (around component) now (l.stateOf component) :: history))
    (apart : ∀ l now around history, admits l now around → component ∉ remediationPolicy →
      I l.lastCycleAt (l.stateOf component) history → I (some now) (l.stateOf component) history)
    (clear : ∀ t state history, state.quarantined = true → I t state history →
      I t (doClearQuarantine state) (.cleared :: history))
    {l : OperationalLoop} {history : String → List Happening} (run : Runs cfg admits l history) :
    I l.lastCycleAt (l.stateOf component) (history component) := by
  induction run with
  | new => exact new
  | @cycle l history before now around admitted ih =>
    have cycled : (runCycleOnce cfg around now l).1.lastCycleAt = some now := cycleThrough_lastCycleAt around now _ _
    rw [cycled, runCycleOnce_stateOf]
    beta_reduce
    by_cases policy : component ∈ remediationPolicy
    · rw [if_pos policy, if_pos policy]
      exact cycle l now around _ _ admitted policy ih (componentCycle_passes cfg (around component) now _)
    · rw [if_neg policy, if_neg policy]
      exact apart l now around _ admitted policy ih
  | @clear l history before cleared ih =>
    rw [clearQuarantine_lastCycleAt, clearQuarantine_stateOf]
    beta_reduce
    by_cases own : cleared = component ∧ (l.stateOf component).quarantined = true
    · rw [if_pos own, if_pos own]
      exact clear _ _ _ own.2 ih
    · rw [if_neg own, if_neg own]
      exact ih

end

/-! ### What an attempt does -/

/-- Looking for a quarantine, of a component that is in none. -/
structure Weighed (cfg : LoopConfig) (now : Int) (state state' : ComponentLoopState) : Prop where
  attempts : state'.attemptTimes = state.attemptTimes.filter fun t => now - t ≤ cfg.flapWindowSeconds * 1000000
  cooldown : state'.cooldownUntil = state.cooldownUntil
  streak : state'.quarantined = true → state'.healthyStreak = 0
  few : state'.quarantined = false → state'.attemptTimes.length < cfg.maxAttemptsPerWindow

theorem maybeQuarantine_free (cfg : LoopConfig) {state : ComponentLoopState} (now : Int) (free : state.quarantined = false) :
    Weighed cfg now state (maybeQuarantine cfg state now) := by
  unfold maybeQuarantine
  rw [if_neg (by simp [free])]
  dsimp only
  split
  · exact ⟨rfl, rfl, fun _ => rfl, fun quarantined => by cases quarantined⟩
  · next few =>
    exact ⟨rfl, rfl, fun quarantined => by simp [ComponentLoopState.pruneWindow, free] at quarantined, fun _ => not_le.mp few⟩

/-- What an outcome sets before it is weighed. -/
theorem settleOutcome_settles (cfg : LoopConfig) (state : ComponentLoopState) (status detail : String) (now : Int)
    (free : state.quarantined = false) : ∃ middle : ComponentLoopState,
      settleOutcome cfg state status detail now = maybeQuarantine cfg middle now ∧ middle.quarantined = false ∧
        middle.attemptTimes = (if status ∈ healthyStatuses ∨ status = "executed" then [] else if status ∈ countsTowardFlap then
          state.attemptTimes ++ [now] else state.attemptTimes) ∧
        middle.cooldownUntil = (if status ∈ setsCooldown then some (cooldownFrom cfg now) else state.cooldownUntil) := by
  unfold settleOutcome
  refine ⟨_, rfl, ?_⟩
  dsimp only
  by_cases healthy : status ∈ healthyStatuses
  · obtain rfl := List.mem_singleton.mp healthy
    exact ⟨free, rfl, rfl⟩
  · rw [if_neg healthy]
    by_cases executed : status = "executed"
    · subst executed
      exact ⟨free, rfl, rfl⟩
    · rw [if_neg executed, if_neg (not_or.mpr ⟨healthy, executed⟩)]
      by_cases unobserved : status = "no_observation"
      · subst unobserved
        exact ⟨free, rfl, rfl⟩
      · rw [if_neg unobserved]
        exact ⟨free, rfl, rfl⟩

/-! ### Leaving quarantine -/

/-- The component was observed running. -/
def Happening.running : Happening → Bool
  | .observed _ (.observed (some state)) => state ∈ healthyObservedStates
  | _ => false

/-- No observation raises of a component that is recovering. -/
def Watched (l : OperationalLoop) (around : String → Surroundings W) : Prop :=
  ∀ component ∈ remediationPolicy, (l.stateOf component).quarantined = true → 0 < (l.stateOf component).healthyStreak →
    ∀ error, (around component).observation ≠ .raised error

section
variable {cfg : LoopConfig} {now : Int} {state : ComponentLoopState} {observed : Option String}

/-- What an observation does to the streak, and when it lifts the quarantine. -/
theorem checkRecovery_cases (cfg : LoopConfig) (state : ComponentLoopState) (observed : Option String) :
    ((checkRecovery cfg state observed).1.quarantined = state.quarantined ∧
          (checkRecovery cfg state observed).1.cooldownUntil = state.cooldownUntil ∨
        (checkRecovery cfg state observed).1 =
          doClearQuarantine { state with healthyStreak := state.healthyStreak + 1 } ∧
        cfg.recoveryHealthyStreak ≤ (state.healthyStreak + 1 : Nat) ∧ observed.any (· ∈ healthyObservedStates) = true) ∧
      (checkRecovery cfg state observed).1.healthyStreak =
        if observed.any (· ∈ healthyObservedStates) then state.healthyStreak + 1 else 0 := by
  unfold checkRecovery
  dsimp only
  by_cases healthy : observed.any (· ∈ healthyObservedStates) = true
  · rw [if_pos healthy, healthy]
    by_cases enough : cfg.recoveryHealthyStreak ≤ ((state.healthyStreak + 1 : Nat) : Int)
    · rw [if_pos (by simpa using enough)]
      exact ⟨.inr ⟨rfl, enough, rfl⟩, rfl⟩
    · rw [if_neg (by simpa using enough)]
      exact ⟨.inl ⟨rfl, rfl⟩, rfl⟩
  · rw [if_neg healthy, if_neg (by simp [healthy])]
    exact ⟨.inl ⟨rfl, rfl⟩, rfl⟩

theorem running_observed : (Happening.observed now (.observed observed)).running = observed.any (· ∈ healthyObservedStates) := by
  cases observed <;> rfl

/-- The streak is of observations that found the component running. -/
def Streaking (state : ComponentLoopState) (history : List Happening) : Prop :=
  state.quarantined = true → state.healthyStreak ≤ (history.takeWhile Happening.running).length

theorem streaking_passes {h : Happening} {history : List Happening} {state' : ComponentLoopState}
    (streaking : Streaking state history) (passes : Passes cfg now state h state')
    (watched : state.quarantined = true → 0 < state.healthyStreak → ∀ error, h ≠ .observed now (.raised error)) :
    Streaking state' (if state.quarantined ∧ !state'.quarantined then .cleared :: h :: history else h :: history) := by
  intro quarantined'
  rw [if_neg (by simp [quarantined'])]
  cases passes with
  | unseen error quarantined =>
    -- The streak is left as it is, so it has to be nothing.
    have none : ¬0 < state.healthyStreak := fun some => watched quarantined some error rfl
    have same : (registerFailure cfg state "error" error now).healthyStreak = state.healthyStreak := rfl
    rw [same]
    omega
  | seen observed quarantined =>
    rw [(checkRecovery_cases cfg state observed).2, List.takeWhile_cons, running_observed]
    split
    · have kept := streaking quarantined
      simp only [List.length_cons]
      omega
    · exact Nat.zero_le _
  | waited state' free same =>
    rw [same] at quarantined'
    simp [free] at quarantined'
  | failed error free cooled =>
    rw [(@maybeQuarantine_free cfg (registerFailure cfg state "error" error now) now free).streak quarantined']
    exact Nat.zero_le _
  | settled status reason approvalId success verification free cooled =>
    obtain ⟨middle, settled, free', -⟩ := settleOutcome_settles cfg state (status.getD "unknown")
      (detailOf reason approvalId (status.getD "unknown")) now free
    rw [settled] at quarantined' ⊢
    rw [(maybeQuarantine_free cfg now free').streak quarantined']
    exact Nat.zero_le _

end

theorem runs_streaking {cfg : LoopConfig} {l : OperationalLoop} {history : String → List Happening}
    (run : Runs cfg (fun l _ (around : String → Surroundings W) => Watched l around) l history) (component : String) :
    Streaking (l.stateOf component) (history component) := by
  refine Runs.invariant (fun _ state history => Streaking state history) component ?_ ?_ ?_ ?_ run
  · intro quarantined
    cases quarantined
  · intro l now around state' history watched policy streaking passes
    refine streaking_passes streaking passes fun quarantined some error same => ?_
    refine watched component policy quarantined some error ?_
    unfold happens at same
    rw [if_pos quarantined] at same
    exact (Happening.observed.inj same).2
  · intro l now around history watched policy streaking
    exact streaking
  · intro t state history quarantined streaking cleared
    cases cleared

/-- **Quarantine is respected, and left only on recovery**: nothing is remediated in it, and a cycle that lifts it is the
last of as many in a row as are configured that observed the component running. -/
theorem quarantine_left (cfg : LoopConfig) (l : OperationalLoop) (history : String → List Happening)
    (run : Runs cfg (fun l _ (around : String → Surroundings W) => Watched l around) l history) (component : String)
    (quarantined : (l.stateOf component).quarantined = true) (now : Int) (around : String → Surroundings W) :
    (∀ r, happens (around component) now (l.stateOf component) ≠ .remediated now r) ∧
      (((runCycleOnce cfg around now l).1.stateOf component).quarantined = false →
        cfg.recoveryHealthyStreak ≤
          ((happens (around component) now (l.stateOf component) :: history component).takeWhile Happening.running).length) := by
  constructor
  · intro r
    unfold happens
    rw [if_pos quarantined]
    exact fun same => by cases same
  · rw [runCycleOnce_stateOf]
    split
    · intro left
      have streak := runs_streaking run component quarantined
      have passes := componentCycle_passes cfg (around component) now (l.stateOf component)
      generalize (componentCycle cfg (around component) now (l.stateOf component)).1 = state' at left passes
      generalize happens (around component) now (l.stateOf component) = h at passes ⊢
      cases passes with
      | unseen error _ => simp [registerFailure, quarantined] at left
      | seen observed _ =>
        rcases (checkRecovery_cases cfg (l.stateOf component) observed).1 with ⟨same, -⟩ | ⟨-, enough, healthy⟩
        · simp [same, quarantined] at left
        · rw [List.takeWhile_cons, running_observed, if_pos healthy, List.length_cons]
          omega
      | waited _ free same => simp [quarantined] at free
      | failed error free cooled => simp [quarantined] at free
      | settled status reason approvalId success verification free cooled => simp [quarantined] at free
    · intro left
      simp [quarantined] at left

/-- Held once, and then running in two cycles. -/
theorem quarantine_left_recovered :
    let run := Sample.cycled (Sample.config 1)
      [(Sample.minutes 2, Sample.held, Sample.running), (0, Sample.held, Sample.running)]
    let around := Sample.meeting Sample.held Sample.running
    (run.1.stateOf Sample.uptimeKuma).quarantined = true ∧
      ((∀ r, happens (around Sample.uptimeKuma) (Sample.minutes 4) (run.1.stateOf Sample.uptimeKuma) ≠
          .remediated (Sample.minutes 4) r) ∧
        (((runCycleOnce (Sample.config 1) around (Sample.minutes 4) run.1).1.stateOf Sample.uptimeKuma).quarantined = false →
          2 ≤ ((((happens (around Sample.uptimeKuma) (Sample.minutes 4) (run.1.stateOf Sample.uptimeKuma) ::
            run.2 Sample.uptimeKuma).takeWhile Happening.running).length : Nat) : Int))) := by
  intro run around
  have quarantined : (run.1.stateOf Sample.uptimeKuma).quarantined = true := by decide
  have seen : ∀ l : OperationalLoop, Watched l around := by
    intro l component _ _ _ error raised
    cases raised
  exact ⟨quarantined, quarantine_left (Sample.config 1) run.1 run.2 (Sample.cycled_runs ⟨seen _, seen _, trivial⟩) _ quarantined
    _ _⟩

/-- **A quarantine left too early**: an observation that raises between two that found the component running does not
start the streak again. -/
theorem quarantine_left_early :
    let cycles := [(Sample.minutes 4, Sample.held, .raised "TimeoutError()"), (Sample.minutes 2, Sample.held, Sample.running),
      (0, Sample.held, Sample.running)]
    let run := Sample.cycled (Sample.config 1) cycles
    let around := Sample.meeting Sample.held Sample.running
    Runs (Sample.config 1) (fun _ _ (_ : String → Surroundings Unit) => True) run.1 run.2 ∧ (run.1.stateOf Sample.uptimeKuma).quarantined = true ∧
      ((runCycleOnce (Sample.config 1) around (Sample.minutes 6) run.1).1.stateOf Sample.uptimeKuma).quarantined = false ∧
      ((happens (around Sample.uptimeKuma) (Sample.minutes 6) (run.1.stateOf Sample.uptimeKuma) ::
        run.2 Sample.uptimeKuma).takeWhile Happening.running).length = 1 := by
  intro cycles run around
  exact ⟨Sample.cycled_runs ⟨trivial, trivial, trivial, trivial⟩, by decide, by decide, by decide⟩

/-! ### Attempts -/

/-- The text under `status`; what raises is an error. -/
def Remediation.status : Remediation → String
  | .raised _ => "error"
  | .outcome status _ _ _ _ => status.getD "unknown"

/-- There was something to remediate. -/
def Remediation.attempted (r : Remediation) : Bool := r.status ∉ ["no_remediation", "no_observation"]

/-- It was executed, not said to have failed, and verified. -/
def Remediation.succeeded : Remediation → Bool
  | .raised _ => false
  | .outcome status _ _ success verification =>
    status = some "executed" ∧ success ≠ some false ∧ verification = some "verified_success"

def Remediation.unsuccessful (r : Remediation) : Bool := r.attempted && !r.succeeded

/-- The component is healthy, or was remediated. -/
def Remediation.recovers (r : Remediation) : Bool := r.status = "no_remediation" || r.succeeded

/-! ### The cooldown -/

/-- The times of the attempts since the last clearing, newest first. -/
def attemptsSince : List Happening → List Int
  | [] => []
  | .cleared :: _ => []
  | .remediated t r :: rest => if r.attempted then t :: attemptsSince rest else attemptsSince rest
  | _ :: rest => attemptsSince rest

/-- Each attempt is this much later than those before it, since the last clearing. -/
def Spaced (cooldown : Int) : List Happening → Prop
  | [] => True
  | .remediated t r :: rest =>
    (r.attempted = true → ∀ t₁ ∈ attemptsSince rest, t₁ + cooldown ≤ t) ∧ Spaced cooldown rest
  | _ :: rest => Spaced cooldown rest

/-- Every attempt comes to a status that sets the cooldown. -/
def Cooled (l : OperationalLoop) (now : Int) (around : String → Surroundings W) : Prop :=
  ∀ component ∈ remediationPolicy, ∀ r, happens (around component) now (l.stateOf component) = .remediated now r →
    r.attempted = true → r.status ∈ setsCooldown

section
variable {cooldown t : Int} {r : Remediation} {h : Happening} {history between earlier later : List Happening}

theorem Spaced.tail (spaced : Spaced cooldown (h :: history)) : Spaced cooldown history := by
  cases h with
  | remediated t r => exact spaced.2
  | observed t o => exact spaced
  | waited t => exact spaced
  | cleared => exact spaced

theorem attemptsSince_apart (uncleared : .cleared ∉ between) (attempted : r.attempted = true) :
    t ∈ attemptsSince (between ++ .remediated t r :: earlier) := by
  induction between with
  | nil => simp [attemptsSince, attempted]
  | cons h rest ih =>
    obtain ⟨here, there⟩ := not_or.mp (mt List.mem_cons.mpr uncleared)
    have found := ih there
    cases h with
    | cleared => exact absurd rfl here
    | remediated t' r' =>
      rw [List.cons_append, attemptsSince]
      split
      · exact List.mem_cons_of_mem _ found
      · exact found
    | observed t' o => exact found
    | waited t' => exact found

/-- Two attempts of a spaced history, with no clearing in between. -/
theorem Spaced.apart {t₁ t₂ : Int} {r₁ r₂ : Remediation}
    (spaced : Spaced cooldown (later ++ .remediated t₂ r₂ :: between ++ .remediated t₁ r₁ :: earlier))
    (attempted₂ : r₂.attempted = true) (attempted₁ : r₁.attempted = true) (uncleared : .cleared ∉ between) :
    t₁ + cooldown ≤ t₂ := by
  induction later with
  | nil => exact spaced.1 attempted₂ t₁ (attemptsSince_apart uncleared attempted₁)
  | cons h rest ih => exact ih spaced.tail

/-- The component cools down from every attempt since the last clearing, and none is still to come. -/
structure Cooling (cfg : LoopConfig) (last : Option Int) (state : ComponentLoopState) (history : List Happening) : Prop where
  until_ : ∀ t ∈ attemptsSince history, ∃ u, state.cooldownUntil = some u ∧ t + cfg.cooldownSeconds * 1000000 ≤ u
  past : ∀ t ∈ attemptsSince history, ∃ now, last = some now ∧ t ≤ now
  spaced : Spaced (cfg.cooldownSeconds * 1000000) history

variable {cfg : LoopConfig} {last : Option Int} {now : Int} {state state' : ComponentLoopState}

/-- Nothing attempted, and no earlier end of the cooldown. -/
theorem Cooling.pass (cooling : Cooling cfg last state history) (onward : ∀ t, last = some t → t ≤ now)
    (still : attemptsSince (h :: history) = attemptsSince history) (spaced : Spaced (cfg.cooldownSeconds * 1000000) (h :: history))
    (kept : state'.cooldownUntil = state.cooldownUntil ∨ state'.cooldownUntil = some (cooldownFrom cfg now)) :
    Cooling cfg (some now) state' (h :: history) := by
  refine ⟨?_, ?_, spaced⟩
  · rw [still]
    intro t ht
    rcases kept with same | set
    · rw [same]
      exact cooling.until_ t ht
    · obtain ⟨t', rfl, early⟩ := cooling.past t ht
      refine ⟨_, set, ?_⟩
      have := onward t' rfl
      unfold cooldownFrom
      omega
  · rw [still]
    intro t ht
    obtain ⟨t', rfl, early⟩ := cooling.past t ht
    exact ⟨now, rfl, early.trans (onward t' rfl)⟩

/-- An attempt, which comes after the cooldown and starts it again. -/
theorem Cooling.attempt (cooling : Cooling cfg last state history) (onward : ∀ t, last = some t → t ≤ now)
    (cooled : ¬state.cooldownUntil.any (now < ·) = true) (set : r.attempted = true → state'.cooldownUntil = some (cooldownFrom cfg now))
    (kept : state'.cooldownUntil = state.cooldownUntil ∨ state'.cooldownUntil = some (cooldownFrom cfg now)) :
    Cooling cfg (some now) state' (.remediated now r :: history) := by
  have spaced : Spaced (cfg.cooldownSeconds * 1000000) (.remediated now r :: history) := by
    refine ⟨fun _ t ht => ?_, cooling.spaced⟩
    obtain ⟨u, until_, late⟩ := cooling.until_ t ht
    rw [until_] at cooled
    simp at cooled
    omega
  cases attempted : r.attempted with
  | false => exact cooling.pass onward (by simp [attemptsSince, attempted]) spaced kept
  | true =>
    have more : attemptsSince (.remediated now r :: history) = now :: attemptsSince history := by
      simp [attemptsSince, attempted]
    refine ⟨?_, ?_, spaced⟩
    · rw [more]
      intro t ht
      refine ⟨_, set attempted, ?_⟩
      unfold cooldownFrom
      rcases List.mem_cons.mp ht with rfl | ht
      · exact le_rfl
      · obtain ⟨t', rfl, early⟩ := cooling.past t ht
        have := onward t' rfl
        omega
    · rw [more]
      intro t ht
      refine ⟨now, rfl, ?_⟩
      rcases List.mem_cons.mp ht with rfl | ht
      · exact le_rfl
      · obtain ⟨t', rfl, early⟩ := cooling.past t ht
        exact early.trans (onward t' rfl)

theorem cooling_cleared (spaced : Spaced (cfg.cooldownSeconds * 1000000) history) :
    Cooling cfg last state (.cleared :: history) :=
  ⟨fun _ none => absurd none List.not_mem_nil, fun _ none => absurd none List.not_mem_nil, spaced⟩

theorem cooling_passes (cooling : Cooling cfg last state history) (passes : Passes cfg now state h state')
    (onward : ∀ t, last = some t → t ≤ now)
    (cooled : ∀ r, h = .remediated now r → r.attempted = true → r.status ∈ setsCooldown) :
    Cooling cfg (some now) state' (if state.quarantined ∧ !state'.quarantined then .cleared :: h :: history else h :: history) := by
  have spaced := cooling.spaced
  cases passes with
  | unseen error quarantined =>
    have still : (registerFailure cfg state "error" error now).quarantined = true := quarantined
    rw [if_neg (by simp [still])]
    exact cooling.pass onward rfl spaced (.inr rfl)
  | seen observed quarantined =>
    rcases (checkRecovery_cases cfg state observed).1 with ⟨same, kept⟩ | ⟨cleared, -⟩
    · rw [if_neg (by simp [same, quarantined])]
      apply cooling.pass onward rfl _ (.inl kept)
      exact spaced
    · rw [if_pos (by simp [cleared, quarantined, doClearQuarantine])]
      exact cooling_cleared spaced
  | waited state' free same =>
    rw [if_neg (by simp [free])]
    apply cooling.pass (h := .waited now) onward rfl spaced
    rw [same]
    exact .inl rfl
  | failed error free ready =>
    rw [if_neg (by simp [free])]
    have weighed := @maybeQuarantine_free cfg (registerFailure cfg state "error" error now) now free
    exact cooling.attempt onward ready (fun _ => weighed.cooldown) (.inr weighed.cooldown)
  | settled status reason approvalId success verification free ready =>
    rw [if_neg (by simp [free])]
    obtain ⟨middle, settled, free', -, until_⟩ := settleOutcome_settles cfg state (status.getD "unknown")
      (detailOf reason approvalId (status.getD "unknown")) now free
    have weighed := maybeQuarantine_free cfg now free'
    have sets : (settleOutcome cfg state (status.getD "unknown") (detailOf reason approvalId (status.getD "unknown"))
        now).cooldownUntil = if status.getD "unknown" ∈ setsCooldown then some (cooldownFrom cfg now) else state.cooldownUntil := by
      rw [settled, weighed.cooldown, until_]
    refine cooling.attempt onward ready (fun attempted => ?_) ?_
    · rw [sets]
      exact if_pos (cooled _ rfl attempted)
    · rw [sets]
      split
      · exact .inr rfl
      · exact .inl rfl

end

/-- **The cooldown is kept**: two attempts with no clearing in between are as far apart as is configured. -/
theorem cooldown_kept (cfg : LoopConfig) (l : OperationalLoop) (history : String → List Happening)
    (run : Runs cfg (fun l now (around : String → Surroundings W) => Onward l now ∧ Cooled l now around) l history)
    (component : String) (later between earlier : List Happening) (t₁ t₂ : Int) (r₁ r₂ : Remediation)
    (attempts : history component = later ++ .remediated t₂ r₂ :: between ++ .remediated t₁ r₁ :: earlier)
    (attempted₂ : r₂.attempted = true) (attempted₁ : r₁.attempted = true) (uncleared : .cleared ∉ between) :
    t₁ + cfg.cooldownSeconds * 1000000 ≤ t₂ := by
  have cooling : Cooling cfg l.lastCycleAt (l.stateOf component) (history component) := by
    refine Runs.invariant (Cooling cfg) component ?_ ?_ ?_ ?_ run
    · exact ⟨fun _ none => absurd none List.not_mem_nil, fun _ none => absurd none List.not_mem_nil, trivial⟩
    · intro l now around state' history admitted policy cooling passes
      exact cooling_passes cooling passes admitted.1 fun r same attempted => admitted.2 component policy r same attempted
    · intro l now around history admitted apart cooling
      refine ⟨cooling.until_, fun t ht => ?_, cooling.spaced⟩
      obtain ⟨t', last, early⟩ := cooling.past t ht
      exact ⟨now, rfl, early.trans (admitted.1 t' last)⟩
    · intro t state history quarantined cooling
      exact cooling_cleared cooling.spaced
  have spaced := cooling.spaced
  rw [attempts] at spaced
  exact spaced.apart attempted₂ attempted₁ uncleared

/-- Two holds, five minutes apart. -/
theorem cooldown_kept_held :
    let run := Sample.cycled (Sample.config 3)
      [(Sample.minutes 5, Sample.held, Sample.running), (0, Sample.held, Sample.running)]
    run.2 Sample.uptimeKuma = [] ++ .remediated (Sample.minutes 5) Sample.held :: [] ++ .remediated 0 Sample.held :: [] ∧
      0 + 300 * 1000000 ≤ Sample.minutes 5 := by
  intro run
  have attempts : run.2 Sample.uptimeKuma =
      [] ++ .remediated (Sample.minutes 5) Sample.held :: [] ++ .remediated 0 Sample.held :: [] := by decide
  have cooled : ∀ (l : OperationalLoop) now, Cooled l now (Sample.meeting Sample.held Sample.running) := by
    intro l now component _ r happened _
    rw [Sample.happens_remediated happened]
    decide
  refine ⟨attempts, cooldown_kept (Sample.config 3) run.1 run.2 (Sample.cycled_runs ⟨⟨?_, cooled _ _⟩, ⟨?_, cooled _ _⟩, trivial⟩)
    _ _ _ _ _ _ _ _ attempts (by decide) (by decide) (by decide)⟩
  · intro t last
    cases last
    decide
  · intro t none
    cases none

/-- **No cooldown**: a component whose action could not be assessed is remediated again in the next cycle. -/
theorem cooldown_unset :
    let run := Sample.cycled (Sample.config 3)
      [(Sample.minutes 2, Sample.unassessed, Sample.running), (0, Sample.unassessed, Sample.running)]
    Runs (Sample.config 3) (fun l now (_ : String → Surroundings Unit) => Onward l now) run.1 run.2 ∧
      run.2 Sample.uptimeKuma = [.remediated (Sample.minutes 2) Sample.unassessed, .remediated 0 Sample.unassessed] ∧
      Sample.unassessed.attempted = true ∧ Sample.minutes 2 < 0 + 300 * 1000000 := by
  intro run
  refine ⟨Sample.cycled_runs ⟨?_, ?_, trivial⟩, by decide, by decide, by decide⟩
  · intro t last
    cases last
    decide
  · intro t none
    cases none

/-! ### The flap guard -/

/-- The count starts again. -/
def Happening.resets : Happening → Bool
  | .cleared => true
  | .remediated _ r => r.recovers
  | _ => false

/-- An attempt without success, within the window that ends now. -/
def Happening.failedWithin (cfg : LoopConfig) (now : Int) : Happening → Bool
  | .remediated t r => r.unsuccessful && now - t ≤ cfg.flapWindowSeconds * 1000000
  | _ => false

/-- The times of the attempts without success since the count started, newest first. -/
def failuresSince : List Happening → List Int
  | [] => []
  | .cleared :: _ => []
  | .remediated t r :: rest =>
    if r.recovers then [] else if r.unsuccessful then t :: failuresSince rest else failuresSince rest
  | _ :: rest => failuresSince rest

/-- Every attempt without success comes to a status that counts. -/
def Counted (l : OperationalLoop) (now : Int) (around : String → Surroundings W) : Prop :=
  ∀ component ∈ remediationPolicy, ∀ r, happens (around component) now (l.stateOf component) = .remediated now r →
    r.unsuccessful = true → r.status ∈ countsTowardFlap

/-- How many of these are within the window that ends at `n`. -/
def within (cfg : LoopConfig) (n : Int) (times : List Int) : Nat :=
  times.countP fun t => n - t ≤ cfg.flapWindowSeconds * 1000000

section
variable {cfg : LoopConfig} {now n : Int} {r : Remediation} {h : Happening} {history stretch earlier : List Happening}

theorem failedWithin_le (uninterrupted : ∀ h ∈ stretch, h.resets = false) :
    stretch.countP (Happening.failedWithin cfg now) ≤ within cfg now (failuresSince (stretch ++ earlier)) := by
  induction stretch with
  | nil => exact Nat.zero_le _
  | cons h rest ih =>
    have rest_le := ih fun h hh => uninterrupted h (List.mem_cons_of_mem _ hh)
    have unreset := uninterrupted h List.mem_cons_self
    cases h with
    | cleared => cases unreset
    | observed t o =>
      show _ ≤ within cfg now (failuresSince (rest ++ earlier))
      simpa [Happening.failedWithin] using rest_le
    | waited t =>
      show _ ≤ within cfg now (failuresSince (rest ++ earlier))
      simpa [Happening.failedWithin] using rest_le
    | remediated t r =>
      have recovers : r.recovers = false := unreset
      rw [List.cons_append, failuresSince, recovers]
      cases failed : r.unsuccessful with
      | false => simpa [Happening.failedWithin, failed] using rest_le
      | true =>
        simp only [List.countP_cons, Happening.failedWithin, failed, Bool.true_and, Bool.false_eq_true, if_false, if_true,
          within] at rest_le ⊢
        omega

/-- The component's own count is right, and small after every attempt. -/
structure Guarded (cfg : LoopConfig) (last : Option Int) (state : ComponentLoopState) (history : List Happening) : Prop where
  counted : state.quarantined = false → ∀ n, (∀ t, last = some t → t ≤ n) →
    within cfg n (failuresSince history) = within cfg n state.attemptTimes
  few : ∀ now r older, history = .remediated now r :: older → state.quarantined = false →
    within cfg now (failuresSince history) < cfg.maxAttemptsPerWindow

variable {last : Option Int} {state state' middle : ComponentLoopState}

theorem guarded_quarantined (quarantined : state.quarantined = true) : Guarded cfg last state history :=
  ⟨fun free => by simp [quarantined] at free, fun _ _ _ _ free => by simp [quarantined] at free⟩

/-- What is within a later window was within the earlier one. -/
theorem within_filter (times : List Int) (later : now ≤ n) :
    within cfg n (times.filter fun t => now - t ≤ cfg.flapWindowSeconds * 1000000) = within cfg n times := by
  unfold within
  rw [List.countP_filter]
  apply List.countP_congr
  intro t _
  simp only [Bool.and_eq_true, decide_eq_true_eq]
  omega

theorem guarded_weighed (weighed : Weighed cfg now middle state')
    (counted : ∀ n, now ≤ n → within cfg n (failuresSince (.remediated now r :: history)) = within cfg n middle.attemptTimes) :
    Guarded cfg (some now) state' (.remediated now r :: history) := by
  refine ⟨fun free n later => ?_, ?_⟩
  · rw [counted n (later now rfl), weighed.attempts, within_filter _ (later now rfl)]
  · rintro now' r' older same free
    cases same
    have few := weighed.few free
    have length : within cfg now (failuresSince (.remediated now r :: history)) = state'.attemptTimes.length := by
      rw [counted now le_rfl, weighed.attempts, within, List.countP_eq_length_filter]
    rwa [length]

/-- What an outcome does to the count. -/
theorem failuresSince_settled {status reason approvalId : Option String} {success : Option Bool} {verification : Option String}
    (counts : (Remediation.outcome status reason approvalId success verification).unsuccessful = true →
      status.getD "unknown" ∈ countsTowardFlap)
    (attempts : middle.attemptTimes = if status.getD "unknown" ∈ healthyStatuses ∨ status.getD "unknown" = "executed" then []
      else if status.getD "unknown" ∈ countsTowardFlap then state.attemptTimes ++ [now] else state.attemptTimes)
    (counted : within cfg n (failuresSince history) = within cfg n state.attemptTimes) :
    within cfg n (failuresSince (.remediated now (.outcome status reason approvalId success verification) :: history)) =
      within cfg n middle.attemptTimes := by
  rw [attempts, failuresSince]
  cases recovers : (Remediation.outcome status reason approvalId success verification).recovers with
  | true =>
    have reset : status.getD "unknown" ∈ healthyStatuses ∨ status.getD "unknown" = "executed" := by
      simp only [Remediation.recovers, Remediation.status, Remediation.succeeded, Bool.or_eq_true, decide_eq_true_eq] at recovers
      rcases recovers with healthy | ⟨executed, -⟩
      · exact .inl (by rw [of_decide_eq_true healthy]; decide)
      · exact .inr (by rw [executed]; rfl)
    rw [if_pos rfl, if_pos reset]
  | false =>
    rw [if_neg (by simp)]
    have unhealthy : status.getD "unknown" ≠ "no_remediation" := by
      rintro same
      simp [Remediation.recovers, Remediation.status, same] at recovers
    cases failed : (Remediation.outcome status reason approvalId success verification).unsuccessful with
    | true =>
      have counting := counts failed
      have unreset : ¬(status.getD "unknown" ∈ healthyStatuses ∨ status.getD "unknown" = "executed") := by
        rintro (healthy | executed)
        · exact unhealthy (List.mem_singleton.mp healthy)
        · rw [executed] at counting
          exact absurd counting (by decide)
      rw [if_pos rfl, if_neg unreset, if_pos counting]
      unfold within at *
      rw [List.countP_cons, List.countP_append, counted]
      simp
    | false =>
      -- Not an attempt: nothing was observed.
      have unobserved : status.getD "unknown" = "no_observation" := by
        have unsucceeded : (Remediation.outcome status reason approvalId success verification).succeeded = false := by
          simp only [Remediation.recovers, Bool.or_eq_false_iff] at recovers
          exact recovers.2
        simpa [Remediation.unsuccessful, unsucceeded, Remediation.attempted, Remediation.status, unhealthy] using failed
      rw [if_neg (by simp), unobserved, if_neg (by decide), if_neg (by decide)]
      exact counted

theorem guarded_passes (guarded : Guarded cfg last state history) (passes : Passes cfg now state h state')
    (onward : ∀ t, last = some t → t ≤ now)
    (counts : ∀ r, h = .remediated now r → r.unsuccessful = true → r.status ∈ countsTowardFlap) :
    Guarded cfg (some now) state' (if state.quarantined ∧ !state'.quarantined then .cleared :: h :: history else h :: history) := by
  have reach : ∀ n, now ≤ n → ∀ t, last = some t → t ≤ n := fun n later t same => (onward t same).trans later
  cases passes with
  | unseen error quarantined =>
    have still : (registerFailure cfg state "error" error now).quarantined = true := quarantined
    exact guarded_quarantined still
  | seen observed quarantined =>
    rcases (checkRecovery_cases cfg state observed).1 with ⟨same, -⟩ | ⟨cleared, -⟩
    · exact guarded_quarantined (same.trans quarantined)
    · rw [if_pos (by simp [cleared, quarantined, doClearQuarantine]), cleared]
      exact ⟨fun _ _ _ => rfl, fun _ _ _ same => by cases same⟩
  | waited state' free same =>
    rw [if_neg (by simp [free]), same]
    exact ⟨fun _ n later => guarded.counted free n (reach n (later now rfl)), fun _ _ _ same => by cases same⟩
  | failed error free ready =>
    rw [if_neg (by simp [free])]
    apply guarded_weighed (@maybeQuarantine_free cfg (registerFailure cfg state "error" error now) now free)
    intro n later
    have counted := guarded.counted free n (reach n later)
    have added : (registerFailure cfg state "error" error now).attemptTimes = state.attemptTimes ++ [now] := rfl
    have failures : failuresSince (.remediated now (.raised error) :: history) = now :: failuresSince history := rfl
    unfold within at *
    rw [added, failures, List.countP_cons, List.countP_append, counted]
    simp
  | settled status reason approvalId success verification free ready =>
    rw [if_neg (by simp [free])]
    obtain ⟨middle, settled, free', attempts, -⟩ := settleOutcome_settles cfg state (status.getD "unknown")
      (detailOf reason approvalId (status.getD "unknown")) now free
    rw [settled]
    apply guarded_weighed (maybeQuarantine_free cfg now free')
    intro n later
    exact failuresSince_settled (counts _ rfl) attempts (guarded.counted free n (reach n later))

end

/-- **What flaps is quarantined**: after an attempt that leaves the component free, fewer attempts without success than are
configured are within the window, in any stretch of its history that nothing starts the count in. -/
theorem flaps_quarantined (cfg : LoopConfig) (l : OperationalLoop) (history : String → List Happening)
    (run : Runs cfg (fun l now (around : String → Surroundings W) => Onward l now ∧ Counted l now around) l history)
    (component : String) (now : Int) (r : Remediation) (older : List Happening)
    (attempt : history component = .remediated now r :: older) (free : (l.stateOf component).quarantined = false)
    (stretch earlier : List Happening) (part : history component = stretch ++ earlier)
    (uninterrupted : ∀ h ∈ stretch, h.resets = false) :
    stretch.countP (Happening.failedWithin cfg now) < cfg.maxAttemptsPerWindow := by
  have guarded : Guarded cfg l.lastCycleAt (l.stateOf component) (history component) := by
    refine Runs.invariant (Guarded cfg) component ?_ ?_ ?_ ?_ run
    · exact ⟨fun _ _ _ => rfl, fun _ _ _ same => by cases same⟩
    · intro l now around state' history admitted policy guarded passes
      exact guarded_passes guarded passes admitted.1 fun r same failed => admitted.2 component policy r same failed
    · intro l now around history admitted apart guarded
      refine ⟨fun free n later => guarded.counted free n fun t last => ?_, guarded.few⟩
      exact (admitted.1 t last).trans (later now rfl)
    · intro t state history quarantined guarded
      exact ⟨fun _ _ _ => rfl, fun _ _ _ same => by cases same⟩
  have few := guarded.few now r older attempt free
  have counts := @failedWithin_le cfg now stretch earlier uninterrupted
  rw [← part] at counts
  omega

/-- Two holds of three that are allowed. -/
theorem flaps_quarantined_held :
    let run := Sample.cycled (Sample.config 3)
      [(Sample.minutes 5, Sample.held, Sample.running), (0, Sample.held, Sample.running)]
    run.2 Sample.uptimeKuma = [.remediated (Sample.minutes 5) Sample.held, .remediated 0 Sample.held] ∧
      ((run.2 Sample.uptimeKuma).countP (Happening.failedWithin (Sample.config 3) (Sample.minutes 5)) : Int) < 3 := by
  intro run
  have attempts : run.2 Sample.uptimeKuma = [.remediated (Sample.minutes 5) Sample.held, .remediated 0 Sample.held] := by decide
  have counted : ∀ (l : OperationalLoop) now, Counted l now (Sample.meeting Sample.held Sample.running) := by
    intro l now component _ r happened _
    rw [Sample.happens_remediated happened]
    decide
  refine ⟨attempts, flaps_quarantined (Sample.config 3) run.1 run.2
    (Sample.cycled_runs ⟨⟨?_, counted _ _⟩, ⟨?_, counted _ _⟩, trivial⟩) Sample.uptimeKuma _ _ _ attempts (by decide)
    _ [] (List.append_nil _).symm (by rw [attempts]; decide)⟩
  · intro t last
    cases last
    decide
  · intro t none
    cases none

/-- **Flapping without a quarantine**: three attempts in four minutes that could not be assessed. -/
theorem flaps_unquarantined :
    let run := Sample.cycled (Sample.config 3)
      [(Sample.minutes 4, Sample.unassessed, Sample.running), (Sample.minutes 2, Sample.unassessed, Sample.running),
        (0, Sample.unassessed, Sample.running)]
    Runs (Sample.config 3) (fun l now (_ : String → Surroundings Unit) => Onward l now) run.1 run.2 ∧
      (run.1.stateOf Sample.uptimeKuma).quarantined = false ∧ (∀ h ∈ run.2 Sample.uptimeKuma, h.resets = false) ∧
      ((run.2 Sample.uptimeKuma).countP (Happening.failedWithin (Sample.config 3) (Sample.minutes 4)) : Int) =
        (Sample.config 3).maxAttemptsPerWindow := by
  intro run
  refine ⟨Sample.cycled_runs ⟨?_, ?_, ?_, trivial⟩, by decide, by decide, by decide⟩
  · intro t last
    cases last
    decide
  · intro t last
    cases last
    decide
  · intro t none
    cases none

end RmtPlatform.Homelab
