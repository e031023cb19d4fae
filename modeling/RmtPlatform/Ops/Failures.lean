import RmtPlatform.Ops.Runs

/-! What is said of an execution that failed.

Two paths verify an execution without looking at whether it succeeded, and what they
observe is then what is said of it (`failure_verified`). On every other path a failure
is recorded as one, and stays one (`failed_reported`). The record itself is written for
whatever comes back unsuccessful, also where no adapter was asked
(`evidence_unfounded`); where one was, it is true (`evidence_founded`). -/
namespace RmtPlatform.Ops

open Core Agent

variable {W L : Type} {D : Deployment W L} {c : Call} {s s₁ s' : Site W}

/-! ### Paths -/

/-- The call verifies what was executed, whether or not it succeeded. -/
def Call.verifiesAnyway (s : Site W) : Call → Prop
  | remediate _ | cycle _ => True
  | homelabApprove approvalId _ _ => ∃ hold, s.core.hold? approvalId = some hold ∧ attributable hold.action = true ∧
      hold.action.expectedOutcome.isSome = true
  | _ => False

/-- The call stores what an observer finds of an execution, whether or not it succeeded. -/
def Call.observes (D : Deployment W L) (s : Site W) : Call → Prop
  | remediate _ | cycle _ => True
  | homelabApprove approvalId _ _ => ∃ hold, s.core.hold? approvalId = some hold ∧ attributable hold.action = true ∧
      hold.action.expectedOutcome.isSome = true ∧
      resolveObserver D hold.adapterName hold.action.actionType.value hold.action.component ≠ none
  | _ => False

/-- Looking at who is behind a hold leaves the hold. -/
theorem opening_hold {approvalId operatorName : String} {approved : Bool} {b : Option Boundary}
    (h : Script.exec (Call.opening D (.homelabApprove approvalId operatorName approved)) s = (.ok b, s₁)) (id : String) :
    s₁.core.hold? id = s.core.hold? id := by
  simp only [Call.opening] at h
  obtain ⟨answer, s₂, checked, rest⟩ := Script.exec_bind_ok.mp h
  obtain ⟨-, rfl⟩ := Prod.mk.inj rest
  have glanced := (checkSeparation_yields.ok checked).1
  rw [glanced]
  rfl

theorem watch_anyway {b : Boundary} {r : GovernedResult} {e : Execution} {w : Watch}
    (opens : Script.exec (c.opening D) s = (.ok (some b), s₁)) (result : r.execution? = some e)
    (h : c.watch D s₁ b r = some w) : e.success = true ∨ c.verifiesAnyway s := by
  unfold Call.watch at h
  rw [result] at h
  cases c with
  | execute operatorName operation target image =>
    dsimp only at h
    split at h
    · next verified => exact .inl verified.1
    · cases h
  | remediate observed => exact .inr trivial
  | cycle observed => exact .inr trivial
  | homelabApprove approvalId operatorName approved =>
    dsimp only at h
    split at h
    · next hold found =>
      split at h
      · next watched => exact .inr ⟨hold, (opening_hold opens approvalId) ▸ found, watched.1, watched.2.2⟩
      · cases h
    · cases h
  | propose proposal =>
    cases b with
    | governed action adapterName =>
      dsimp only at h
      split at h
      · next success => exact .inl success
      · cases h
    | approval => cases h
  | approve => cases h
  | grant => cases h
  | direct => cases h

theorem observed_watch {b : Boundary} {r : GovernedResult} {e : Execution} (observes : c.observes D s)
    (opens : Script.exec (c.opening D) s = (.ok (some b), s₁)) (result : r.execution? = some e) (named : e.executionId ≠ "") :
    ∃ w, c.watch D s₁ b r = some w ∧ resolveObserver D w.adapterName w.operation w.target ≠ none := by
  have remediated : ∀ observed : Option HealthEvaluation, c = .remediate observed ∨ c = .cycle observed →
      ∃ w, c.watch D s₁ b r = some w ∧ resolveObserver D w.adapterName w.operation w.target ≠ none := by
    intro observed called
    have opens' : Script.exec (Call.opening D (.remediate observed)) s = (.ok (some b), s₁) := by
      rcases called with rfl | rfl <;> exact opens
    cases observed with
    | none => simp [Call.opening] at opens'
    | some evaluation =>
      simp only [Call.opening] at opens'
      obtain ⟨action, s₂, built, rest⟩ := Script.exec_bind_ok.mp opens'
      obtain ⟨made, rfl⟩ := Prod.mk.inj rest
      obtain ⟨action', rfl, rfl⟩ := Option.map_eq_some_iff.mp (Except.ok.inj made)
      have restart := ((buildRemediationAction_yields.ok built).2.1 action' rfl).2
      refine ⟨⟨e, "docker", action'.actionType.value, action'.component⟩, ?_, ?_⟩
      · rcases called with rfl | rfl <;> simp [Call.watch, result, named]
      · have docker : resolveObserver D "docker" ActionType.restart.value action'.component ≠ none := by
          rw [resolveObserver, if_pos (by decide)]
          simp
        rw [restart]
        exact docker
  cases c with
  | remediate observed => exact remediated observed (.inl rfl)
  | cycle observed => exact remediated observed (.inr rfl)
  | homelabApprove approvalId operatorName approved =>
    obtain ⟨hold, found, attributed, expected, observer⟩ := observes
    refine ⟨⟨e, hold.adapterName, hold.action.actionType.value, hold.action.component⟩, ?_, observer⟩
    have found' : s₁.core.hold? approvalId = some hold := (opening_hold opens approvalId).trans found
    simp [Call.watch, result, found', attributed, named, expected]
  | execute => exact observes.elim
  | approve => exact observes.elim
  | propose => exact observes.elim
  | grant => exact observes.elim
  | direct => exact observes.elim

/-! ### Audits -/

theorem Looked.audits {w : Option Watch} (h : Looked D w s s') : s'.core.audits = s.core.audits := by
  cases w with
  | none => rw [show s' = s from h]
  | some w =>
    cases h with
    | unobserved none indexed => rw [indexed.same]
    | observed observer v above s₁ saved indexed => rw [indexed.same, saved]

theorem Noted.audits {r : GovernedResult} (h : Noted c r s s') : s'.core.audits = s.core.audits := by
  unfold Noted at h
  split at h
  · cases h with
    | unfailed attempt same => rw [same]
    | known e attempt found same => rw [same]
    | marked e attempt absent v id status saved => rw [saved]
  · rw [h]

theorem save_ne {Record : Type} (d : DurableStore Record) (r : Record) : d ≠ d.save r := by
  intro same
  have longer := congrArg (fun d => d.records.length) same
  simp [DurableStore.save] at longer

/-! ### Failures are reported -/

/-- Of the execution it is said that its adapter failed, and nothing else: in the records,
in the index, and in the index a restart would make. -/
structure ReportedFailed (s : Site W) (executionId : String) : Prop where
  recorded : ∃ v ∈ s.core.verifications.records, v.executionId = executionId
  only : ∀ v ∈ s.core.verifications.records, v.executionId = executionId → v.status = adapterExecutionFailed
  row : ∀ row, s.row? executionId = some row → row.effectiveStatus = adapterExecutionFailed ∧ row.verified = false
  rebuilt : (rebuiltRow s.core.verifications.records s.core.audits.records executionId).effectiveStatus =
      adapterExecutionFailed ∧
    (rebuiltRow s.core.verifications.records s.core.audits.records executionId).verified = false

/-- What the records read so far say, where they are all of a failure. -/
def Gathered.failing (g : Gathered) : Prop :=
  g.hasAdapterFailure = true ∨ g.aboveCoreStatus = some adapterExecutionFailed

theorem expecting_statuses (g : Gathered) (e : Option ExpectedOutcome) :
    (g.expecting e).hasAdapterFailure = g.hasAdapterFailure ∧ (g.expecting e).aboveCoreStatus = g.aboveCoreStatus ∧
      (g.expecting e).coreStatus = g.coreStatus ∧ (g.expecting e).adapter = g.adapter := by
  cases e <;> exact ⟨rfl, rfl, rfl, rfl⟩

/-- A failure that is read is kept, and nothing is read beside it. -/
theorem read_failing {v : VerificationResult} (status : v.status = adapterExecutionFailed) (g : Gathered)
    (only : ∀ st, g.aboveCoreStatus = some st → st = adapterExecutionFailed) :
    (g.read v).failing ∧ ∀ st, (g.read v).aboveCoreStatus = some st → st = adapterExecutionFailed := by
  unfold Gathered.read
  cases aboveCoreAdapter v.reason with
  | some name =>
    obtain ⟨-, above, -⟩ := expecting_statuses
      { g with aboveCoreStatus := some v.status, adapter := orText g.adapter (some name) } v.expected
    dsimp only
    unfold Gathered.failing
    rw [above, status]
    exact ⟨.inr rfl, fun st h => (Option.some.inj h).symm⟩
  | none =>
    dsimp only
    rw [if_pos status]
    exact ⟨.inl rfl, only⟩

theorem read_keeps_failing {vs : List VerificationResult} (h : ∀ v ∈ vs, v.status = adapterExecutionFailed) (g : Gathered)
    (only : ∀ st, g.aboveCoreStatus = some st → st = adapterExecutionFailed) (some_read : g.failing ∨ vs ≠ []) :
    (vs.foldl Gathered.read g).failing := by
  induction vs generalizing g with
  | nil => exact some_read.resolve_right (by simp)
  | cons v rest ih =>
    obtain ⟨failing, only'⟩ := read_failing (h v List.mem_cons_self) g only
    exact ih (fun v' hv' => h v' (List.mem_cons_of_mem v hv')) _ only' (.inl failing)

theorem classify_failing {g : Gathered} (h : g.failing) (coreStatus adapter : Option String) :
    classify coreStatus g.aboveCoreStatus adapter g.hasAdapterFailure = (adapterExecutionFailed, false) := by
  unfold classify
  split
  · rfl
  · next unfailed =>
    rw [h.resolve_left unfailed]
    rfl

/-- Where every record says so, the row made of them does. -/
theorem rebuiltRow_failed {verifications : List VerificationResult} {executionId : String}
    (recorded : ∃ v ∈ verifications, v.executionId = executionId)
    (only : ∀ v ∈ verifications, v.executionId = executionId → v.status = adapterExecutionFailed)
    (audits : List ExecutionAuditRecord) :
    (rebuiltRow verifications audits executionId).effectiveStatus = adapterExecutionFailed ∧
      (rebuiltRow verifications audits executionId).verified = false := by
  have failing : ((verifications.filter fun v => v.executionId = executionId).foldl Gathered.read .none).failing := by
    apply read_keeps_failing
    · intro v hv
      exact only v (List.mem_filter.mp hv).1 (by simpa using (List.mem_filter.mp hv).2)
    · intro st h
      cases h
    · obtain ⟨v, hv, id⟩ := recorded
      exact .inr (List.ne_nil_of_mem (List.mem_filter.mpr ⟨hv, by simpa using id⟩))
  unfold rebuiltRow
  dsimp only
  rw [classify_failing failing]
  exact ⟨rfl, rfl⟩

theorem reportedFailed_of {executionId : String} (recorded : ∃ v ∈ s.core.verifications.records, v.executionId = executionId)
    (only : ∀ v ∈ s.core.verifications.records, v.executionId = executionId → v.status = adapterExecutionFailed)
    (row : ∀ row, s.row? executionId = some row → row.effectiveStatus = adapterExecutionFailed ∧ row.verified = false) :
    ReportedFailed s executionId :=
  ⟨recorded, only, row, rebuiltRow_failed recorded only _⟩

theorem ReportedFailed.untold {executionId : String} (h : ReportedFailed s executionId) (untold : Untold s s') :
    ReportedFailed s' executionId := by
  apply reportedFailed_of
  · rw [untold.core.verifications]
    exact h.recorded
  · rw [untold.core.verifications]
    exact h.only
  · rw [untold.row?]
    exact h.row

/-- What is recorded of another execution does not change it. -/
theorem ReportedFailed.confined {executionId other : String} (h : ReportedFailed s executionId) (confined : Confined other s s')
    (apart : executionId ≠ other) : ReportedFailed s' executionId := by
  obtain ⟨vs, hvs, verifications⟩ := confined.verifications.records
  apply reportedFailed_of
  · obtain ⟨v, hv, id⟩ := h.recorded
    rw [verifications]
    exact ⟨v, List.mem_append_left _ hv, id⟩
  · intro v hv id
    rw [verifications] at hv
    rcases List.mem_append.mp hv with hv | hv
    · exact h.only v hv id
    · exact absurd (id.symm.trans (hvs v hv)) apart
  · rw [confined.rows _ apart]
    exact h.row

theorem ReportedFailed.restart {executionId : String} (h : ReportedFailed s executionId) (tidy : Tidy D s) :
    ReportedFailed (s.restart D) executionId := by
  obtain ⟨verifications, audits, index⟩ := tidy.restored
  apply reportedFailed_of
  · rw [verifications]
    exact h.recorded
  · rw [verifications]
    exact h.only
  · intro row found
    unfold Site.row? at found
    rw [index, get?_rebuild, if_pos h.recorded] at found
    obtain rfl := Option.some.inj found
    exact h.rebuilt

/-- A failure on a path that records it. -/
theorem failure_reported {executionId : String} (own : OwnAnswers D.toPlatform) (tidy : Tidy D s)
    (failed : FailedIn D c s executionId) (evidences : c.evidences = true) (heeds : ¬c.verifiesAnyway s) :
    ReportedFailed (Script.exec (c.script D) s).2 executionId ∧
      Drawn D.uuid4 (Script.exec (c.script D) s).2.core executionId := by
  obtain ⟨r₀, e₀, told₀, result₀, rfl, failure, a₀, -, audited⟩ := failed
  have episode : Episode D c s ((c.script D).emitted s) (Script.exec (c.script D) s).2 := call_episode
  generalize (c.script D).emitted s = ls at episode told₀
  generalize (Script.exec (c.script D) s).2 = s' at episode audited ⊢
  cases episode with
  | quiet _ _ untold unexecuted => simp [unexecuted r₀ told₀] at result₀
  | executed b r e request adapterName s₁ sₑ k s₂ s₃ _ _ opens before result engages executed draws after looked noted told
      only =>
    obtain rfl := only r₀ told₀
    obtain rfl : e₀ = e := Option.some.inj (result₀.symm.trans result)
    have unwatched : c.watch D s₁ b r₀ = none := by
      cases watched : c.watch D s₁ b r₀ with
      | none => rfl
      | some w =>
        rcases watch_anyway opens result watched with success | anyway
        · simp [failure] at success
        · exact absurd anyway heeds
    rw [unwatched] at looked
    obtain rfl : s₃ = s₂ := looked
    obtain ⟨unrecorded, new⟩ := engages.before
    have id := executed_id own executed
    have fresh : ¬Drawn D.uuid4 s.core e₀.executionId := by
      rw [id]
      exact (new.mono before.core.draws le_rfl).fresh D.uuid4_fresh
    have started : sₑ.audits = s.core.audits ∧ sₑ.verifications = s.core.verifications :=
      ⟨unrecorded.audits.trans before.core.audits, unrecorded.verifications.trans before.core.verifications⟩
    have verifications : s₃.core.verifications = s.core.verifications := by
      have ended : s'.core.audits = k.audits := noted.audits.trans after.core.audits
      rw [after.core.verifications]
      cases executed with
      | stopped stopped failure' id' audits verifications =>
        exact absurd (started.1.symm.trans (audits.symm.trans (ended.symm.trans audited))) (started.1 ▸ save_ne _ _)
      | failed result' a taken answer failure' id' audited' adapter audits verifications =>
        exact verifications.trans started.2
      | succeeded result' a observed taken answer success => simp [failure] at success
    have absent : s₃.core.verifications.get? (·.executionId) e₀.executionId = none := by
      rw [verifications, DurableStore.get?_eq_none]
      exact fun v hv same => fresh (same ▸ tidy.verifications v hv)
    have unindexed : s₃.row? e₀.executionId = none := by
      rw [after.row?]
      show s₁.row? e₀.executionId = none
      rw [before.row?]
      by_contra row
      exact fresh (tidy.rows _ row)
    have named : e₀.executionId ≠ "" := by
      obtain ⟨n, -, -, text⟩ := new
      rw [id, text]
      exact Uuid.text_ne _
    have attempted : failedAttempt r₀ = some e₀ := by simp [failedAttempt, result, failure, named]
    rw [Noted, if_pos evidences] at noted
    cases noted with
    | unfailed attempt => simp [attempted] at attempt
    | known e' attempt found =>
      obtain rfl : e₀ = e' := Option.some.inj (attempted.symm.trans attempt)
      exact absurd absent found
    | marked e' attempt absent' v vid status saved =>
      obtain rfl : e₀ = e' := Option.some.inj (attempted.symm.trans attempt)
      have drawn : Drawn D.uuid4 s'.core e₀.executionId := by
        rw [saved, id]
        exact (new.drawn.mono draws).mono after.core.draws
      refine ⟨?_, drawn⟩
      have records : s'.core.verifications.records = s.core.verifications.records ++ [v] := by
        rw [saved]
        show (s₃.core.verifications.save v).records = _
        rw [verifications]
        rfl
      apply reportedFailed_of
      · rw [records]
        exact ⟨v, by simp, vid⟩
      · intro v' hv' id'
        rw [records] at hv'
        rcases List.mem_append.mp hv' with hv' | hv'
        · exact absurd (id' ▸ tidy.verifications v' hv') fresh
        · rw [List.mem_singleton.mp hv']
          exact status
      · intro row found
        rw [saved] at found
        have found' : s₃.row? e₀.executionId = some row := found
        simp [unindexed] at found'

theorem ReportedFailed.call {executionId : String} (own : OwnAnswers D.toPlatform) (h : ReportedFailed s executionId)
    (drawn : Drawn D.uuid4 s.core executionId) : ReportedFailed (Script.exec (c.script D) s).2 executionId ∧
      Drawn D.uuid4 (Script.exec (c.script D) s).2.core executionId := by
  rcases @call_confined W L D c s with untold | ⟨r, e, -, -, confined, new⟩
  · exact ⟨h.untold untold, drawn.mono untold.core.draws⟩
  · refine ⟨h.confined confined fun same => ?_, drawn.mono confined.draws⟩
    exact (new own).fresh D.uuid4_fresh (same ▸ drawn)

/-- **A failed execution is reported as failed**, in every run in which no failure is on a
path that verifies it anyway, if adapters answer under the identifier they are given. -/
theorem failed_reported (D : Deployment W L) (own : OwnAnswers D.toPlatform) (s : Site W) (failed : Set String)
    (run : Reach D (fun c s => ∀ id, FailedIn D c s id → c.evidences = true ∧ ¬c.verifiesAnyway s) s failed) :
    ∀ executionId ∈ failed, ReportedFailed s executionId := by
  have both : ∀ executionId ∈ failed, ReportedFailed s executionId ∧ Drawn D.uuid4 s.core executionId := by
    induction run with
    | start backend world =>
      intro id h
      exact absurd h (Set.notMem_empty id)
    | @call s failed c before admitted ih =>
      rintro id (earlier | now)
      · exact (ih id earlier).1.call own (ih id earlier).2
      · obtain ⟨evidences, heeds⟩ := admitted id now
        exact failure_reported own (before.tidy own) now evidences heeds
    | @restart s failed before ih =>
      intro id h
      obtain ⟨reported, drawn⟩ := ih id h
      refine ⟨reported.restart (before.tidy own), ?_⟩
      obtain ⟨holds, core⟩ := @restart_core W L D s
      apply drawn.mono
      rw [core]
      exact le_rfl
  exact fun id h => (both id h).1

/-- The failure a call comes back with. -/
def Notice.failure? : Notice L → Option String
  | .returned r => (failedAttempt r).map (·.executionId)
  | .core _ => none

/-- A failure as a run shows it. -/
theorem failedIn_of {executionId : String} (told : executionId ∈ ((c.script D).emitted s).filterMap Notice.failure?)
    (audited : ∃ a ∈ (Script.exec (c.script D) s).2.core.audits.records, a.executionId = executionId ∧
      (Script.exec (c.script D) s).2.core.audits = s.core.audits.save a) : FailedIn D c s executionId := by
  obtain ⟨a, -, about, saved⟩ := audited
  obtain ⟨m, hm, found⟩ := List.mem_filterMap.mp told
  cases m with
  | core e => cases found
  | returned r =>
    obtain ⟨e, attempt, rfl⟩ := Option.map_eq_some_iff.mp found
    unfold failedAttempt at attempt
    split at attempt
    · next e' result =>
      split at attempt
      · next failed =>
        cases attempt
        exact ⟨r, e, hm, result, rfl, by simpa using failed.1, a, about, saved⟩
      · cases attempt
    · cases attempt

/-! ### Failures that are verified

A container whose restart fails, and which is found running. Each run digests one
instruction. -/

namespace Sample

def failingAdapter {W L : Type} : ExecutionAdapter W L where
  supports _ := pure true
  execute request := pure ⟨request.executionId, "failed", false, "The container did not restart"⟩

def brokenDocker : Deployment Unit Empty :=
  { deployment with
    adapter? := fun name => if name = "docker" then some failingAdapter else none
    rt := { deployment.rt with sha256 := fun _ => "digest" }
    digest_ne := fun _ => by simp
    engine := "docker"
    observeContainer := fun target => pure (some ⟨target, "running", "docker"⟩) }

theorem brokenDocker_own : OwnAnswers brokenDocker.toPlatform := by
  rintro request adapterName result ⟨adapter, w, registered, answered⟩
  by_cases docker : adapterName = "docker"
  · obtain rfl : failingAdapter = adapter := by simpa [brokenDocker, docker] using registered
    cases answered
    rfl
  · simp [brokenDocker, docker] at registered

/-- Where execution is simulated, and succeeds. -/
def simulated : Deployment Unit Empty :=
  { deployment with
    rt := { deployment.rt with sha256 := fun _ => "digest" }
    digest_ne := fun _ => by simp }

theorem simulated_own : OwnAnswers simulated.toPlatform := by
  rintro request adapterName result ⟨adapter, w, registered, answered⟩
  by_cases simulation : adapterName = "simulation"
  · obtain rfl : simulationAdapter = adapter := by
      simpa [simulated, deployment, Core.Sample.platform, simulation] using registered
    cases answered
    rfl
  · simp [simulated, deployment, Core.Sample.platform, simulation] at registered

def started : Site Unit := .initial .sqlite ()

def start : Ops.Call := .execute "operator-1" "start" "web" none

def critical : HealthEvaluation := ⟨"uptime-kuma", .critical, 90, "uptime-kuma is down"⟩

/-- The restart of a critical component is held. -/
def held : Site Unit := (Script.exec (Call.script brokenDocker (.remediate (some critical))) started).2

def resume : Ops.Call := .homelabApprove "4" "operator-1" true

end Sample

/-- A start that fails is reported as failed. -/
theorem failed_reported_start :
    ReportedFailed (Script.exec (Sample.start.script Sample.brokenDocker) Sample.started).2 "4" := by
  have failed : FailedIn Sample.brokenDocker Sample.start Sample.started "4" := by
    apply failedIn_of <;> decide +kernel
  have admitted : ∀ id, FailedIn Sample.brokenDocker Sample.start Sample.started id →
      Sample.start.evidences = true ∧ ¬Sample.start.verifiesAnyway Sample.started := fun _ _ => ⟨rfl, fun anyway => anyway⟩
  have begun : Reach Sample.brokenDocker (fun c s => ∀ id, FailedIn Sample.brokenDocker c s id →
      c.evidences = true ∧ ¬c.verifiesAnyway s) Sample.started ∅ := .start .sqlite ()
  exact failed_reported _ Sample.brokenDocker_own _ _ (begun.call Sample.start admitted) "4" (.inr failed)

theorem ReportedFailed.tells {executionId : String} (h : ReportedFailed s executionId)
    {said : Option String × Option String × String × Bool} (found : s.tells executionId = some said) :
    said.2.2 = (adapterExecutionFailed, false) := by
  obtain ⟨row, indexed, rfl⟩ := Option.map_eq_some_iff.mp found
  exact Prod.ext (h.row row indexed).1 (h.row row indexed).2

/-- **A failure that is reported as verified**: the restart is held, approved, and fails; what is said of it is what was
observed of its target. -/
theorem failure_verified : ∃ s failed, Reach Sample.brokenDocker (fun _ _ => True) s failed ∧ "6" ∈ failed ∧
    s.tells "6" = some (none, some "verified_success", "verified_success", true) ∧ ¬ReportedFailed s "6" := by
  have failed : FailedIn Sample.brokenDocker Sample.resume Sample.held "6" := by
    apply failedIn_of <;> decide +kernel
  have tells : (Script.exec (Sample.resume.script Sample.brokenDocker) Sample.held).2.tells "6" =
      some (none, some "verified_success", "verified_success", true) := by decide +kernel
  have begun : Reach Sample.brokenDocker (fun _ _ => True) Sample.started ∅ := .start .sqlite ()
  refine ⟨_, _, (begun.call (.remediate (some Sample.critical)) trivial).call Sample.resume trivial, .inr failed, tells, ?_⟩
  intro reported
  exact absurd (reported.tells tells) (by decide)

/-! ### The evidence is true -/

/-- The call has an adapter asked, if it comes to the engine, or stores an observation, or records no failures. -/
def Founded (D : Deployment W L) (c : Call) (s : Site W) : Prop :=
  ∀ b s₁ request adapterName k, Script.exec (c.opening D) s = (.ok (some b), s₁) →
    Engages D.toPlatform b s₁.core request adapterName k → c.evidences = true → ¬c.observes D s →
    Taken D.toPlatform request adapterName k

theorem failed_ne {status : String} (h : status ∈ coreStatuses) : status ≠ adapterExecutionFailed := by
  rintro rfl
  exact absurd h (by decide)

theorem Looked.records {w : Option Watch} (h : Looked D w s s') :
    ∀ v ∈ s'.core.verifications.records, v ∈ s.core.verifications.records ∨ v.status ≠ adapterExecutionFailed := by
  cases w with
  | none =>
    rw [show s' = s from h]
    exact fun v hv => .inl hv
  | some w =>
    cases h with
    | unobserved none indexed =>
      rw [indexed.same]
      exact fun v hv => .inl hv
    | observed observer v above s₁ saved indexed =>
      rw [indexed.same, saved]
      intro v' hv'
      rcases List.mem_append.mp hv' with hv' | hv'
      · exact .inl hv'
      · rw [List.mem_singleton.mp hv']
        exact .inr (failed_ne above.status)

/-- What is recorded as a failure in a call failed in it. -/
theorem founded_call (founded : Founded D c s) : ∀ v ∈ (Script.exec (c.script D) s).2.core.verifications.records,
    v ∈ s.core.verifications.records ∨ (v.status = adapterExecutionFailed → FailedIn D c s v.executionId) := by
  have episode : Episode D c s ((c.script D).emitted s) (Script.exec (c.script D) s).2 := call_episode
  generalize hls : (c.script D).emitted s = ls at episode
  generalize hs' : (Script.exec (c.script D) s).2 = s' at episode ⊢
  cases episode with
  | quiet _ _ untold unexecuted =>
    rw [untold.core.verifications]
    exact fun v hv => .inl hv
  | executed b r e request adapterName s₁ sₑ k s₂ s₃ _ _ opens before result engages executed draws after looked noted told
      only =>
    obtain ⟨unrecorded, -⟩ := engages.before
    have started : sₑ.audits = s.core.audits ∧ sₑ.verifications = s.core.verifications :=
      ⟨unrecorded.audits.trans before.core.audits, unrecorded.verifications.trans before.core.verifications⟩
    -- Neither the core nor the verification above it records a failure.
    have core : ∀ v ∈ k.verifications.records, v ∈ s.core.verifications.records ∨ v.status ≠ adapterExecutionFailed := by
      cases executed with
      | stopped stopped failure id audits verifications =>
        rw [verifications, started.2]
        exact fun v hv => .inl hv
      | failed result' a taken answer failure id audited adapter audits verifications =>
        rw [verifications, started.2]
        exact fun v hv => .inl hv
      | succeeded result' a observed taken answer success id audited adapter audits verifications =>
        rw [verifications, started.2]
        intro v hv
        rcases List.mem_append.mp hv with hv | hv
        · exact .inl hv
        · rw [List.mem_singleton.mp hv]
          exact .inr (failed_ne (verify_status _ _ _))
    have above : ∀ v ∈ s₃.core.verifications.records, v ∈ s.core.verifications.records ∨ v.status ≠ adapterExecutionFailed := by
      intro v hv
      rcases looked.records v hv with hv | other
      · rw [after.core.verifications] at hv
        exact core v hv
      · exact .inr other
    intro v hv
    unfold Noted at noted
    split at noted
    · next evidences =>
      have same : s' = s₃ → v ∈ s.core.verifications.records ∨ (v.status = adapterExecutionFailed → FailedIn D c s v.executionId) := by
        rintro rfl
        exact (above v hv).imp_right fun other status => absurd status other
      cases noted with
      | unfailed attempt same' => exact same same'
      | known e' attempt found same' => exact same same'
      | marked e' attempt absent v' id status saved =>
        obtain ⟨rfl, failure⟩ := failedAttempt_id result attempt
        rw [saved] at hv
        rcases List.mem_append.mp hv with hv | hv
        · exact (above v hv).imp_right fun other status => absurd status other
        · obtain rfl := List.mem_singleton.mp hv
          refine .inr fun _ => ⟨r, e', hls ▸ told, result, id.symm, failure, ?_⟩
          rw [hs']
          have audits : s'.core.audits = k.audits := by
            rw [saved]
            exact looked.audits.trans after.core.audits
          cases executed with
          | stopped stopped failure' id' audits' verifications =>
            -- Stopped before the adapter, and nothing observed: this is what the condition excludes.
            exfalso
            have observes : c.observes D s := by
              by_contra unobserved
              exact stopped (founded b s₁ request adapterName sₑ opens engages evidences unobserved)
            have named : e'.executionId ≠ "" := by
              obtain ⟨n, -, -, text⟩ := engages.before.2
              rw [id', text]
              exact Uuid.text_ne _
            obtain ⟨w, watched, observer⟩ := observed_watch observes opens result named
            rw [watched] at looked
            cases looked with
            | unobserved none indexed => exact observer none
            | observed _ v'' above'' s₄ stored indexed =>
              rw [DurableStore.get?_eq_none] at absent
              refine absent v'' ?_ ?_
              · rw [indexed.same, stored]
                exact List.mem_append_right _ List.mem_cons_self
              · rw [above''.id, watch_execution result watched]
          | failed result' a taken answer failure' id' audited adapter audits' verifications =>
            exact ⟨a, audited.trans (id'.symm.trans id.symm), audits.trans (audits'.trans (by rw [started.1]))⟩
          | succeeded result' a observed taken answer success => simp [failure] at success
    · subst noted
      exact (above v hv).imp_right fun other status => absurd status other

theorem Reach.mirrored {admits : Call → Site W → Prop} {failed : Set String} (h : Reach D admits s failed) :
    s.core.verifications.Mirrored ∧ s.core.audits.Mirrored := by
  induction h with
  | start backend world => exact ⟨.nil, .nil⟩
  | @call s failed c before admitted ih =>
    rcases @call_confined W L D c s with untold | ⟨r, e, -, -, confined, -⟩
    · rw [untold.core.verifications, untold.core.audits]
      exact ih
    · exact ⟨confined.verifications.mirrored ih.1, confined.audits.mirrored ih.2⟩
  | @restart s failed before ih =>
    obtain ⟨holds, core⟩ := @restart_core W L D s
    rw [core]
    exact ⟨DurableStore.Trails.restart fun _ => rfl, DurableStore.Trails.restart fun _ => rfl⟩

/-- A restart keeps both stores. -/
theorem restart_records (verifications : s.core.verifications.Mirrored) (audits : s.core.audits.Mirrored) :
    (s.restart D).core.verifications.records = s.core.verifications.records ∧
      (s.restart D).core.audits.records = s.core.audits.records := by
  obtain ⟨holds, core⟩ := @restart_core W L D s
  rw [core]
  exact ⟨verifications.restart, audits.restart⟩

/-- Audit records stay. -/
theorem audits_kept {a : ExecutionAuditRecord} (h : a ∈ s.core.audits.records) :
    a ∈ (Script.exec (c.script D) s).2.core.audits.records := by
  rcases @call_confined W L D c s with untold | ⟨r, e, -, -, confined, -⟩
  · rw [untold.core.audits]
    exact h
  · obtain ⟨as, -, audits⟩ := confined.audits.records
    rw [audits]
    exact List.mem_append_left as h

/-- Where an adapter failed, its audit record is there. -/
theorem Reach.audited {admits : Call → Site W → Prop} {failed : Set String} (h : Reach D admits s failed) :
    ∀ id ∈ failed, ∃ a ∈ s.core.audits.records, a.executionId = id := by
  induction h with
  | start backend world => exact fun id none => absurd none (Set.notMem_empty id)
  | @call s failed c before admitted ih =>
    rintro id (earlier | ⟨r, e, -, -, -, -, a, about, saved⟩)
    · obtain ⟨a, stored, about⟩ := ih id earlier
      exact ⟨a, audits_kept stored, about⟩
    · refine ⟨a, ?_, about⟩
      rw [saved]
      exact List.mem_append_right _ List.mem_cons_self
  | @restart s failed before ih =>
    obtain ⟨verifications, audits⟩ := before.mirrored
    rw [(restart_records verifications audits).2]
    exact ih

/-- **Evidence of a failure is true**: an adapter answered under that identifier, and failed, and its audit record is
there; in every run in which each call's request that comes to the engine comes to an adapter. -/
theorem evidence_founded (D : Deployment W L) (s : Site W) (failed : Set String) (run : Reach D (Founded D) s failed) :
    ∀ v ∈ s.core.verifications.records, v.status = adapterExecutionFailed → v.executionId ∈ failed ∧
      ∃ a ∈ s.core.audits.records, a.executionId = v.executionId := by
  have told : ∀ v ∈ s.core.verifications.records, v.status = adapterExecutionFailed → v.executionId ∈ failed := by
    induction run with
    | start backend world =>
      intro v hv
      cases hv
    | @call s failed c before founded ih =>
      intro v hv status
      rcases founded_call founded v hv with earlier | now
      · exact .inl (ih v earlier status)
      · exact .inr (now status)
    | @restart s failed before ih =>
      obtain ⟨verifications, audits⟩ := before.mirrored
      rw [(restart_records verifications audits).1]
      exact ih
  intro v hv status
  exact ⟨told v hv status, run.audited _ (told v hv status)⟩

/-! ### Evidence without an adapter -/

namespace Sample

/-- No check stops the action, where it is let through to the engine. -/
def passes (D : Deployment Unit Empty) (s : Site Unit) (action : ActionRequest) (adapterName : String) : Bool :=
  match (resolveAssessment D.toPlatform action adapterName).exec s.core with
  | (.ok assessment, k) => refusal D.toPlatform (automaticState D.toPlatform k action assessment)
      (automaticRequest D.toPlatform k action adapterName assessment) adapterName = none
  | _ => true

def startAction : ActionRequest := operatorAction "operator-1" "start" "web" none .start "0"

theorem start_founded : Founded brokenDocker start started := by
  intro b s₁ request adapterName k opens engages _ _
  have opened : Script.exec (start.opening brokenDocker) started =
      (.ok (some (.governed startAction "docker")), (Script.exec (start.opening brokenDocker) started).2) := rfl
  have passed : passes brokenDocker (Script.exec (start.opening brokenDocker) started).2 startAction "docker" = true := by
    decide +kernel
  rw [opened] at opens
  obtain ⟨action, rfl⟩ := Prod.mk.inj opens
  obtain rfl := Option.some.inj (Except.ok.inj action)
  cases engages with
  | governed _ _ _ s₂ assessment assessed allowed auto =>
    simp only [passes, assessed] at passed
    exact ⟨of_decide_eq_true passed, failingAdapter, rfl, by simp [failingAdapter]⟩

/-- `GitTagAdapter`, where git does as it is told. -/
def gitTagAdapter {W L : Type} : ExecutionAdapter W L where
  supports request := pure (lower request.operation ∈ ["create", "remove"])
  execute request :=
    let operation := lower request.operation
    if operation ∈ ["create", "remove"] then
      pure ⟨request.executionId, "completed", true, "Execution completed: " ++ operation ++ " on " ++ request.target⟩
    else pure ⟨request.executionId, "failed", false, "Operation " ++ operation ++ " not supported by git adapter"⟩

/-- The engine is set to it. -/
def gitEngine : Deployment Unit Empty :=
  { brokenDocker with
    adapter? := fun name => if name = "git" then some gitTagAdapter else none
    engine := "git" }

end Sample

/-- The evidence of a start that fails. -/
theorem evidence_founded_start :
    ∃ v ∈ (Script.exec (Sample.start.script Sample.brokenDocker) Sample.started).2.core.verifications.records,
      v.status = adapterExecutionFailed ∧
      v.executionId ∈ (∅ ∪ {id | FailedIn Sample.brokenDocker Sample.start Sample.started id} : Set String) ∧
      ∃ a ∈ (Script.exec (Sample.start.script Sample.brokenDocker) Sample.started).2.core.audits.records,
        a.executionId = v.executionId := by
  have begun : Reach Sample.brokenDocker (Founded Sample.brokenDocker) Sample.started ∅ := .start .sqlite ()
  have recorded : ∃ v ∈ (Script.exec (Sample.start.script Sample.brokenDocker) Sample.started).2.core.verifications.records,
      v.status = adapterExecutionFailed := by decide +kernel
  obtain ⟨v, hv, status⟩ := recorded
  exact ⟨v, hv, status, evidence_founded _ _ _ (begun.call Sample.start Sample.start_founded) v hv status⟩

/-- **Evidence of a failure of no adapter**: the git adapter does not support a start, and is not called. -/
theorem evidence_unfounded : ∃ s failed, Reach Sample.gitEngine (fun _ _ => True) s failed ∧
    ∃ v ∈ s.core.verifications.records, v.status = adapterExecutionFailed ∧ v.executionId ∉ failed ∧
      ∀ a ∈ s.core.audits.records, a.executionId ≠ v.executionId := by
  have begun : Reach Sample.gitEngine (fun _ _ => True) Sample.started ∅ := .start .sqlite ()
  have run := begun.call Sample.start trivial
  have recorded : ∃ v ∈ (Script.exec (Sample.start.script Sample.gitEngine) Sample.started).2.core.verifications.records,
      v.status = adapterExecutionFailed ∧
      ∀ a ∈ (Script.exec (Sample.start.script Sample.gitEngine) Sample.started).2.core.audits.records,
        a.executionId ≠ v.executionId := by decide +kernel
  obtain ⟨v, hv, status, unaudited⟩ := recorded
  refine ⟨_, _, run, v, hv, status, fun failed => ?_, unaudited⟩
  obtain ⟨a, ha, about⟩ := run.audited v.executionId failed
  exact unaudited a ha about

end RmtPlatform.Ops
