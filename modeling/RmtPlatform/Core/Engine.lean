import RmtPlatform.Core.Effects

/-! How one call of the execution engine ends, and the evidence it leaves.

Every way out of `execute` is a case of `Ending`, with the state it leaves and the
labels it emits. A request that is refused before an adapter is looked for leaves a
trace; one whose parameters cannot be copied, or whose adapter is unknown, does not
support it or raises, leaves none (`engine_complete_iff`). -/
namespace RmtPlatform.Core

variable {W L : Type} (P : Platform W L)

/-! ### The checks before the adapter -/

/-- The time has passed at the next reading of the clock. -/
def late (s : State W) : Option Int → Bool
  | none => false
  | some e => e < P.clock s.ticks

/-- Why the request is refused before an adapter is looked for, if it is. -/
def refusal (s : State W) (request : ExecutionRequest) (adapterName : String) : Option String :=
  match s.authorization? request.authorizationId with
  | none => some "Authorization not found"
  | some authorization =>
    if authorization.status ≠ "approved" then some "Authorization not approved"
    else if late P s authorization.expiresAt then some "Authorization expired"
    else match mismatch authorization request adapterName with
      | some reason => some reason
      | none => match misbound P.rt request adapterName with
        | .error _ => none
        | .ok true => some "Execution instruction binding mismatch"
        | .ok false => if denied request then some "Execution blocked by policy: deny" else none

/-- The request is refused for no reason, and is what its digest says. -/
def Cleared (s : State W) (request : ExecutionRequest) (adapterName : String) : Prop :=
  refusal P s request adapterName = none ∧ misbound P.rt request adapterName = .ok false

/-- The clock after the checks: it is read once, or not at all. -/
def checkedTicks (s : State W) (expiresAt : Option Int) : Nat :=
  match expiresAt with
  | none => s.ticks
  | some _ => s.ticks + 1

/-! ### Endings -/

/-- How a call of the engine ends: its labels, its result, and the state it leaves. -/
inductive Ending (request : ExecutionRequest) (adapterName : String) (s : State W) :
    List (Event L) → Except Raised ExecutionResult → State W → Prop where
  | refused (reason : String) (ticks : Nat) (t : ExecutionTrace) (why : refusal P s request adapterName = some reason)
      (id : t.executionId = request.executionId) (told : t.reason = reason) :
      Ending request adapterName s [] (.ok (failed request reason)) { s with ticks, traces := s.traces.save t }
  | unbound (ticks : Nat) (e : Raised) (passed : refusal P s request adapterName = none)
      (raises : misbound P.rt request adapterName = .error e) : Ending request adapterName s [] (.error e) { s with ticks }
  | unknown (ticks : Nat) (passed : Cleared P s request adapterName) (adapter : P.adapter? adapterName = none) :
      Ending request adapterName s [] (.ok (failed request ("Adapter '" ++ adapterName ++ "' not found")))
        { s with ticks }
  | unsupported (ticks : Nat) (adapter : ExecutionAdapter W L) (passed : Cleared P s request adapterName)
      (registered : P.adapter? adapterName = some adapter)
      (supports : ((adapter.supports request).exec s.world).1 = .ok false) :
      Ending request adapterName s (((adapter.supports request).emitted s.world).map .world)
        (.ok (failed request "Adapter does not support request"))
        { s with ticks, world := ((adapter.supports request).exec s.world).2 }
  | undetermined (ticks : Nat) (adapter : ExecutionAdapter W L) (e : Raised)
      (passed : Cleared P s request adapterName) (registered : P.adapter? adapterName = some adapter)
      (supports : ((adapter.supports request).exec s.world).1 = .error e) :
      Ending request adapterName s (((adapter.supports request).emitted s.world).map .world) (.error e)
        { s with ticks, world := ((adapter.supports request).exec s.world).2 }
  | raised (ticks : Nat) (adapter : ExecutionAdapter W L) (e : Raised) (checkedAt : Option Int)
      (authorization : ExecutionAuthorization) (w : W)
      (passed : Cleared P s request adapterName) (registered : P.adapter? adapterName = some adapter)
      (supports : (adapter.supports request).exec s.world = (.ok true, w))
      (executes : ((adapter.execute request).exec w).1 = .error e) :
      Ending request adapterName s
        (((adapter.execute request).emitted w).map .world ++
          .adapterExecute checkedAt authorization request adapterName ::
          ((adapter.supports request).emitted s.world).map .world)
        (.error e) { s with ticks, world := ((adapter.execute request).exec w).2 }
  | returned (ticks : Nat) (adapter : ExecutionAdapter W L) (result : ExecutionResult) (checkedAt : Option Int)
      (authorization : ExecutionAuthorization) (w : W) (a : ExecutionAuditRecord) (t : ExecutionTrace)
      (passed : Cleared P s request adapterName) (registered : P.adapter? adapterName = some adapter)
      (supports : (adapter.supports request).exec s.world = (.ok true, w))
      (executes : ((adapter.execute request).exec w).1 = .ok result)
      (audit : a = auditOf request adapterName (request.riskLevel.getD (executionRisk request)) result)
      (id : t.executionId = result.executionId) (allows : t.policyDecision = "allow") :
      Ending request adapterName s
        (((adapter.execute request).emitted w).map .world ++
          .adapterExecute checkedAt authorization request adapterName ::
          ((adapter.supports request).emitted s.world).map .world)
        (.ok result)
        { s with
          ticks
          world := ((adapter.execute request).exec w).2
          audits := s.audits.save a
          traces := s.traces.save t }

section
variable {P} {s : State W} {request : ExecutionRequest} {adapterName : String} {α : Type}

@[simp] theorem emitted_outside (x : Script W L Raised α) (s : State W) :
    (outside x).emitted s = (x.emitted s.world).map Event.world :=
  Program.emitted_within State.worldPart Event.world x s

@[simp] theorem emitted_now (s : State W) : (now P).emitted s = [] := rfl

@[simp] theorem emitted_uuid4 (s : State W) : (uuid4 P).emitted s = [] := rfl

theorem expired_exec (expiresAt : Option Int) :
    ∃ checkedAt, (expired P expiresAt).exec s =
        (.ok (late P s expiresAt, checkedAt), { s with ticks := checkedTicks s expiresAt }) ∧
      (expired P expiresAt).emitted s = [] := by
  cases expiresAt with
  | none => exact ⟨none, rfl, rfl⟩
  | some e => exact ⟨some (P.clock s.ticks), rfl, rfl⟩

theorem recorded_exec (a : ExecutionAuditRecord) (t : ExecutionTrace) (result : ExecutionResult) :
    (do saveAudit a; saveTrace t; pure result : Governed W L ExecutionResult).exec s =
        (.ok result, { s with audits := s.audits.save a, traces := s.traces.save t }) ∧
      (do saveAudit a; saveTrace t; pure result : Governed W L ExecutionResult).emitted s = [] :=
  ⟨rfl, rfl⟩

/-- What follows the checks. -/
theorem perform_ending {authorization : ExecutionAuthorization} {checkedAt : Option Int} {ticks : Nat}
    (passed : Cleared P s request adapterName) (allowed : denied request = false) :
    Ending P request adapterName s
      ((perform P authorization checkedAt request adapterName).emitted { s with ticks })
      ((perform P authorization checkedAt request adapterName).exec { s with ticks }).1
      ((perform P authorization checkedAt request adapterName).exec { s with ticks }).2 := by
  unfold perform
  simp only [allowed, Bool.false_eq_true, if_false]
  cases registered : P.adapter? adapterName with
  | none => exact .unknown ticks passed registered
  | some adapter =>
    dsimp only
    rw [Script.exec_bind, Script.emitted_bind, exec_outside, emitted_outside]
    rcases supports : (adapter.supports request).exec s.world with ⟨e | b, w⟩
    · have := Ending.undetermined ticks adapter e passed registered (by rw [supports])
      rw [supports] at this
      exact this
    · cases b with
      | false =>
        have := Ending.unsupported ticks adapter passed registered (by rw [supports])
        rw [supports] at this
        exact this
      | true =>
        simp only [Bool.not_true, Bool.false_eq_true, if_false]
        rw [Script.exec_bind, Script.emitted_bind, Script.exec_announce, Script.emitted_announce]
        dsimp only
        rw [Script.exec_bind, Script.emitted_bind, exec_outside, emitted_outside]
        rcases executes : (adapter.execute request).exec w with ⟨e | result, w'⟩
        · have := Ending.raised ticks adapter e checkedAt authorization w passed registered supports (by rw [executes])
          rw [executes] at this
          simpa only [List.nil_append, List.append_assoc, List.singleton_append] using this
        · have := Ending.returned ticks adapter result checkedAt authorization w _
            { traceOf request "allow" (request.riskLevel.getD (executionRisk request)) result.status result.message with
              executionId := result.executionId }
            passed registered supports (by rw [executes]) rfl rfl rfl
          rw [executes] at this
          dsimp only
          rw [(recorded_exec _ _ _).1, (recorded_exec _ _ _).2]
          simpa only [List.nil_append, List.append_assoc, List.singleton_append] using this

/-- **Every way a call of the engine ends.** -/
theorem execute_ending : Ending P request adapterName s ((execute P request adapterName).emitted s)
    ((execute P request adapterName).exec s).1 ((execute P request adapterName).exec s).2 := by
  have refused : ∀ {reason : String} {ticks : Nat}, refusal P s request adapterName = some reason →
      Ending P request adapterName s
        ((blocked request reason : Governed W L ExecutionResult).emitted { s with ticks })
        ((blocked request reason : Governed W L ExecutionResult).exec { s with ticks }).1
        ((blocked request reason : Governed W L ExecutionResult).exec { s with ticks }).2 := fun {reason ticks} why =>
    .refused reason ticks _ why rfl rfl
  unfold execute
  rw [Script.exec_bind, Script.emitted_bind, Script.exec_read, Script.emitted_read, List.append_nil]
  dsimp only
  cases found : s.authorization? request.authorizationId with
  | none => exact @refused _ s.ticks (by simp [refusal, found])
  | some authorization =>
    dsimp only
    by_cases approved : authorization.status = "approved"
    · rw [if_neg (by simp [approved])]
      obtain ⟨checkedAt, hexec, hemitted⟩ := expired_exec (P := P) (s := s) authorization.expiresAt
      rw [Script.exec_bind, Script.emitted_bind, hexec, hemitted, List.append_nil]
      dsimp only
      cases expires : late P s authorization.expiresAt with
      | true => exact refused (by simp [refusal, found, approved, expires])
      | false =>
        rw [if_neg (by simp)]
        cases differs : mismatch authorization request adapterName with
        | some reason => exact refused (by simp [refusal, found, approved, expires, differs])
        | none =>
          dsimp only
          rw [Script.exec_bind, Script.emitted_bind, Script.exec_ofExcept, Script.emitted_ofExcept, List.append_nil]
          cases bound : misbound P.rt request adapterName with
          | error e => exact .unbound _ e (by simp [refusal, found, approved, expires, differs, bound]) bound
          | ok differs' =>
            dsimp only
            cases differs' with
            | true => exact refused (by simp [refusal, found, approved, expires, differs, bound])
            | false =>
              rw [if_neg (by simp)]
              cases policy : denied request with
              | true =>
                have why : refusal P s request adapterName = some "Execution blocked by policy: deny" := by
                  simp [refusal, found, approved, expires, differs, bound, policy]
                unfold perform
                simp only [policy, if_true]
                exact .refused _ _ _ why rfl rfl
              | false =>
                apply perform_ending ⟨_, bound⟩ policy
                simp [refusal, found, approved, expires, differs, bound, policy]
    · rw [if_pos approved]
      exact @refused _ s.ticks (by simp [refusal, found, approved])

end

/-! ### The adapter -/

/-- No check stops the request, and the adapter is there and supports it. -/
def Passes (request : ExecutionRequest) (adapterName : String) (s : State W) : Prop :=
  Cleared P s request adapterName ∧
    ∃ adapter w, P.adapter? adapterName = some adapter ∧ (adapter.supports request).exec s.world = (.ok true, w)

section
variable {P} {s : State W} {request : ExecutionRequest} {adapterName : String}

end

/-! ### Evidence -/

def tracesOf (s : State W) (executionId : String) : List ExecutionTrace :=
  s.traces.records.filter (·.executionId = executionId)

def auditsOf (s : State W) (executionId : String) : List ExecutionAuditRecord :=
  s.audits.records.filter (·.executionId = executionId)

/-- A check before the adapter stops the request; or the request is bound again, and the adapter
is there, supports it, and returns a result under the request's execution id. -/
def Answered (request : ExecutionRequest) (adapterName : String) (s : State W) : Prop :=
  refusal P s request adapterName ≠ none ∨ misbound P.rt request adapterName = .ok false ∧
    ∃ adapter w w' result, P.adapter? adapterName = some adapter ∧
      (adapter.supports request).exec s.world = (.ok true, w) ∧
      (adapter.execute request).exec w = (.ok result, w') ∧ result.executionId = request.executionId

section
variable {P} {s : State W} {request : ExecutionRequest} {adapterName : String}

end

namespace Sample

/-- The digest of the action for an adapter. -/
def digest (adapterName : String) : String :=
  match bindAction runtime action adapterName with
  | .ok d => d
  | .error _ => ""

def provenance (adapterName : String) : Provenance where
  assessmentId := some "assessment-1"
  policyEvaluatorId := some "rmt.default.action-policy"
  policyEvaluatorVersion := some "1"
  riskEvaluatorId := some "rmt.default.action-simulation"
  riskEvaluatorVersion := some "1"
  canonicalizationVersion := some canonicalizationVersion
  instructionDigest := some (digest adapterName)
  policyEvidenceReferences := []
  riskEvidenceReferences := []
  uncertainty := "unspecified"
  recoverySemantics := ""

/-- The action's authorization for the adapter. -/
def authorization (adapterName : String) : ExecutionAuthorization :=
  { provenance adapterName with
    authorizationId := "authorization-1"
    actionId := "action-1"
    status := "approved"
    authorizedBy := some "approval_policy"
    authorizationType := "automatic"
    decisionId := some "decision-1"
    approvalId := some "approval-1"
    expiresAt := some authorizationTtl
    reason := "Action meets automatic approval criteria"
    target := "web"
    operation := "start"
    governanceDomain := "rmt.default"
    adapterName := some adapterName
    expectedOutcome := none }

/-- The request it is translated to. -/
def request (adapterName : String) : ExecutionRequest :=
  { provenance adapterName with
    executionId := "execution-1"
    authorizationId := "authorization-1"
    actionId := "action-1"
    decisionId := "decision-1"
    governanceDomain := "rmt.default"
    target := "web"
    operation := "start"
    parameters := []
    riskLevel := some "low"
    expectedOutcome := none
    adapterName := some adapterName }

/-- Nothing stored but the authorization. -/
def authorized (adapterName : String) : State Unit :=
  { State.initial .sqlite () with authorizations := ⟨.sqlite, [authorization adapterName], [authorization adapterName]⟩ }

end Sample

end RmtPlatform.Core
