import RmtPlatform.Core.Lifecycle

/-! Evaluators that may do anything.

An evaluator is handed the action itself and returns an object: any attribute of
either may be missing, of any type, or raise when it is read, and the action is
afterwards whatever the evaluator left. `assess` is the code in front of the
lifecycle on such objects, one check after the other. A check that fails ends in
`assessment_failed`; a check that cannot be made ends the call with an exception,
unless a check before it fails. What is stored is untouched either way. -/
namespace RmtPlatform.Core

variable {W L : Type}

/-! ### Objects -/

/-- What reading an attribute gives. -/
abbrev Attribute := Except Raised PyVal

/-- The action as an evaluator leaves it; `actionType` is `action.action_type.value`. -/
structure ActionObject where
  governanceDomain : Attribute
  actionId : Attribute
  component : Attribute
  actionType : Attribute

/-- An instance of `ActionPolicyResult`. -/
structure PolicyObject where
  allowed : Attribute
  reason : Attribute
  requiresApproval : Attribute
  evidenceReferences : Attribute

/-- An instance of `ActionSimulationResult`. -/
structure RiskObject where
  actionId : Attribute
  component : Attribute
  actionType : Attribute
  expectedImpact : Attribute
  riskLevel : Attribute
  rollbackAvailable : Attribute
  uncertainty : Attribute
  recoverySemantics : Attribute
  evidenceReferences : Attribute

/-- What the evaluators returned, `none` where it is no such instance, and the action they left. -/
structure EvaluatorAnswers where
  policy : Option PolicyObject
  risk : Option RiskObject
  action : ActionObject

/-- A registered pair; what is raised comes with the action left behind. -/
structure Evaluators (W L : Type) where
  policy : ActionObject → Script W L (Raised × ActionObject) (Option PolicyObject × ActionObject)
  risk : ActionObject → Script W L (Raised × ActionObject) (Option RiskObject × ActionObject)
  operations : List String
  adapters : List String

/-- The policy evaluator, then the risk evaluator. -/
def Evaluators.answers (e : Evaluators W L) (action : ActionObject) : Script W L (Raised × ActionObject) EvaluatorAnswers := do
  let (policy, left) ← e.policy action
  let (risk, left) ← e.risk left
  pure ⟨policy, risk, left⟩

/-- What comparing two values does: nothing is assumed of it. -/
structure Comparison where
  /-- `v != w`. -/
  differs : PyVal → PyVal → Except Raised Bool
  /-- `level in {"low", "medium", "high", "critical", "unknown"}`. -/
  isRiskLevel : PyVal → Except Raised Bool

def ActionRequest.object (action : ActionRequest) : ActionObject where
  governanceDomain := .ok (.str action.governanceDomain)
  actionId := .ok (.str action.actionId)
  component := .ok (.str action.component)
  actionType := .ok (.str action.actionType.value)

/-! ### Checks -/

/-- One check: whether it holds, which may not be found out, and what is raised if it does not. -/
structure Check where
  holds : Except Raised Bool
  message : String

/-- One check after the other. -/
def runChecks : List Check → Except Raised Unit
  | [] => .ok ()
  | c :: cs => do
    if ← c.holds then runChecks cs else .error (.assessment c.message)

/-- `isinstance(v, bool)`. -/
def isBool : PyVal → Bool
  | .bool _ => true
  | _ => false

/-- `isinstance(v, str)`. -/
def isText : PyVal → Bool
  | .str _ => true
  | _ => false

/-- A tuple of non-empty strings. -/
def isEvidence (v : PyVal) : Bool := (evidence v).isSome

/-- `v == w` as the negation of `v != w`. -/
def Comparison.same (C : Comparison) (v w : Attribute) : Except Raised Bool := do
  pure !(← C.differs (← v) (← w))

def policyChecks (p : PolicyObject) : List Check := [
  ⟨p.allowed.map isBool, "Malformed policy assessment fields"⟩,
  ⟨p.requiresApproval.map isBool, "Malformed policy assessment fields"⟩,
  ⟨p.reason.map isText, "Malformed policy assessment fields"⟩,
  ⟨p.evidenceReferences.map isEvidence, "Malformed policy evidence references"⟩]

def riskChecks (C : Comparison) (action : ActionObject) (r : RiskObject) : List Check := [
  ⟨r.riskLevel.bind C.isRiskLevel, "Malformed risk level"⟩,
  ⟨C.same r.actionId action.actionId, "Risk assessment action mismatch"⟩,
  ⟨C.same r.component action.component, "Malformed risk assessment fields"⟩,
  ⟨C.same r.actionType action.actionType, "Malformed risk assessment fields"⟩,
  ⟨r.expectedImpact.map isText, "Malformed risk assessment fields"⟩,
  ⟨r.rollbackAvailable.map isBool, "Malformed risk assessment fields"⟩,
  ⟨r.uncertainty.map isText, "Malformed risk assessment fields"⟩,
  ⟨r.recoverySemantics.map isText, "Malformed risk assessment fields"⟩,
  ⟨r.evidenceReferences.map isEvidence, "Malformed risk evidence references"⟩]

/-- `action.governance_domain != DEFAULT_GOVERNANCE_DOMAIN`. -/
def foreign (C : Comparison) (action : ActionObject) : Except Raised Bool := do
  C.differs (← action.governanceDomain) (.str defaultGovernanceDomain)

/-- Domains other than the default one must give evidence and say what they do not know. -/
def supported (C : Comparison) (action : ActionObject) (p : PolicyObject) (r : RiskObject) : Except Raised Bool := do
  if ← foreign C action then
    if !(← p.evidenceReferences).truthy then pure false
    else if !(← r.evidenceReferences).truthy then pure false
    else if !(← r.uncertainty).truthy then pure false
    else pure (← r.recoverySemantics).truthy
  else pure true

/-- The checks an answer has to pass, in the order of the code. -/
def EvaluatorAnswers.checks (C : Comparison) (a : EvaluatorAnswers) : List Check :=
  match a.policy with
  | none => [⟨.ok false, "Malformed policy assessment"⟩]
  | some p => policyChecks p ++ match a.risk with
    | none => [⟨.ok false, "Malformed risk assessment"⟩]
    | some r => riskChecks C a.action r ++
        [⟨supported C a.action p r, "Domain assessment evidence and recovery semantics required"⟩]

/-! ### The call -/

/-- What an assessment was made of. -/
structure AssessedAction where
  assessmentId : String
  instructionDigest : String
  adapterName : String
  answers : EvaluatorAnswers

/-- The reply `assessment_failed`, or what came of going on. -/
inductive Course (α : Type) where
  | failed (reason : String) (actionId : PyVal)
  | continued (value : α)

/-- `except (AssessmentError, ValueError)`, whose reply reads the action once more. -/
def refuse (e : Raised) (left : ActionObject) : Governed W L (Course AssessedAction) :=
  match e with
  | .other message => throw (.other message)
  | e => do
    let actionId ← Script.ofExcept left.actionId
    pure (.failed e.message actionId)

section
variable (P : Platform W L) (C : Comparison) (registry : String → Option (Evaluators W L))

/-- `resolve_assessment` under the handler of `execute_governed_action`. -/
def assess (action : ActionRequest) (adapterName : String) : Governed W L (Course AssessedAction) := do
  match registry action.governanceDomain with
  | none => refuse (.assessment ("Unknown governance domain: " ++ P.rt.repr action.governanceDomain)) action.object
  | some evaluators =>
    let operation := action.actionType.value
    if operation ∉ evaluators.operations then
      refuse (.assessment ("Operation " ++ P.rt.repr operation ++ " is not registered for the domain")) action.object
    else if adapterName ∉ evaluators.adapters then
      refuse (.assessment ("Adapter " ++ P.rt.repr adapterName ++ " is not registered for the domain")) action.object
    else match bindAction P.rt action adapterName with
      | .error e => refuse (.assessment ("Domain assessment unavailable: " ++ e.message)) action.object
      | .ok digest =>
        match ← outside (Script.reified (evaluators.answers action.object)) with
        | .error (e, left) => refuse (.assessment ("Domain assessment unavailable: " ++ e.message)) left
        | .ok answers =>
          match runChecks (answers.checks C) with
          | .error e => refuse e answers.action
          | .ok () =>
            let assessmentId ← uuid4 P
            pure (.continued ⟨assessmentId, digest, adapterName, answers⟩)

/-- `execute_governed_action`, whatever follows the assessment. -/
def executeGoverned {R : Type} (rest : AssessedAction → Governed W L R) (action : ActionRequest) (adapterName : String) :
    Governed W L (Course R) := do
  match ← assess P C registry action adapterName with
  | .failed reason actionId => pure (.failed reason actionId)
  | .continued a => do
    let r ← rest a
    pure (.continued r)

end

/-! ### What the checks say -/

/-- The answers are a policy and a risk result for the action as it is. -/
structure WellFormed (C : Comparison) (action : ActionObject) (p : PolicyObject) (r : RiskObject) : Prop where
  allowed : ∃ b, p.allowed = .ok (.bool b)
  requiresApproval : ∃ b, p.requiresApproval = .ok (.bool b)
  reason : ∃ s, p.reason = .ok (.str s)
  policyEvidence : ∃ refs, p.evidenceReferences = .ok (strings refs) ∧ "" ∉ refs
  riskLevel : ∃ v, r.riskLevel = .ok v ∧ C.isRiskLevel v = .ok true
  actionId : ∃ v w, r.actionId = .ok v ∧ action.actionId = .ok w ∧ C.differs v w = .ok false
  component : ∃ v w, r.component = .ok v ∧ action.component = .ok w ∧ C.differs v w = .ok false
  actionType : ∃ v w, r.actionType = .ok v ∧ action.actionType = .ok w ∧ C.differs v w = .ok false
  expectedImpact : ∃ s, r.expectedImpact = .ok (.str s)
  rollbackAvailable : ∃ b, r.rollbackAvailable = .ok (.bool b)
  uncertainty : ∃ s, r.uncertainty = .ok (.str s)
  recoverySemantics : ∃ s, r.recoverySemantics = .ok (.str s)
  riskEvidence : ∃ refs, r.evidenceReferences = .ok (strings refs) ∧ "" ∉ refs
  support : foreign C action = .ok false ∨ foreign C action = .ok true ∧
    p.evidenceReferences ≠ .ok (strings []) ∧ r.evidenceReferences ≠ .ok (strings []) ∧
    r.uncertainty ≠ .ok (.str "") ∧ r.recoverySemantics ≠ .ok (.str "")

theorem evidence_cons {v : PyVal} {items : List PyVal} {refs : List String} :
    evidence (.tuple (v :: items)) = some refs ↔
      ∃ ref rest, v = .str ref ∧ ref ≠ "" ∧ evidence (.tuple items) = some rest ∧ refs = ref :: rest := by
  unfold evidence
  dsimp only
  rw [List.mapM_cons]
  cases v with
  | str s =>
    by_cases empty : s = ""
    · simp [empty]
    · simp only [empty, if_false, PyVal.str.injEq, Option.bind_eq_bind, Option.bind_some, Option.bind_eq_some_iff,
        Option.pure_def, Option.some.injEq]
      constructor
      · rintro ⟨rest, found, rfl⟩
        exact ⟨s, rest, rfl, empty, found, rfl⟩
      · rintro ⟨ref, rest, rfl, -, found, rfl⟩
        exact ⟨rest, found, rfl⟩
  | _ => simp

theorem evidence_some {v : PyVal} {refs : List String} :
    evidence v = some refs ↔ v = strings refs ∧ "" ∉ refs := by
  cases v with
  | tuple items =>
    induction items generalizing refs with
    | nil => cases refs <;> simp [evidence, strings]
    | cons v items ih =>
      rw [evidence_cons]
      constructor
      · rintro ⟨ref, rest, rfl, nonempty, found, rfl⟩
        obtain ⟨same, others⟩ := ih.mp found
        exact ⟨by simpa [strings] using same, by simp [others, Ne.symm nonempty]⟩
      · rintro ⟨same, others⟩
        cases refs with
        | nil => simp [strings] at same
        | cons ref rest =>
          simp only [strings, PyVal.tuple.injEq, List.map_cons, List.cons.injEq] at same
          rw [List.mem_cons, not_or] at others
          exact ⟨ref, rest, same.1, Ne.symm others.1, ih.mpr ⟨by simp [strings, same.2], others.2⟩, rfl⟩
  | _ => simp [evidence, strings]

/-- No check that ends the call with an exception comes before one that does not hold. -/
def Checkable (cs : List Check) : Prop :=
  ∀ before c after, cs = before ++ c :: after → (∃ m, c.holds = .error (.other m)) →
    ∃ d ∈ before, d.holds ≠ .ok true

/-- The reply of a refusal can still name the action. -/
def Named (action : ActionObject) : Prop := ∃ id, action.actionId = .ok id

section
variable (P : Platform W L) (C : Comparison) (registry : String → Option (Evaluators W L))

/-- Whatever follows, the call is refused and nothing has changed, or it goes on with results that are well formed
for the action. -/
def FailsClosed (action : ActionRequest) (adapterName : String) (s : State W) : Prop :=
  (∃ reason actionId s' labels, WorldOnly s s' labels ∧ ∀ (R : Type) (rest : AssessedAction → Governed W L R),
    (executeGoverned P C registry rest action adapterName).exec s = (.ok (.failed reason actionId), s') ∧
      (executeGoverned P C registry rest action adapterName).emitted s = labels) ∨
  ∃ a p r s' labels, a.answers.policy = some p ∧ a.answers.risk = some r ∧ WellFormed C a.answers.action p r ∧
    WorldOnly s s' labels ∧ ∀ (R : Type) (rest : AssessedAction → Governed W L R),
      (executeGoverned P C registry rest action adapterName).exec s = (rest a >>= fun r => pure (.continued r)).exec s' ∧
        (executeGoverned P C registry rest action adapterName).emitted s = (rest a).emitted s' ++ labels

/-- What the evaluators return can be checked up to the first check that fails, and a refusal can be answered. -/
def Orderly (action : ActionRequest) (adapterName : String) (s : State W) : Prop :=
  ∀ evaluators, registry action.governanceDomain = some evaluators →
    action.actionType.value ∈ evaluators.operations → adapterName ∈ evaluators.adapters →
    (∃ digest, bindAction P.rt action adapterName = .ok digest) →
      match ((evaluators.answers action.object).exec s.world).1 with
      | .error (_, left) => Named left
      | .ok a => Checkable (a.checks C) ∧ ((∃ c ∈ a.checks C, c.holds ≠ .ok true) → Named a.action)

variable {P C registry} {action : ActionRequest} {adapterName : String} {s : State W}

end

/-! ### Plain evaluators

The evaluators of a registration return objects with all their attributes and leave
the action alone. On them `assess` is `resolveAssessment`. -/

/-- What comparing and hashing does on values that do not define it themselves. -/
structure Comparison.Plain (C : Comparison) : Prop where
  differs : ∀ v s, C.differs v (.str s) = .ok (!v.isStr s)
  isRiskLevel : ∀ v, C.isRiskLevel v = match v.unhashable with
    | some type => .error (.other ("unhashable type: '" ++ type ++ "'"))
    | none => .ok (match v with
      | .str s => s ∈ riskLevels
      | _ => false)

def PolicyAnswer.object : PolicyAnswer → Option PolicyObject
  | .malformed => none
  | .result allowed reason requiresApproval references =>
    some ⟨.ok allowed, .ok reason, .ok requiresApproval, .ok references⟩

def RiskAnswer.object : RiskAnswer → Option RiskObject
  | .malformed => none
  | .result actionId component actionType impact riskLevel rollback uncertainty recovery references =>
    some ⟨.ok actionId, .ok component, .ok actionType, .ok impact, .ok riskLevel, .ok rollback, .ok uncertainty,
      .ok recovery, .ok references⟩

/-- The action is left as it was. -/
def leaving {α : Type} (left : ActionObject) (x : Script W L Raised α) :
    Script W L (Raised × ActionObject) (α × ActionObject) := do
  match ← Script.reified x with
  | .ok a => pure (a, left)
  | .error e => throw (e, left)

/-- The evaluators of a registration, for one action. -/
def AssessmentRegistration.evaluators (r : AssessmentRegistration W L) (action : ActionRequest) :
    Evaluators W L where
  policy left := do
    let (answer, left) ← leaving left (r.policy action)
    pure (answer.object, left)
  risk left := do
    let (answer, left) ← leaving left (r.risk action)
    pure (answer.object, left)
  operations := r.operations
  adapters := r.adapters

theorem exec_leaving {α : Type} (left : ActionObject) (x : Script W L Raised α) (w : W) :
    (leaving left x).exec w = match x.exec w with
      | (.ok a, w') => (.ok (a, left), w')
      | (.error e, w') => (.error (e, left), w') := by
  unfold leaving
  rw [Script.exec_bind, Script.exec_reified]
  rcases x.exec w with ⟨e | a, w'⟩ <;> rfl

theorem exec_answers (r : AssessmentRegistration W L) (action : ActionRequest) (w : W) :
    ((r.evaluators action).answers action.object).exec w =
      match (r.policy action).exec w with
      | (.error e, w') => (.error (e, action.object), w')
      | (.ok policy, w') => match (r.risk action).exec w' with
        | (.error e, w'') => (.error (e, action.object), w'')
        | (.ok risk, w'') => (.ok ⟨policy.object, risk.object, action.object⟩, w'') := by
  unfold Evaluators.answers AssessmentRegistration.evaluators
  simp only [Script.exec_bind, exec_leaving]
  rcases (r.policy action).exec w with ⟨e | policy, w'⟩
  · rfl
  · simp only [Script.exec_pure]
    rcases (r.risk action).exec w' with ⟨e | risk, w''⟩ <;> rfl

theorem runChecks_cons (c : Check) (cs : List Check) : runChecks (c :: cs) = match c.holds with
    | .error e => .error e
    | .ok false => .error (.assessment c.message)
    | .ok true => runChecks cs := by
  rw [runChecks]
  rcases c.holds with e | ⟨_ | _⟩ <;> rfl

theorem runChecks_policy (policy : PolicyAnswer) (cs : List Check) : (match policy.object with
      | none => .error (.assessment "Malformed policy assessment")
      | some p => runChecks (policyChecks p ++ cs)) = checkPolicy policy >>= fun _ => runChecks cs := by
  cases policy with
  | malformed => rfl
  | result allowed reason requiresApproval references =>
    simp only [PolicyAnswer.object, policyChecks, List.cons_append, List.nil_append, runChecks_cons, Except.map]
    cases allowed with
    | bool b =>
      cases requiresApproval with
      | bool q =>
        cases reason with
        | str t => cases h : evidence references <;> simp [isBool, isText, isEvidence, checkPolicy, h, bind, Except.bind]
        | _ => rfl
      | _ => cases reason <;> rfl
    | _ => rfl

theorem isRiskLevel_plain {C : Comparison} (plain : C.Plain) (v : PyVal) :
    (match C.isRiskLevel v with
      | .error e => .error e
      | .ok false => .error (.assessment "Malformed risk level")
      | .ok true => .ok ()) = (checkRiskLevel v).map fun _ => () := by
  unfold checkRiskLevel
  rw [plain.isRiskLevel]
  cases v.unhashable with
  | some type => rfl
  | none =>
    cases v with
    | str s => by_cases known : s ∈ riskLevels <;> simp [known, Except.map]
    | _ => rfl

theorem runChecks_risk {C : Comparison} (plain : C.Plain) (action : ActionRequest) (risk : RiskAnswer)
    (cs : List Check) : (match risk.object with
      | none => .error (.assessment "Malformed risk assessment")
      | some r => runChecks (riskChecks C action.object r ++ cs)) = checkRisk action risk >>= fun _ => runChecks cs := by
  cases risk with
  | malformed => rfl
  | result actionId component actionType impact riskLevel rollback uncertainty recovery references =>
    have level := isRiskLevel_plain plain riskLevel
    simp only [RiskAnswer.object, riskChecks, List.cons_append, List.nil_append, runChecks_cons, Except.map,
      Comparison.same, ActionRequest.object, plain.differs, Except.bind, bind, pure, Except.pure, checkRisk,
      Bool.not_not]
    rcases known : checkRiskLevel riskLevel with e | l
    · rcases h : C.isRiskLevel riskLevel with e' | ⟨_ | _⟩ <;> simp_all [Except.map]
    · rcases h : C.isRiskLevel riskLevel with e' | ⟨_ | _⟩ <;> simp only [h, known, Except.map] at level
      · cases level
      · cases level
      dsimp only
      cases actionId.isStr action.actionId with
      | false => rfl
      | true =>
        cases component.isStr action.component with
        | false => rfl
        | true =>
          cases actionType.isStr action.actionType.value with
          | false => rfl
          | true =>
            cases impact with
            | str i =>
              cases rollback with
              | bool b =>
                cases uncertainty with
                | str u =>
                  cases recovery with
                  | str r => cases h : evidence references <;> simp [isBool, isText, isEvidence, h]
                  | _ => rfl
                | _ => cases recovery <;> rfl
              | _ => rfl
            | _ => rfl

theorem eq_of_isStr {v : PyVal} {t : String} (h : v.isStr t = true) : v = .str t := by
  cases v with
  | str u =>
    obtain rfl : u = t := by simpa [PyVal.isStr] using h
    rfl
  | _ => cases h

theorem checkRiskLevel_ok {v : PyVal} {level : String} (h : checkRiskLevel v = .ok level) : v = .str level := by
  unfold checkRiskLevel at h
  split at h
  · cases h
  · split at h
    · split_ifs at h
      cases h
      rfl
    · cases h

/-- What is checked is the object that was answered. -/
theorem checkPolicy_object {answer : PolicyAnswer} {p : ActionPolicyResult} (h : checkPolicy answer = .ok p) :
    answer = p.answer := by
  unfold checkPolicy at h
  split at h
  · cases h
  · split at h
    · rename_i found
      cases h
      rw [(evidence_some.mp found).1]
      rfl
    · cases h
  · cases h

theorem checkRisk_object {action : ActionRequest} {answer : RiskAnswer} {r : ActionSimulationResult}
    (h : checkRisk action answer = .ok r) : answer = r.answer := by
  cases answer with
  | malformed => cases h
  | result actionId component actionType impact riskLevel rollback uncertainty recovery references =>
    simp only [checkRisk, bind, Except.bind] at h
    split at h
    · cases h
    · rename_i level
      split_ifs at h with mismatch fields
      rw [Bool.not_eq_true, Bool.not_eq_false'] at mismatch
      rw [Bool.not_eq_true, Bool.or_eq_false_iff, Bool.not_eq_false', Bool.not_eq_false'] at fields
      split at h
      · split at h
        · rename_i found
          cases h
          rw [(evidence_some.mp found).1, checkRiskLevel_ok level, eq_of_isStr mismatch, eq_of_isStr fields.1,
            eq_of_isStr fields.2]
          rfl
        · cases h
      · cases h

theorem truthy_strings (refs : List String) : (strings refs).truthy = decide (refs ≠ []) := by
  cases refs <;> simp [strings, PyVal.truthy]

theorem truthy_str (s : String) : (PyVal.str s).truthy = decide (s ≠ "") := rfl

theorem supported_plain {C : Comparison} (plain : C.Plain) {action : ActionRequest} {p : ActionPolicyResult}
    {r : ActionSimulationResult} {po : PolicyObject} {ro : RiskObject}
    (hp : po.evidenceReferences = .ok (strings p.evidenceReferences))
    (hr : ro.evidenceReferences = .ok (strings r.evidenceReferences)) (hu : ro.uncertainty = .ok (.str r.uncertainty))
    (hv : ro.recoverySemantics = .ok (.str r.recoverySemantics)) :
    supported C action.object po ro = .ok (decide ¬unsupported action p r) := by
  have elsewhere : foreign C action.object = .ok (decide (action.governanceDomain ≠ defaultGovernanceDomain)) := by
    simp [foreign, ActionRequest.object, plain.differs, PyVal.isStr, bind, Except.bind]
  unfold supported unsupported
  rw [elsewhere, hp, hr, hu, hv]
  by_cases same : action.governanceDomain = defaultGovernanceDomain
  · simp [same, bind, Except.bind, pure, Except.pure]
  · by_cases hp' : p.evidenceReferences = []
    · simp [same, bind, Except.bind, pure, Except.pure, truthy_strings, hp']
    by_cases hr' : r.evidenceReferences = []
    · simp [same, bind, Except.bind, pure, Except.pure, truthy_strings, hr']
    by_cases hu' : r.uncertainty = ""
    · simp [same, bind, Except.bind, pure, Except.pure, truthy_strings, truthy_str, hu']
    simp [same, bind, Except.bind, pure, Except.pure, truthy_strings, truthy_str, hp', hr', hu']

/-- On plain answers the checks are those of `resolveAssessment`. -/
theorem runChecks_plain {C : Comparison} (plain : C.Plain) (action : ActionRequest) (policy : PolicyAnswer)
    (risk : RiskAnswer) : runChecks (EvaluatorAnswers.checks C ⟨policy.object, risk.object, action.object⟩) =
      checkPolicy policy >>= fun p => checkRisk action risk >>= fun r =>
        if unsupported action p r then
          .error (.assessment "Domain assessment evidence and recovery semantics required")
        else .ok () := by
  have policies := runChecks_policy policy
  have risks := runChecks_risk plain action risk
  cases passed : checkPolicy policy with
  | error e =>
    cases policy with
    | malformed =>
      cases passed
      rfl
    | result => exact (policies _).trans (by rw [passed]; rfl)
  | ok p =>
    obtain rfl := checkPolicy_object passed
    refine (policies _).trans ?_
    rw [passed]
    show runChecks _ = _
    cases accepted : checkRisk action risk with
    | error e =>
      cases risk with
      | malformed =>
        cases accepted
        rfl
      | result => exact (risks _).trans (by rw [accepted]; rfl)
    | ok r =>
      obtain rfl := checkRisk_object accepted
      refine (risks _).trans ?_
      rw [accepted]
      show runChecks [⟨supported C action.object _ _, _⟩] = if unsupported action p r then _ else _
      rw [runChecks_cons, supported_plain plain rfl rfl rfl rfl]
      by_cases lacking : unsupported action p r <;> simp [lacking, runChecks]

section
variable {P : Platform W L} {action : ActionRequest} {adapterName : String} {s : State W}

theorem exec_evaluate (r : AssessmentRegistration W L) {digest : String}
    (bound : bindAction P.rt action adapterName = .ok digest) :
    (evaluate P r action adapterName).exec s =
      match (r.policy action).exec s.world with
      | (.error e, w) => (.error e, { s with world := w })
      | (.ok policy, w) => match (r.risk action).exec w with
        | (.error e, w') => (.error e, { s with world := w' })
        | (.ok risk, w') => (.ok (digest, policy, risk), { s with world := w' }) := by
  unfold evaluate
  rw [bound, Script.exec_bind, Script.exec_ofExcept]
  dsimp only
  rw [Script.exec_bind, exec_outside]
  rcases (r.policy action).exec s.world with ⟨e | policy, w⟩
  · rfl
  · dsimp only
    rw [Script.exec_bind, exec_outside]
    rcases (r.risk action).exec w with ⟨e | risk, w'⟩ <;> rfl

/-- The typed assessment says what the objects say. -/
structure AssessedAction.Typed (a : AssessedAction) (assessment : GovernanceAssessment) : Prop where
  assessmentId : assessment.assessmentId = a.assessmentId
  instructionDigest : assessment.instructionDigest = a.instructionDigest
  adapterName : assessment.adapterName = a.adapterName
  policy : a.answers.policy = assessment.policyResult.answer.object
  risk : a.answers.risk = assessment.riskResult.answer.object

/-- An assessment that ends in one way ends in the other. -/
inductive Mirrors (action : ActionRequest) :
    Except Raised GovernanceAssessment × State W → Except Raised (Course AssessedAction) × State W → Prop
  | escaped (m : String) (s : State W) : Mirrors action (.error (.other m), s) (.error (.other m), s)
  | failed (e : Raised) (s : State W) (caught : ∀ m, e ≠ .other m) :
    Mirrors action (.error e, s) (.ok (.failed e.message (.str action.actionId)), s)
  | continued (assessment : GovernanceAssessment) (a : AssessedAction) (s : State W) (typed : a.Typed assessment) :
    Mirrors action (.ok assessment, s) (.ok (.continued a), s)

theorem mirrors_refuse (e : Raised) (s : State W) :
    Mirrors action (.error e, s) ((refuse e action.object : Governed W L (Course AssessedAction)).exec s) := by
  cases e with
  | other m => exact .escaped m s
  | assessment m => exact .failed _ s (by simp)
  | value m => exact .failed _ s (by simp)

/-- **On evaluators that leave the action alone `assess` does what `resolveAssessment` does.** -/
theorem assess_plain {C : Comparison} (plain : C.Plain) :
    Mirrors action ((resolveAssessment P action adapterName).exec s)
      ((assess P C (fun domain => (P.registration? domain).map (·.evaluators action)) action adapterName).exec s) := by
  unfold resolveAssessment assess
  dsimp only
  cases P.registration? action.governanceDomain with
  | none => exact mirrors_refuse _ s
  | some registration =>
    dsimp only [Option.map_some]
    rw [Script.exec_bind, Script.exec_raiseIf]
    by_cases operation : action.actionType.value ∈ registration.operations
    swap
    · rw [if_pos operation, if_pos (show action.actionType.value ∉ (registration.evaluators action).operations from
        operation)]
      exact mirrors_refuse _ s
    rw [if_neg (not_not_intro operation), if_neg (show ¬action.actionType.value ∉
      (registration.evaluators action).operations from not_not_intro operation)]
    dsimp only
    rw [Script.exec_bind, Script.exec_raiseIf]
    by_cases adapter : adapterName ∈ registration.adapters
    swap
    · rw [if_pos adapter, if_pos (show adapterName ∉ (registration.evaluators action).adapters from adapter)]
      exact mirrors_refuse _ s
    rw [if_neg (not_not_intro adapter), if_neg (show ¬adapterName ∉ (registration.evaluators action).adapters from
      not_not_intro adapter)]
    dsimp only
    rw [Script.exec_bind, Script.exec_caught]
    cases bound : bindAction P.rt action adapterName with
    | error e =>
      have raised : (evaluate P registration action adapterName).exec s = (.error e, s) := by
        unfold evaluate
        rw [bound, Script.exec_bind, Script.exec_ofExcept]
      rw [raised]
      exact mirrors_refuse _ s
    | ok digest =>
      dsimp only
      rw [exec_evaluate registration bound, Script.exec_bind, exec_outside, Script.exec_reified,
        exec_answers registration action]
      rcases (registration.policy action).exec s.world with ⟨e | policy, w⟩
      · exact mirrors_refuse _ _
      dsimp only
      rcases (registration.risk action).exec w with ⟨e | risk, w'⟩
      · exact mirrors_refuse _ _
      dsimp only
      rw [runChecks_plain plain]
      cases passed : checkPolicy policy with
      | error e => exact mirrors_refuse _ _
      | ok p =>
        obtain rfl := checkPolicy_object passed
        rw [Script.exec_bind, Script.exec_ofExcept]
        dsimp only
        cases accepted : checkRisk action risk with
        | error e => exact mirrors_refuse _ _
        | ok r =>
          obtain rfl := checkRisk_object accepted
          rw [Script.exec_bind, Script.exec_ofExcept]
          dsimp only
          rw [Script.exec_bind, Script.exec_raiseIf]
          by_cases lacking : unsupported action p r
          · simp only [bind, Except.bind, if_pos lacking]
            exact mirrors_refuse _ _
          · simp only [bind, Except.bind, if_neg lacking]
            exact .continued _ _ _ ⟨rfl, rfl, rfl, rfl, rfl⟩

end

/-! ### A risk level that cannot be hashed -/

namespace Sample

/-- Evaluators whose only fault is the type of the risk level. -/
def listed : Evaluators Unit Empty where
  policy left := pure (some ⟨.ok (.bool true), .ok (.str "Action type allowed by policy"), .ok (.bool false),
    .ok (.tuple [])⟩, left)
  risk left := pure (some
    { actionId := left.actionId
      component := left.component
      actionType := left.actionType
      expectedImpact := .ok (.str "Temporary container operation")
      riskLevel := .ok (.list [])
      rollbackAvailable := .ok (.bool true)
      uncertainty := .ok (.str "unspecified")
      recoverySemantics := .ok (.str "")
      evidenceReferences := .ok (.tuple []) }, left)
  operations := ["start"]
  adapters := ["simulation"]

end Sample

end RmtPlatform.Core
