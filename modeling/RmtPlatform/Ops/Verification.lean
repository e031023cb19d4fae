import RmtPlatform.Ops.Site

/-! Verification above the core.

`verifyExecutedAction` observes the target of an execution and stores what it finds
beside the core's own record; `recordFailedExecutionEvidence` stores that an adapter
failed. The index keeps one row for each execution that was verified; `rebuild` makes
it from the stored records, which is what a restart does. -/
namespace RmtPlatform.Ops

open Core

variable {W L : Type}

/-! ### What is expected, and who observes -/

/-- Lower case as far as it can meet the words compared below: only the kelvin sign
has one of their letters in lower case. -/
def lowerName (s : String) : String :=
  String.ofList (s.toList.map fun c => if c.toNat = 0x212a then 'k' else c.toLower)

def expectedStateFor (adapterName operation : String) : Option String :=
  match lowerName adapterName, lowerName operation with
  | "docker", "start" => some "running"
  | "docker", "restart" => some "running"
  | "docker", "create" => some "running"
  | "docker", "stop" => some "exited"
  | "docker", "remove" => some "absent"
  | "git", "create" => some "present"
  | "git", "remove" => some "absent"
  | _, _ => none

/-- The observer registered for an adapter's operation. -/
def resolveObserver (D : Deployment W L) (adapterName operation target : String) :
    Option (Script W L Raised (Option ObservedState)) :=
  if lowerName adapterName = "docker" ∧ lowerName operation ∈ ["start", "stop", "restart", "create", "remove"] then
    some (D.observeContainer target)
  else if lowerName adapterName = "git" ∧ lowerName operation ∈ ["create", "remove"] then some (D.observeTag target)
  else none

/-- Observe again until the expected state is seen or there is no time left. -/
def observeAgain (observer : Script W L Raised (Option ObservedState)) (state : String) :
    Nat → Option ObservedState → Script W L Raised (Option ObservedState)
  | 0, observed => pure observed
  | n + 1, observed => do
    if observed.map (·.state) = some state then pure observed
    else
      let again ← observer
      observeAgain observer state n again

def settle (observer : Script W L Raised (Option ObservedState)) (expectedState : Option String) (polls : Nat) :
    Script W L Raised (Option ObservedState) := do
  let observed ← observer
  match expectedState with
  | none => pure observed
  | some state => observeAgain observer state polls observed

/-! ### Records of the two layers -/

def adapterExecutionFailed : String := "adapter_execution_failed"

def aboveCorePrefix : List Char := "[layer=above_core".toList

def isAboveCore (reason : String) : Bool := aboveCorePrefix.isPrefixOf reason.toList

/-- The adapter's name in the reason of a record above the core. -/
def aboveCoreAdapter (reason : String) : Option String :=
  let mark := "[layer=above_core adapter=".toList
  if mark.isPrefixOf reason.toList then
    let name := (reason.toList.drop mark.length).takeWhile fun c => !isSpace c && c ≠ ']'
    if name.isEmpty then none else some (String.ofList name)
  else none

def rstrip (s : String) : String := String.ofList (s.toList.reverse.dropWhile isSpace).reverse

/-- The status of the core's record of an execution: the last of neither other kind. -/
def coreRecordStatus (records : List VerificationResult) (executionId : String) : Option String :=
  (records.filter fun v => v.executionId = executionId ∧ !isAboveCore v.reason ∧
    v.status ≠ adapterExecutionFailed).getLast?.map (·.status)

/-! ### The index -/

def unverified : String := "unverified"

def moduleChangeAdapter : String := "module_change"

def coreStatuses : List String :=
  ["verified_success", "state_mismatch", "observation_unavailable", "verification_failure"]

/-- The effective status, and whether it is a success. -/
def classify (coreStatus aboveCoreStatus adapter : Option String) (hasAdapterFailure : Bool) : String × Bool :=
  if hasAdapterFailure then (adapterExecutionFailed, false)
  else match aboveCoreStatus with
    | some status => (status, status = "verified_success")
    | none =>
      match coreStatus with
      | some status => if adapter = some moduleChangeAdapter then (status, status = "verified_success") else (unverified, false)
      | none => (unverified, false)

/-- A row that says nothing yet. -/
def IndexRow.blank (executionId : String) : IndexRow where
  executionId
  actionId := none
  adapter := none
  operation := none
  target := none
  coreStatus := none
  aboveCoreStatus := none
  effectiveStatus := unverified
  verified := false
  notifiedInconclusive := false

/-- The row with what `record` is told. -/
def IndexRow.told (row : IndexRow) (actionId adapter operation target coreStatus aboveCoreStatus : Option String) :
    IndexRow :=
  let adapter := orText adapter row.adapter
  let coreStatus := coreStatus.or row.coreStatus
  let aboveCoreStatus := aboveCoreStatus.or row.aboveCoreStatus
  { row with
    actionId := orText actionId row.actionId
    adapter
    operation := orText operation row.operation
    target := orText target row.target
    coreStatus
    aboveCoreStatus
    effectiveStatus := (classify coreStatus aboveCoreStatus adapter false).1
    verified := (classify coreStatus aboveCoreStatus adapter false).2 }

/-- `index.record`. -/
def record (executionId : String) (actionId adapter operation target coreStatus aboveCoreStatus : Option String) :
    Above W L IndexRow :=
  Script.step none fun s =>
    let row := ((s.row? executionId).getD (.blank executionId)).told actionId adapter operation target coreStatus
      aboveCoreStatus
    .ok (row, { s with index := put (·.executionId) row s.index })

def markNotified (executionId : String) : Above W L Unit :=
  Script.modify none fun s => match s.row? executionId with
    | none => s
    | some row => { s with index := put (·.executionId) { row with notifiedInconclusive := true } s.index }

/-- What the records of an execution say, read so far. -/
structure Gathered where
  coreStatus : Option String
  aboveCoreStatus : Option String
  adapter : Option String
  operation : Option String
  target : Option String
  hasAdapterFailure : Bool

def Gathered.none : Gathered := ⟨.none, .none, .none, .none, .none, false⟩

/-- `a or (b or None)`. -/
def orExpected (a : Option String) (b : String) : Option String := orText a (if b = "" then none else some b)

/-- The expected operation and target, where they are not known yet. -/
def Gathered.expecting (g : Gathered) : Option ExpectedOutcome → Gathered
  | .none => g
  | some e => { g with operation := orExpected g.operation e.operation, target := orExpected g.target e.target }

def Gathered.read (g : Gathered) (v : VerificationResult) : Gathered :=
  match aboveCoreAdapter v.reason with
  | some name =>
    Gathered.expecting { g with aboveCoreStatus := some v.status, adapter := orText g.adapter (some name) } v.expected
  | .none =>
    if v.status = adapterExecutionFailed then { g with hasAdapterFailure := true }
    else if v.status ∈ coreStatuses then Gathered.expecting { g with coreStatus := some v.status } v.expected
    else g

/-- The row made of the records of an execution. -/
def rebuiltRow (verifications : List VerificationResult) (audits : List ExecutionAuditRecord) (executionId : String) :
    IndexRow :=
  let g := (verifications.filter fun v => v.executionId = executionId).foldl Gathered.read .none
  let audit := audits.find? fun a => a.executionId = executionId
  let adapter := orText g.adapter (audit.map (·.adapter))
  { executionId
    actionId := audit.map (·.actionId)
    adapter
    operation := g.operation
    target := g.target
    coreStatus := g.coreStatus
    aboveCoreStatus := g.aboveCoreStatus
    effectiveStatus := (classify g.coreStatus g.aboveCoreStatus adapter g.hasAdapterFailure).1
    verified := (classify g.coreStatus g.aboveCoreStatus adapter g.hasAdapterFailure).2
    notifiedInconclusive := true }

/-- `rebuild`: a row for each execution with a record. -/
def rebuild (verifications : List VerificationResult) (audits : List ExecutionAuditRecord) : List IndexRow :=
  (verifications.map (·.executionId)).eraseDups.map (rebuiltRow verifications audits)

/-! ### After an execution -/

section
variable (D : Deployment W L)

def updateIndexAndNotify (executionId : String) (actionId : Option String) (adapterName operation target : String)
    (aboveCoreStatus : Option String) : Above W L Unit := do
  let coreStatus ← Script.read fun s => coreRecordStatus s.core.verifications.records executionId
  let row ← record executionId actionId (some adapterName) (some operation) (some target) coreStatus aboveCoreStatus
  if row.effectiveStatus = unverified ∧ !row.notifiedInconclusive then markNotified executionId

/-- What a record above the core begins with. -/
def layer (adapterName : String) (supersedes : Bool) : String :=
  "[layer=above_core adapter=" ++ adapterName ++ (if supersedes then " supersedes=observation_unavailable" else "") ++
    "] "

/-- What is stored above the core. -/
def aboveCoreResult (executionId adapterName : String) (expected : Option ExpectedOutcome)
    (observed : Option ObservedState) (supersedes : Bool) : VerificationResult :=
  let found := verify executionId expected observed
  { found with reason := rstrip (layer adapterName supersedes ++ found.reason) }

/-- An observer that raises has observed nothing. -/
def observation : Except Raised (Option ObservedState) → Option ObservedState
  | .ok observed => observed
  | .error _ => none

def verifyExecutedAction (executionId adapterName operation target : String) (expected : Option ExpectedOutcome)
    (actionId : Option String) : Above W L VerificationResult := do
  let expected := expected.or ((expectedStateFor adapterName operation).map fun state => ⟨target, operation, state⟩)
  match resolveObserver D adapterName operation target with
  | none =>
    updateIndexAndNotify executionId actionId adapterName operation target none
    pure ⟨executionId, "observation_unavailable", expected, none,
      layer adapterName false ++ "no above-Core observer registered for this operation"⟩
  | some observer =>
    let polls ← Script.read fun s => D.polls s.core.ticks
    let answer ← Script.caught (inCore (outside (settle observer (expected.map (·.expectedState)) polls)))
    let coreStatus ← Script.read fun s => coreRecordStatus s.core.verifications.records executionId
    let supersedes := coreStatus = some "observation_unavailable"
    let result := aboveCoreResult executionId adapterName expected (observation answer) supersedes
    inCore (saveVerification result)
    updateIndexAndNotify executionId actionId adapterName operation target (some result.status)
    pure result

end

/-! ### Evidence of a failure -/

/-- `status == "executed"`, `success is False`, and there is an execution id. -/
def failedAttempt (outcome : GovernedResult) : Option Execution :=
  match outcome.execution? with
  | some e => if !e.success ∧ e.executionId ≠ "" then some e else none
  | none => none

def recordFailedExecutionEvidence (outcome : GovernedResult) (expected : Option ExpectedOutcome) :
    Above W L (Option VerificationResult) := do
  match failedAttempt outcome with
  | none => pure none
  | some e =>
    match ← Script.read fun s => s.core.verifications.get? (·.executionId) e.executionId with
    | some _ => pure none
    | none =>
      let reason := if e.message ≠ "" then e.message else if e.statusDetail ≠ "" then e.statusDetail
        else "Adapter invoked and returned failure"
      let result : VerificationResult := ⟨e.executionId, adapterExecutionFailed, expected, none, reason⟩
      inCore (saveVerification result)
      pure (some result)

end RmtPlatform.Ops
