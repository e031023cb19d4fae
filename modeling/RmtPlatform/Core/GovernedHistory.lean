import Mathlib.Data.List.Dedup
import Mathlib.Data.List.MinMax
import Mathlib.Data.List.Sort
import RmtPlatform.Core.Records

/-! Governed outcomes read back from the evidence.

A view of an action is put together field by field from five stores. Its status is that of
the newest record, its execution id the first member of a set and its verification that of
the last one, so the three tell of one execution exactly where the action has had no other
(`describe_one_iff`). -/
namespace RmtPlatform.Core.GovernedHistory

/-! ### The stores -/

/-- Times are in microseconds. -/
structure Audit extends ExecutionAuditRecord where
  decisionReason : String
  createdAt : Int

structure Trace extends ExecutionTrace where
  createdAt : Int

structure Verification extends VerificationResult where
  createdAt : Int

structure Approval extends ApprovalRecord where
  createdAt : Int

structure Authorization extends ExecutionAuthorization where
  createdAt : Int

structure Stores where
  audits : List Audit
  traces : List Trace
  verifications : List Verification
  approvals : List Approval
  authorizations : List Authorization

structure GovernedOutcomeView where
  actionId : String
  executionId : Option String
  component : String
  operation : String
  decisionProvenance : String
  policyDecision : String
  riskLevel : String
  approvalType : String
  approvalDecision : String
  authorizationStatus : String
  executionStatus : String
  verificationStatus : String
  outcome : String
  createdAt : Option Int
  sources : List String
deriving DecidableEq

/-! ### Sets -/

/-- How a set of texts is iterated: each member once, in an order of its own. -/
structure SetOrder where
  iterate : List String → List String
  nodup : ∀ xs, (iterate xs).Nodup
  mem : ∀ xs x, x ∈ iterate xs ↔ x ∈ xs

namespace SetOrder

/-- `sorted(set(..))`. -/
def sorted (order : SetOrder) (xs : List String) : List String := (order.iterate xs).insertionSort (· ≤ ·)

/-- The order that has `e` first. -/
def first (e : String) : SetOrder where
  iterate xs := if e ∈ xs then e :: xs.dedup.erase e else xs.dedup
  nodup xs := by
    split
    · exact List.nodup_cons.mpr ⟨(List.nodup_dedup xs).not_mem_erase, (List.nodup_dedup xs).erase e⟩
    · exact List.nodup_dedup xs
  mem xs x := by
    split
    · by_cases h : x = e
      · simp_all
      · simp [h, List.mem_erase_of_ne h]
    · simp

theorem mem_sorted (order : SetOrder) (xs : List String) (x : String) : x ∈ order.sorted xs ↔ x ∈ xs :=
  (List.perm_insertionSort _ _).mem_iff.trans (order.mem xs x)

/-- Sorting forgets the order. -/
theorem sorted_eq (order order' : SetOrder) (xs : List String) : order.sorted xs = order'.sorted xs := by
  have perm : (order.iterate xs).Perm (order'.iterate xs) := by
    apply (List.perm_ext_iff_of_nodup (order.nodup xs) (order'.nodup xs)).mpr
    intro x
    rw [order.mem, order'.mem]
  apply @List.Perm.eq_of_pairwise _ (· ≤ ·)
  · intro a b _ _ hab hba
    exact String.le_antisymm hab hba
  · exact List.pairwise_insertionSort _ _
  · exact List.pairwise_insertionSort _ _
  · exact (List.perm_insertionSort _ _).trans (perm.trans (List.perm_insertionSort _ _).symm)

/-- A set of one member at most leaves no choice. -/
theorem iterate_single (order : SetOrder) {xs : List String} {e : String} (h : e ∈ xs) (same : ∀ x ∈ xs, x = e) :
    order.iterate xs = [e] := by
  apply List.perm_singleton.mp
  apply (List.perm_ext_iff_of_nodup (order.nodup xs) (List.nodup_singleton e)).mpr
  intro x
  rw [order.mem, List.mem_singleton]
  constructor
  · exact same x
  · intro hx
    exact hx ▸ h

@[simp] theorem iterate_nil (order : SetOrder) : order.iterate [] = [] := by
  apply List.eq_nil_iff_forall_not_mem.mpr
  intro x hx
  exact List.not_mem_nil ((order.mem [] x).mp hx)

end SetOrder

/-! ### The views -/

/-- `{v.execution_id: v for v in verifications}`: the last of an id stands. -/
def verifByExec (s : Stores) (executionId : String) : Option Verification :=
  s.verifications.reverse.find? (·.executionId = executionId)

def authzByAction (s : Stores) (actionId : String) : Option Authorization :=
  s.authorizations.reverse.find? (·.actionId = actionId)

def auditsOf (s : Stores) (actionId : String) : List Audit := s.audits.filter (·.actionId = actionId)

def tracesOf (s : Stores) (actionId : String) : List Trace := s.traces.filter (·.actionId = actionId)

def approvalsOf (s : Stores) (actionId : String) : List Approval := s.approvals.filter (·.actionId = actionId)

def actionIds (s : Stores) : List String :=
  s.audits.map (·.actionId) ++ s.traces.map (·.actionId) ++ s.authorizations.map (·.actionId) ++
    s.approvals.map (·.actionId)

/-- The members of `execution_ids`: a trace's unless blank, an audit's in any case. -/
def executionIds (s : Stores) (actionId : String) : List String :=
  ((tracesOf s actionId).map (·.executionId)).filter (· ≠ "") ++ (auditsOf s actionId).map (·.executionId)

/-- `max(.., key=lambda x: x.created_at)`: the first of the newest. -/
def newest {Record : Type} (createdAt : Record → Int) (records : List Record) : Option Record :=
  @List.argmax Record Int Int.instLinearOrder.toPreorder inferInstance createdAt records

def lastAudit (s : Stores) (actionId : String) : Option Audit := newest (·.createdAt) (auditsOf s actionId)

def lastTrace (s : Stores) (actionId : String) : Option Trace := newest (·.createdAt) (tracesOf s actionId)

structure OutcomeEvidence where
  execStatus : String
  outcome : String
  sources : List String

def outcomeEvidence (s : Stores) (actionId : String) : OutcomeEvidence :=
  match lastAudit s actionId with
  | some audit => ⟨audit.status, "completed", ["audit"]⟩
  | none => match lastTrace s actionId with
    | some trace => ⟨trace.outcome, trace.outcome, ["trace"]⟩
    | none => ⟨"", "", []⟩

/-- The policy decision and the risk level. -/
def policyRisk (s : Stores) (actionId : String) : String × String :=
  match lastTrace s actionId with
  | some trace => (trace.policyDecision, trace.riskLevel)
  | none => match lastAudit s actionId with
    | some audit => (audit.decisionReason, audit.riskLevel)
    | none => ("", "")

/-- The body of the loop over the actions. -/
def governedOutcome (order : SetOrder) (s : Stores) (actionId : String) : GovernedOutcomeView :=
  let authz := authzByAction s actionId
  let approvals := approvalsOf s actionId
  let ids := order.iterate (executionIds s actionId)
  let verifs := ids.filterMap (verifByExec s)
  let evidence := outcomeEvidence s actionId
  let approvalType := ";".intercalate (order.sorted (approvals.map (·.decision)))
  let createdAt := (auditsOf s actionId).map (·.createdAt) ++ (tracesOf s actionId).map (·.createdAt) ++
    verifs.map (·.createdAt) ++ approvals.map (·.createdAt) ++ authz.toList.map (·.createdAt)
  let sources := evidence.sources ++
    (if tracesOf s actionId ≠ [] ∧ "trace" ∉ evidence.sources then ["trace"] else []) ++
    (if verifs.isEmpty then [] else ["verification"]) ++
    (if authz.isSome then ["authorization"] else []) ++
    (if approvals.isEmpty then [] else ["approval"])
  { actionId
    executionId := ids.head?
    component := (authz.map (·.target)).getD ""
    operation := (authz.map (·.operation)).getD ""
    decisionProvenance := (authz.bind (·.decisionId)).getD ""
    policyDecision := (policyRisk s actionId).1
    riskLevel := (policyRisk s actionId).2
    approvalType := if approvals.isEmpty then "" else approvalType
    approvalDecision := if approvals.isEmpty then "" else approvalType
    authorizationStatus := (authz.map (·.status)).getD ""
    executionStatus := evidence.execStatus
    verificationStatus := (verifs.getLast?.map (·.status)).getD ""
    outcome := evidence.outcome
    createdAt := createdAt.min?
    sources := order.sorted sources }

/-- `component and view.component != component` keeps a view out. -/
def attributable (component : Option String) (name : String) : Bool :=
  component.getD "" = "" ∨ some name = component

def getGovernedOutcomes (order : SetOrder) (component : Option String) (s : Stores) : List GovernedOutcomeView :=
  ((order.sorted (actionIds s)).map (governedOutcome order s)).filter fun view => attributable component view.component

/-! ### What a view is to tell -/

structure Execution where
  id : Option String
  status : String

/-- The latest execution of an action: what the newest audit tells, and where there is none the
newest trace. Of two as new the first stands, and a trace without an id is of no execution. -/
def latestExecution (s : Stores) (actionId : String) : Execution :=
  match lastAudit s actionId with
  | some audit => ⟨some audit.executionId, audit.status⟩
  | none => match lastTrace s actionId with
    | some trace => ⟨if trace.executionId = "" then none else some trace.executionId, trace.outcome⟩
    | none => ⟨none, ""⟩

/-- What was verified of an execution, blank if nothing was. -/
def Verified (s : Stores) (id : Option String) (status : String) : Prop :=
  (∃ v ∈ s.verifications, some v.executionId = id ∧ v.status = status) ∨
  ((∀ v ∈ s.verifications, some v.executionId ≠ id) ∧ status = "")

/-- Id, status and verification are those of the action's latest execution. -/
structure Describes (s : Stores) (view : GovernedOutcomeView) : Prop where
  id : view.executionId = (latestExecution s view.actionId).id
  status : view.executionStatus = (latestExecution s view.actionId).status
  verified : Verified s (latestExecution s view.actionId).id view.verificationStatus

/-- Every view describes one execution, and the order of sets is of no matter. -/
structure DescribeOne (s : Stores) (component : Option String) : Prop where
  described : ∀ order, ∀ view ∈ getGovernedOutcomes order component s, Describes s view
  settled : ∀ order order', getGovernedOutcomes order component s = getGovernedOutcomes order' component s

/-- The action's view is asked for. -/
def Selected (s : Stores) (component : Option String) (actionId : String) : Prop :=
  actionId ∈ actionIds s ∧ attributable component (((authzByAction s actionId).map (·.target)).getD "")

/-- No execution of the action is recorded but its latest. -/
def OneExecution (s : Stores) (actionId : String) : Prop :=
  ∀ e ∈ executionIds s actionId, (latestExecution s actionId).id = some e

/-! ### One action -/

section
variable (order order' : SetOrder) (s : Stores) (actionId : String)

theorem outcome_status : (governedOutcome order s actionId).executionStatus = (latestExecution s actionId).status := by
  show (outcomeEvidence s actionId).execStatus = _
  unfold outcomeEvidence latestExecution
  cases lastAudit s actionId with
  | some audit => rfl
  | none =>
    cases lastTrace s actionId with
    | some trace => rfl
    | none => rfl

theorem mem_auditsOf {audit : Audit} (h : lastAudit s actionId = some audit) : audit ∈ auditsOf s actionId :=
  List.argmax_mem h

theorem mem_tracesOf {trace : Trace} (h : lastTrace s actionId = some trace) : trace ∈ tracesOf s actionId :=
  List.argmax_mem h

/-- The latest execution is one of the recorded. -/
theorem latest_mem {e : String} (h : (latestExecution s actionId).id = some e) : e ∈ executionIds s actionId := by
  unfold latestExecution at h
  cases audit : lastAudit s actionId with
  | some a =>
    rw [audit] at h
    obtain rfl : a.executionId = e := Option.some.inj h
    exact List.mem_append_right _ (List.mem_map_of_mem (mem_auditsOf s actionId audit))
  | none =>
    rw [audit] at h
    cases trace : lastTrace s actionId with
    | none => simp [trace] at h
    | some t =>
      by_cases blank : t.executionId = ""
      · simp [trace, blank] at h
      · simp only [trace, blank, if_false] at h
        obtain rfl : t.executionId = e := Option.some.inj h
        apply List.mem_append_left
        apply List.mem_filter.mpr
        exact ⟨List.mem_map_of_mem (mem_tracesOf s actionId trace), by simpa using blank⟩

/-- Where one execution is recorded, a set of execution ids is iterated in one way. -/
theorem iterate_latest (one : OneExecution s actionId) :
    order.iterate (executionIds s actionId) = (latestExecution s actionId).id.toList := by
  cases latest : (latestExecution s actionId).id with
  | none =>
    have empty : executionIds s actionId = [] := by
      apply List.eq_nil_iff_forall_not_mem.mpr
      intro e he
      exact nomatch latest.symm.trans (one e he)
    rw [empty, SetOrder.iterate_nil]
    rfl
  | some e =>
    apply order.iterate_single (latest_mem s actionId latest)
    intro x hx
    exact Option.some.inj ((one x hx).symm.trans latest)

theorem verified_lookup (e : String) : Verified s (some e) (((verifByExec s e).map (·.status)).getD "") := by
  cases found : verifByExec s e with
  | some v =>
    left
    refine ⟨v, ?_, ?_, rfl⟩
    · exact List.mem_reverse.mp (List.mem_of_find?_eq_some found)
    · have := List.find?_some found
      simp_all
  | none =>
    right
    refine ⟨?_, rfl⟩
    intro v hv same
    have := List.find?_eq_none.mp found v (List.mem_reverse.mpr hv)
    simp_all

/-- With one execution recorded, the view is of it. -/
theorem outcome_describes (one : OneExecution s actionId) : Describes s (governedOutcome order s actionId) := by
  have ids := iterate_latest order s actionId one
  refine ⟨?_, outcome_status order s actionId, ?_⟩
  · show (order.iterate (executionIds s actionId)).head? = (latestExecution s actionId).id
    rw [ids]
    cases (latestExecution s actionId).id <;> rfl
  · show Verified s (latestExecution s actionId).id
      ((((order.iterate (executionIds s actionId)).filterMap (verifByExec s)).getLast?.map (·.status)).getD "")
    rw [ids]
    cases (latestExecution s actionId).id with
    | none => exact .inr ⟨fun v _ => nofun, rfl⟩
    | some e =>
      have := verified_lookup s e
      cases found : verifByExec s e <;> simpa [found] using this

theorem outcome_settled (one : OneExecution s actionId) :
    governedOutcome order s actionId = governedOutcome order' s actionId := by
  have ids : order.iterate (executionIds s actionId) = order'.iterate (executionIds s actionId) :=
    (iterate_latest order s actionId one).trans (iterate_latest order' s actionId one).symm
  unfold governedOutcome
  rw [ids]
  simp only [order.sorted_eq order']

/-- Whichever execution was recorded, some order picks it. -/
theorem outcome_first {e : String} (h : e ∈ executionIds s actionId) :
    (governedOutcome (.first e) s actionId).executionId = some e := by
  show (if e ∈ executionIds s actionId then _ else _ : List String).head? = some e
  rw [if_pos h]
  rfl

end

/-! ### The list -/

theorem getGovernedOutcomes_eq (order : SetOrder) (component : Option String) (s : Stores) :
    getGovernedOutcomes order component s = ((order.sorted (actionIds s)).filter fun a =>
      attributable component (((authzByAction s a).map (·.target)).getD "")).map (governedOutcome order s) := by
  unfold getGovernedOutcomes
  rw [List.filter_map]
  rfl

theorem mem_getGovernedOutcomes {order : SetOrder} {component : Option String} {s : Stores} {view : GovernedOutcomeView} :
    view ∈ getGovernedOutcomes order component s ↔ ∃ a, Selected s component a ∧ governedOutcome order s a = view := by
  rw [getGovernedOutcomes_eq, List.mem_map]
  simp only [List.mem_filter, order.mem_sorted, Selected]

/-- **The views describe one execution exactly where no selected action has had another.** -/
theorem describe_one_iff (s : Stores) (component : Option String) :
    DescribeOne s component ↔ ∀ actionId, Selected s component actionId → OneExecution s actionId := by
  constructor
  · intro h actionId selected e he
    have := (h.described (.first e) _ (mem_getGovernedOutcomes.mpr ⟨actionId, selected, rfl⟩)).id
    rw [outcome_first s actionId he] at this
    exact this.symm
  · intro one
    constructor
    · intro order view hview
      obtain ⟨actionId, selected, rfl⟩ := mem_getGovernedOutcomes.mp hview
      exact outcome_describes order s actionId (one actionId selected)
    · intro order order'
      rw [getGovernedOutcomes_eq, getGovernedOutcomes_eq, order.sorted_eq order']
      apply List.map_congr_left
      intro actionId h
      obtain ⟨mem, shown⟩ := List.mem_filter.mp h
      exact outcome_settled order order' s actionId (one actionId ⟨(order'.mem_sorted _ _).mp mem, shown⟩)

/-! ### An action executed twice -/

def auditOf (executionId status : String) (createdAt : Int) : Audit where
  toProvenance := .missing
  executionId
  actionId := "a1"
  authorizationId := "z1"
  adapter := "simulation"
  status
  message := ""
  riskLevel := "low"
  governanceDomain := "rmt.default"
  decisionReason := ""
  createdAt

/-- Completed and verified, then executed again and failed. -/
def executedAgain : Stores where
  audits := [auditOf "e1" "completed" 1, auditOf "e2" "failed" 2]
  traces := []
  verifications := [⟨⟨"e1", "verified_success", none, none, ""⟩, 1⟩]
  approvals := []
  authorizations := []

/-- The failed execution goes out under the first one's id. -/
theorem outcome_mixed : ¬DescribeOne executedAgain none := by
  intro one
  have selected : Selected executedAgain none "a1" := ⟨by decide, rfl⟩
  have described := one.described (.first "e1") _ (mem_getGovernedOutcomes.mpr ⟨"a1", selected, rfl⟩)
  have picked := outcome_first executedAgain "a1" (by decide : "e1" ∈ executionIds executedAgain "a1")
  have last : (latestExecution executedAgain "a1").id = some "e2" := by decide
  exact absurd (picked.symm.trans (described.id.trans last)) (by decide)

end RmtPlatform.Core.GovernedHistory
