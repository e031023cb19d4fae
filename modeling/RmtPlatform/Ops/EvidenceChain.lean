import RmtPlatform.Core.Correlation
import RmtPlatform.Ops.Site

/-! The evidence of one action, put together from seven stores.

`evidenceChain` is asked with an action's id, an approval's or an execution's, finds out
the action, and collects what belongs to it. Whichever id of an action it is asked with,
it collects the same but for the verifications: these are chosen by the execution where
one is asked for and by the audited executions of the action otherwise
(`key_independent_iff`). -/
namespace RmtPlatform.Ops

open Core

variable {W L Prov : Type}

/-- The ids a record carries, and those a caller asks with. -/
structure Identifiers where
  actionId : Option String
  approvalId : Option String
  executionId : Option String

def idsOfAuthorization (a : ExecutionAuthorization) : Identifiers := ⟨some a.actionId, a.approvalId, none⟩

def idsOfRecord (r : ApprovalRecord) : Identifiers := ⟨some r.actionId, some r.approvalId, none⟩

def idsOfHold (h : ApprovalHold) : Identifiers := ⟨some h.actionId, some h.approvalId, none⟩

def idsOfAudit (a : ExecutionAuditRecord) : Identifiers := ⟨some a.actionId, none, some a.executionId⟩

def idsOfTrace (t : ExecutionTrace) : Identifiers := ⟨some t.actionId, none, some t.executionId⟩

structure Chain (Prov : Type) where
  resolved : Identifiers
  authorizations : List ExecutionAuthorization
  approvals : List ApprovalRecord
  holds : List ApprovalHold
  audit : List ExecutionAuditRecord
  traces : List ExecutionTrace
  verifications : List VerificationResult
  provenance : List (String × Prov)

def emptyShape (asked : Identifiers) : Chain Prov := ⟨asked, [], [], [], [], [], [], []⟩

/-- Whether an id was given at all. -/
def given (id : Option String) : Bool := id.getD "" ≠ ""

/-- `_matches` -/
def matchesIds (asked ids : Identifiers) : Bool :=
  (given asked.actionId && ids.actionId = asked.actionId) || (given asked.approvalId && ids.approvalId = asked.approvalId) ||
    (given asked.executionId && ids.executionId = asked.executionId)

/-- The first action among the records that `p` picks; one without a name is passed over. -/
def resolveAction (p : Identifiers → Bool) : List Identifiers → Option String → Option String
  | [], action => action
  | ids :: rest, action =>
    if p ids then
      let action := orText ids.actionId action
      if given action then action else resolveAction p rest action
    else resolveAction p rest action

section
variable (s : State W) (getHoldProvenance : String → Option Prov)

/-- The action that is asked for. -/
def resolvedAction (asked : Identifiers) : Option String :=
  let action := asked.actionId
  let action :=
    if !given action && given asked.approvalId then
      resolveAction (fun ids => ids.approvalId = asked.approvalId)
        (s.records.records.map idsOfRecord ++ s.holds.records.map idsOfHold ++
          s.authorizations.records.map idsOfAuthorization) action
    else action
  if !given action && given asked.executionId then
    resolveAction (fun ids => ids.executionId = asked.executionId)
      (s.audits.records.map idsOfAudit ++ s.traces.records.map idsOfTrace) action
  else action

/-- The provenance of the holds, by their approval ids. -/
def provenanceOfHolds (holds : List ApprovalHold) : List (String × Prov) :=
  holds.foldl (fun d h => match getHoldProvenance h.approvalId with
    | some p => put (·.1) (h.approvalId, p) d
    | none => d) []

/-- The executions of the audit records, and the one asked for. -/
def executionIds (audit : List ExecutionAuditRecord) (asked : Option String) : List String :=
  (audit.map (·.executionId)).filter (· ≠ "") ++ (if given asked then asked.toList else [])

/-- The verifications of the execution asked for, or else of all the executions. -/
def verificationsFor (verifications : List VerificationResult) (ids : List String) (asked : Option String) :
    List VerificationResult :=
  let direct := verifications.filter fun v => given asked && some v.executionId = asked
  if direct = [] then verifications.filter fun v => v.executionId ∈ ids else direct

/-- `_assemble` -/
def assemble (asked : Identifiers) : Chain Prov :=
  let ids : Identifiers := { asked with actionId := resolvedAction s asked }
  let holds := s.holds.records.filter fun h => matchesIds ids (idsOfHold h)
  let audit := s.audits.records.filter fun a => matchesIds ids (idsOfAudit a)
  { resolved := ids
    authorizations := s.authorizations.records.filter fun a => matchesIds ids (idsOfAuthorization a)
    approvals := s.records.records.filter fun r => matchesIds ids (idsOfRecord r)
    holds
    audit
    traces := s.traces.records.filter fun t => matchesIds ids (idsOfTrace t)
    verifications :=
      verificationsFor s.verifications.records (executionIds audit asked.executionId) asked.executionId
    provenance := provenanceOfHolds getHoldProvenance holds }

def evidenceChain (asked : Identifiers) : Chain Prov :=
  if given asked.actionId || given asked.approvalId || given asked.executionId then assemble s getHoldProvenance asked
  else emptyShape asked

/-! ### Asking with another id -/

def byAction (id : String) : Chain Prov := evidenceChain s getHoldProvenance ⟨some id, none, none⟩

def byApproval (id : String) : Chain Prov := evidenceChain s getHoldProvenance ⟨none, some id, none⟩

def byExecution (id : String) : Chain Prov := evidenceChain s getHoldProvenance ⟨none, none, some id⟩

/-- The same records in every section. -/
structure Chain.Same (c c' : Chain Prov) : Prop where
  authorizations : c.authorizations = c'.authorizations
  approvals : c.approvals = c'.approvals
  holds : c.holds = c'.holds
  audit : c.audit = c'.audit
  traces : c.traces = c'.traces
  verifications : c.verifications = c'.verifications
  provenance : c.provenance = c'.provenance

/-- The approval belongs to the action in some store. -/
def ApprovalOf (action id : String) : Prop :=
  (∃ r ∈ s.records.records, r.actionId = action ∧ r.approvalId = id) ∨
  (∃ h ∈ s.holds.records, h.actionId = action ∧ h.approvalId = id) ∨
  ∃ a ∈ s.authorizations.records, a.actionId = action ∧ a.approvalId = some id

/-- The execution does. -/
def ExecutionOf (action id : String) : Prop :=
  (∃ a ∈ s.audits.records, a.actionId = action ∧ a.executionId = id) ∨
  ∃ t ∈ s.traces.records, t.actionId = action ∧ t.executionId = id

/-- Some store has a record of the action. -/
def ActionIn (action : String) : Prop :=
  (∃ id, ApprovalOf s action id) ∨ ∃ id, ExecutionOf s action id

/-- It does not matter which id of the action the chain is asked with. -/
structure KeyIndependent (action : String) : Prop where
  approval : ∀ id, ApprovalOf s action id → (byApproval s getHoldProvenance id).Same (byAction s getHoldProvenance action)
  execution : ∀ id, ExecutionOf s action id → (byExecution s getHoldProvenance id).Same (byAction s getHoldProvenance action)

/-- An audit record of the action names the execution. -/
def Audited (action id : String) : Prop := ∃ a ∈ s.audits.records, a.actionId = action ∧ a.executionId = id

/-- An execution of this action only, and if it is verified then it is audited and nothing else of the action is
verified. -/
structure SoleVerified (action id : String) : Prop where
  named : id ≠ ""
  own : ∀ other, ExecutionOf s other id → other = action
  sole : (∃ v ∈ s.verifications.records, v.executionId = id) →
    ∀ v ∈ s.verifications.records, Audited s action v.executionId ↔ v.executionId = id

/-! ### The chain of an action -/

/-- What belongs to the action, with the verifications chosen as for what was asked. -/
def chainOf (action : String) (asked : Identifiers) : Chain Prov :=
  let holds := s.holds.records.filter fun h => h.actionId = action
  let audit := s.audits.records.filter fun a => a.actionId = action
  { resolved := { asked with actionId := some action }
    authorizations := s.authorizations.records.filter fun a => a.actionId = action
    approvals := s.records.records.filter fun r => r.actionId = action
    holds
    audit
    traces := s.traces.records.filter fun t => t.actionId = action
    verifications := verificationsFor s.verifications.records (executionIds audit asked.executionId) asked.executionId
    provenance := provenanceOfHolds getHoldProvenance holds }

variable {s getHoldProvenance} {P : Platform W L} {action : String} {asked : Identifiers}

@[simp] theorem given_none : given none = false := rfl

theorem given_some {id : String} : given (some id) = true ↔ id ≠ "" := by simp [given]

theorem resolveAction_eq {p : Identifiers → Bool} {list : List Identifiers} (named : action ≠ "")
    (all : ∀ ids ∈ list, p ids = true → ids.actionId = some action) (some_ : ∃ ids ∈ list, p ids = true)
    (start : Option String) : resolveAction p list start = some action := by
  induction list with
  | nil =>
    obtain ⟨ids, mem, -⟩ := some_
    cases mem
  | cons ids rest ih =>
    unfold resolveAction
    by_cases picked : p ids = true
    · have is : orText ids.actionId start = some action := by
        rw [all ids List.mem_cons_self picked]
        simp [orText, named]
      rw [if_pos picked, is]
      dsimp only
      rw [if_pos (given_some.mpr named)]
    · rw [if_neg picked]
      apply ih fun ids mem => all ids (List.mem_cons_of_mem _ mem)
      obtain ⟨ids', mem, picked'⟩ := some_
      rcases List.mem_cons.mp mem with rfl | mem
      · exact absurd picked' picked
      · exact ⟨ids', mem, picked'⟩

/-- What the approval and the execution asked for belong to. -/
structure AskedOf (s : State W) (action : String) (asked : Identifiers) : Prop where
  approval : ∀ id, asked.approvalId = some id → id ≠ "" → ∀ other, ApprovalOf s other id → other = action
  execution : ∀ id, asked.executionId = some id → id ≠ "" → ∀ other, ExecutionOf s other id → other = action

/-- An id that is given. -/
theorem given_cases {id : Option String} (h : given id = true) : ∃ text, id = some text ∧ text ≠ "" := by
  cases id with
  | none => cases h
  | some text => exact ⟨text, rfl, given_some.mp h⟩

theorem matchesIds_action {ids : Identifiers} (named : action ≠ "")
    (approval : given asked.approvalId = true → ids.approvalId = asked.approvalId → ids.actionId = some action)
    (execution : given asked.executionId = true → ids.executionId = asked.executionId → ids.actionId = some action) :
    matchesIds { asked with actionId := some action } ids = decide (ids.actionId = some action) := by
  unfold matchesIds
  by_cases own : ids.actionId = some action
  · simp [own, given_some.mpr named]
  · have other : (given asked.approvalId && decide (ids.approvalId = asked.approvalId)) = false := by
      rw [Bool.and_eq_false_iff]
      by_contra both
      rw [not_or, Bool.not_eq_false, Bool.not_eq_false] at both
      exact own (approval both.1 (of_decide_eq_true both.2))
    have other' : (given asked.executionId && decide (ids.executionId = asked.executionId)) = false := by
      rw [Bool.and_eq_false_iff]
      by_contra both
      rw [not_or, Bool.not_eq_false, Bool.not_eq_false] at both
      exact own (execution both.1 (of_decide_eq_true both.2))
    simp [own, other, other']

/-- Where the ids asked for belong to the action, the records that match are the action's. -/
theorem filter_matches {Record : Type} (idsOf : Record → Identifiers) {actionOf : Record → String} (list : List Record)
    (named : action ≠ "") (belongs : AskedOf s action asked) (acts : ∀ r, (idsOf r).actionId = some (actionOf r))
    (approval : ∀ r ∈ list, ∀ id, (idsOf r).approvalId = some id → ApprovalOf s (actionOf r) id)
    (execution : ∀ r ∈ list, ∀ id, (idsOf r).executionId = some id → ExecutionOf s (actionOf r) id) :
    (list.filter fun r => matchesIds { asked with actionId := some action } (idsOf r)) =
      list.filter fun r => actionOf r = action := by
  apply List.filter_congr
  intro r mem
  rw [matchesIds_action named, acts r]
  · simp
  · intro is_given same
    obtain ⟨id, is, ne⟩ := given_cases is_given
    rw [acts r, belongs.approval id is ne _ (approval r mem id (same.trans is))]
  · intro is_given same
    obtain ⟨id, is, ne⟩ := given_cases is_given
    rw [acts r, belongs.execution id is ne _ (execution r mem id (same.trans is))]

theorem assemble_eq (named : action ≠ "") (resolved : resolvedAction s asked = some action)
    (belongs : AskedOf s action asked) :
    assemble s getHoldProvenance asked = chainOf s getHoldProvenance action asked := by
  have authorizations := filter_matches idsOfAuthorization s.authorizations.records named belongs
    (fun _ => rfl) (fun a mem id is => .inr (.inr ⟨a, mem, rfl, is⟩)) fun a mem id is => nomatch (is : none = some id)
  have records := filter_matches idsOfRecord s.records.records named belongs (fun _ => rfl)
    (fun r mem id is => .inl ⟨r, mem, rfl, Option.some.inj is⟩) fun r mem id is => nomatch (is : none = some id)
  have holds := filter_matches idsOfHold s.holds.records named belongs (fun _ => rfl)
    (fun h mem id is => .inr (.inl ⟨h, mem, rfl, Option.some.inj is⟩)) fun h mem id is => nomatch (is : none = some id)
  have audits := filter_matches idsOfAudit s.audits.records named belongs (fun _ => rfl)
    (fun a mem id is => nomatch (is : none = some id)) fun a mem id is => .inl ⟨a, mem, rfl, Option.some.inj is⟩
  have traces := filter_matches idsOfTrace s.traces.records named belongs (fun _ => rfl)
    (fun t mem id is => nomatch (is : none = some id)) fun t mem id is => .inr ⟨t, mem, rfl, Option.some.inj is⟩
  unfold assemble chainOf
  dsimp only
  rw [resolved, authorizations, records, holds, audits, traces]

/-! ### With each id -/

theorem byAction_eq (named : action ≠ "") :
    byAction s getHoldProvenance action = chainOf s getHoldProvenance action ⟨some action, none, none⟩ := by
  have is_given : given (some action) = true := given_some.mpr named
  unfold byAction evidenceChain
  rw [if_pos (by simp [is_given])]
  apply assemble_eq named
  · simp [resolvedAction, is_given]
  · exact ⟨fun id is => (nomatch (is : none = some id)), fun id is => (nomatch (is : none = some id))⟩

theorem byApproval_eq {id : String} (named : action ≠ "") (named_id : id ≠ "") (own : ApprovalOf s action id)
    (sole : ∀ other, ApprovalOf s other id → other = action) :
    byApproval s getHoldProvenance id = chainOf s getHoldProvenance action ⟨none, some id, none⟩ := by
  have is_given : given (some id) = true := given_some.mpr named_id
  unfold byApproval evidenceChain
  rw [if_pos (by simp [is_given])]
  apply assemble_eq named
  · unfold resolvedAction
    simp only [given_none, Bool.not_false, is_given, Bool.and_self, if_true, Bool.and_false]
    apply resolveAction_eq named
    · intro ids mem picked
      simp only [List.mem_append, List.mem_map, or_assoc] at mem
      rcases mem with ⟨r, mem, rfl⟩ | ⟨h, mem, rfl⟩ | ⟨a, mem, rfl⟩
      · exact congrArg some (sole _ (.inl ⟨r, mem, rfl, Option.some.inj (of_decide_eq_true picked)⟩))
      · exact congrArg some (sole _ (.inr (.inl ⟨h, mem, rfl, Option.some.inj (of_decide_eq_true picked)⟩)))
      · exact congrArg some (sole _ (.inr (.inr ⟨a, mem, rfl, of_decide_eq_true picked⟩)))
    · simp only [List.mem_append, List.mem_map, or_assoc]
      rcases own with ⟨r, mem, -, is⟩ | ⟨h, mem, -, is⟩ | ⟨a, mem, -, is⟩
      · exact ⟨_, .inl ⟨r, mem, rfl⟩, decide_eq_true (congrArg some is)⟩
      · exact ⟨_, .inr (.inl ⟨h, mem, rfl⟩), decide_eq_true (congrArg some is)⟩
      · exact ⟨_, .inr (.inr ⟨a, mem, rfl⟩), decide_eq_true is⟩
  · refine ⟨fun id' is _ other approval => ?_, fun id is => (nomatch (is : none = some id))⟩
    cases is
    exact sole other approval

theorem byExecution_eq {id : String} (named : action ≠ "") (named_id : id ≠ "") (own : ExecutionOf s action id)
    (sole : ∀ other, ExecutionOf s other id → other = action) :
    byExecution s getHoldProvenance id = chainOf s getHoldProvenance action ⟨none, none, some id⟩ := by
  have is_given : given (some id) = true := given_some.mpr named_id
  unfold byExecution evidenceChain
  rw [if_pos (by simp [is_given])]
  apply assemble_eq named
  · unfold resolvedAction
    simp only [given_none, Bool.not_false, is_given, Bool.and_self, if_true, Bool.and_false, Bool.false_eq_true, if_false]
    apply resolveAction_eq named
    · intro ids mem picked
      rcases List.mem_append.mp mem with mem | mem
      · obtain ⟨a, stored, rfl⟩ := List.mem_map.mp mem
        exact congrArg some (sole _ (.inl ⟨a, stored, rfl, Option.some.inj (of_decide_eq_true picked)⟩))
      · obtain ⟨t, stored, rfl⟩ := List.mem_map.mp mem
        exact congrArg some (sole _ (.inr ⟨t, stored, rfl, Option.some.inj (of_decide_eq_true picked)⟩))
    · rcases own with ⟨a, mem, -, is⟩ | ⟨t, mem, -, is⟩
      · exact ⟨_, List.mem_append_left _ (List.mem_map_of_mem mem), decide_eq_true (congrArg some is)⟩
      · exact ⟨_, List.mem_append_right _ (List.mem_map_of_mem mem), decide_eq_true (congrArg some is)⟩
  · refine ⟨fun id is => (nomatch (is : none = some id)), fun id' is _ other execution => ?_⟩
    cases is
    exact sole other execution

/-! ### The verifications -/

theorem mem_executionIds {id : String} (named : id ≠ "") :
    id ∈ executionIds (s.audits.records.filter fun a => a.actionId = action) none ↔ Audited s action id := by
  unfold executionIds Audited
  simp only [given_none, Bool.false_eq_true, if_false, List.append_nil, List.mem_filter, List.mem_map,
    decide_eq_true_eq, ne_eq, and_assoc]
  constructor
  · rintro ⟨⟨a, mem, own, is⟩, -⟩
    exact ⟨a, mem, own, is⟩
  · rintro ⟨a, mem, own, is⟩
    exact ⟨⟨a, mem, own, is⟩, named⟩

theorem executionIds_some {id : String} (named : id ≠ "") (audit : List ExecutionAuditRecord) :
    executionIds audit (some id) = executionIds audit none ++ [id] := by
  unfold executionIds
  rw [if_pos (given_some.mpr named)]
  simp

theorem filter_eq_iff {α : Type} {p q : α → Bool} {list : List α} :
    list.filter p = list.filter q ↔ ∀ a ∈ list, (p a = true ↔ q a = true) := by
  constructor
  · intro same a mem
    have both : a ∈ list.filter p ↔ a ∈ list.filter q := by rw [same]
    simpa [List.mem_filter, mem] using both
  · intro same
    apply List.filter_congr
    intro a mem
    exact Bool.eq_iff_iff.mpr (same a mem)

/-- The verifications are the action's if no verification is of the execution, or all are that the action has. -/
theorem verifications_iff {id : String} (named : id ≠ "") (all_named : ¬Audited s action "") :
    (chainOf s getHoldProvenance action ⟨none, none, some id⟩).verifications =
        (chainOf s getHoldProvenance action ⟨some action, none, none⟩).verifications ↔
      ((∃ v ∈ s.verifications.records, v.executionId = id) →
        ∀ v ∈ s.verifications.records, Audited s action v.executionId ↔ v.executionId = id) := by
  have audited : ∀ v : VerificationResult,
      v.executionId ∈ executionIds (s.audits.records.filter fun a => a.actionId = action) none ↔ Audited s action v.executionId := by
    intro v
    by_cases blank : v.executionId = ""
    · rw [blank]
      apply iff_of_false _ all_named
      simp [executionIds]
    · exact mem_executionIds blank
  have is_given : given (some id) = true := given_some.mpr named
  have of_action : (chainOf s getHoldProvenance action ⟨some action, none, none⟩).verifications =
      s.verifications.records.filter fun v =>
        v.executionId ∈ executionIds (s.audits.records.filter fun a => a.actionId = action) none := by
    simp [chainOf, verificationsFor]
  rw [of_action]
  unfold chainOf verificationsFor
  simp only [is_given, Bool.true_and, Option.some.injEq]
  by_cases verified : ∃ v ∈ s.verifications.records, v.executionId = id
  · have direct : s.verifications.records.filter (fun v => v.executionId = id) ≠ [] := by
      obtain ⟨v, mem, is⟩ := verified
      exact List.ne_nil_of_mem (List.mem_filter.mpr ⟨mem, decide_eq_true is⟩)
    rw [if_neg direct, filter_eq_iff]
    simp only [decide_eq_true_eq, audited, verified, true_imp_iff]
    exact forall₂_congr fun v _ => iff_comm
  · have nothing : s.verifications.records.filter (fun v => v.executionId = id) = [] := by
      rw [List.filter_eq_nil_iff]
      intro v mem is
      exact verified ⟨v, mem, of_decide_eq_true is⟩
    rw [if_pos nothing]
    apply iff_of_true _ fun some_ => absurd some_ verified
    rw [filter_eq_iff]
    intro v mem
    have other : v.executionId ≠ id := fun is => verified ⟨v, mem, is⟩
    rw [decide_eq_true_eq, decide_eq_true_eq, executionIds_some named, List.mem_append, List.mem_singleton]
    exact ⟨fun is => is.resolve_right other, .inl⟩

/-! ### In every state -/

theorem approvalOf_recorded (correlated : Correlated s) {id : String} (h : ApprovalOf s action id) :
    Recorded s.records id action := by
  rcases h with ⟨r, mem, own, is⟩ | ⟨h, mem, rfl, rfl⟩ | ⟨a, mem, rfl, is⟩
  · exact ⟨r, mem, is, own⟩
  · exact (correlated.holds.records h mem).2
  · obtain ⟨id', is', recorded⟩ := correlated.authorizations.records a mem
    rw [is] at is'
    cases is'
    exact recorded

theorem recorded_named (agreed : Agreed P.uuid4 s) {id : String} (h : Recorded s.records id action) : id ≠ "" := by
  obtain ⟨r, mem, rfl, -⟩ := h
  obtain ⟨n, -, is⟩ := agreed.record_drawn r mem
  rw [is]
  exact Uuid.text_ne _

/-- Whatever is stored of an action, an approval of it is recorded. -/
theorem actionIn_recorded (correlated : Correlated s) (known : ActionIn s action) : ∃ id, Recorded s.records id action := by
  rcases known with ⟨id, approval⟩ | ⟨id, ⟨a, mem, rfl, -⟩ | ⟨t, mem, rfl, -⟩⟩
  · exact ⟨id, approvalOf_recorded correlated approval⟩
  · exact correlated.audits.records a mem
  · exact correlated.traces.records t mem

/-- Asking with an approval is asking with its action. -/
theorem approval_independent (agreed : Agreed P.uuid4 s) (correlated : Correlated s) (named : action ≠ "") {id : String}
    (own : ApprovalOf s action id) : (byApproval s getHoldProvenance id).Same (byAction s getHoldProvenance action) := by
  have recorded := approvalOf_recorded correlated own
  have sole : ∀ other, ApprovalOf s other id → other = action := fun other approval =>
    Correlated.action_unique agreed (approvalOf_recorded correlated approval) recorded
  rw [byApproval_eq named (recorded_named agreed recorded) own sole, byAction_eq named]
  exact ⟨rfl, rfl, rfl, rfl, rfl, rfl, rfl⟩

/-- What is asked for without a name is not found. -/
theorem byExecution_unnamed : byExecution s getHoldProvenance "" = emptyShape ⟨none, none, some ""⟩ := rfl

theorem byAction_unnamed : byAction s getHoldProvenance "" = emptyShape ⟨some "", none, none⟩ := rfl

theorem KeyIndependent.named (agreed : Agreed P.uuid4 s) (correlated : Correlated s) (known : ActionIn s action)
    (h : KeyIndependent s getHoldProvenance action) : action ≠ "" := by
  rintro rfl
  obtain ⟨id, r, mem, is, own⟩ := actionIn_recorded correlated known
  have named := recorded_named agreed ⟨r, mem, is, own⟩
  have same := (h.approval id (.inl ⟨r, mem, own, is⟩)).approvals
  rw [byAction_unnamed] at same
  have found : r ∈ (byApproval s getHoldProvenance id).approvals := by
    have is_given : given (some id) = true := given_some.mpr named
    unfold byApproval evidenceChain
    rw [if_pos (by simp [is_given])]
    apply List.mem_filter.mpr
    refine ⟨mem, ?_⟩
    simp [matchesIds, is_given, idsOfRecord, is]
  rw [same] at found
  cases found

theorem KeyIndependent.execution_named (named : action ≠ "") (h : KeyIndependent s getHoldProvenance action) {id : String}
    (own : ExecutionOf s action id) : id ≠ "" := by
  rintro rfl
  have same := h.execution "" own
  rw [byExecution_unnamed, byAction_eq named] at same
  rcases own with ⟨a, mem, is, -⟩ | ⟨t, mem, is, -⟩
  · have found : a ∈ (chainOf s getHoldProvenance action ⟨some action, none, none⟩).audit :=
      List.mem_filter.mpr ⟨mem, decide_eq_true is⟩
    rw [← same.audit] at found
    cases found
  · have found : t ∈ (chainOf s getHoldProvenance action ⟨some action, none, none⟩).traces :=
      List.mem_filter.mpr ⟨mem, decide_eq_true is⟩
    rw [← same.traces] at found
    cases found

theorem KeyIndependent.execution_own (named : action ≠ "") (h : KeyIndependent s getHoldProvenance action) {id : String}
    (own : ExecutionOf s action id) (named_id : id ≠ "") {other : String} (of_other : ExecutionOf s other id) :
    other = action := by
  have same := h.execution id own
  have is_given : given (some id) = true := given_some.mpr named_id
  rw [byAction_eq named] at same
  unfold byExecution evidenceChain at same
  rw [if_pos (by simp [is_given])] at same
  rcases of_other with ⟨a, mem, rfl, is⟩ | ⟨t, mem, rfl, is⟩
  · have found : a ∈ (assemble s getHoldProvenance ⟨none, none, some id⟩).audit := by
      apply List.mem_filter.mpr
      refine ⟨mem, ?_⟩
      simp [matchesIds, is_given, idsOfAudit, is]
    rw [same.audit] at found
    exact of_decide_eq_true (List.mem_filter.mp found).2
  · have found : t ∈ (assemble s getHoldProvenance ⟨none, none, some id⟩).traces := by
      apply List.mem_filter.mpr
      refine ⟨mem, ?_⟩
      simp [matchesIds, is_given, idsOfTrace, is]
    rw [same.traces] at found
    exact of_decide_eq_true (List.mem_filter.mp found).2

/-- **The chain does not depend on the key** exactly for an action with a name each of
whose executions has one, is its own, and is, if verified, all that is verified of it. -/
theorem key_independent_iff (P : Platform W L) (backend : Backend) (world : W) (s : State W)
    (run : Relation.ReflTransGen (Observed P) (State.initial backend world) s) (getHoldProvenance : String → Option Prov)
    (action : String) (known : ActionIn s action) :
    KeyIndependent s getHoldProvenance action ↔
      action ≠ "" ∧ ∀ id, ExecutionOf s action id → SoleVerified s action id := by
  obtain ⟨agreed, correlated⟩ := observed_run run
  constructor
  · intro independent
    have named := independent.named agreed correlated known
    have executions : ∀ {id}, ExecutionOf s action id → id ≠ "" := independent.execution_named named
    have all_named : ¬Audited s action "" := fun ⟨a, mem, own, is⟩ => executions (.inl ⟨a, mem, own, is⟩) rfl
    refine ⟨named, fun id own => ?_⟩
    have sole : ∀ other, ExecutionOf s other id → other = action := fun other of_other =>
      independent.execution_own named own (executions own) of_other
    refine ⟨executions own, sole, ?_⟩
    have same := (independent.execution id own).verifications
    rw [byExecution_eq named (executions own) own sole, byAction_eq named] at same
    exact (verifications_iff (executions own) all_named).mp same
  · rintro ⟨named, executions⟩
    have all_named : ¬Audited s action "" := fun ⟨a, mem, own, is⟩ => (executions "" (.inl ⟨a, mem, own, is⟩)).named rfl
    refine ⟨fun id own => approval_independent agreed correlated named own, fun id own => ?_⟩
    obtain ⟨named_id, sole, verified⟩ := executions id own
    rw [byExecution_eq named named_id own sole, byAction_eq named]
    exact ⟨rfl, rfl, rfl, rfl, rfl, (verifications_iff named_id all_named).mpr verified, rfl⟩

end

/-! ### One action executed once, and twice -/

private def once : State Unit :=
  ((executeGovernedAction Core.Sample.platform Core.Sample.action "simulation").exec (State.initial .json ())).2

private def twice : State Unit := ((executeGovernedAction Core.Sample.platform Core.Sample.action "simulation").exec once).2

private theorem once_run : Relation.ReflTransGen (Observed Core.Sample.platform) (State.initial .json ()) once :=
  .single (.served _ (.governed Core.Sample.platform.toRegistry Core.Sample.action "simulation"))

private theorem twice_run : Relation.ReflTransGen (Observed Core.Sample.platform) (State.initial .json ()) twice :=
  .tail once_run (.served _ (.governed Core.Sample.platform.toRegistry Core.Sample.action "simulation"))

theorem key_independent_once : KeyIndependent once (fun _ => (none : Option Unit)) "action-1" := by
  obtain ⟨audits, traces⟩ : once.audits.records.map (fun a => (a.actionId, a.executionId)) = [("action-1", "3")] ∧
      once.traces.records.map (fun t => (t.actionId, t.executionId)) = [("action-1", "3")] := by decide +kernel
  have audited : ∀ action id, Audited once action id ↔ action = "action-1" ∧ id = "3" := by
    intro action id
    have listed : Audited once action id ↔
        (action, id) ∈ once.audits.records.map fun a => (a.actionId, a.executionId) := by
      simp [Audited]
    rw [listed, audits]
    simp
  have executed : ∀ action id, ExecutionOf once action id → action = "action-1" ∧ id = "3" := by
    rintro action id (done | ⟨t, mem, own, is⟩)
    · exact (audited action id).mp done
    · have listed : (action, id) ∈ once.traces.records.map fun t => (t.actionId, t.executionId) :=
        List.mem_map.mpr ⟨t, mem, by rw [own, is]⟩
      rw [traces] at listed
      simpa using listed
  have known : ActionIn once "action-1" := .inr ⟨"3", .inl ((audited _ _).mpr ⟨rfl, rfl⟩)⟩
  apply (key_independent_iff Core.Sample.platform .json () once once_run (fun _ => none) "action-1" known).mpr
  refine ⟨by decide, fun id own => ?_⟩
  obtain ⟨-, rfl⟩ := executed _ _ own
  refine ⟨by decide, fun other of_other => (executed other _ of_other).1, fun _ v _ => ?_⟩
  rw [audited]
  simp

/-- The second execution's verification is the action's, and not the first execution's. -/
theorem executed_twice : Relation.ReflTransGen (Observed Core.Sample.platform) (State.initial .json ()) twice ∧
    ActionIn twice "action-1" ∧ ¬KeyIndependent twice (fun _ => (none : Option Unit)) "action-1" := by
  obtain ⟨executed, differ⟩ : ("action-1", "3") ∈ twice.audits.records.map (fun a => (a.actionId, a.executionId)) ∧
      (byExecution twice (fun _ => (none : Option Unit)) "3").verifications.length ≠
        (byAction twice (fun _ => (none : Option Unit)) "action-1").verifications.length := by decide +kernel
  obtain ⟨a, mem, is⟩ := List.mem_map.mp executed
  have own : ExecutionOf twice "action-1" "3" := .inl ⟨a, mem, congrArg Prod.fst is, congrArg Prod.snd is⟩
  refine ⟨twice_run, .inr ⟨"3", own⟩, fun independent => ?_⟩
  exact differ (congrArg List.length (independent.execution "3" own).verifications)

end RmtPlatform.Ops
