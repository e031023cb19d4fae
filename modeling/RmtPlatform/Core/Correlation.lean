import RmtPlatform.Core.Agreement
import RmtPlatform.Core.Binding

/-! Every store says the same of whose action it is.

A hold, an authorization, an audit record or a trace belongs to an action that an
approval record is about, and what shares an approval id shares the action
(`Correlated`). Each call keeps it so, and so does a restart: what the engine records
carries the action of the request (`attributes_executeAndVerify`), and the request is
made of an action whose approval is recorded first. -/
namespace RmtPlatform.Core

variable {W L : Type}

/-! ### What a store keeps -/

namespace DurableStore
variable {Record : Type} {p q : Record → Prop} {d : DurableStore Record} {key : Record → String} {k : String}
  {f : Record → Record}

/-- Every record has the property, in memory and on disk. -/
structure Kept (p : Record → Prop) (d : DurableStore Record) : Prop where
  records : ∀ r ∈ d.records, p r
  durable : ∀ r ∈ d.durable, p r

theorem Kept.empty (backend : Backend) : (DurableStore.empty backend).Kept p := 
  ⟨fun _ h => (nomatch h), fun _ h => (nomatch h)⟩

theorem Kept.mono (h : d.Kept p) (hpq : ∀ r, p r → q r) : d.Kept q :=
  ⟨fun r hr => hpq r (h.records r hr), fun r hr => hpq r (h.durable r hr)⟩

theorem Kept.save {r : Record} (h : d.Kept p) (hr : p r) : (d.save r).Kept p := by
  have appended : ∀ rows : List Record, (∀ r ∈ rows, p r) → ∀ r' ∈ rows ++ [r], p r' := by
    intro rows all r' mem
    rcases List.mem_append.mp mem with mem | mem
    · exact all r' mem
    · exact List.mem_singleton.mp mem ▸ hr
  refine ⟨appended d.records h.records, ?_⟩
  unfold DurableStore.save
  dsimp only
  cases d.backend with
  | json => exact appended d.records h.records
  | sqlite => exact appended d.durable h.durable

theorem Kept.mutate (h : d.Kept p) (hf : ∀ r, p r → p (f r)) : (d.mutate key k f).Kept p := by
  refine ⟨fun r hr => ?_, ?_⟩
  · rcases mem_mutate hr with hr | ⟨old, hold, rfl⟩
    · exact h.records r hr
    · exact hf old (h.records old hold)
  · rw [mutate_durable]
    exact h.durable

theorem Kept.update (h : d.Kept p) (hf : ∀ r, p r → p (f r)) : (d.update key k f).Kept p := by
  unfold DurableStore.update
  split
  · exact h
  · next old found =>
    have changed : p (f old) := hf old (h.records old (List.mem_of_find?_eq_some found))
    have replaced : ∀ r ∈ replaceFirst (fun r => key r = k) (f old) d.records, p r := by
      intro r hr
      rcases mem_replaceFirst hr with rfl | hr
      · exact changed
      · exact h.records r hr
    refine ⟨replaced, ?_⟩
    dsimp only
    cases d.backend with
    | json => exact replaced
    | sqlite =>
      intro r hr
      obtain ⟨r', hr', rfl⟩ := List.mem_map.mp hr
      split
      · exact changed
      · exact h.durable r' hr'

theorem Kept.restart (load : Record → Record) (h : d.Kept p) (hload : ∀ r, p r → p (load r)) : (d.restart load).Kept p := by
  refine ⟨fun r hr => ?_, h.durable⟩
  obtain ⟨r', hr', rfl⟩ := List.mem_map.mp hr
  exact hload r' (h.durable r' hr')

end DurableStore

open DurableStore (Kept)

/-! ### What the engine records -/

/-- Only audit records and traces of one action are added, besides verifications. -/
structure Attributes (actionId : String) (s s' : State W) : Prop where
  holds : s'.holds = s.holds
  records : s'.records = s.records
  authorizations : s'.authorizations = s.authorizations
  audits : ∀ p : ExecutionAuditRecord → Prop, (∀ x, x.actionId = actionId → p x) → s.audits.Kept p → s'.audits.Kept p
  traces : ∀ p : ExecutionTrace → Prop, (∀ t, t.actionId = actionId → p t) → s.traces.Kept p → s'.traces.Kept p

section
variable {P : Platform W L} {α β : Type} {actionId : String} {s s' : State W}

theorem Attributes.refl (s : State W) : Attributes actionId s s :=
  ⟨rfl, rfl, rfl, fun _ _ h => h, fun _ _ h => h⟩

theorem Attributes.trans (s s₁ s' : State W) (h : Attributes actionId s s₁) (h' : Attributes actionId s₁ s') :
    Attributes actionId s s' where
  holds := h'.holds.trans h.holds
  records := h'.records.trans h.records
  authorizations := h'.authorizations.trans h.authorizations
  audits p hp kept := h'.audits p hp (h.audits p hp kept)
  traces p hp kept := h'.traces p hp (h.traces p hp kept)

/-- Nothing is recorded at all. -/
theorem Attributes.of_same (holds : s'.holds = s.holds) (records : s'.records = s.records)
    (authorizations : s'.authorizations = s.authorizations) (audits : s'.audits = s.audits)
    (traces : s'.traces = s.traces) : Attributes actionId s s' :=
  ⟨holds, records, authorizations, fun _ _ h => audits ▸ h, fun _ _ h => traces ▸ h⟩

variable (actionId) in
/-- A script each step of which does no more. -/
abbrev AttributesScript (x : Governed W L α) : Prop := Script.Steps (fun s _ s' => Attributes actionId s s') x

variable (actionId) in
theorem attributes_saveAudit {a : ExecutionAuditRecord} (own : a.actionId = actionId) :
    AttributesScript actionId (saveAudit a : Governed W L Unit) :=
  Script.steps_modify fun _ => ⟨rfl, rfl, rfl, fun _ hp h => h.save (hp a own), fun _ _ h => h⟩

variable (actionId) in
theorem attributes_saveTrace {t : ExecutionTrace} (own : t.actionId = actionId) :
    AttributesScript actionId (saveTrace t : Governed W L Unit) :=
  Script.steps_modify fun _ => ⟨rfl, rfl, rfl, fun _ _ h => h, fun _ hp h => h.save (hp t own)⟩

theorem attributes_saveVerification (v : VerificationResult) :
    AttributesScript actionId (saveVerification v : Governed W L Unit) :=
  Script.steps_modify fun _ => .of_same rfl rfl rfl rfl rfl

theorem attributes_outside (x : Script W L Raised α) : AttributesScript actionId (outside x) :=
  Program.Steps.within fun _ _ _ => .of_same rfl rfl rfl rfl rfl

theorem attributes_expired (expiresAt : Option Int) : AttributesScript actionId (expired P expiresAt) := by
  unfold expired
  split
  · exact Script.steps_pure _
  · exact Script.Steps.bind (fun _ => ⟨.of_same rfl rfl rfl rfl rfl, trivial⟩) fun _ => Script.steps_pure _

theorem attributes_blocked (request : ExecutionRequest) (reason : String) :
    AttributesScript request.actionId (blocked request reason : Governed W L ExecutionResult) :=
  (attributes_saveTrace request.actionId rfl).bind fun _ => Script.steps_pure _

theorem attributes_perform {a : ExecutionAuthorization} {checkedAt : Option Int} {request : ExecutionRequest}
    {adapterName : String} : AttributesScript request.actionId (perform P a checkedAt request adapterName) := by
  unfold perform
  dsimp only
  split
  · exact (attributes_saveTrace request.actionId rfl).bind fun _ => Script.steps_pure _
  · split
    · exact Script.steps_pure _
    · refine (attributes_outside _).bind fun supported => ?_
      split
      · exact Script.steps_pure _
      · refine Script.Steps.bind (Script.steps_modify fun s => .refl s) fun _ => ?_
        refine (attributes_outside _).bind fun result => ?_
        refine (attributes_saveAudit request.actionId rfl).bind fun _ => ?_
        exact (attributes_saveTrace request.actionId rfl).bind fun _ => Script.steps_pure _

theorem attributes_execute {request : ExecutionRequest} {adapterName : String} :
    AttributesScript request.actionId (execute P request adapterName) := by
  unfold execute
  refine (Script.steps_read fun s => .refl s).bind fun found => ?_
  split
  · exact attributes_blocked _ _
  · split
    · exact attributes_blocked _ _
    · refine (attributes_expired _).bind fun late => ?_
      dsimp only
      split
      · exact attributes_blocked _ _
      · split
        · exact attributes_blocked _ _
        · refine (Script.steps_ofExcept _).bind fun differs => ?_
          split
          · exact attributes_blocked _ _
          · exact attributes_perform

theorem attributes_observe {request : ExecutionRequest} : AttributesScript actionId (observe P request) := by
  unfold observe
  dsimp only
  split
  · refine Script.Steps.bind (Script.Steps.caught (attributes_outside _)) fun modules => ?_
    split
    · exact Script.steps_pure _
    · split <;> exact Script.steps_pure _
  · exact Script.steps_pure _

variable (P) in
theorem attributes_executeAndVerify (request : ExecutionRequest) (adapterName : String) :
    AttributesScript request.actionId (executeAndVerify P request adapterName) := by
  unfold executeAndVerify
  refine attributes_execute.bind fun result => ?_
  split
  · refine Script.Steps.bind ?_ fun verification => Script.steps_pure _
    refine attributes_observe.bind fun observed => ?_
    exact (attributes_saveVerification _).bind fun _ => Script.steps_pure _
  · exact Script.steps_pure _

theorem yields_attributes {x : Governed W L α} (h : AttributesScript actionId x) (s : State W) :
    Script.Yields (fun _ s' _ => Attributes actionId s s') (fun _ s' _ => Attributes actionId s s') x s :=
  (Script.yields_both (C := fun s' _ => Attributes actionId s s')).mpr
    (Script.Steps.moves h Attributes.refl Attributes.trans (fun _ _ _ h => h) s)

/-! ### The invariant -/

/-- An approval record with this id is about this action. -/
def Recorded (records : DurableStore ApprovalRecord) (approvalId actionId : String) : Prop :=
  ∃ r ∈ records.records, r.approvalId = approvalId ∧ r.actionId = actionId

/-- Whatever is stored belongs to an action that is recorded, under the same approval id if it has one. -/
structure Correlated (s : State W) : Prop where
  holds : s.holds.Kept fun h => h.action.actionId = h.actionId ∧ Recorded s.records h.approvalId h.actionId
  authorizations : s.authorizations.Kept fun a => ∃ id, a.approvalId = some id ∧ Recorded s.records id a.actionId
  audits : s.audits.Kept fun x => ∃ id, Recorded s.records id x.actionId
  traces : s.traces.Kept fun t => ∃ id, Recorded s.records id t.actionId

theorem correlated_initial (backend : Backend) (world : W) : Correlated (State.initial backend world) :=
  ⟨.empty backend, .empty backend, .empty backend, .empty backend⟩

/-- More is recorded. -/
theorem Correlated.grow (h : Correlated s) (same : s' = { s with records := s'.records })
    (grows : ∀ id action, Recorded s.records id action → Recorded s'.records id action) : Correlated s' := by
  rw [same]
  exact {
    holds := h.holds.mono fun _ own => ⟨own.1, grows _ _ own.2⟩
    authorizations := h.authorizations.mono fun _ ⟨id, approval, own⟩ => ⟨id, approval, grows _ _ own⟩
    audits := h.audits.mono fun _ ⟨id, own⟩ => ⟨id, grows _ _ own⟩
    traces := h.traces.mono fun _ ⟨id, own⟩ => ⟨id, grows _ _ own⟩ }

theorem recorded_save {records : DurableStore ApprovalRecord} (r : ApprovalRecord) (id action : String)
    (h : Recorded records id action) : Recorded (records.save r) id action := by
  obtain ⟨r', mem, own⟩ := h
  exact ⟨r', List.mem_append_left _ mem, own⟩

theorem recorded_new {records : DurableStore ApprovalRecord} (r : ApprovalRecord) :
    Recorded (records.save r) r.approvalId r.actionId :=
  ⟨r, List.mem_append_right _ (List.mem_singleton_self r), rfl, rfl⟩

theorem recorded_update {records : DurableStore ApprovalRecord} (unique : records.Unique (·.approvalId)) {key : String}
    {f : ApprovalRecord → ApprovalRecord} (keeps : ∀ r, (f r).approvalId = r.approvalId ∧ (f r).actionId = r.actionId)
    (id action : String) (h : Recorded records id action) :
    Recorded (records.update (·.approvalId) key f) id action := by
  obtain ⟨r, mem, rfl, rfl⟩ := h
  by_cases set : r.approvalId = key
  · exact ⟨f r, (DurableStore.mem_update unique).mpr (.inl ⟨r, mem, set, rfl⟩), keeps r⟩
  · exact ⟨r, (DurableStore.mem_update unique).mpr (.inr ⟨mem, set⟩), rfl, rfl⟩

/-- An execution of an action that is recorded. -/
theorem Correlated.attributes (h : Correlated s) {id : String} (own : Recorded s.records id actionId)
    (attributes : Attributes actionId s s') : Correlated s' where
  holds := by
    rw [attributes.holds, attributes.records]
    exact h.holds
  authorizations := by
    rw [attributes.authorizations, attributes.records]
    exact h.authorizations
  audits := by
    rw [attributes.records]
    exact attributes.audits _ (fun x is => ⟨id, is ▸ own⟩) h.audits
  traces := by
    rw [attributes.records]
    exact attributes.traces _ (fun t is => ⟨id, is ▸ own⟩) h.traces

/-! ### The calls -/

variable (P) in
/-- A decision that is not automatic: a record, and a hold for it if it is to be made by hand. -/
theorem proceed_unautomatic {action : ActionRequest} (adapterName : String) {assessment : GovernanceAssessment}
    (other : (evaluateApproval action assessment.policyResult assessment.riskResult).1 ≠ .auto) :
    ∃ r : ApprovalRecord, r.actionId = action.actionId ∧
      let s' := ((processApproval P action assessment.policyResult assessment.riskResult >>= fun decision =>
        proceed P action adapterName assessment decision).exec s).2
      (s' = { s with records := s.records.save r, draws := s'.draws } ∨
        ∃ h : ApprovalHold, h.actionId = action.actionId ∧ h.action = action ∧ r.approvalId = h.approvalId ∧
          s' = { s with holds := s.holds.save h, records := s.records.save r, draws := s'.draws, ticks := s'.ticks }) := by
  rw [Script.exec_bind, processApproval_exec]
  generalize (evaluateApproval action assessment.policyResult assessment.riskResult).2 = reason
  generalize (evaluateApproval action assessment.policyResult assessment.riskResult).1 = mode at *
  cases mode with
  | auto => exact absurd rfl other
  | reject => exact ⟨_, rfl, .inl rfl⟩
  | manual =>
    refine ⟨_, rfl, .inr ⟨_, rfl, rfl, ?_, rfl⟩⟩
    simp [approvalRecord, orText, Uuid.text_ne]

theorem governed_correlated {action : ActionRequest} {adapterName : String} (h : Correlated s) :
    Correlated ((executeGovernedAction P action adapterName).exec s).2 := by
  have still : ∀ {s₁ : State W}, Still s s₁ → Correlated s₁ := by
    intro s₁ still
    rw [still.same]
    exact ⟨h.holds, h.authorizations, h.audits, h.traces⟩
  apply of_yields
  apply yields_executeGovernedAction
  · intro e s₁ ls _ only
    exact ⟨fun _ _ => still only.still, still only.still⟩
  · intro assessment s₁ ws _ assesses unmoved _
    have before : Correlated s₁ := still unmoved
    split
    · by_cases auto : (evaluateApproval action assessment.policyResult assessment.riskResult).1 = .auto
      · apply yields_proceed_auto auto
        let r := approvalRecord action (automaticDecision P s₁ action assessment) "approved" "approval_policy" none
          (some assessment)
        have own : Recorded (automaticState P s₁ action assessment).records r.approvalId action.actionId := recorded_new r
        have saved : Correlated (automaticState P s₁ action assessment) := by
          have grown : Correlated { s₁ with records := s₁.records.save r } := before.grow rfl (recorded_save r)
          refine ⟨grown.holds, grown.authorizations.save ⟨r.approvalId, ?_, own⟩, grown.audits, grown.traces⟩
          simp [r, automaticAuthorization, automaticDecision, approvalRecord, orText]
        have executed := yields_attributes (attributes_executeAndVerify P
          (automaticRequest P s₁ action adapterName assessment) adapterName)
          (automaticState P s₁ action assessment)
        exact executed.mono (fun _ _ _ attributes => saved.attributes own attributes)
          fun _ _ _ attributes => saved.attributes own attributes
      · apply (Script.yields_both (C := fun s' _ => Correlated s')).mpr
        obtain ⟨r, own, ended | ⟨hold, of_action, of_hold, same, ended⟩⟩ := proceed_unautomatic P (s := s₁)
          adapterName auto
        · rw [ended]
          have grown : Correlated { s₁ with records := s₁.records.save r } := before.grow rfl (recorded_save r)
          exact ⟨grown.holds, grown.authorizations, grown.audits, grown.traces⟩
        · rw [ended]
          have grown : Correlated { s₁ with records := s₁.records.save r } := before.grow rfl (recorded_save r)
          refine ⟨grown.holds.save ⟨by rw [of_hold, of_action], ?_⟩, grown.authorizations, grown.audits, grown.traces⟩
          rw [of_action, ← own, ← same]
          exact recorded_new r
    · exact before

/-- A decision about a hold, in memory and in its record. -/
theorem Correlated.resolve (agreed : Agreed P.uuid4 s) (h : Correlated s) {key : String}
    {f : ApprovalHold → ApprovalHold} {g : ApprovalRecord → ApprovalRecord}
    (same_hold : ∀ h, (f h).actionId = h.actionId ∧ (f h).action = h.action ∧ (f h).approvalId = h.approvalId)
    (same_record : ∀ r, (g r).approvalId = r.approvalId ∧ (g r).actionId = r.actionId) :
    Correlated { s with
      holds := s.holds.mutate (·.approvalId) key f
      records := s.records.update (·.approvalId) key g } := by
  have grown : Correlated { s with records := s.records.update (·.approvalId) key g } :=
    h.grow rfl (recorded_update agreed.record_unique same_record)
  refine ⟨?_, grown.authorizations, grown.audits, grown.traces⟩
  apply grown.holds.mutate
  intro hold own
  obtain ⟨id, action, approval⟩ := same_hold hold
  rw [id, action, approval]
  exact own

/-- A hold that is resumed. -/
theorem resumed_correlated {approvalId : String} (approvedBy : String) {hold : ApprovalHold} (agreed : Agreed P.uuid4 s)
    (h : Correlated s) (found : s.hold? approvalId = some hold) (ticks : Nat) :
    Script.Yields (fun _ s' _ => Correlated s') (fun _ s' _ => Correlated s')
      (executeAndVerify P (manualRequest P { s with ticks } hold) hold.adapterName)
      (manualState P { s with ticks } hold approvedBy approvalId) := by
  obtain ⟨mem, id⟩ := DurableStore.mem_of_get? found
  obtain ⟨same_action, own⟩ := h.holds.records hold mem
  have approved : Correlated { s with
      holds := s.holds.mutate (·.approvalId) approvalId fun h => { h with status := .approved }
      records := s.records.update (·.approvalId) approvalId fun r => { r with decision := "approved", approvedBy } } :=
    h.resolve agreed (by exact fun _ => ⟨rfl, rfl, rfl⟩) (by exact fun _ => ⟨rfl, rfl⟩)
  have own' : Recorded (manualState P { s with ticks } hold approvedBy approvalId).records approvalId hold.action.actionId := by
    apply recorded_update agreed.record_unique (by exact fun _ => ⟨rfl, rfl⟩)
    rw [same_action, ← id]
    exact own
  have saved : Correlated (manualState P { s with ticks } hold approvedBy approvalId) :=
    ⟨approved.holds.mutate fun _ own => own, approved.authorizations.save ⟨approvalId, rfl, own'⟩, approved.audits,
      approved.traces⟩
  have executed := yields_attributes (attributes_executeAndVerify P
    (manualRequest P { s with ticks } hold) hold.adapterName)
    (manualState P { s with ticks } hold approvedBy approvalId)
  exact executed.mono (fun _ _ _ attributes => saved.attributes own' attributes)
    fun _ _ _ attributes => saved.attributes own' attributes

theorem approve_correlated {approvalId approvedBy : String} {approved : Bool} (agreed : Agreed P.uuid4 s)
    (h : Correlated s) : Correlated ((approveHeldAction P approvalId approvedBy approved).exec s).2 := by
  have ways : Resolved s ((approveHeldAction P approvalId approvedBy approved).exec s).2 ∨
      Correlated ((approveHeldAction P approvalId approvedBy approved).exec s).2 := by
    apply of_yields (C := fun s' => Resolved s s' ∨ Correlated s')
    apply yields_approveHeldAction
    · exact fun _ _ _ _ resolved _ _ => .inl resolved
    · exact fun _ _ _ _ _ resolved => .inl resolved
    · intro hold s₁ resumable same _
      subst same
      have resumed := resumed_correlated approvedBy agreed h resumable.found
        (checkedTicks s hold.expiresAt)
      exact resumed.mono (fun _ _ _ done => .inr done) fun _ _ _ done => .inr done
  rcases ways with resolved | done
  · -- Only a decision about a hold draws no identifier.
    have effect : Effect P.uuid4 s ((approveHeldAction P approvalId approvedBy approved).exec s).2 :=
      approveHeldAction_effect approvalId approvedBy approved
    generalize ((approveHeldAction P approvalId approvedBy approved).exec s).2 = s' at *
    have undrawn : ∀ {id}, ¬New P.uuid4 s s' id := by
      rintro id ⟨n, lower, upper, -⟩
      rw [resolved] at upper
      exact absurd upper (Nat.not_lt.mpr lower)
    rw [resolved]
    cases effect with
    | quiet quiet =>
      rw [quiet.holds, quiet.records]
      exact ⟨h.holds, h.authorizations, h.audits, h.traces⟩
    | recorded r id => exact absurd id undrawn
    | held hold r id => exact absurd id undrawn
    | authorized r a id => exact absurd id undrawn
    | expired hold row status draws holds records authorizations =>
      rw [holds, records]
      exact ⟨h.holds.mutate fun _ own => own, h.authorizations, h.audits, h.traces⟩
    | rejected hold approver row status draws holds records authorizations =>
      rw [holds, records]
      have decided : Correlated { s with
          holds := s.holds.mutate (·.approvalId) hold.approvalId fun h => { h with status := .rejected }
          records := s.records.update (·.approvalId) hold.approvalId fun r =>
            { r with decision := "rejected", approvedBy := approver } } :=
        h.resolve agreed (by exact fun _ => ⟨rfl, rfl, rfl⟩) (by exact fun _ => ⟨rfl, rfl⟩)
      exact ⟨decided.holds, decided.authorizations, decided.audits, decided.traces⟩
    | approved hold approver a row status id => exact absurd id undrawn
  · exact done

/-! ### A restart -/

/-- The correction of a hold is about nothing but its status and its approver. -/
theorem correction_keeps {records : DurableStore ApprovalRecord} {hold : ApprovalHold} {f : ApprovalHold → ApprovalHold}
    (corrected : correction records hold = some f) (h : ApprovalHold) :
    ∃ status approvedBy, f h = { h with status, approvedBy } := by
  unfold correction at corrected
  split at corrected
  · cases corrected
  · obtain ⟨r, -, corrected⟩ := Option.bind_eq_some_iff.mp corrected
    obtain ⟨status, -, corrected⟩ := Option.bind_eq_some_iff.mp corrected
    cases corrected
    exact ⟨_, _, rfl⟩

theorem Correlated.reconcileAt (h : Correlated s) (i : Nat) : Correlated (reconcileAt s i) := by
  unfold Core.reconcileAt
  split
  · exact h
  · split
    · exact h
    · next corrected =>
      refine ⟨h.holds.update fun hold own => ?_, h.authorizations, h.audits, h.traces⟩
      obtain ⟨status, approvedBy, is⟩ := correction_keeps corrected hold
      rw [is]
      exact own

theorem restart_correlated (agreed : Agreed P.uuid4 s) (h : Correlated s) :
    Correlated ((reconcileHolds : Governed W L Unit).exec (s.restart P)).2 := by
  have same : (s.restart P).records.records = s.records.records := agreed.record_mirrored.restart
  have back : ∀ id action, Recorded s.records id action → Recorded (s.restart P).records id action := by
    intro id action own
    unfold Recorded
    rw [same]
    exact own
  have reread : Correlated (s.restart P) := {
    holds := h.holds.restart (ApprovalHold.reloaded P) (fun _ own => own) |>.mono fun _ own => ⟨own.1, back _ _ own.2⟩
    authorizations := h.authorizations.restart id (fun _ own => own) |>.mono fun _ ⟨id, approval, own⟩ =>
      ⟨id, approval, back _ _ own⟩
    audits := h.audits.restart id (fun _ own => own) |>.mono fun _ ⟨id, own⟩ => ⟨id, back _ _ own⟩
    traces := h.traces.restart id (fun _ own => own) |>.mono fun _ ⟨id, own⟩ => ⟨id, back _ _ own⟩ }
  rw [reconcileHolds, Script.exec_bind, Script.exec_read]
  dsimp only
  rw [exec_reconcileFrom]
  generalize (s.restart P).holds.records.length = left
  generalize s.restart P = s₁ at reread
  have run : ∀ i, Correlated ((List.range' i left).foldl Core.reconcileAt s₁) := by
    clear same back
    induction left generalizing s₁ with
    | zero => exact fun _ => reread
    | succ left ih =>
      intro i
      rw [List.range'_succ, List.foldl_cons]
      exact ih _ (reread.reconcileAt i) (i + 1)
  exact run 0

/-! ### Runs -/

/-- A call of one of the two entry points, a restart, or a verification from elsewhere. -/
inductive Observed (P : Platform W L) (s : State W) : State W → Prop where
  | served (s' : State W) (served : Served P s s') : Observed P s s'
  | verified (v : VerificationResult) : Observed P s { s with verifications := s.verifications.save v }

theorem observed_run {backend : Backend} {world : W}
    (h : Relation.ReflTransGen (Observed P) (State.initial backend world) s) : Agreed P.uuid4 s ∧ Correlated s := by
  induction h with
  | refl => exact ⟨.empty backend, correlated_initial backend world⟩
  | tail _ step ih =>
    obtain ⟨agreed, correlated⟩ := ih
    cases step with
    | verified v => exact ⟨agreed, correlated.holds, correlated.authorizations, correlated.audits, correlated.traces⟩
    | served s' served =>
      refine ⟨served.agreed agreed, ?_⟩
      cases served with
      | governed registry action adapterName => exact governed_correlated correlated
      | approve registry approvalId approvedBy approved =>
        exact approve_correlated (P := P.registering registry) agreed correlated
      | restart => exact restart_correlated agreed correlated

/-- **What shares an approval id shares the action.** -/
theorem Correlated.action_unique (agreed : Agreed P.uuid4 s) {approvalId action action' : String}
    (h : Recorded s.records approvalId action) (h' : Recorded s.records approvalId action') : action = action' := by
  obtain ⟨r, mem, id, rfl⟩ := h
  obtain ⟨r', mem', id', rfl⟩ := h'
  rw [agreed.record_eq mem mem' (id.trans id'.symm)]

end

end RmtPlatform.Core
