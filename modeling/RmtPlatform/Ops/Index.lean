import RmtPlatform.Ops.Failures

/-! The index as it is kept, and as it would be made again.

The index is told of an execution where a call verifies it above the core; a restart
makes it from every record there is. The two say the same of every execution as long as
each execution that is recorded is verified by the call that makes it
(`index_rebuilt`); an execution that is only continued after its approval is not
(`index_untold`). -/
namespace RmtPlatform.Ops

open Core Agent

variable {W L : Type} {D : Deployment W L} {c : Call} {s s₁ s' : Site W}

/-! ### What the records say -/

/-- What the index would say of an execution if it were made from the records. -/
def Site.retold (s : Site W) (executionId : String) : Option (Option String × Option String × String × Bool) :=
  (get? (·.executionId) executionId (rebuild s.core.verifications.records s.core.audits.records)).map IndexRow.statuses

/-- The index says of every execution what it would say if it were made from the records. -/
def Site.IndexAgrees (s : Site W) : Prop := ∀ executionId, s.tells executionId = s.retold executionId

/-- What records read in order say, by the adapter that the audit names. -/
def Gathered.statuses (g : Gathered) (audited : Option String) : Option String × Option String × String × Bool :=
  (g.coreStatus, g.aboveCoreStatus,
    (classify g.coreStatus g.aboveCoreStatus (orText g.adapter audited) g.hasAdapterFailure).1,
    (classify g.coreStatus g.aboveCoreStatus (orText g.adapter audited) g.hasAdapterFailure).2)

theorem retold_eq (executionId : String) : s.retold executionId =
    if ∃ v ∈ s.core.verifications.records, v.executionId = executionId then
      some (((s.core.verifications.records.filter fun v => v.executionId = executionId).foldl Gathered.read .none).statuses
        ((s.core.audits.records.find? fun a => a.executionId = executionId).map (·.adapter)))
    else none := by
  unfold Site.retold
  rw [get?_rebuild]
  split <;> rfl

theorem filter_own {executionId : String} {vs : List VerificationResult} (own : ∀ v ∈ vs, v.executionId = executionId) :
    vs.filter (fun v => v.executionId = executionId) = vs :=
  List.filter_eq_self.mpr fun v hv => by simpa using own v hv

theorem filter_other {executionId : String} {vs : List VerificationResult} (other : ∀ v ∈ vs, v.executionId ≠ executionId) :
    vs.filter (fun v => v.executionId = executionId) = [] :=
  List.filter_eq_nil_iff.mpr fun v hv => by simpa using other v hv

/-- What is recorded of one execution does not change what is said of another. -/
theorem retold_confined {executionId other : String} (confined : Confined executionId s s') (apart : other ≠ executionId) :
    s'.retold other = s.retold other := by
  obtain ⟨vs, hvs, verifications⟩ := confined.verifications.records
  obtain ⟨as, has, audits⟩ := confined.audits.records
  have quiet : (as.find? fun a => a.executionId = other) = none :=
    List.find?_eq_none.mpr fun a ha => by simpa [has a ha] using Ne.symm apart
  have none_of : vs.filter (fun v => v.executionId = other) = [] :=
    filter_other fun v hv same => apart (same.symm.trans (hvs v hv))
  have any : (∃ v ∈ s'.core.verifications.records, v.executionId = other) ↔
      ∃ v ∈ s.core.verifications.records, v.executionId = other := by
    rw [verifications]
    constructor
    · rintro ⟨v, hv, same⟩
      rcases List.mem_append.mp hv with hv | hv
      · exact ⟨v, hv, same⟩
      · exact absurd (same.symm.trans (hvs v hv)) apart
    · rintro ⟨v, hv, same⟩
      exact ⟨v, List.mem_append_left vs hv, same⟩
  rw [retold_eq, retold_eq, if_congr any rfl rfl, verifications, audits, List.filter_append, none_of, List.append_nil,
    List.find?_append, quiet, Option.or_none]

/-- What the first records of an execution say. -/
theorem retold_new {executionId : String} {vs : List VerificationResult}
    (verifications : s'.core.verifications.records = s.core.verifications.records ++ vs)
    (own : ∀ v ∈ vs, v.executionId = executionId)
    (new : ∀ v ∈ s.core.verifications.records, v.executionId ≠ executionId) : s'.retold executionId =
      if vs = [] then none else some ((vs.foldl Gathered.read .none).statuses
        ((s'.core.audits.records.find? fun a => a.executionId = executionId).map (·.adapter))) := by
  rw [retold_eq, verifications, List.filter_append, filter_other new, filter_own own, List.nil_append]
  cases vs with
  | nil =>
    rw [if_neg, if_pos rfl]
    rintro ⟨v, hv, same⟩
    exact new v (by simpa using hv) same
  | cons v rest =>
    rw [if_pos, if_neg (List.cons_ne_nil v rest)]
    exact ⟨v, by simp, own v List.mem_cons_self⟩

/-! ### Records of the core -/

theorem unmarked {reason : String} {letter : Char} {rest : List Char} (text : reason.toList = letter :: rest)
    (other : letter ≠ '[') : isAboveCore reason = false ∧ aboveCoreAdapter reason = none := by
  have core : aboveCorePrefix.isPrefixOf (letter :: rest) = false := by
    show ('[' == letter && _) = false
    simp [Ne.symm other]
  have adapter : "[layer=above_core adapter=".toList.isPrefixOf (letter :: rest) = false := by
    show ('[' == letter && _) = false
    simp [Ne.symm other]
  unfold isAboveCore aboveCoreAdapter
  dsimp only
  rw [text, core, adapter]
  exact ⟨rfl, if_neg Bool.false_ne_true⟩

/-- The core's records do not look like those above it. -/
theorem verify_unmarked (executionId : String) (expected : Option ExpectedOutcome) (observed : Option ObservedState) :
    isAboveCore (verify executionId expected observed).reason = false ∧
      aboveCoreAdapter (verify executionId expected observed).reason = none := by
  have plain : ∀ reason ∈ ["No expected outcome supplied", "Observation unavailable",
      "Observed state matches expected outcome"], isAboveCore reason = false ∧ aboveCoreAdapter reason = none := by decide
  cases expected with
  | none => exact plain _ (by simp [verify])
  | some e =>
    cases observed with
    | none => exact plain _ (by simp [verify])
    | some o =>
      unfold verify
      dsimp only
      split
      · exact plain _ (by simp)
      · apply unmarked
        · rw [String.toList_append, String.toList_append, String.toList_append, String.toList_append]
          rfl
        · decide

/-- A record of the core: what it says is its status. -/
structure OfCore (executionId : String) (v : VerificationResult) : Prop where
  id : v.executionId = executionId
  status : v.status ∈ coreStatuses
  unmarked : isAboveCore v.reason = false ∧ aboveCoreAdapter v.reason = none

theorem OfCore.verify {executionId : String} (expected : Option ExpectedOutcome) (observed : Option ObservedState) :
    OfCore executionId (Core.verify executionId expected observed) :=
  ⟨verify_id executionId expected observed, verify_status executionId expected observed,
    verify_unmarked executionId expected observed⟩

section
variable {executionId adapterName : String} {v v' : VerificationResult}

theorem OfCore.read (h : OfCore executionId v) (g : Gathered) :
    g.read v = Gathered.expecting { g with coreStatus := some v.status } v.expected := by
  unfold Gathered.read
  rw [h.unmarked.2]
  dsimp only
  rw [if_neg (failed_ne h.status), if_pos h.status]

theorem AboveCore.read (h : AboveCore adapterName executionId v) (g : Gathered) : g.read v =
    Gathered.expecting { g with aboveCoreStatus := some v.status, adapter := orText g.adapter (some adapterName) }
      v.expected := by
  unfold Gathered.read
  rw [h.adapter]

theorem statuses_core (h : OfCore executionId v) (audited : Option String) :
    (Gathered.read .none v).statuses audited = said audited (some v.status) none := by
  rw [h.read]
  obtain ⟨failure, above, core, adapter⟩ := expecting_statuses { Gathered.none with coreStatus := some v.status } v.expected
  unfold Gathered.statuses said
  rw [failure, above, core, adapter]
  rfl

theorem statuses_above (h : AboveCore adapterName executionId v) (audited adapter : Option String) :
    (Gathered.read .none v).statuses audited = said adapter none (some v.status) := by
  rw [h.read]
  obtain ⟨failure, above, core, -⟩ := expecting_statuses
    { Gathered.none with aboveCoreStatus := some v.status, adapter := orText Gathered.none.adapter (some adapterName) } v.expected
  unfold Gathered.statuses said
  rw [failure, above, core]
  rfl

theorem statuses_both (h : OfCore executionId v) (h' : AboveCore adapterName executionId v') (audited adapter : Option String) :
    ((Gathered.read .none v).read v').statuses audited = said adapter (some v.status) (some v'.status) := by
  rw [h'.read, h.read]
  obtain ⟨failure₁, -, core₁, -⟩ := expecting_statuses { Gathered.none with coreStatus := some v.status } v.expected
  generalize Gathered.expecting { Gathered.none with coreStatus := some v.status } v.expected = g at failure₁ core₁ ⊢
  obtain ⟨failure, above, core, -⟩ := expecting_statuses
    { g with aboveCoreStatus := some v'.status, adapter := orText g.adapter (some adapterName) } v'.expected
  unfold Gathered.statuses said
  rw [failure, above, core, core₁, failure₁]
  rfl

/-! ### The core's status in the index -/

theorem coreRecordStatus_new {records vs : List VerificationResult} (new : ∀ v ∈ records, v.executionId ≠ executionId) :
    coreRecordStatus (records ++ vs) executionId = coreRecordStatus vs executionId := by
  unfold coreRecordStatus
  rw [List.filter_append, List.filter_eq_nil_iff.mpr, List.nil_append]
  intro v hv
  simp [new v hv]

theorem coreRecordStatus_core (h : OfCore executionId v) : coreRecordStatus [v] executionId = some v.status := by
  simp [coreRecordStatus, h.id, h.unmarked.1, failed_ne h.status]

theorem coreRecordStatus_above (h : AboveCore adapterName executionId v) : coreRecordStatus [v] executionId = none := by
  simp [coreRecordStatus, h.layer]

theorem coreRecordStatus_both (h : OfCore executionId v) (h' : AboveCore adapterName executionId v') :
    coreRecordStatus [v, v'] executionId = some v.status := by
  simp [coreRecordStatus, h.id, h.unmarked.1, failed_ne h.status, h'.layer]

end

/-! ### Calls that are told -/

/-- The call verifies above the core what succeeded. -/
def Call.verifies (s : Site W) : Call → Prop
  | execute .. | propose _ | remediate _ | cycle _ => True
  | homelabApprove approvalId _ _ => ∃ hold, s.core.hold? approvalId = some hold ∧ attributable hold.action = true ∧
      hold.action.expectedOutcome.isSome = true
  | approve .. | grant .. | direct _ => False

/-- Whatever the call has executed, the index is told of if it is recorded: a success is verified, and a failure is
observed, or no evidence of it is stored. -/
def Indexing (D : Deployment W L) (c : Call) (s : Site W) : Prop :=
  ∀ r e, .returned r ∈ (c.script D).emitted s → r.execution? = some e →
    if e.success then c.verifies s else c.evidences = true → c.observes D s

theorem opening_approval {approvalId operatorName : String} {approved : Bool} {b : Option Boundary}
    (h : Script.exec (Call.opening D (.homelabApprove approvalId operatorName approved)) s = (.ok b, s₁)) :
    b = some (.approval approvalId operatorName approved) ∨ b = none := by
  simp only [Call.opening] at h
  obtain ⟨answer, s₂, checked, rest⟩ := Script.exec_bind_ok.mp h
  obtain ⟨same, -⟩ := Prod.mk.inj rest
  cases same
  split
  · exact .inl rfl
  · exact .inr rfl

/-- What a call verifies has been executed by the adapter it names, or is observed. -/
theorem verified_watch {b : Boundary} {r : GovernedResult} {e : Execution} {request : ExecutionRequest}
    {adapterName : String} {k : State W} (verifies : c.verifies s)
    (opens : Script.exec (c.opening D) s = (.ok (some b), s₁)) (engages : Engages D.toPlatform b s₁.core request adapterName k)
    (result : r.execution? = some e) (success : e.success = true) (named : e.executionId ≠ "") :
    ∃ w, c.watch D s₁ b r = some w ∧
      (resolveObserver D w.adapterName w.operation w.target = none → w.adapterName = adapterName) := by
  cases c with
  | execute operatorName operation target image =>
    refine ⟨⟨e, resolveAdapterName D, operation, target⟩, by simp [Call.watch, result, success, named], fun _ => ?_⟩
    simp only [Call.opening] at opens
    cases known : operationToActionType operation with
    | none => simp [known] at opens
    | some actionType =>
      simp only [known] at opens
      obtain ⟨actionId, s₂, drawn, rest⟩ := Script.exec_bind_ok.mp opens
      obtain ⟨same, -⟩ := Prod.mk.inj rest
      cases same
      cases engages
      rfl
  | remediate observed =>
    obtain ⟨w, watched, observer⟩ := observed_watch (c := .remediate observed) trivial opens result named
    exact ⟨w, watched, fun none => absurd none observer⟩
  | cycle observed =>
    obtain ⟨w, watched, observer⟩ := observed_watch (c := .cycle observed) trivial opens result named
    exact ⟨w, watched, fun none => absurd none observer⟩
  | homelabApprove approvalId operatorName approved =>
    obtain ⟨hold, found, attributed, expected⟩ := verifies
    have found' : s₁.core.hold? approvalId = some hold := (opening_hold opens approvalId).trans found
    refine ⟨⟨e, hold.adapterName, hold.action.actionType.value, hold.action.component⟩,
      by simp [Call.watch, result, found', attributed, named, expected], fun _ => ?_⟩
    rcases opening_approval opens with same | same
    · cases same
      cases engages with
      | approval _ _ hold' s s₁ resumable checked =>
        obtain rfl : hold = hold' := Option.some.inj (found'.symm.trans resumable.found)
        rfl
    · cases same
  | propose proposal =>
    cases b with
    | governed action adapterName' =>
      refine ⟨⟨e, adapterName', action.actionType.value, action.component⟩, by simp [Call.watch, result, success],
        fun _ => ?_⟩
      cases engages
      rfl
    | approval approvalId approvedBy approved =>
      simp only [Call.opening] at opens
      split at opens
      · cases opens
      · obtain ⟨resolution, s₂, resolved, rest⟩ := Script.exec_bind_ok.mp opens
        obtain ⟨same, -⟩ := Prod.mk.inj rest
        split at same <;> cases same
  | approve => exact verifies.elim
  | grant => exact verifies.elim
  | direct => exact verifies.elim

/-- A call that records no failures either observes what it executes or looks at nothing. -/
theorem unrecorded_watch {b : Boundary} {r : GovernedResult} (quiet : c.evidences = false) (unobserved : ¬c.observes D s) :
    c.watch D s₁ b r = none := by
  unfold Call.watch
  cases c with
  | cycle observed => exact absurd trivial unobserved
  | grant => cases r.execution? <;> rfl
  | direct => cases r.execution? <;> rfl
  | execute => cases quiet
  | approve => cases quiet
  | remediate => cases quiet
  | homelabApprove => cases quiet
  | propose => cases quiet

/-! ### Calls keep the index -/

theorem Untold.tells (h : Untold s s') (executionId : String) : s'.tells executionId = s.tells executionId := by
  unfold Site.tells
  rw [h.row?]

theorem Untold.agrees (h : Untold s s') (agrees : s.IndexAgrees) : s'.IndexAgrees := by
  intro executionId
  rw [h.tells, agrees executionId, retold_eq, retold_eq, h.core.verifications, h.core.audits]

/-- Nothing is noted of what succeeded. -/
theorem noted_nothing {r : GovernedResult} {e : Execution} (result : r.execution? = some e) (success : e.success = true)
    (noted : Noted c r s s') : s' = s := by
  have unfailed : failedAttempt r = none := by simp [failedAttempt, result, success]
  unfold Noted at noted
  split at noted
  · cases noted with
    | unfailed attempt same => exact same
    | known e' attempt => simp [unfailed] at attempt
    | marked e' attempt => simp [unfailed] at attempt
  · exact noted

/-- Nothing is noted of what has a record. -/
theorem noted_known {r : GovernedResult} {e : Execution} (result : r.execution? = some e)
    (known : ∃ v ∈ s.core.verifications.records, v.executionId = e.executionId) (noted : Noted c r s s') : s' = s := by
  unfold Noted at noted
  split at noted
  · cases noted with
    | unfailed attempt same => exact same
    | known e' attempt found same => exact same
    | marked e' attempt absent =>
      obtain ⟨rfl, -⟩ := failedAttempt_id result attempt
      rw [DurableStore.get?_eq_none] at absent
      obtain ⟨v, hv, same⟩ := known
      exact absurd same (absent v hv)
  · exact noted

/-- Nothing is known of an execution that is yet to be made. -/
structure Unknown (s : Site W) (executionId : String) : Prop where
  verifications : ∀ v ∈ s.core.verifications.records, v.executionId ≠ executionId
  audits : ∀ a ∈ s.core.audits.records, a.executionId ≠ executionId
  row : s.row? executionId = none

theorem Tidy.unknown {executionId : String} (h : Tidy D s) (fresh : ¬Drawn D.uuid4 s.core executionId) :
    Unknown s executionId := by
  refine ⟨fun v hv same => fresh (same ▸ h.verifications v hv), fun a ha same => fresh (same ▸ h.audits a ha), ?_⟩
  by_contra row
  exact fresh (h.rows executionId row)

section
variable {executionId : String} {adapterName operation target : String} {vs : List VerificationResult}

/-- What is observed of an execution is what is said of it, and what is made of its records. -/
theorem observed_agrees (unknown : Unknown s executionId) (told : s₁.row? executionId = none)
    (records : s₁.core.verifications.records = s.core.verifications.records ++ vs)
    (own : ∀ v ∈ vs, v.executionId = executionId)
    (reads : ∀ v', AboveCore adapterName executionId v' → ∀ audited, ∃ coreStatus,
      coreRecordStatus (vs ++ [v']) executionId = coreStatus ∧
      ((vs ++ [v']).foldl Gathered.read .none).statuses audited = said (some adapterName) coreStatus (some v'.status))
    (observer : resolveObserver D adapterName operation target ≠ none)
    (watched : Watched D executionId adapterName operation target s₁ s') :
    s'.tells executionId = s'.retold executionId := by
  cases watched with
  | unobserved none indexed => exact absurd none observer
  | observed _ v' above s₂ saved indexed =>
    have stored : s₂.core.verifications.records = s.core.verifications.records ++ (vs ++ [v']) := by
      rw [saved, ← List.append_assoc, ← records]
      rfl
    have ended : s'.core.verifications.records = s.core.verifications.records ++ (vs ++ [v']) := by
      rw [indexed.same]
      exact stored
    have mine : ∀ v ∈ vs ++ [v'], v.executionId = executionId := by
      intro v hv
      rcases List.mem_append.mp hv with hv | hv
      · exact own v hv
      · rw [List.mem_singleton.mp hv]
        exact above.id
    have unindexed : s₂.row? executionId = none := by
      rw [saved]
      exact told
    obtain ⟨coreStatus, status, statuses⟩ := reads v' above
      ((s'.core.audits.records.find? fun a => a.executionId = executionId).map (·.adapter))
    rw [indexed.new unindexed, stored, coreRecordStatus_new unknown.verifications, status,
      retold_new ended mine unknown.verifications, if_neg (by simp), statuses]

/-- A success that is verified. -/
theorem success_agrees {v : VerificationResult} {audited : String} (unknown : Unknown s executionId)
    (told : s₁.row? executionId = none) (records : s₁.core.verifications.records = s.core.verifications.records ++ [v])
    (core : OfCore executionId v)
    (audit : (s₁.core.audits.records.find? fun a => a.executionId = executionId).map (·.adapter) = some audited)
    (named : resolveObserver D adapterName operation target = none → adapterName = audited)
    (watched : Watched D executionId adapterName operation target s₁ s') :
    s'.tells executionId = s'.retold executionId := by
  by_cases observer : resolveObserver D adapterName operation target = none
  · cases watched with
    | observed found => exact absurd observer found
    | unobserved _ indexed =>
      have ended : s'.core.verifications.records = s.core.verifications.records ++ [v] := by
        rw [indexed.same]
        exact records
      have audit' : (s'.core.audits.records.find? fun a => a.executionId = executionId).map (·.adapter) = some adapterName := by
        rw [named observer, indexed.same]
        exact audit
      rw [indexed.new told, records, coreRecordStatus_new unknown.verifications, coreRecordStatus_core core,
        retold_new ended (by simp [core.id]) unknown.verifications, if_neg (by simp), audit']
      exact (congrArg some (statuses_core core _)).symm
  · refine observed_agrees unknown told records (by simp [core.id]) (fun v' above audited => ?_) observer watched
    exact ⟨_, coreRecordStatus_both core above, statuses_both core above audited _⟩

/-- A failure that is observed, or of which nothing is recorded. -/
theorem failure_agrees {b : Boundary} {r : GovernedResult} {e : Execution} {s₂ s₃ : Site W} (unknown : Unknown s e.executionId)
    (told : s₂.row? e.executionId = none) (records : s₂.core.verifications.records = s.core.verifications.records)
    (opens : Script.exec (c.opening D) s = (.ok (some b), s₁)) (result : r.execution? = some e) (named : e.executionId ≠ "")
    (called : c.evidences = true → c.observes D s) (looked : Looked D (c.watch D s₁ b r) s₂ s₃) (noted : Noted c r s₃ s') :
    s'.tells e.executionId = s'.retold e.executionId := by
  by_cases observes : c.observes D s
  · obtain ⟨w, watched, observer⟩ := observed_watch observes opens result named
    obtain rfl : e = w.execution := (watch_execution result watched).symm
    rw [watched] at looked
    have agrees : s₃.tells w.execution.executionId = s₃.retold w.execution.executionId := by
      have none : s₂.core.verifications.records = s.core.verifications.records ++ [] := by simpa using records
      refine observed_agrees unknown told none (by simp) (fun v' above audited => ?_) observer looked
      exact ⟨_, coreRecordStatus_above above, statuses_above above audited _⟩
    have known : ∃ v ∈ s₃.core.verifications.records, v.executionId = w.execution.executionId := by
      cases looked with
      | unobserved none indexed => exact absurd none observer
      | observed _ v above s₄ saved indexed =>
        rw [indexed.same, saved]
        exact ⟨v, by simp [DurableStore.save], above.id⟩
    rw [noted_known result known noted]
    exact agrees
  · have quiet : c.evidences = false := by simpa using fun evidences => observes (called evidences)
    rw [unrecorded_watch quiet observes] at looked
    obtain rfl : s₃ = s₂ := looked
    rw [Noted, if_neg (by simp [quiet])] at noted
    subst noted
    have none : s'.core.verifications.records = s.core.verifications.records ++ [] := by simpa using records
    rw [retold_new none (by simp) unknown.verifications, if_pos rfl, Site.tells, told]
    rfl

end

/-- **A call that is told keeps the index what its records make it.** -/
theorem call_agrees (own : OwnAnswers D.toPlatform) (tidy : Tidy D s) (agrees : s.IndexAgrees) (indexing : Indexing D c s) :
    (Script.exec (c.script D) s).2.IndexAgrees := by
  have episode : Episode D c s ((c.script D).emitted s) (Script.exec (c.script D) s).2 := call_episode
  have confined := @call_confined W L D c s
  unfold Indexing at indexing
  generalize (c.script D).emitted s = ls at episode indexing confined
  generalize (Script.exec (c.script D) s).2 = s' at episode confined ⊢
  cases episode with
  | quiet _ _ untold unexecuted => exact untold.agrees agrees
  | executed b r e request adapterName s₁ sₑ k s₂ s₃ _ _ opens before result engages executed draws after looked noted told
      only =>
    obtain ⟨unrecorded, new⟩ := engages.before
    have id := executed_id own executed
    have unknown : Unknown s e.executionId := by
      apply tidy.unknown
      rw [id]
      exact (new.mono before.core.draws le_rfl).fresh D.uuid4_fresh
    have named : e.executionId ≠ "" := by
      obtain ⟨n, -, -, text⟩ := new
      rw [id, text]
      exact Uuid.text_ne _
    have started : sₑ.audits = s.core.audits ∧ sₑ.verifications = s.core.verifications :=
      ⟨unrecorded.audits.trans before.core.audits, unrecorded.verifications.trans before.core.verifications⟩
    have untold : s₂.row? e.executionId = none := by
      rw [after.row?]
      show s₁.row? e.executionId = none
      rw [before.row?]
      exact unknown.row
    intro other
    by_cases same : other = e.executionId
    · subst same
      have called := indexing r e told result
      cases executed with
      | succeeded result' a observed taken answer success ofResult audited adapter audits verifications =>
        rw [if_pos success] at called
        obtain ⟨w, watched, sameAdapter⟩ := verified_watch called opens engages result success named
        obtain rfl : e = w.execution := (watch_execution result watched).symm
        obtain rfl := noted_nothing result success noted
        rw [watched] at looked
        have core : OfCore w.execution.executionId (verify result'.executionId request.expectedOutcome observed) := by
          rw [ofResult]
          exact .verify _ _
        refine success_agrees unknown untold ?_ core ?_ sameAdapter looked
        · rw [after.core.verifications]
          show k.verifications.records = _
          rw [verifications, started.2]
          rfl
        · have grown : s₂.core.audits.records = s.core.audits.records ++ [a] := by
            rw [after.core.audits]
            show k.audits.records = _
            rw [audits, started.1]
            rfl
          have absent : (s.core.audits.records.find? fun a => a.executionId = w.execution.executionId) = none :=
            List.find?_eq_none.mpr fun a ha => by simpa using unknown.audits a ha
          rw [grown, List.find?_append, absent]
          simp [audited.trans ofResult.symm, adapter]
      | stopped stopped failure ofRequest audits verifications =>
        rw [if_neg (by simp [failure])] at called
        refine failure_agrees unknown untold ?_ opens result named called looked noted
        rw [after.core.verifications]
        exact congrArg _ (verifications.trans started.2)
      | failed result' a taken answer failure ofResult audited adapter audits verifications =>
        rw [if_neg (by simp [failure])] at called
        refine failure_agrees unknown untold ?_ opens result named called looked noted
        rw [after.core.verifications]
        exact congrArg _ (verifications.trans started.2)
    · rcases confined with untold | ⟨r', e', told', result', confined, -⟩
      · rw [untold.tells, agrees other, retold_eq, retold_eq, untold.core.verifications, untold.core.audits]
      · obtain rfl := only r' told'
        obtain rfl : e = e' := Option.some.inj (result.symm.trans result')
        rw [retold_confined confined same, ← agrees other]
        unfold Site.tells
        rw [confined.rows other same]

/-- **The index says what it would if it were made again**, of every execution, in every run whose calls are told. -/
theorem index_rebuilt (D : Deployment W L) (own : OwnAnswers D.toPlatform) (s : Site W) (failed : Set String)
    (run : Reach D (Indexing D) s failed) (executionId : String) : s.tells executionId = s.retold executionId := by
  have agrees : s.IndexAgrees := by
    induction run with
    | start backend world => exact fun id => rfl
    | call c before indexing ih => exact call_agrees own (before.tidy own) ih indexing
    | @restart s failed before ih =>
      obtain ⟨verifications, audits, index⟩ := (before.tidy own).restored
      intro id
      unfold Site.tells Site.retold Site.row?
      rw [index, verifications, audits]
  exact agrees executionId

/-! ### An execution the index is not told of

A start needs an approval, and is continued by `POST /approve`. -/

namespace Sample

/-- What is held, and what is executed once it is approved. -/
def guarded : Ops.Call := .direct (.governed { Core.Sample.action with requiresApproval := true } "simulation")

def continued : Ops.Call := .approve "2" "operator-1" true

/-- What was executed has succeeded, if anything was. -/
def succeeds : Notice Empty → Bool
  | .returned r => r.execution?.all (·.success)
  | .core _ => true

end Sample

/-- The index after a start that is simulated. -/
theorem index_rebuilt_start : (Script.exec (Sample.start.script Sample.simulated) Sample.started).2.tells "4" =
    (Script.exec (Sample.start.script Sample.simulated) Sample.started).2.retold "4" := by
  have succeeds : (((Sample.start.script Sample.simulated).emitted Sample.started).all Sample.succeeds) = true := by
    decide +kernel
  have indexing : Indexing Sample.simulated Sample.start Sample.started := by
    intro r e told result
    have success : e.success = true := by
      have said := List.all_eq_true.mp succeeds _ told
      simpa [Sample.succeeds, result] using said
    rw [if_pos success]
    trivial
  exact index_rebuilt _ Sample.simulated_own _ _ (.call Sample.start (.start .sqlite ()) indexing) "4"

/-- **An execution the index is not told of**: it is continued after its approval, and would be in an index made again. -/
theorem index_untold : OwnAnswers Sample.simulated.toPlatform ∧
    ∃ s failed, Reach Sample.simulated (fun _ _ => True) s failed ∧ s.tells "4" = none ∧
      s.retold "4" = some (some "verification_failure", none, "unverified", false) := by
  refine ⟨Sample.simulated_own, _, _, (Reach.start .sqlite ()).call Sample.guarded trivial |>.call Sample.continued trivial, ?_, ?_⟩
  · decide +kernel
  · decide +kernel

end RmtPlatform.Ops
