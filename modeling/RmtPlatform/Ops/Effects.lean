import RmtPlatform.Core.Outcome
import RmtPlatform.Ops.Endpoints

/-! What each part of an endpoint does to the records and to the index.

Verifying above the core stores a record that names its adapter (`AboveCore`), if there
is an observer, and a row of the index either way (`Watched`). Recording a failure
stores a record of another kind (`Marked`). Nothing else here stores anything the
index is made of (`Untold`). -/
namespace RmtPlatform.Ops

open Core

variable {W L α : Type} {s s₁ s' : Site W}

/-! ### Parts of a call -/

/-- What the core emits. -/
def Notice.isCore : Notice L → Prop
  | .core _ => True
  | .returned _ => False

section
variable {Q : α → Site W → List (Notice L) → Prop} {X : Raised → Site W → List (Notice L) → Prop}

theorem yields_inCore {x : Governed W L α} : Script.Yields Q X (inCore x) s ↔
    Script.Yields (fun a c ls => Q a { s with core := c } (ls.map .core))
      (fun e c ls => X e { s with core := c } (ls.map .core)) x s.core := by
  have runs : Script.exec (inCore x) s = ((Script.exec x s.core).1, { s with core := (Script.exec x s.core).2 }) :=
    Program.run_within Site.corePart Notice.core x s
  have emits : Script.emitted (inCore x) s = (Script.emitted x s.core).map .core :=
    Program.emitted_within Site.corePart Notice.core x s
  unfold Script.Yields
  rw [runs, emits]
  rcases Script.exec x s.core with ⟨e | a, c⟩ <;> rfl

theorem yields_governed {Q : GovernedResult → Site W → List (Notice L) → Prop} {x : Governed W L GovernedResult} :
    Script.Yields Q X (governed x) s ↔
      Script.Yields (fun r c ls => Q r { s with core := c } (.returned r :: ls.map .core))
        (fun e c ls => X e { s with core := c } (ls.map .core)) x s.core := by
  unfold governed
  rw [Script.yields_bind, yields_inCore]
  unfold Script.Yields
  rcases Script.exec x s.core with ⟨e | r, c⟩ <;> rfl

theorem core_labels (ls : List (Event L)) : ∀ m ∈ ls.map (Notice.core (L := L)), m.isCore := by
  intro m hm
  obtain ⟨l, -, rfl⟩ := List.mem_map.mp hm
  trivial

end

/-- Neither the records the index is made of nor the index are changed. -/
structure Untold (s s' : Site W) : Prop where
  core : Unrecorded s.core s'.core
  index : s'.index = s.index

theorem Untold.refl (s : Site W) : Untold s s := ⟨Unrecorded.refl s.core, rfl⟩

theorem Untold.trans (h : Untold s s₁) (h' : Untold s₁ s') : Untold s s' := ⟨h.core.trans h'.core, h'.index.trans h.index⟩

/-! ### The index -/

/-- What a row says of its execution. -/
def IndexRow.statuses (row : IndexRow) : Option String × Option String × String × Bool :=
  (row.coreStatus, row.aboveCoreStatus, row.effectiveStatus, row.verified)

/-- What a new row says that is told these. -/
def said (adapter coreStatus aboveCoreStatus : Option String) : Option String × Option String × String × Bool :=
  (coreStatus, aboveCoreStatus, (classify coreStatus aboveCoreStatus adapter false).1,
    (classify coreStatus aboveCoreStatus adapter false).2)

/-- What the index says of an execution. -/
def Site.tells (s : Site W) (executionId : String) : Option (Option String × Option String × String × Bool) :=
  (s.row? executionId).map IndexRow.statuses

/-- The index has a row more, or one row was told more. -/
structure Indexed (executionId : String) (adapter coreStatus aboveCoreStatus : Option String) (s s' : Site W) : Prop where
  same : s' = { s with index := s'.index }
  others : ∀ id, id ≠ executionId → s'.row? id = s.row? id
  new : s.row? executionId = none → s'.tells executionId = some (said adapter coreStatus aboveCoreStatus)

theorem row_put {row : IndexRow} (id : String) : ({ s with index := put (·.executionId) row s.index } : Site W).row? id =
    if row.executionId = id then some row else s.row? id :=
  get?_put row s.index id

theorem orText_none (a : Option String) : orText a none = if a = some "" then none else a := by
  unfold orText
  cases a with
  | none => rfl
  | some t => by_cases h : t = "" <;> simp [h]

/-- A name is what decides only where it is that of module changes. -/
theorem classify_orText (coreStatus aboveCoreStatus adapter : Option String) (failure : Bool) :
    classify coreStatus aboveCoreStatus (orText adapter none) failure =
      classify coreStatus aboveCoreStatus adapter failure := by
  rw [orText_none]
  split
  · next h =>
    subst h
    cases failure <;> cases aboveCoreStatus <;> cases coreStatus <;> simp [classify, moduleChangeAdapter]
  · rfl

theorem updateIndexAndNotify_yields {executionId adapterName operation target : String}
    {actionId aboveCoreStatus : Option String} : Script.Yields
    (fun _ s' (ls : List (Notice L)) => Indexed executionId (some adapterName)
      (coreRecordStatus s.core.verifications.records executionId) aboveCoreStatus s s' ∧ ls = [])
    (fun _ _ _ => False) (updateIndexAndNotify executionId actionId adapterName operation target aboveCoreStatus) s := by
  unfold updateIndexAndNotify
  apply Script.yields_bind.mpr
  apply Script.yields_read.mpr
  apply Script.yields_bind.mpr
  generalize coreRecordStatus s.core.verifications.records executionId = coreStatus
  -- The row that is stored.
  generalize hrow : ((s.row? executionId).getD (.blank executionId)).told actionId (some adapterName) (some operation)
    (some target) coreStatus aboveCoreStatus = row
  have key : row.executionId = executionId := by
    rw [← hrow]
    show ((s.row? executionId).getD (.blank executionId)).executionId = executionId
    cases found : s.row? executionId with
    | none => rfl
    | some old => simpa [Site.row?, get?] using List.find?_some found
  have told : s.row? executionId = none → row.statuses = said (some adapterName) coreStatus aboveCoreStatus := by
    intro absent
    rw [← hrow, absent]
    simp [IndexRow.statuses, IndexRow.told, IndexRow.blank, said, classify_orText]
  -- Any row with its key and its statuses may be put in its place.
  have stored : ∀ row' : IndexRow, row'.executionId = executionId → row'.statuses = row.statuses →
      Indexed executionId (some adapterName) coreStatus aboveCoreStatus s
        { s with index := put (·.executionId) row' s.index } := by
    intro row' key' same
    refine ⟨rfl, fun id other => ?_, fun absent => ?_⟩
    · rw [row_put, if_neg fun h => other (h.symm.trans key')]
    · rw [Site.tells, row_put, if_pos key', Option.map_some, same, told absent]
  have step : Script.exec (record executionId actionId (some adapterName) (some operation) (some target) coreStatus
      aboveCoreStatus : Above W L IndexRow) s = (.ok row, { s with index := put (·.executionId) row s.index }) := by
    rw [← hrow]
    rfl
  apply (Script.yields_of_exec step rfl).mpr
  by_cases noted : row.effectiveStatus = unverified ∧ !row.notifiedInconclusive
  · rw [if_pos noted]
    let flagged : IndexRow := { row with notifiedInconclusive := true }
    have replaced : put (·.executionId) flagged (put (·.executionId) row s.index) = put (·.executionId) flagged s.index :=
      put_put row flagged rfl s.index
    have marked : Script.exec (markNotified executionId : Above W L Unit) { s with index := put (·.executionId) row s.index } =
        (.ok (), { s with index := put (·.executionId) flagged s.index }) := by
      unfold markNotified
      rw [Script.exec_modify, row_put, if_pos key]
      exact congrArg (fun rows => (Except.ok (), { s with index := rows })) replaced
    apply (Script.yields_of_exec marked rfl).mpr
    exact ⟨stored _ key rfl, rfl⟩
  · rw [if_neg noted]
    exact ⟨stored row key rfl, rfl⟩

/-! ### The adapter's name in a record -/

/-- A letter of a name that is compared in lower case. -/
theorem plain_letter {c : Char} (h : (if c.toNat = 0x212a then 'k' else c.toLower) ∈ "dockergit".toList) :
    isSpace c = false ∧ c ≠ ']' := by
  by_cases kelvin : c.toNat = 0x212a
  · refine ⟨by simp [isSpace, kelvin], ?_⟩
    rintro rfl
    simp at kelvin
  · rw [if_neg kelvin] at h
    unfold Char.toLower at h
    split at h
    · next upper =>
      have range : 65 ≤ c.toNat ∧ c.toNat ≤ 90 := ⟨upper.1, upper.2⟩
      constructor
      · simp [isSpace]
        omega
      · rintro rfl
        simp at range
    · simp at h
      rcases h with rfl | rfl | rfl | rfl | rfl | rfl | rfl | rfl | rfl <;> decide

/-- A name with an observer is read back from where it is written. -/
theorem plain_name {name : String} (h : lowerName name = "docker" ∨ lowerName name = "git") :
    name ≠ "" ∧ ∀ c ∈ name.toList, isSpace c = false ∧ c ≠ ']' := by
  constructor
  · rintro rfl
    revert h
    decide
  · intro c hc
    apply plain_letter
    have lowered : (if c.toNat = 0x212a then 'k' else c.toLower) ∈ (lowerName name).toList := by
      rw [lowerName, String.toList_ofList]
      exact List.mem_map_of_mem hc
    rcases h with h | h <;> rw [h] at lowered
    · exact List.mem_append_left "git".toList lowered
    · exact List.mem_append_right "docker".toList lowered

theorem rstrip_keeps {text : String} {before after : List Char} {c : Char} (h : text.toList = before ++ c :: after)
    (hc : isSpace c = false) : ∃ rest, (rstrip text).toList = before ++ c :: rest := by
  refine ⟨(after.reverse.dropWhile isSpace).reverse, ?_⟩
  unfold rstrip
  rw [String.toList_ofList, h, List.reverse_append, List.reverse_cons, List.append_assoc, List.dropWhile_append]
  split
  · next spaces =>
    rw [List.isEmpty_iff.mp spaces]
    simp [hc]
  · simp

/-- **A record above the core names its adapter.** -/
theorem layer_adapter {name : String} (h : lowerName name = "docker" ∨ lowerName name = "git") (supersedes : Bool)
    (reason : String) : isAboveCore (rstrip (layer name supersedes ++ reason)) = true ∧
      aboveCoreAdapter (rstrip (layer name supersedes ++ reason)) = some name := by
  obtain ⟨nonempty, plain⟩ := plain_name h
  obtain ⟨mark, hmark⟩ : ∃ mark, mark = "[layer=above_core adapter=".toList := ⟨_, rfl⟩
  obtain ⟨middle, hmiddle⟩ : ∃ middle, middle = (if supersedes then " supersedes=observation_unavailable" else "").toList :=
    ⟨_, rfl⟩
  have text : (layer name supersedes ++ reason).toList = (mark ++ name.toList ++ middle) ++ ']' :: ' ' :: reason.toList := by
    unfold layer
    simp only [String.toList_append, List.append_assoc, hmark, hmiddle]
    rfl
  obtain ⟨rest, written⟩ := rstrip_keeps text (by decide)
  generalize rstrip (layer name supersedes ++ reason) = r at written
  have marked : mark.isPrefixOf r.toList = true := by
    rw [List.isPrefixOf_iff_prefix, written, List.append_assoc, List.append_assoc]
    exact List.prefix_append _ _
  have taken : ((r.toList.drop mark.length).takeWhile fun c => !isSpace c && c ≠ ']') = name.toList := by
    rw [written, List.append_assoc, List.append_assoc, List.drop_left, List.takeWhile_append_of_pos]
    · -- What follows the name is a space or a bracket.
      cases supersedes <;> simp [hmiddle, isSpace]
    · intro c hc
      simp [plain c hc]
  constructor
  · unfold isAboveCore
    rw [List.isPrefixOf_iff_prefix] at marked ⊢
    have begins : aboveCorePrefix <+: mark := by rw [hmark]; decide
    exact begins.trans marked
  · unfold aboveCoreAdapter
    rw [← hmark]
    dsimp only
    rw [if_pos marked, taken, if_neg (by simpa using nonempty), String.ofList_toList]

/-! ### After an execution -/

/-- A record that was stored above the core. -/
structure AboveCore (adapterName executionId : String) (v : VerificationResult) : Prop where
  id : v.executionId = executionId
  status : v.status ∈ coreStatuses
  layer : isAboveCore v.reason = true
  adapter : aboveCoreAdapter v.reason = some adapterName

theorem verify_status (executionId : String) (expected : Option ExpectedOutcome) (observed : Option ObservedState) :
    (verify executionId expected observed).status ∈ coreStatuses := by
  unfold verify
  cases expected with
  | none => simp [coreStatuses]
  | some e =>
    cases observed with
    | none => simp [coreStatuses]
    | some o =>
      dsimp only
      split <;> simp [coreStatuses]

theorem verify_id (executionId : String) (expected : Option ExpectedOutcome) (observed : Option ObservedState) :
    (verify executionId expected observed).executionId = executionId := by
  unfold verify
  cases expected with
  | none => rfl
  | some e =>
    cases observed with
    | none => rfl
    | some o =>
      dsimp only
      split <;> rfl

theorem aboveCore_result {adapterName : String} (h : lowerName adapterName = "docker" ∨ lowerName adapterName = "git")
    (executionId : String) (expected : Option ExpectedOutcome) (observed : Option ObservedState) (supersedes : Bool) :
    AboveCore adapterName executionId (aboveCoreResult executionId adapterName expected observed supersedes) := by
  have named := layer_adapter h supersedes (verify executionId expected observed).reason
  have id := verify_id executionId expected observed
  have status := verify_status executionId expected observed
  unfold aboveCoreResult
  generalize verify executionId expected observed = found at named id status
  exact ⟨id, status, named.1, named.2⟩

section
variable (D : Deployment W L)

/-- What verifying an execution above the core does. -/
inductive Watched (executionId adapterName operation target : String) (s s' : Site W) : Prop where
  | unobserved (none : resolveObserver D adapterName operation target = none)
      (indexed : Indexed executionId (some adapterName) (coreRecordStatus s.core.verifications.records executionId) .none
        s s')
  | observed (observer : resolveObserver D adapterName operation target ≠ none) (v : VerificationResult)
      (above : AboveCore adapterName executionId v) (s₁ : Site W)
      (saved : s₁ = { s with
        core := { s.core with world := s₁.core.world, verifications := s.core.verifications.save v } })
      (indexed : Indexed executionId (some adapterName) (coreRecordStatus s₁.core.verifications.records executionId)
        (some v.status) s₁ s')

variable {D}

theorem resolveObserver_name {adapterName operation target : String}
    (h : resolveObserver D adapterName operation target ≠ none) :
    lowerName adapterName = "docker" ∨ lowerName adapterName = "git" := by
  unfold resolveObserver at h
  split at h
  · next docker => exact .inl docker.1
  · split at h
    · next git => exact .inr git.1
    · exact absurd rfl h

/-- Observing changes the world, and what it raises is no observation. -/
theorem observed_yields {x : Script W L Raised (Option ObservedState)}
    {Q : Except Raised (Option ObservedState) → Site W → List (Notice L) → Prop}
    {X : Raised → Site W → List (Notice L) → Prop}
    (h : ∀ r w ls, (∀ m ∈ ls, m.isCore) → Q r { s with core := { s.core with world := w } } ls) :
    Script.Yields Q X (Script.caught (inCore (outside x))) s := by
  apply Script.yields_caught.mpr
  apply yields_inCore.mpr
  unfold Script.Yields
  rw [exec_outside]
  cases (x.exec s.core.world).1 with
  | ok a => exact h _ _ _ (core_labels _)
  | error e => exact h _ _ _ (core_labels _)

/-- **What verifying above the core comes to.** -/
theorem verifyExecutedAction_yields {executionId adapterName operation target : String}
    {expected : Option ExpectedOutcome} {actionId : Option String} : Script.Yields
    (fun _ s' (ls : List (Notice L)) => Watched D executionId adapterName operation target s s' ∧ ∀ m ∈ ls, m.isCore)
    (fun _ _ _ => False) (verifyExecutedAction D executionId adapterName operation target expected actionId) s := by
  unfold verifyExecutedAction
  dsimp only
  cases found : resolveObserver D adapterName operation target with
  | none =>
    apply Script.yields_bind.mpr
    refine updateIndexAndNotify_yields.mono ?_ fun _ _ _ h => h
    rintro _ s' ls ⟨indexed, rfl⟩
    apply Script.yields_pure.mpr
    exact ⟨.unobserved found indexed, by simp⟩
  | some observer =>
    apply Script.yields_bind.mpr
    apply Script.yields_read.mpr
    apply Script.yields_bind.mpr
    apply observed_yields
    intro answer w ls labels
    apply Script.yields_bind.mpr
    apply Script.yields_read.mpr
    have observer_found : resolveObserver D adapterName operation target ≠ none := by simp [found]
    apply Script.yields_bind.mpr
    apply yields_inCore.mpr
    apply Script.yields_modify.mpr
    have above := fun supersedes => aboveCore_result (resolveObserver_name observer_found) executionId
      (expected.or ((expectedStateFor adapterName operation).map fun state => ⟨target, operation, state⟩))
      (observation answer) supersedes
    generalize aboveCoreResult executionId adapterName = result at above ⊢
    apply Script.yields_bind.mpr
    refine updateIndexAndNotify_yields.mono ?_ fun _ _ _ h => h
    rintro _ s' ls' ⟨indexed, rfl⟩
    apply Script.yields_pure.mpr
    refine ⟨.observed observer_found _ (above _) _ rfl indexed, ?_⟩
    simpa using labels

end

/-- What recording a failure does. -/
inductive Marked (r : GovernedResult) (s s' : Site W) : Prop where
  | unfailed (attempt : failedAttempt r = none) (same : s' = s)
  | known (e : Execution) (attempt : failedAttempt r = some e)
      (found : s.core.verifications.get? (·.executionId) e.executionId ≠ none) (same : s' = s)
  | marked (e : Execution) (attempt : failedAttempt r = some e)
      (absent : s.core.verifications.get? (·.executionId) e.executionId = none) (v : VerificationResult)
      (id : v.executionId = e.executionId) (status : v.status = adapterExecutionFailed)
      (saved : s' = { s with core := { s.core with verifications := s.core.verifications.save v } })

theorem recordFailedExecutionEvidence_yields {r : GovernedResult} {expected : Option ExpectedOutcome} : Script.Yields
    (fun _ s' (ls : List (Notice L)) => Marked r s s' ∧ ls = []) (fun _ _ _ => False)
    (recordFailedExecutionEvidence r expected) s := by
  unfold recordFailedExecutionEvidence
  cases attempt : failedAttempt r with
  | none => exact ⟨.unfailed attempt rfl, rfl⟩
  | some e =>
    apply Script.yields_bind.mpr
    apply Script.yields_read.mpr
    cases found : s.core.verifications.get? (·.executionId) e.executionId with
    | some v => exact ⟨.known e attempt (by simp [found]) rfl, rfl⟩
    | none =>
      apply Script.yields_bind.mpr
      apply yields_inCore.mpr
      apply Script.yields_modify.mpr
      apply Script.yields_pure.mpr
      exact ⟨.marked e attempt found _ rfl rfl rfl, rfl⟩

/-- Looking at what was executed leaves grants and provenance as they are. -/
def Seen (s s' : Site W) : Prop := s' = { s with core := s'.core, index := s'.index }

theorem Indexed.seen {executionId : String} {adapter coreStatus aboveCoreStatus : Option String}
    (h : Indexed executionId adapter coreStatus aboveCoreStatus s s') : Seen s s' := by
  rw [Seen, h.same]

theorem Watched.seen {D : Deployment W L} {executionId adapterName operation target : String}
    (h : Watched D executionId adapterName operation target s s') : Seen s s' := by
  cases h with
  | unobserved none indexed => exact indexed.seen
  | observed observer v above s₁ saved indexed =>
    rw [Seen, indexed.same, saved]

theorem Marked.seen {r : GovernedResult} (h : Marked r s s') : Seen s s' := by
  cases h with
  | unfailed attempt same => rw [same]; rfl
  | known e attempt found same => rw [same]; rfl
  | marked e attempt absent v id status saved => rw [saved]; rfl

/-! ### Before a call of the core -/

section
variable {D : Deployment W L}

/-- The clock may have been read, and entries dropped that are too old. -/
def Glanced (s s' : Site W) : Prop :=
  s' = { s with core := { s.core with ticks := s'.core.ticks }, provenance := s'.provenance }

theorem Glanced.untold (h : Glanced s s') : Untold s s' := by
  rw [h]
  exact ⟨⟨rfl, rfl, le_rfl⟩, rfl⟩

theorem getHoldProvenance_yields {approvalId : String} : Script.Yields
    (fun _ s' (ls : List (Notice L)) => Glanced s s' ∧ ls = []) (fun _ _ _ => False) (getHoldProvenance D approvalId) s := by
  unfold getHoldProvenance
  split
  · exact ⟨rfl, rfl⟩
  · apply Script.yields_bind.mpr
    apply Script.yields_read.mpr
    cases get? (·.approvalId) approvalId s.provenance with
    | none => exact ⟨rfl, rfl⟩
    | some p =>
      apply Script.yields_bind.mpr
      apply yields_inCore.mpr
      apply yields_now.mpr
      split <;> exact ⟨rfl, rfl⟩

theorem checkSeparation_yields {approvalId approver : String} : Script.Yields
    (fun _ s' (ls : List (Notice L)) => Glanced s s' ∧ ls = []) (fun _ _ _ => False)
    (checkSeparation D approvalId approver) s := by
  unfold checkSeparation
  split
  · exact ⟨rfl, rfl⟩
  · apply Script.yields_bind.mpr
    refine getHoldProvenance_yields.mono ?_ fun _ _ _ h => h
    rintro p s' ls ⟨glanced, rfl⟩
    exact ⟨glanced, rfl⟩

theorem recordHoldProvenance_yields {approvalId : String} {grantId grantedBy agentId : Option String} : Script.Yields
    (fun _ s' (ls : List (Notice L)) => Untold s s' ∧ ls = []) (fun _ _ _ => False)
    (recordHoldProvenance D approvalId grantId grantedBy agentId) s := by
  unfold recordHoldProvenance
  split
  · exact ⟨Untold.refl s, rfl⟩
  · apply Script.yields_bind.mpr
    apply yields_inCore.mpr
    apply yields_now.mpr
    exact ⟨⟨⟨rfl, rfl, le_rfl⟩, rfl⟩, rfl⟩

theorem buildRemediationAction_yields {evaluation : HealthEvaluation} {decisionReason : Option String} : Script.Yields
    (fun action s' (ls : List (Notice L)) => Untold s s' ∧
      (∀ a ∈ action, a.expectedOutcome.isSome ∧ a.actionType = .restart) ∧ ls = [])
    (fun _ _ _ => False) (buildRemediationAction D evaluation decisionReason) s := by
  unfold buildRemediationAction
  split
  · exact ⟨Untold.refl s, by simp, rfl⟩
  · split
    · exact ⟨Untold.refl s, by simp, rfl⟩
    · apply Script.yields_bind.mpr
      apply yields_inCore.mpr
      apply yields_uuid4.mpr
      apply Script.yields_bind.mpr
      apply yields_inCore.mpr
      apply yields_uuid4.mpr
      exact ⟨⟨⟨rfl, rfl, Nat.le_add_right _ 2⟩, rfl⟩, by simp, rfl⟩

end

end RmtPlatform.Ops
