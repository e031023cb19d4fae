import RmtPlatform.Core.Agreement
import RmtPlatform.Ops.Calls

/-! Runs of the endpoints.

A run is any sequence of calls and restarts. Whatever a call records is about one
execution (`Confined`), whose identifier is new if adapters answer under the identifier
they are given; so what is recorded of an execution is decided by the call that made
it. A restart makes the index from the records. -/
namespace RmtPlatform.Ops

open Core Agent

variable {W L : Type} (D : Deployment W L)

/-! ### What a call records -/

/-- What a call comes to: nothing that is recorded, or one execution and what follows it. -/
inductive Episode (c : Call) (s : Site W) : List (Notice L) → Site W → Prop where
  | quiet (ls : List (Notice L)) (s' : Site W) (untold : Untold s s')
      (unexecuted : ∀ r, .returned r ∈ ls → r.execution? = none) : Episode c s ls s'
  | executed (b : Boundary) (r : GovernedResult) (e : Execution) (request : ExecutionRequest) (adapterName : String)
      (s₁ : Site W) (sₑ k : State W) (s₂ s₃ : Site W) (ls : List (Notice L)) (s' : Site W)
      (opens : Script.exec (c.opening D) s = (.ok (some b), s₁)) (before : Untold s s₁)
      (result : r.execution? = some e) (engages : Engages D.toPlatform b s₁.core request adapterName sₑ)
      (executed : Executed D.toPlatform request adapterName sₑ e k) (draws : sₑ.draws ≤ k.draws)
      (after : Untold { s₁ with core := k } s₂) (looked : Looked D (c.watch D s₁ b r) s₂ s₃) (noted : Noted c r s₃ s')
      (told : .returned r ∈ ls) (only : ∀ r', .returned r' ∈ ls → r' = r) : Episode c s ls s'

section
variable {D} {c : Call} {s s₁ s' : Site W}

theorem marked_unfailed {r : GovernedResult} (h : r.execution? = none) (marked : Marked r s s') : s' = s := by
  have unfailed : failedAttempt r = none := by simp [failedAttempt, h]
  cases marked with
  | unfailed attempt same => exact same
  | known e attempt => simp [unfailed] at attempt
  | marked e attempt => simp [unfailed] at attempt

/-- **What every call comes to.** -/
theorem call_episode : Episode D c s ((c.script D).emitted s) (Script.exec (c.script D) s).2 := by
  have course : Course D c s ((c.script D).emitted s) (Script.exec (c.script D) s).2 := call_course
  generalize (c.script D).emitted s = ls at course ⊢
  generalize (Script.exec (c.script D) s).2 = s' at course ⊢
  cases course with
  | apart _ _ untold labels => exact .quiet ls s' untold fun r hr => (labels _ hr).elim
  | answered b r s₁ k _ _ opens untold answer follows told labels =>
    obtain ⟨s₂, s₃, after, looked, noted⟩ := follows
    have only : ∀ r', .returned r' ∈ ls → r' = r := fun r' hr' =>
      (labels _ hr').elim (fun h => h.elim) fun h => Notice.returned.inj h
    have outcome := (@boundary_yields W L D.toPlatform s₁.core b).ok answer
    cases outcome with
    | unexecuted _ result same =>
      have looked' : s₃ = s₂ := by
        rw [watch_none result] at looked
        exact looked
      have noted' : s' = s₃ := by
        unfold Noted at noted
        split at noted
        · exact marked_unfailed result noted
        · exact noted
      subst looked' noted'
      refine .quiet ls _ (untold.trans ?_) fun r' hr' => (only r' hr').symm ▸ result
      have answered : Untold s₁ { s₁ with core := k } := ⟨same, rfl⟩
      exact answered.trans after
    | executed e request adapterName sₑ _ result engages executed draws =>
      exact .executed b r e request adapterName s₁ sₑ k s₂ s₃ ls s' opens untold result engages executed draws after looked
        noted told only

end

/-! ### One execution at a time -/

/-- A store with some records more, each of which is `p`. -/
def Grown {Record : Type} (p : Record → Prop) (d d' : DurableStore Record) : Prop :=
  ∃ rs : List Record, (∀ r ∈ rs, p r) ∧ d' = rs.foldl DurableStore.save d

section
variable {Record : Type} {p : Record → Prop} {d d₁ d' : DurableStore Record}

theorem Grown.refl (d : DurableStore Record) : Grown p d d := ⟨[], by simp, rfl⟩

theorem Grown.save {r : Record} (h : p r) : Grown p d (d.save r) := ⟨[r], by simpa using h, rfl⟩

theorem Grown.trans (h : Grown p d d₁) (h' : Grown p d₁ d') : Grown p d d' := by
  obtain ⟨rs, hrs, rfl⟩ := h
  obtain ⟨rs', hrs', rfl⟩ := h'
  refine ⟨rs ++ rs', fun r hr => ?_, (List.foldl_append ..).symm⟩
  exact (List.mem_append.mp hr).elim (hrs r) (hrs' r)

theorem Grown.records (h : Grown p d d') : ∃ rs, (∀ r ∈ rs, p r) ∧ d'.records = d.records ++ rs := by
  obtain ⟨rs, hrs, rfl⟩ := h
  refine ⟨rs, hrs, ?_⟩
  clear hrs
  induction rs generalizing d with
  | nil => simp
  | cons r rest ih =>
    rw [List.foldl_cons, ih]
    simp [DurableStore.save]

theorem Grown.mirrored (h : Grown p d d') (mirrored : d.Mirrored) : d'.Mirrored := by
  obtain ⟨rs, -, rfl⟩ := h
  induction rs generalizing d with
  | nil => exact mirrored
  | cons r rest ih => exact ih (mirrored.save (fun _ => rfl) r)

end

/-- Everything recorded and indexed is about one execution. -/
structure Confined (executionId : String) (s s' : Site W) : Prop where
  verifications : Grown (fun v => v.executionId = executionId) s.core.verifications s'.core.verifications
  audits : Grown (fun a => a.executionId = executionId) s.core.audits s'.core.audits
  rows : ∀ id, id ≠ executionId → s'.row? id = s.row? id
  draws : s.core.draws ≤ s'.core.draws

section
variable {D} {c : Call} {s s₁ s' : Site W} {executionId : String}

theorem Confined.trans (h : Confined executionId s s₁) (h' : Confined executionId s₁ s') : Confined executionId s s' :=
  ⟨h.verifications.trans h'.verifications, h.audits.trans h'.audits, fun id other => (h'.rows id other).trans (h.rows id other),
    h.draws.trans h'.draws⟩

theorem Untold.row? (h : Untold s s') (id : String) : s'.row? id = s.row? id := by
  unfold Site.row?
  rw [h.index]

theorem Untold.confined (h : Untold s s') : Confined executionId s s' := by
  refine ⟨?_, ?_, fun id _ => h.row? id, h.core.draws⟩
  · rw [h.core.verifications]
    exact Grown.refl _
  · rw [h.core.audits]
    exact Grown.refl _

theorem Indexed.confined {adapter coreStatus aboveCoreStatus : Option String}
    (h : Indexed executionId adapter coreStatus aboveCoreStatus s s') : Confined executionId s s' := by
  refine ⟨?_, ?_, h.others, ?_⟩
  all_goals rw [h.same]
  · exact Grown.refl _
  · exact Grown.refl _

theorem Watched.confined {adapterName operation target : String}
    (h : Watched D executionId adapterName operation target s s') : Confined executionId s s' := by
  cases h with
  | unobserved none indexed => exact indexed.confined
  | observed observer v above s₁ saved indexed =>
    have stored : Confined executionId s s₁ := by
      rw [saved]
      exact ⟨Grown.save above.id, Grown.refl _, fun _ _ => rfl, le_rfl⟩
    exact stored.trans indexed.confined

theorem watch_execution {b : Boundary} {r : GovernedResult} {e : Execution} {w : Watch} (result : r.execution? = some e)
    (h : c.watch D s b r = some w) : w.execution = e := by
  unfold Call.watch at h
  rw [result] at h
  dsimp only at h
  split at h
  all_goals first
    | (split at h <;> cases h; rfl)
    | (split at h
       · split at h <;> cases h; rfl
       · cases h)
    | cases h

theorem Looked.confined {b : Boundary} {r : GovernedResult} {e : Execution} (result : r.execution? = some e)
    (h : Looked D (c.watch D s₁ b r) s s') : Confined e.executionId s s' := by
  cases watched : c.watch D s₁ b r with
  | none =>
    rw [watched] at h
    rw [show s' = s from h]
    exact (Untold.refl s).confined
  | some w =>
    rw [watched] at h
    rw [← watch_execution result watched]
    exact Watched.confined h

theorem failedAttempt_id {r : GovernedResult} {e e' : Execution} (result : r.execution? = some e)
    (h : failedAttempt r = some e') : e' = e ∧ e.success = false := by
  unfold failedAttempt at h
  rw [result] at h
  dsimp only at h
  split at h
  · next failed =>
    cases h
    exact ⟨rfl, by simpa using failed.1⟩
  · cases h

theorem Noted.confined {r : GovernedResult} {e : Execution} (result : r.execution? = some e) (h : Noted c r s s') :
    Confined e.executionId s s' := by
  have still : s' = s → Confined e.executionId s s' := by
    rintro rfl
    exact (Untold.refl _).confined
  unfold Noted at h
  split at h
  · cases h with
    | unfailed attempt same => exact still same
    | known e' attempt found same => exact still same
    | marked e' attempt absent v id status saved =>
      obtain ⟨rfl, -⟩ := failedAttempt_id result attempt
      rw [saved]
      exact ⟨Grown.save id, Grown.refl _, fun _ _ => rfl, le_rfl⟩
  · exact still h

/-- Adapters answer under the identifier they are given. -/
def OwnAnswers (P : Platform W L) : Prop :=
  ∀ request adapterName result, Answers P request adapterName result → result.executionId = request.executionId

theorem executed_id {P : Platform W L} (own : OwnAnswers P) {request : ExecutionRequest} {adapterName : String}
    {k k' : State W} {e : Execution} (h : Executed P request adapterName k e k') : e.executionId = request.executionId := by
  cases h with
  | stopped stopped failure id => exact id
  | failed result a taken answer failure id => exact id.trans (own _ _ _ answer)
  | succeeded result a observed taken answer success id => exact id.trans (own _ _ _ answer)

theorem executed_confined {P : Platform W L} {request : ExecutionRequest} {adapterName : String} {k k' : State W}
    {e : Execution} (h : Executed P request adapterName k e k') :
    Grown (fun v => v.executionId = e.executionId) k.verifications k'.verifications ∧
      Grown (fun a => a.executionId = e.executionId) k.audits k'.audits := by
  cases h with
  | stopped stopped failure id audits verifications =>
    rw [audits, verifications]
    exact ⟨Grown.refl _, Grown.refl _⟩
  | failed result a taken answer failure id audited adapter audits verifications =>
    rw [audits, verifications]
    exact ⟨Grown.refl _, Grown.save (audited.trans id.symm)⟩
  | succeeded result a observed taken answer success id audited adapter audits verifications =>
    rw [audits, verifications]
    exact ⟨Grown.save ((verify_id _ _ _).trans id.symm), Grown.save (audited.trans id.symm)⟩

/-- **A call records what is about one execution**, which is new if it is the call's own. -/
theorem call_confined : Untold s (Script.exec (c.script D) s).2 ∨
    ∃ r e, .returned r ∈ (c.script D).emitted s ∧ r.execution? = some e ∧
      Confined e.executionId s (Script.exec (c.script D) s).2 ∧
      (OwnAnswers D.toPlatform → New D.uuid4 s.core (Script.exec (c.script D) s).2.core e.executionId) := by
  have episode : Episode D c s ((c.script D).emitted s) (Script.exec (c.script D) s).2 := call_episode
  generalize (c.script D).emitted s = ls at episode ⊢
  generalize (Script.exec (c.script D) s).2 = s' at episode ⊢
  cases episode with
  | quiet _ _ untold unexecuted => exact .inl untold
  | executed b r e request adapterName s₁ sₑ k s₂ s₃ _ _ opens before result engages executed draws after looked noted told
      only =>
    obtain ⟨unrecorded, new⟩ := engages.before
    obtain ⟨verifications, audits⟩ := executed_confined executed
    have middle : Confined e.executionId s₁ { s₁ with core := k } := by
      refine ⟨?_, ?_, fun _ _ => rfl, unrecorded.draws.trans draws⟩
      · rw [← unrecorded.verifications]
        exact verifications
      · rw [← unrecorded.audits]
        exact audits
    have last := (after.confined.trans (Looked.confined result looked)).trans (Noted.confined result noted)
    refine .inr ⟨r, e, told, result, (before.confined.trans middle).trans last, fun own => ?_⟩
    rw [executed_id own executed]
    exact new.mono before.core.draws (draws.trans last.draws)

end

/-! ### Restarts -/

/-- A new process: the stores as they are on disk, holds corrected, and the index made again. The archiving of aged
evidence, which the same startup runs, is left out here (see `Aging`). -/
def Site.restart (s : Site W) : Site W :=
  let core := (Script.exec (reconcileHolds : Governed W L Unit) (s.core.restart D.toPlatform)).2
  { core
    grants := s.grants.restart id
    provenance := []
    index := rebuild core.verifications.records core.audits.records }

section
variable {D} {s s' : Site W}

/-- Correcting holds changes no other store. -/
theorem reconcileHolds_holds (k : State W) : (Script.exec (reconcileHolds : Governed W L Unit) k).2 =
    { k with holds := (Script.exec (reconcileHolds : Governed W L Unit) k).2.holds } := by
  have trans : ∀ a b k : State W, b = { a with holds := b.holds } → k = { b with holds := k.holds } →
      k = { a with holds := k.holds } := fun a b k h h' => by rw [h', h]
  have from_ : ∀ left i, Script.Moves (fun a b : State W => b = { a with holds := b.holds })
      (reconcileFrom left i : Governed W L Unit) := by
    intro left
    induction left with
    | zero => exact fun i k => rfl
    | succ left ih =>
      intro i
      unfold reconcileFrom
      refine Script.Moves.bind trans (fun k => rfl) fun found => ?_
      cases found with
      | none => exact ih (i + 1)
      | some f => exact Script.Moves.bind trans (fun k => rfl) fun _ => ih (i + 1)
  unfold reconcileHolds
  exact Script.Moves.bind trans (fun k => rfl) (fun count => from_ count 0) k

theorem restart_core (s : Site W) : ∃ holds, (s.restart D).core = { s.core.restart D.toPlatform with holds } :=
  ⟨_, reconcileHolds_holds (L := L) (s.core.restart D.toPlatform)⟩

theorem get?_rebuild (verifications : List VerificationResult) (audits : List ExecutionAuditRecord) (id : String) :
    get? (·.executionId) id (rebuild verifications audits) =
      if ∃ v ∈ verifications, v.executionId = id then some (rebuiltRow verifications audits id) else none := by
  have row : ∀ i, (rebuiltRow verifications audits i).executionId = i := fun i => rfl
  have found : ∀ ids : List String, get? (·.executionId) id (ids.map (rebuiltRow verifications audits)) =
      if id ∈ ids then some (rebuiltRow verifications audits id) else none := by
    intro ids
    induction ids with
    | nil => rfl
    | cons i rest ih =>
      unfold get? at *
      rw [List.map_cons, List.find?_cons]
      by_cases same : i = id
      · subst same
        simp [row]
      · rw [show decide ((rebuiltRow verifications audits i).executionId = id) = false by simpa [row] using same, ih]
        simp [Ne.symm same]
  unfold rebuild
  rw [found]
  simp [List.mem_eraseDups]

end

/-! ### Runs -/

/-- The adapter answered under this identifier in the call, and its answer is a failure. -/
def FailedIn (c : Call) (s : Site W) (executionId : String) : Prop :=
  ∃ r e, .returned r ∈ (c.script D).emitted s ∧ r.execution? = some e ∧ e.executionId = executionId ∧
    e.success = false ∧ ∃ a : ExecutionAuditRecord, a.executionId = executionId ∧
      (Script.exec (c.script D) s).2.core.audits = s.core.audits.save a

/-- The states of runs whose calls all meet `admits`, and the executions that failed in them. -/
inductive Reach (admits : Call → Site W → Prop) : Site W → Set String → Prop where
  | start (backend : Backend) (world : W) : Reach admits (.initial backend world) ∅
  | call {s : Site W} {failed : Set String} (c : Call) (before : Reach admits s failed) (admitted : admits c s) :
      Reach admits (Script.exec (c.script D) s).2 (failed ∪ {id | FailedIn D c s id})
  | restart {s : Site W} {failed : Set String} (before : Reach admits s failed) : Reach admits (s.restart D) failed

/-- Records and rows are about executions that have been made, and the disk has the records. -/
structure Tidy (s : Site W) : Prop where
  verifications : ∀ v ∈ s.core.verifications.records, Drawn D.uuid4 s.core v.executionId
  audits : ∀ a ∈ s.core.audits.records, Drawn D.uuid4 s.core a.executionId
  rows : ∀ id, s.row? id ≠ none → Drawn D.uuid4 s.core id
  mirrored : s.core.verifications.Mirrored ∧ s.core.audits.Mirrored

section
variable {D} {c : Call} {s s' : Site W}

theorem Tidy.confined {executionId : String} (h : Tidy D s) (confined : Confined executionId s s')
    (drawn : Drawn D.uuid4 s'.core executionId) : Tidy D s' := by
  obtain ⟨vs, hvs, verifications⟩ := confined.verifications.records
  obtain ⟨as, has, audits⟩ := confined.audits.records
  refine ⟨fun v hv => ?_, fun a ha => ?_, fun id row => ?_, ?_⟩
  · rw [verifications] at hv
    rcases List.mem_append.mp hv with hv | hv
    · exact (h.verifications v hv).mono confined.draws
    · exact (hvs v hv).symm ▸ drawn
  · rw [audits] at ha
    rcases List.mem_append.mp ha with ha | ha
    · exact (h.audits a ha).mono confined.draws
    · exact (has a ha).symm ▸ drawn
  · by_cases same : id = executionId
    · exact same ▸ drawn
    · rw [confined.rows id same] at row
      exact (h.rows id row).mono confined.draws
  · exact ⟨confined.verifications.mirrored h.mirrored.1, confined.audits.mirrored h.mirrored.2⟩

theorem Tidy.untold (h : Tidy D s) (untold : Untold s s') : Tidy D s' := by
  refine ⟨?_, ?_, fun id row => ?_, ?_⟩
  · rw [untold.core.verifications]
    exact fun v hv => (h.verifications v hv).mono untold.core.draws
  · rw [untold.core.audits]
    exact fun a ha => (h.audits a ha).mono untold.core.draws
  · rw [untold.row?] at row
    exact (h.rows id row).mono untold.core.draws
  · rw [untold.core.verifications, untold.core.audits]
    exact h.mirrored

theorem Tidy.call (own : OwnAnswers D.toPlatform) (h : Tidy D s) : Tidy D (Script.exec (c.script D) s).2 := by
  rcases @call_confined W L D c s with untold | ⟨r, e, -, -, confined, new⟩
  · exact h.untold untold
  · exact h.confined confined (new own).drawn

/-- A restart finds the records it had. -/
theorem Tidy.restored (h : Tidy D s) : (s.restart D).core.verifications.records = s.core.verifications.records ∧
    (s.restart D).core.audits.records = s.core.audits.records ∧
    (s.restart D).index = rebuild s.core.verifications.records s.core.audits.records := by
  obtain ⟨holds, core⟩ := @restart_core W L D s
  have verifications : (s.restart D).core.verifications.records = s.core.verifications.records := by
    rw [core]
    exact h.mirrored.1.restart
  have audits : (s.restart D).core.audits.records = s.core.audits.records := by
    rw [core]
    exact h.mirrored.2.restart
  refine ⟨verifications, audits, ?_⟩
  show rebuild (s.restart D).core.verifications.records (s.restart D).core.audits.records = _
  rw [verifications, audits]

theorem Tidy.restart (h : Tidy D s) : Tidy D (s.restart D) := by
  obtain ⟨verifications, audits, index⟩ := h.restored
  obtain ⟨holds, core⟩ := @restart_core W L D s
  have draws : (s.restart D).core.draws = s.core.draws := by rw [core]; rfl
  have drawn : ∀ id, Drawn D.uuid4 s.core id → Drawn D.uuid4 (s.restart D).core id := fun id h => h.mono draws.ge
  refine ⟨?_, ?_, fun id row => ?_, ?_⟩
  · rw [verifications]
    exact fun v hv => drawn _ (h.verifications v hv)
  · rw [audits]
    exact fun a ha => drawn _ (h.audits a ha)
  · unfold Site.row? at row
    rw [index, get?_rebuild] at row
    split at row
    · next found =>
      obtain ⟨v, hv, rfl⟩ := found
      exact drawn _ (h.verifications v hv)
    · exact absurd rfl row
  · rw [core]
    exact ⟨DurableStore.Trails.restart fun _ => rfl, DurableStore.Trails.restart fun _ => rfl⟩

theorem tidy_initial (backend : Backend) (world : W) : Tidy D (.initial backend world) := by
  refine ⟨?_, ?_, ?_, .nil, .nil⟩
  · intro v hv
    cases hv
  · intro a ha
    cases ha
  · intro id row
    exact absurd rfl row

theorem Reach.tidy {admits : Call → Site W → Prop} {failed : Set String} (own : OwnAnswers D.toPlatform)
    (h : Reach D admits s failed) : Tidy D s := by
  induction h with
  | start backend world => exact tidy_initial backend world
  | call c before admitted ih => exact ih.call own
  | restart before ih => exact ih.restart

end

end RmtPlatform.Ops
