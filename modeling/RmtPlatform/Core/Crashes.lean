import Mathlib.Data.List.Count
import RmtPlatform.Core.Agreement

/-! At most one execution for each approval record.

Calls come one at a time, and the process may stop between any two of their steps; a new
one starts with what is on disk and reconciles the holds before it serves. A hold that was
released in memory is pending again then, but its record was written before anything was
executed, and what a record says bounds what has been done under its identifier
(`Bounds`). Nothing is promised of a hold without a record: the process has stopped
between the two writes that make it. -/
namespace RmtPlatform.Core

variable {W L : Type}

/-! ### What is done under an approval -/

inductive Mark where
  | executed (approvalId : String)
  | rejected (approvalId : String)
  | expired (approvalId : String)
deriving DecidableEq

def Mark.approvalId : Mark → String
  | executed approvalId | rejected approvalId | expired approvalId => approvalId

/-- What an event says has been done. -/
def Event.mark : Event L → Option Mark
  | .adapterExecute _ authorization _ _ => authorization.approvalId.map .executed
  | .holdRejected approvalId => some (.rejected approvalId)
  | .holdExpired approvalId => some (.expired approvalId)
  | _ => none

def marks (trace : List (Event L)) : List Mark := trace.filterMap Event.mark

@[simp] theorem marks_nil : marks ([] : List (Event L)) = [] := rfl

/-- What a record allows to have been done under its identifier. -/
structure Bounds (done : List Mark) (r : ApprovalRecord) : Prop where
  once : done.count (.executed r.approvalId) ≤ 1
  executed : .executed r.approvalId ∈ done → r.decision = "approved"
  approved : r.decision = "approved" → .rejected r.approvalId ∉ done ∧ .expired r.approvalId ∉ done
  undecided : terminalStatus r.decision = none → .rejected r.approvalId ∉ done

/-- On disk a hold may be one decision behind, and expires when it does in memory. -/
structure Trailing (d h : ApprovalHold) : Prop extends Behind d h where
  expiresAt : d.expiresAt = h.expiresAt

theorem Trailing.refl (h : ApprovalHold) : Trailing h h := ⟨Behind.refl h, rfl⟩

/-- Between any two steps. -/
structure Intact (uuid4 : Nat → Uuid) (clock : Nat → Int) (s : State W) (done : List Mark) : Prop where
  hold_drawn : ∀ h ∈ s.holds.records, Drawn uuid4 s h.approvalId
  record_drawn : ∀ r ∈ s.records.records, Drawn uuid4 s r.approvalId
  authorization_drawn : ∀ a ∈ s.authorizations.records, Drawn uuid4 s a.authorizationId
  mark_drawn : ∀ m ∈ done, Drawn uuid4 s m.approvalId
  hold_unique : s.holds.Unique (·.approvalId)
  record_unique : s.records.Unique (·.approvalId)
  hold_trailing : s.holds.Trails Trailing
  record_mirrored : s.records.Mirrored
  authorization_mirrored : s.authorizations.Mirrored
  bounded : ∀ r ∈ s.records.records, Bounds done r
  /-- What was found expired is past its time. -/
  overdue : ∀ h ∈ s.holds.records, .expired h.approvalId ∈ done →
    ∃ e n, h.expiresAt = some e ∧ n < s.ticks ∧ e < clock n

/-- Between two calls: no decision is on record for a pending hold. -/
def Settled (s : State W) : Prop :=
  ∀ h ∈ s.holds.records, h.status = .pending → ∀ r ∈ s.records.records, r.approvalId = h.approvalId →
    terminalStatus r.decision = none

/-- Nobody else runs. -/
abbrev crashing (L : Type) (uuid4 : Nat → Uuid) (clock : Nat → Int) : Discipline (State W) (Event L) :=
  .alone (fun p => Intact uuid4 clock p.state (marks p.trace)) fun _ _ => True

/-- Every step of the script keeps the invariant; it returns in `Q`, and whatever it raises leaves the stores settled. -/
abbrev Serves (P : Platform W L) {α : Type} (Q : α → Point (State W) (Event L) → Prop) (x : Governed W L α)
    (p : Point (State W) (Event L)) : Prop :=
  Script.Safe (crashing L P.uuid4 P.clock) Q (fun _ q => Settled q.state) x p

/-! ### What changes nothing that matters here -/

/-- No store of the three has changed, nothing was done, and neither clock nor identifiers go back. -/
structure Passed (p q : Point (State W) (Event L)) : Prop extends Quiet p.state q.state where
  ticks : p.state.ticks ≤ q.state.ticks
  marks : marks q.trace = marks p.trace

section
variable {uuid4 : Nat → Uuid} {clock : Nat → Int} {s : State W} {done : List Mark} {p q r : Point (State W) (Event L)}

theorem Passed.refl (p : Point (State W) (Event L)) : Passed p p := ⟨Quiet.refl _, le_rfl, rfl⟩

theorem Passed.trans (h : Passed p q) (h' : Passed q r) : Passed p r :=
  ⟨h.toQuiet.trans _ _ _ h'.toQuiet, h.ticks.trans h'.ticks, h'.marks.trans h.marks⟩

theorem Intact.passed (kept : Intact uuid4 clock p.state (marks p.trace)) (h : Passed p q) :
    Intact uuid4 clock q.state (Core.marks q.trace) := by
  have drawn : ∀ id, Drawn uuid4 p.state id → Drawn uuid4 q.state id := fun _ => Drawn.mono h.draws
  constructor
  · rw [h.holds]
    exact fun x hx => drawn _ (kept.hold_drawn x hx)
  · rw [h.records]
    exact fun x hx => drawn _ (kept.record_drawn x hx)
  · rw [h.authorizations]
    exact fun x hx => drawn _ (kept.authorization_drawn x hx)
  · rw [h.marks]
    exact fun m hm => drawn _ (kept.mark_drawn m hm)
  · exact h.holds ▸ kept.hold_unique
  · exact h.records ▸ kept.record_unique
  · exact h.holds ▸ kept.hold_trailing
  · exact h.records ▸ kept.record_mirrored
  · exact h.authorizations ▸ kept.authorization_mirrored
  · rw [h.records, h.marks]
    exact kept.bounded
  · rw [h.holds, h.marks]
    intro x hx expired
    obtain ⟨e, n, expires, before, late⟩ := kept.overdue x hx expired
    exact ⟨e, n, expires, before.trans_le h.ticks, late⟩

theorem Settled.passed (settled : Settled p.state) (h : Passed p q) : Settled q.state := by
  unfold Settled at *
  rw [h.holds, h.records]
  exact settled

/-- A step of that kind. -/
def Passing (s : State W) (l : Option (Event L)) (s' : State W) : Prop :=
  Calm (fun m => m.mark = none) s l s' ∧ s.ticks ≤ s'.ticks

theorem Passing.passed {l : Option (Event L)} {f : State W → State W} (h : Passing p.state l (f p.state)) :
    Passed p (p.step l f) := by
  refine ⟨h.1.toQuiet, h.2, ?_⟩
  cases l with
  | none => rfl
  | some m => exact List.filterMap_cons_none (h.1.labels m rfl)

theorem safe_passing {β : Type} {x : Program (State W) (Event L) β} (steps : x.Steps Passing) :
    x.Safe (crashing L uuid4 clock) (fun _ q => Passed p q) p := by
  induction x generalizing p with
  | done a => exact Passed.refl p
  | act l e k ih =>
    rintro q rfl kept -
    obtain ⟨passing, rest⟩ := steps p.state
    have passed : Passed p (p.step l e) := passing.passed
    exact ⟨kept.passed passed, trivial, (ih p.state rest).mono fun _ _ => passed.trans⟩

end

/-! ### The clock -/

/-- The clock of the platform does not go back. -/
def Platform.Steady (P : Platform W L) : Prop := ∀ ⦃m n : Nat⦄, m ≤ n → P.clock m ≤ P.clock n

/-- The clock has not been turned back. -/
def Forward (s : State W) (_ : Option (Event L)) (s' : State W) : Prop := s.ticks ≤ s'.ticks

section
variable {P : Platform W L} {α β : Type}

abbrev ForwardScript (x : Governed W L α) : Prop := Script.Steps Forward x

theorem forward_pure (a : α) : ForwardScript (pure a : Governed W L α) := trivial

theorem forward_throw (e : Raised) : ForwardScript (throw e : Governed W L α) := trivial

theorem forward_uuid4 : ForwardScript (uuid4 P) := fun _ => ⟨le_rfl, trivial⟩

theorem forward_now : ForwardScript (now P) := fun _ => ⟨Nat.le_succ _, trivial⟩

theorem forward_outside (x : Script W L Raised α) : ForwardScript (outside x) := Program.Steps.within fun _ _ _ => le_rfl

/-- A step that does not read the clock. -/
theorem forward_modify {l : Option (Event L)} {f : State W → State W} (h : ∀ s, (f s).ticks = s.ticks) :
    ForwardScript (Script.modify l f) :=
  Script.steps_modify fun s => (h s).ge

theorem forward_evaluate {registration : AssessmentRegistration W L} {action : ActionRequest} {adapterName : String} :
    ForwardScript (evaluate P registration action adapterName) :=
  (Script.steps_ofExcept _).bind fun _ => (forward_outside _).bind fun _ => (forward_outside _).bind fun _ => forward_pure _

theorem forward_resolveAssessment {action : ActionRequest} {adapterName : String} :
    ForwardScript (resolveAssessment P action adapterName) := by
  unfold resolveAssessment
  split
  · exact forward_throw _
  · refine (Script.steps_raiseIf _ _).bind fun _ => ?_
    refine (Script.steps_raiseIf _ _).bind fun _ => ?_
    refine Script.Steps.bind (Script.Steps.caught forward_evaluate) fun answers => ?_
    split
    · exact forward_throw _
    · refine (Script.steps_ofExcept _).bind fun _ => ?_
      refine (Script.steps_ofExcept _).bind fun _ => ?_
      refine (Script.steps_raiseIf _ _).bind fun _ => ?_
      exact forward_uuid4.bind fun _ => (forward_modify fun _ => rfl).bind fun _ => forward_pure _

theorem forward_expired (expiresAt : Option Int) : ForwardScript (expired P expiresAt) := by
  unfold expired
  split
  · exact forward_pure _
  · exact forward_now.bind fun _ => forward_pure _

theorem forward_saveTrace (t : ExecutionTrace) : ForwardScript (saveTrace t : Governed W L Unit) :=
  forward_modify fun _ => rfl

theorem forward_blocked (request : ExecutionRequest) (reason : String) :
    ForwardScript (blocked request reason : Governed W L ExecutionResult) :=
  (forward_saveTrace _).bind fun _ => forward_pure _

theorem forward_verifyExecution {executionId : String} {request : ExecutionRequest} :
    ForwardScript (verifyExecution P executionId request) := by
  have saves : ∀ v, ForwardScript (saveVerification v : Governed W L Unit) := fun _ => forward_modify fun _ => rfl
  refine Script.Steps.bind ?_ fun _ => (saves _).bind fun _ => forward_pure _
  unfold observe
  dsimp only
  split
  · refine Script.Steps.bind (Script.Steps.caught (forward_outside _)) fun modules => ?_
    split
    · exact forward_pure _
    · split <;> exact forward_pure _
  · exact forward_pure _

theorem calm_verifyExecution {executionId : String} {request : ExecutionRequest} :
    CalmScript (fun m => m.mark = none) (verifyExecution P executionId request) := by
  unfold verifyExecution
  refine Script.Steps.bind (calm_observe fun _ => rfl) fun observed => ?_
  exact Script.Steps.bind (calm_saveVerification _) fun _ => calm_pure _

/-! ### Statements -/

variable {p : Point (State W) (Event L)} {Q : α → Point (State W) (Event L) → Prop}

/-- A script that changes nothing that matters here. -/
theorem serves_passing {x : Governed W L α} (settled : Settled p.state) (calm : CalmScript (fun m => m.mark = none) x)
    (forward : ForwardScript x) (h : ∀ a q, Passed p q → Q a q) : Serves P Q x p :=
  (safe_passing (Program.Steps.and calm forward)).mono fun r q passed => match r with
    | .ok a => h a q passed
    | .error _ => settled.passed passed

/-- The identifier names nothing yet. -/
structure Unused (s : State W) (done : List Mark) (id : String) : Prop where
  hold : ∀ h ∈ s.holds.records, h.approvalId ≠ id
  record : ∀ r ∈ s.records.records, r.approvalId ≠ id
  authorization : ∀ a ∈ s.authorizations.records, a.authorizationId ≠ id
  mark : ∀ m ∈ done, m.approvalId ≠ id

theorem Unused.passed {q : Point (State W) (Event L)} {id : String} (h : Unused p.state (marks p.trace) id)
    (passed : Passed p q) : Unused q.state (marks q.trace) id := by
  constructor
  · exact passed.holds ▸ h.hold
  · exact passed.records ▸ h.record
  · exact passed.authorizations ▸ h.authorization
  · exact passed.marks ▸ h.mark

/-- An identifier that is drawn is a new one. -/
theorem serves_uuid4 {Q : String → Point (State W) (Event L) → Prop}
    (h : ∀ id q, Passed p q → Drawn P.uuid4 q.state id → Unused q.state (marks q.trace) id → Q id q) :
    Serves P Q (uuid4 P) p := by
  refine Script.safe_step fun q same kept _ => ?_
  obtain rfl := same
  have passed : Passed p (p.step none fun _ => { p.state with draws := p.state.draws + 1 }) :=
    ⟨⟨rfl, rfl, rfl, Nat.le_succ _⟩, le_rfl, rfl⟩
  have new : ∀ id, Drawn P.uuid4 p.state id → id ≠ (P.uuid4 p.state.draws).text := by
    rintro id ⟨n, before, rfl⟩ same
    exact absurd (P.uuid4_fresh _ _ same) before.ne
  refine ⟨kept.passed passed, trivial, h _ _ passed ⟨p.state.draws, Nat.lt_succ_self _, rfl⟩ ?_⟩
  exact ⟨fun x hx => new _ (kept.hold_drawn x hx), fun x hx => new _ (kept.record_drawn x hx),
    fun x hx => new _ (kept.authorization_drawn x hx), fun m hm => new _ (kept.mark_drawn m hm)⟩

/-- A step that keeps the invariant. -/
theorem serves_modify {Q : Unit → Point (State W) (Event L) → Prop} {l : Option (Event L)} {f : State W → State W}
    (kept : Intact P.uuid4 P.clock p.state (marks p.trace) →
      Intact P.uuid4 P.clock (f p.state) (marks (l.toList ++ p.trace)))
    (h : Q () (p.step l f)) : Serves P Q (Script.modify l f) p := by
  refine Script.safe_modify fun q same inv _ => ?_
  obtain rfl := same
  exact ⟨kept inv, trivial, h⟩

end

/-! ### Changes to the stores -/

theorem DurableStore.forall_save {Record : Type} {s : DurableStore Record} {r : Record} {motive : Record → Prop}
    (each : ∀ x ∈ s.records, motive x) (last : motive r) : ∀ x ∈ (s.save r).records, motive x := by
  intro x hx
  rcases List.mem_append.mp hx with hx | hx
  · exact each x hx
  · rwa [List.mem_singleton.mp hx]

section
variable {uuid4 : Nat → Uuid} {clock : Nat → Int} {s : State W} {done : List Mark}

theorem Bounds.new {r : ApprovalRecord} (unused : ∀ m ∈ done, m.approvalId ≠ r.approvalId) : Bounds done r := by
  have absent : ∀ m : Mark, m.approvalId = r.approvalId → m ∉ done := fun m same mem => unused m mem same
  refine ⟨?_, fun mem => absurd mem (absent _ rfl), fun _ => ⟨absent _ rfl, absent _ rfl⟩, fun _ => absent _ rfl⟩
  rw [List.count_eq_zero_of_not_mem (absent _ rfl)]
  exact Nat.zero_le 1

/-- What is done under another identifier. -/
theorem Bounds.other {r : ApprovalRecord} {m : Mark} (h : Bounds done r) (other : m.approvalId ≠ r.approvalId) :
    Bounds (m :: done) r := by
  have apart : ∀ m' : Mark, m'.approvalId = r.approvalId → (m' ∈ m :: done ↔ m' ∈ done) := fun m' same => by
    refine ⟨fun mem => (List.mem_cons.mp mem).resolve_left ?_, List.mem_cons_of_mem m⟩
    rintro rfl
    exact other same
  refine ⟨?_, fun mem => h.executed ((apart _ rfl).mp mem), fun approved => ?_, fun undecided => ?_⟩
  · rw [List.count_cons_of_ne]
    · exact h.once
    · rintro rfl
      exact other rfl
  · obtain ⟨rejected, expired⟩ := h.approved approved
    exact ⟨fun mem => rejected ((apart _ rfl).mp mem), fun mem => expired ((apart _ rfl).mp mem)⟩
  · exact fun mem => h.undecided undecided ((apart _ rfl).mp mem)

theorem Bounds.unexecuted {r : ApprovalRecord} (h : Bounds done r) (undecided : terminalStatus r.decision = none) :
    .executed r.approvalId ∉ done := fun mem => by
  rw [h.executed mem] at undecided
  cases undecided

/-- The adapter is called under a record that says so. -/
theorem Bounds.execute {r : ApprovalRecord} (h : Bounds done r) (approved : r.decision = "approved")
    (unused : .executed r.approvalId ∉ done) : Bounds (.executed r.approvalId :: done) r := by
  refine ⟨?_, fun _ => approved, fun _ => ?_, fun undecided => ?_⟩
  · rw [List.count_cons_self, List.count_eq_zero_of_not_mem unused]
  · obtain ⟨rejected, expired⟩ := h.approved approved
    exact ⟨by simpa using rejected, by simpa using expired⟩
  · rw [approved] at undecided
    cases undecided

/-- The record that says so is written first. -/
theorem Bounds.reject {r : ApprovalRecord} (h : Bounds done r) (rejected : r.decision = "rejected") :
    Bounds (.rejected r.approvalId :: done) r := by
  refine ⟨?_, fun executed => h.executed (by simpa using executed), fun approved => ?_, fun undecided => ?_⟩
  · rw [List.count_cons_of_ne (by simp)]
    exact h.once
  · exact absurd (rejected.symm.trans approved) (by decide)
  · rw [rejected] at undecided
    cases undecided

/-- The record still says nothing. -/
theorem Bounds.expire {r : ApprovalRecord} (h : Bounds done r) (undecided : terminalStatus r.decision = none) :
    Bounds (.expired r.approvalId :: done) r := by
  have unexecuted := h.unexecuted undecided
  refine ⟨?_, fun executed => ?_, fun approved => ?_, fun _ => by simpa using h.undecided undecided⟩
  · rw [List.count_cons_of_ne (by simp), List.count_eq_zero_of_not_mem unexecuted]
    exact Nat.zero_le 1
  · exact absurd (by simpa using executed) unexecuted
  · rw [approved] at undecided
    cases undecided

namespace Intact
variable (kept : Intact uuid4 clock s done)
include kept

theorem saveRecord {r : ApprovalRecord} (drawn : Drawn uuid4 s r.approvalId)
    (new : ∀ r' ∈ s.records.records, r'.approvalId ≠ r.approvalId)
    (unmarked : ∀ m ∈ done, m.approvalId ≠ r.approvalId) :
    Intact uuid4 clock { s with records := s.records.save r } done :=
  { kept with
    record_drawn := DurableStore.forall_save kept.record_drawn drawn
    record_unique := kept.record_unique.save new
    record_mirrored := kept.record_mirrored.save (fun _ => rfl) r
    bounded := DurableStore.forall_save kept.bounded (.new unmarked) }

theorem saveHold {h : ApprovalHold} (drawn : Drawn uuid4 s h.approvalId) (unused : Unused s done h.approvalId) :
    Intact uuid4 clock { s with holds := s.holds.save h } done :=
  { kept with
    hold_drawn := DurableStore.forall_save kept.hold_drawn drawn
    hold_unique := kept.hold_unique.save unused.hold
    hold_trailing := kept.hold_trailing.save .refl h
    overdue := DurableStore.forall_save kept.overdue fun expired => absurd rfl (unused.mark _ expired) }

theorem saveAuthorization {a : ExecutionAuthorization} (drawn : Drawn uuid4 s a.authorizationId) :
    Intact uuid4 clock { s with authorizations := s.authorizations.save a } done :=
  { kept with
    authorization_drawn := DurableStore.forall_save kept.authorization_drawn drawn
    authorization_mirrored := kept.authorization_mirrored.save (fun _ => rfl) a }

/-- One hold set anew, in memory or on disk as well. -/
theorem setHold {holds : DurableStore ApprovalHold} {approvalId : String} {f : ApprovalHold → ApprovalHold}
    (set : holds.records = DurableStore.setKey (·.approvalId) approvalId f s.holds.records)
    (keeps : ∀ h, (f h).approvalId = h.approvalId ∧ (f h).expiresAt = h.expiresAt) (trailing : holds.Trails Trailing) :
    Intact uuid4 clock { s with holds } done := by
  have back : ∀ h ∈ holds.records, ∃ old ∈ s.holds.records,
      h.approvalId = old.approvalId ∧ h.expiresAt = old.expiresAt := by
    intro h hh
    rw [set] at hh
    rcases DurableStore.mem_setKey.mp hh with ⟨old, mem, -, rfl⟩ | ⟨mem, -⟩
    · exact ⟨old, mem, keeps old⟩
    · exact ⟨h, mem, rfl, rfl⟩
  exact
    { kept with
      hold_drawn := fun h hh => by
        obtain ⟨old, mem, id, -⟩ := back h hh
        exact id ▸ kept.hold_drawn old mem
      hold_unique := by
        show (holds.records.map _).Nodup
        rw [set, DurableStore.setKey_keys fun h => (keeps h).1]
        exact kept.hold_unique
      hold_trailing := trailing
      overdue := fun h hh expired => by
        obtain ⟨old, mem, id, expires⟩ := back h hh
        rw [id] at expired
        rw [expires]
        exact kept.overdue old mem expired }

/-- A field of one hold set in memory. -/
theorem mutateHold {approvalId : String} {f : ApprovalHold → ApprovalHold}
    (keeps : ∀ h, (f h).approvalId = h.approvalId ∧ (f h).expiresAt = h.expiresAt)
    (falls : ∀ d, ∀ h ∈ s.holds.records, Trailing d h → h.approvalId = approvalId →
      d.status = .pending ∨ d.status = (f h).status) :
    Intact uuid4 clock { s with holds := s.holds.mutate (·.approvalId) approvalId f } done := by
  refine kept.setHold (DurableStore.mutate_records kept.hold_unique) keeps ?_
  refine kept.hold_trailing.mutate kept.hold_unique fun d h mem trailing id => ?_
  exact ⟨⟨trailing.id.trans (keeps h).1.symm, falls d h mem trailing id⟩, trailing.expiresAt.trans (keeps h).2.symm⟩

/-- A pending hold set in memory: on disk it is pending. -/
theorem mutatePending {hold : ApprovalHold} (mem : hold ∈ s.holds.records) (pending : hold.status = .pending)
    {f : ApprovalHold → ApprovalHold} (keeps : ∀ h, (f h).approvalId = h.approvalId ∧ (f h).expiresAt = h.expiresAt) :
    Intact uuid4 clock { s with holds := s.holds.mutate (·.approvalId) hold.approvalId f } done := by
  refine kept.mutateHold keeps fun d h hh trailing id => .inl ?_
  obtain rfl : h = hold := List.inj_on_of_nodup_map kept.hold_unique hh mem id
  exact trailing.status.elim (·) (·.trans pending)

theorem updateHold {approvalId : String} {f : ApprovalHold → ApprovalHold}
    (keeps : ∀ h, (f h).approvalId = h.approvalId ∧ (f h).expiresAt = h.expiresAt) :
    Intact uuid4 clock { s with holds := s.holds.update (·.approvalId) approvalId f } done :=
  kept.setHold (DurableStore.update_records kept.hold_unique) keeps
    (kept.hold_trailing.update kept.hold_unique .refl fun _ _ h => h.id)

theorem updateRecord {approvalId : String} {f : ApprovalRecord → ApprovalRecord}
    (keeps : ∀ r, (f r).approvalId = r.approvalId)
    (bounded : ∀ r ∈ s.records.records, r.approvalId = approvalId → Bounds done r → Bounds done (f r)) :
    Intact uuid4 clock { s with records := s.records.update (·.approvalId) approvalId f } done :=
  { kept with
    record_drawn := fun x hx => by
      rcases (DurableStore.mem_update kept.record_unique).mp hx with ⟨old, mem, -, rfl⟩ | ⟨mem, -⟩
      · rw [keeps]
        exact kept.record_drawn old mem
      · exact kept.record_drawn x mem
    record_unique := kept.record_unique.update keeps
    record_mirrored := kept.record_mirrored.update kept.record_unique (fun _ => rfl) fun _ _ h => h ▸ rfl
    bounded := fun x hx => by
      rcases (DurableStore.mem_update kept.record_unique).mp hx with ⟨old, mem, id, rfl⟩ | ⟨mem, -⟩
      · exact bounded old mem id (kept.bounded old mem)
      · exact kept.bounded x mem }

/-- Something is done under an approval. -/
theorem mark {m : Mark} (drawn : Drawn uuid4 s m.approvalId)
    (bounded : ∀ r ∈ s.records.records, r.approvalId = m.approvalId → Bounds done r → Bounds (m :: done) r)
    (overdue : ∀ h ∈ s.holds.records, m = .expired h.approvalId →
      ∃ e n, h.expiresAt = some e ∧ n < s.ticks ∧ e < clock n) : Intact uuid4 clock s (m :: done) :=
  { kept with
    mark_drawn := fun x hx => by
      rcases List.mem_cons.mp hx with rfl | hx
      · exact drawn
      · exact kept.mark_drawn x hx
    bounded := fun r hr => by
      by_cases same : r.approvalId = m.approvalId
      · exact bounded r hr same (kept.bounded r hr)
      · exact (kept.bounded r hr).other (Ne.symm same)
    overdue := fun h hh expired => by
      rcases List.mem_cons.mp expired with now | before
      · exact overdue h hh now.symm
      · exact kept.overdue h hh before }

/-- A decision on record, where there was none. -/
theorem decide {approvalId decision approvedBy : String}
    (bounded : ∀ r ∈ s.records.records, r.approvalId = approvalId → Bounds done r →
      Bounds done { r with decision, approvedBy }) :
    Intact uuid4 clock
      { s with records := s.records.update (·.approvalId) approvalId fun r => { r with decision, approvedBy } } done :=
  kept.updateRecord (fun _ => rfl) bounded

theorem reject {approvalId approvedBy : String} (drawn : Drawn uuid4 s approvalId)
    (undecided : ∀ r ∈ s.records.records, r.approvalId = approvalId → terminalStatus r.decision = none) :
    Intact uuid4 clock
      { s with
        records := s.records.update (·.approvalId) approvalId fun r => { r with decision := "rejected", approvedBy } }
      (.rejected approvalId :: done) := by
  have told : Intact uuid4 clock
      { s with
        records := s.records.update (·.approvalId) approvalId fun r => { r with decision := "rejected", approvedBy } }
      done := by
    refine kept.decide fun r hr id bounds => ⟨bounds.once, fun executed => ?_, fun approved => ?_, fun open_ => ?_⟩
    · exact absurd executed (bounds.unexecuted (undecided r hr id))
    · exact absurd approved (by simp)
    · simp [terminalStatus] at open_
  refine told.mark drawn (fun r hr id bounds => ?_) fun _ _ other => by cases other
  -- It is the record that has just been set.
  have rejected : r.decision = "rejected" := by
    rcases (DurableStore.mem_update kept.record_unique).mp hr with ⟨old, -, -, rfl⟩ | ⟨-, other⟩
    · rfl
    · exact absurd id other
  replace id : r.approvalId = approvalId := id
  subst id
  exact bounds.reject rejected

/-- A hold with no decision on record is found past its time. -/
theorem expire {hold : ApprovalHold} (mem : hold ∈ s.holds.records)
    (undecided : ∀ r ∈ s.records.records, r.approvalId = hold.approvalId → terminalStatus r.decision = none)
    (late : ∃ e n, hold.expiresAt = some e ∧ n < s.ticks ∧ e < clock n) :
    Intact uuid4 clock s (.expired hold.approvalId :: done) := by
  refine kept.mark (kept.hold_drawn hold mem) (fun r hr id bounds => ?_) fun h hh same => ?_
  · have unsaid := undecided r hr id
    replace id : r.approvalId = hold.approvalId := id
    exact id ▸ bounds.expire unsaid
  · injection same with same
    obtain rfl : h = hold := List.inj_on_of_nodup_map kept.hold_unique hh mem same.symm
    exact late

theorem approve {approvalId approvedBy : String} (timely : .expired approvalId ∉ done)
    (undecided : ∀ r ∈ s.records.records, r.approvalId = approvalId → terminalStatus r.decision = none) :
    Intact uuid4 clock
      { s with
        records := s.records.update (·.approvalId) approvalId fun r => { r with decision := "approved", approvedBy } }
      done := by
  refine kept.decide fun r hr id bounds => ⟨bounds.once, fun _ => rfl, fun _ => ?_, fun _ => ?_⟩
  on_goal 2 => exact bounds.undecided (undecided r hr id)
  subst id
  exact ⟨bounds.undecided (undecided r hr rfl), timely⟩

end Intact

end

/-! ### Execution -/

/-- Nothing has been executed under the approval yet, and the record, if there is one, allows it. -/
structure Ready (uuid4 : Nat → Uuid) (approvalId : String) (p : Point (State W) (Event L)) : Prop where
  drawn : Drawn uuid4 p.state approvalId
  settled : Settled p.state
  allowed : ∀ r ∈ p.state.records.records, r.approvalId = approvalId →
    r.decision = "approved" ∧ .executed approvalId ∉ marks p.trace

section
variable {P : Platform W L} {p q : Point (State W) (Event L)} {approvalId : String} {request : ExecutionRequest}
  {adapterName : String} {authorization : ExecutionAuthorization}

theorem Ready.passed (h : Ready P.uuid4 approvalId p) (passed : Passed p q) : Ready P.uuid4 approvalId q := by
  refine ⟨h.drawn.mono passed.draws, h.settled.passed passed, ?_⟩
  rw [passed.records, passed.marks]
  exact h.allowed

/-- The adapter is called. -/
theorem Ready.executes (h : Ready P.uuid4 approvalId p) (kept : Intact P.uuid4 P.clock p.state (marks p.trace)) :
    Intact P.uuid4 P.clock p.state (.executed approvalId :: marks p.trace) := by
  refine kept.mark h.drawn (fun r hr id bounds => ?_) fun _ _ other => by cases other
  obtain ⟨approved, unused⟩ := h.allowed r hr id
  replace id : r.approvalId = approvalId := id
  subst id
  exact bounds.execute approved unused

theorem serves_perform {checkedAt : Option Int} (ready : Ready P.uuid4 approvalId p)
    (approval : authorization.approvalId = some approvalId) :
    Serves P (fun _ q => Settled q.state) (perform P authorization checkedAt request adapterName) p := by
  have world : ∀ l : L, (Event.world l).mark = none := fun _ => rfl
  unfold perform
  dsimp only
  split
  · exact serves_passing ready.settled ((calm_saveTrace _).bind fun _ => calm_pure _)
      ((forward_saveTrace _).bind fun _ => forward_pure _) fun _ q passed => ready.settled.passed passed
  · split
    · exact Script.safe_pure ready.settled
    · next adapter _ =>
      apply Script.safe_bind
      refine serves_passing ready.settled (calm_outside world _) (forward_outside _) fun supported q passed => ?_
      replace ready := ready.passed passed
      split
      · exact Script.safe_pure ready.settled
      · apply Script.safe_bind
        apply serves_modify
        · intro kept
          have mark : marks ((some (Event.adapterExecute checkedAt authorization request adapterName)).toList ++ q.trace) =
              .executed approvalId :: marks q.trace :=
            List.filterMap_cons_some (by simp [Event.mark, approval])
          rw [mark]
          exact ready.executes kept
        · have settled : Settled
              (q.step (some (Event.adapterExecute checkedAt authorization request adapterName)) id).state := ready.settled
          refine serves_passing settled ?_ ?_ fun _ q' passed => settled.passed passed
          · exact (calm_outside world _).bind fun _ => (calm_saveAudit _).bind fun _ =>
              (calm_saveTrace _).bind fun _ => calm_pure _
          · have saves : ∀ a, ForwardScript (saveAudit a : Governed W L Unit) := fun _ => forward_modify fun _ => rfl
            exact (forward_outside _).bind fun _ => (saves _).bind fun _ =>
              (forward_saveTrace _).bind fun _ => forward_pure _

theorem serves_execute (ready : Ready P.uuid4 approvalId p)
    (found : p.state.authorization? request.authorizationId = some authorization)
    (approval : authorization.approvalId = some approvalId) :
    Serves P (fun _ q => Settled q.state) (execute P request adapterName) p := by
  have blocks : ∀ reason {q}, Ready P.uuid4 approvalId q →
      Serves P (fun _ q => Settled q.state) (blocked request reason) q := fun reason q ready =>
    serves_passing ready.settled (calm_blocked _ _) (forward_blocked _ _) fun _ _ passed => ready.settled.passed passed
  unfold execute
  apply Script.safe_bind
  refine Script.safe_read fun q same _ => ⟨trivial, ?_⟩
  obtain rfl := same
  rw [found]
  dsimp only
  split
  · exact blocks _ ready
  · apply Script.safe_bind
    refine serves_passing ready.settled (calm_expired _) (forward_expired _) fun late q passed => ?_
    replace ready := ready.passed passed
    split
    · exact blocks _ ready
    · split
      · exact blocks _ ready
      · apply Script.safe_bind
        refine Script.safe_ofExcept (fun differs _ => ?_) fun _ _ => ready.settled
        split
        · exact blocks _ ready
        · exact serves_perform ready approval

theorem serves_executeAndVerify (ready : Ready P.uuid4 approvalId p)
    (found : p.state.authorization? request.authorizationId = some authorization)
    (approval : authorization.approvalId = some approvalId) :
    Serves P (fun _ q => Settled q.state) (executeAndVerify P request adapterName) p := by
  unfold executeAndVerify
  apply Script.safe_bind
  refine (serves_execute ready found approval).mono ?_ fun _ _ settled => settled
  intro result q settled
  split
  · apply Script.safe_bind
    refine serves_passing settled calm_verifyExecution forward_verifyExecution fun _ q' passed => ?_
    exact Script.safe_pure (settled.passed passed)
  · exact Script.safe_pure settled

/-- An authorization is stored for an approval, and its action translated and executed. -/
theorem serves_released {action : ActionRequest} {riskLevel : Option String} {assessment hold : Provenance}
    {result : Execution → GovernedResult} (ready : Ready P.uuid4 approvalId p)
    (approval : authorization.approvalId = some approvalId) (drawn : Drawn P.uuid4 p.state authorization.authorizationId)
    (new : ∀ a ∈ p.state.authorizations.records, a.authorizationId ≠ authorization.authorizationId) :
    Serves P (fun _ q => Settled q.state) (do
      saveAuthorization authorization
      let request ← translateActionToExecution P action authorization.authorizationId riskLevel adapterName assessment hold
      let execution ← executeAndVerify P request adapterName
      pure (result execution)) p := by
  apply Script.safe_bind
  apply serves_modify fun kept => kept.saveAuthorization drawn
  have found : (p.state.authorizations.save authorization).get? (·.authorizationId) authorization.authorizationId =
      some authorization := by
    unfold DurableStore.get? DurableStore.save
    rw [List.find?_append, List.find?_eq_none.mpr (by simpa using new)]
    simp
  have saved : Ready P.uuid4 approvalId
      (p.step none fun s => { s with authorizations := s.authorizations.save authorization }) :=
    ⟨ready.drawn, ready.settled, ready.allowed⟩
  apply Script.safe_bind
  refine Script.safe_bind (serves_passing saved.settled calm_uuid4 forward_uuid4 fun id q passed => Script.safe_pure ?_)
  apply Script.safe_bind
  refine (serves_executeAndVerify (saved.passed passed) ?_ approval).mono ?_ fun _ _ settled => settled
  · unfold State.authorization?
    rw [passed.authorizations]
    exact found
  · exact fun _ q settled => Script.safe_pure settled

end

/-! ### Calls -/

/-- The record that was set has the key. -/
theorem DurableStore.mutated {Record : Type} {s : DurableStore Record} {key : Record → String} {k : String}
    {f : Record → Record} (unique : s.Unique key) {r : Record} (h : r ∈ (s.mutate key k f).records) (hk : key r = k) :
    ∃ old ∈ s.records, key old = k ∧ r = f old := by
  rw [mutate_records unique] at h
  exact (mem_setKey.mp h).resolve_right fun other => other.2 hk

section
variable {P : Platform W L} {p q : Point (State W) (Event L)}

/-- Setting a hold that is settled by it. -/
theorem Settled.mutate {s : State W} (settled : Settled s) (unique : s.holds.Unique (·.approvalId)) {approvalId : String}
    {f : ApprovalHold → ApprovalHold} (resolves : ∀ h, (f h).status = .pending → h.status = .pending)
    (keeps : ∀ h, (f h).approvalId = h.approvalId) :
    Settled { s with holds := s.holds.mutate (·.approvalId) approvalId f } := by
  intro h hh pending r hr id
  replace hh : h ∈ (s.holds.mutate (·.approvalId) approvalId f).records := hh
  rw [DurableStore.mutate_records unique] at hh
  rcases DurableStore.mem_setKey.mp hh with ⟨old, mem, -, rfl⟩ | ⟨mem, -⟩
  · exact settled old mem (resolves old pending) r hr (id.trans (keeps old))
  · exact settled h mem pending r hr id

/-- The record of a hold that is not pending may say anything. -/
theorem Settled.decide {s : State W} (settled : Settled s) (unique : s.records.Unique (·.approvalId)) {approvalId : String}
    {f : ApprovalRecord → ApprovalRecord} (keeps : ∀ r, (f r).approvalId = r.approvalId)
    (decided : ∀ h ∈ s.holds.records, h.approvalId = approvalId → h.status ≠ .pending) :
    Settled { s with records := s.records.update (·.approvalId) approvalId f } := by
  intro h hh pending r hr id
  rcases (DurableStore.mem_update unique).mp hr with ⟨old, mem, same, rfl⟩ | ⟨mem, -⟩
  · exact absurd pending (decided h hh (id.symm.trans ((keeps old).trans same)))
  · exact settled h hh pending r mem id

/-- The reading of the clock that says a hold is in time, or not. -/
theorem serves_late {expiresAt : Option Int} {Q : Bool × Option Int → Point (State W) (Event L) → Prop}
    (h : ∀ late t q, Passed p q →
      (late = true → ∃ e n, expiresAt = some e ∧ n < q.state.ticks ∧ e < P.clock n) →
      (late = false → ∀ e, expiresAt = some e → P.clock p.state.ticks ≤ e) → Q (late, t) q) :
    Serves P Q (expired P expiresAt) p := by
  unfold expired
  cases expiresAt with
  | none => exact Script.safe_pure (h false none p (Passed.refl p) (by simp) (by simp))
  | some e =>
    apply Script.safe_bind
    refine Script.safe_step fun q same kept _ => ?_
    obtain rfl := same
    have passed : Passed p (p.step none fun _ => { p.state with ticks := p.state.ticks + 1 }) :=
      ⟨⟨rfl, rfl, rfl, le_rfl⟩, Nat.le_succ _, rfl⟩
    refine ⟨kept.passed passed, trivial, h _ _ _ passed ?_ ?_⟩
    · intro late
      exact ⟨e, p.state.ticks, rfl, Nat.lt_succ_self _, by simpa using late⟩
    · intro timely e' same
      cases same
      simpa using timely

/-- A pending hold found past its time is rejected, in memory only. -/
theorem serves_expired {hold : ApprovalHold} (found : p.state.hold? hold.approvalId = some hold)
    (pending : hold.status = .pending) (settled : Settled p.state)
    (late : ∃ e n, hold.expiresAt = some e ∧ n < p.state.ticks ∧ e < P.clock n) {r : GovernedResult} :
    Serves P (fun _ q => Settled q.state) (do
      setHold (some (.holdExpired hold.approvalId)) hold.approvalId fun h => { h with status := .rejected }
      pure r) p := by
  obtain ⟨mem, -⟩ := DurableStore.mem_of_get? found
  apply Script.safe_bind
  refine Script.safe_modify fun q same kept _ => ?_
  obtain rfl := same
  refine ⟨?_, trivial, Script.safe_pure ?_⟩
  · have marked : Intact P.uuid4 P.clock p.state (.expired hold.approvalId :: marks p.trace) :=
      kept.expire mem (settled hold mem pending) late
    exact marked.mutatePending mem pending fun _ => ⟨rfl, rfl⟩
  · exact settled.mutate kept.hold_unique (fun _ other => by cases other) fun _ => rfl

/-- A pending hold rejected, and its record. -/
theorem serves_rejected {hold : ApprovalHold} (found : p.state.hold? hold.approvalId = some hold)
    (pending : hold.status = .pending) (settled : Settled p.state) {approver : String} {r : GovernedResult} :
    Serves P (fun _ q => Settled q.state) (do
      setHold none hold.approvalId fun h => { h with status := .rejected }
      updateRecord (some (.holdRejected hold.approvalId)) hold.approvalId fun r =>
        { r with decision := "rejected", approvedBy := approver }
      pure r) p := by
  obtain ⟨mem, -⟩ := DurableStore.mem_of_get? found
  apply Script.safe_bind
  refine Script.safe_modify fun q same kept _ => ?_
  obtain rfl := same
  refine ⟨kept.mutatePending mem pending fun _ => ⟨rfl, rfl⟩, trivial, ?_⟩
  apply Script.safe_bind
  refine Script.safe_modify fun q same kept' _ => ?_
  subst same
  refine ⟨kept'.reject (kept.hold_drawn hold mem) (settled hold mem pending), trivial, Script.safe_pure ?_⟩
  have unique := kept.hold_unique
  have settled' : Settled { p.state with
      holds := p.state.holds.mutate (·.approvalId) hold.approvalId fun h => { h with status := .rejected } } :=
    settled.mutate unique (fun _ other => by cases other) fun _ => rfl
  refine settled'.decide kept.record_unique (fun _ => rfl) fun h hh id => ?_
  obtain ⟨old, -, -, rfl⟩ := DurableStore.mutated unique hh id
  exact fun pending => by cases pending

/-- What follows once the record of a hold says that it is approved. -/
theorem serves_continued {hold : ApprovalHold} {approvalId approver : String} (ready : Ready P.uuid4 approvalId p) :
    Serves P (fun _ q => Settled q.state) (do
      let authorization ← createManualAuthorization P hold approver approvalId
      saveAuthorization authorization
      let request ← translateActionToExecution P hold.action authorization.authorizationId hold.riskLevel hold.adapterName
        .missing hold.toProvenance
      let execution ← executeAndVerify P request hold.adapterName
      pure (GovernedResult.approvedAndExecuted execution approvalId hold.actionId)) p := by
  apply Script.safe_bind
  refine Script.safe_bind (serves_uuid4 fun id q passed drawn unused => ?_)
  replace ready := ready.passed passed
  refine Script.safe_bind (serves_passing ready.settled calm_now forward_now fun t q' passed' => Script.safe_pure ?_)
  have new := (unused.passed passed').authorization
  exact serves_released (ready.passed passed') rfl (drawn.mono passed'.draws) new

/-- A pending hold released, its record, and what it leads to. -/
theorem serves_resumeHold {hold : ApprovalHold} (found : p.state.hold? hold.approvalId = some hold)
    (pending : hold.status = .pending) (settled : Settled p.state) (timely : .expired hold.approvalId ∉ marks p.trace)
    {approver : String} :
    Serves P (fun _ q => Settled q.state) (resumeHold P hold hold.approvalId approver) p := by
  obtain ⟨mem, -⟩ := DurableStore.mem_of_get? found
  unfold resumeHold
  -- In memory first.
  apply Script.safe_bind
  refine Script.safe_modify fun q same kept _ => ?_
  obtain rfl := same
  refine ⟨kept.mutatePending mem pending fun _ => ⟨rfl, rfl⟩, trivial, ?_⟩
  have settled₁ : Settled { p.state with
      holds := p.state.holds.mutate (·.approvalId) hold.approvalId fun h => { h with status := .approved } } :=
    settled.mutate kept.hold_unique (fun _ other => by cases other) fun _ => rfl
  apply Script.safe_bind
  refine Script.safe_modify fun q same kept₁ _ => ?_
  subst same
  refine ⟨kept₁.mutateHold (fun _ => ⟨rfl, rfl⟩) fun d h _ trailing _ => trailing.status, trivial, ?_⟩
  -- Then the record, on disk as well.
  apply Script.safe_bind
  refine Script.safe_modify fun q same kept₂ _ => ?_
  subst same
  refine ⟨kept₂.approve timely (settled hold mem pending), trivial, ?_⟩
  refine serves_continued ⟨kept.hold_drawn hold mem, ?_, ?_⟩
  · have settled₂ : Settled { p.state with
        holds := (p.state.holds.mutate (·.approvalId) hold.approvalId fun h => { h with status := .approved }).mutate
          (·.approvalId) hold.approvalId fun h => { h with approvedBy := some approver } } :=
      settled₁.mutate kept₁.hold_unique (fun _ other => other) fun _ => rfl
    refine settled₂.decide kept.record_unique (fun _ => rfl) fun h hh id => ?_
    obtain ⟨h₁, hh₁, id₁, rfl⟩ := DurableStore.mutated kept₁.hold_unique hh id
    obtain ⟨h₀, -, -, rfl⟩ := DurableStore.mutated kept.hold_unique hh₁ id₁
    exact fun pending => by cases pending
  · intro r hr id
    rcases (DurableStore.mem_update kept.record_unique).mp hr with ⟨old, hold', id', rfl⟩ | ⟨-, other⟩
    · have undecided := settled hold mem pending old hold' id'
      exact ⟨rfl, id' ▸ (kept.bounded old hold').unexecuted undecided⟩
    · exact absurd id other

/-- A hold that is resumed has not been found expired, as long as the clock does not go back. -/
theorem serves_approveHeldAction (steady : P.Steady) {approvalId approver : String} {approved : Bool}
    (settled : Settled p.state) :
    Serves P (fun _ q => Settled q.state) (approveHeldAction P approvalId approver approved) p := by
  unfold approveHeldAction
  apply Script.safe_bind
  refine Script.safe_read fun q same kept => ⟨trivial, ?_⟩
  obtain rfl := same
  split
  · exact Script.safe_pure settled
  · next hold found =>
    obtain ⟨mem, id⟩ := DurableStore.mem_of_get? found
    obtain rfl : hold.approvalId = approvalId := id
    split
    · exact Script.safe_pure settled
    · next pending =>
      replace pending := not_not.mp pending
      apply Script.safe_bind
      refine serves_late fun late t q passed overdue timely => ?_
      have still : q.state.hold? hold.approvalId = some hold := by
        unfold State.hold?
        rw [passed.holds]
        exact found
      replace settled := settled.passed passed
      dsimp only
      cases late with
      | true => exact serves_expired still pending settled (overdue rfl)
      | false =>
        simp only [Bool.false_eq_true, if_false]
        split
        · exact serves_rejected still pending settled
        · split
          · exact Script.safe_pure settled
          · apply Script.safe_bind
            refine Script.safe_ofExcept (fun digest _ => ?_) fun _ _ => settled
            split
            · exact Script.safe_pure settled
            · refine serves_resumeHold still pending settled ?_
              rw [passed.marks]
              intro expired
              obtain ⟨e, n, expires, before, past⟩ := kept.overdue hold mem expired
              exact absurd (timely rfl e expires) (not_le.mpr (past.trans_le (steady before.le)))

/-- A record stored, with no decision against a pending hold. -/
theorem Settled.saveRecord {s : State W} (settled : Settled s) {r : ApprovalRecord}
    (undecided : ∀ h ∈ s.holds.records, h.approvalId = r.approvalId → terminalStatus r.decision = none) :
    Settled { s with records := s.records.save r } := by
  intro h hh pending
  exact DurableStore.forall_save (settled h hh pending) fun id => undecided h hh id.symm

theorem Settled.saveHold {s : State W} (settled : Settled s) {h : ApprovalHold}
    (unrecorded : ∀ r ∈ s.records.records, r.approvalId ≠ h.approvalId) :
    Settled { s with holds := s.holds.save h } :=
  DurableStore.forall_save settled fun _ r hr id => absurd id (unrecorded r hr)

theorem serves_proceed {action : ActionRequest} {adapterName : String} {assessment : GovernanceAssessment}
    {decision : ApprovalDecision} (settled : Settled p.state) (drawn : Drawn P.uuid4 p.state decision.approvalId)
    (unused : Unused p.state (marks p.trace) decision.approvalId) :
    Serves P (fun _ q => Settled q.state) (proceed P action adapterName assessment decision) p := by
  unfold proceed
  split
  · apply Script.safe_bind
    apply serves_modify fun kept => kept.saveRecord drawn unused.record unused.mark
    exact Script.safe_pure (settled.saveRecord fun h hh id => absurd id (unused.hold h hh))
  · apply Script.safe_bind
    unfold holdForManualApproval
    refine Script.safe_bind (serves_uuid4 fun id q passed drawn unused => ?_)
    refine Script.safe_bind (serves_passing (settled.passed passed) calm_now forward_now fun t q' passed' => ?_)
    replace settled := settled.passed (passed.trans passed')
    replace drawn := drawn.mono passed'.draws
    replace unused := unused.passed passed'
    -- The hold has no record until the next step.
    apply Script.safe_bind
    apply serves_modify fun kept => kept.saveHold drawn unused
    apply Script.safe_pure
    apply Script.safe_bind
    let r := approvalRecord action decision "manual_required" "" (some id) (some assessment)
    have named : r.approvalId = id := by
      obtain ⟨n, -, rfl⟩ := drawn
      simp [r, approvalRecord, orText, Uuid.text_ne]
    have known : Drawn P.uuid4 q'.state r.approvalId := by rwa [named]
    have new : ∀ r' ∈ q'.state.records.records, r'.approvalId ≠ r.approvalId := by
      rw [named]
      exact unused.record
    have unmarked : ∀ m ∈ marks q'.trace, m.approvalId ≠ r.approvalId := by
      rw [named]
      exact unused.mark
    refine serves_modify (fun kept => kept.saveRecord known new unmarked) (Script.safe_pure ?_)
    exact (settled.saveHold unused.record).saveRecord fun _ _ _ => rfl
  · apply Script.safe_bind
    refine serves_passing settled (calm_announce rfl) (forward_modify fun _ => rfl) fun _ q passed => ?_
    replace settled := settled.passed passed
    replace drawn := drawn.mono passed.draws
    replace unused := unused.passed passed
    apply Script.safe_bind
    apply serves_modify fun kept => kept.saveRecord drawn unused.record unused.mark
    let r := approvalRecord action decision "approved" "approval_policy" none (some assessment)
    have ready : Ready P.uuid4 decision.approvalId
        (q.step (none : Option (Event L)) fun s => { s with records := s.records.save r }) := by
      refine ⟨drawn, settled.saveRecord fun h hh id => absurd id (unused.hold h hh), DurableStore.forall_save ?_ ?_⟩
      · exact fun r' hr id => absurd id (unused.record r' hr)
      · exact fun _ => ⟨rfl, fun executed => unused.mark _ executed rfl⟩
    unfold createExecutionAuthorization
    split
    · exact Script.safe_bind (Script.safe_pure (Script.safe_pure ready.settled))
    · split
      · exact Script.safe_bind (Script.safe_pure (Script.safe_pure ready.settled))
      · apply Script.safe_bind
        refine Script.safe_bind (serves_uuid4 fun id q' passed' drawn unused => ?_)
        replace ready := ready.passed passed'
        refine Script.safe_bind (serves_passing ready.settled calm_now forward_now fun t q'' passed'' => Script.safe_pure ?_)
        exact serves_released (ready.passed passed'') rfl (drawn.mono passed''.draws) (unused.passed passed'').authorization

theorem serves_executeGovernedAction {action : ActionRequest} {adapterName : String} (settled : Settled p.state) :
    Serves P (fun _ q => Settled q.state) (executeGovernedAction P action adapterName) p := by
  have world : ∀ l : L, (Event.world l).mark = none := fun _ => rfl
  unfold executeGovernedAction
  apply Script.safe_bind
  refine serves_passing settled (Script.Steps.caught (calm_resolveAssessment world fun _ => rfl))
    (Script.Steps.caught forward_resolveAssessment) fun answer q passed => ?_
  replace settled := settled.passed passed
  split
  · exact Script.safe_throw settled
  · exact Script.safe_pure settled
  · split
    · exact Script.safe_pure settled
    · refine Script.safe_bind (Script.safe_bind (serves_uuid4 fun id q' passed' drawn unused => Script.safe_pure ?_))
      exact serves_proceed (settled.passed passed') drawn unused

end

/-! ### Starting again -/

section
variable {uuid4 : Nat → Uuid} {clock : Nat → Int} {s : State W} {done : List Mark} {p : Point (State W) (Event L)}

/-- No decision is on record for a pending one of the first `i` holds. -/
def SettledTo (i : Nat) (s : State W) : Prop :=
  ∀ j < i, ∀ h, s.holds.records[j]? = some h → h.status = .pending → ∀ r ∈ s.records.records,
    r.approvalId = h.approvalId → terminalStatus r.decision = none

theorem SettledTo.settled {i : Nat} (h : SettledTo i s) (count : s.holds.records.length = i) : Settled s := by
  intro hold mem
  obtain ⟨j, hj, found⟩ := List.mem_iff_getElem.mp mem
  exact h j (count ▸ hj) hold (by rw [List.getElem?_eq_getElem hj, found])

theorem SettledTo.next {i : Nat} (h : SettledTo i s)
    (last : ∀ hold, s.holds.records[i]? = some hold → hold.status = .pending → ∀ r ∈ s.records.records,
      r.approvalId = hold.approvalId → terminalStatus r.decision = none) : SettledTo (i + 1) s := by
  intro j hj hold found
  rcases Nat.lt_succ_iff_lt_or_eq.mp hj with hj | rfl
  · exact h j hj hold found
  · exact last hold found

theorem correction_expiresAt {records : DurableStore ApprovalRecord} {hold : ApprovalHold}
    {f : ApprovalHold → ApprovalHold} (h : correction records hold = some f) (x : ApprovalHold) :
    (f x).expiresAt = x.expiresAt := by
  unfold correction at h
  split at h
  · cases h
  · obtain ⟨r, -, h⟩ := Option.bind_eq_some_iff.mp h
    obtain ⟨status, -, h⟩ := Option.bind_eq_some_iff.mp h
    cases h
    rfl

/-- A correction leaves no pending hold with its key. -/
theorem SettledTo.corrected {i : Nat} (h : SettledTo i s) (unique : s.holds.Unique (·.approvalId)) {hold : ApprovalHold}
    {f : ApprovalHold → ApprovalHold} (found : s.holds.records[i]? = some hold)
    (corrected : correction s.records hold = some f) :
    SettledTo (i + 1) { s with holds := s.holds.update (·.approvalId) hold.approvalId f } := by
  obtain ⟨-, r', status, -, terminal, result⟩ := correction_some corrected
  have resolved : status ≠ .pending := by
    rintro rfl
    unfold terminalStatus at terminal
    split at terminal <;> cases terminal
  intro j hj x at_ pending r hr id
  replace at_ : (s.holds.update (·.approvalId) hold.approvalId f).records[j]? = some x := at_
  rw [DurableStore.update_records unique, DurableStore.setKey, List.getElem?_map] at at_
  obtain ⟨old, at_j, rfl⟩ := Option.map_eq_some_iff.mp at_
  by_cases same : old.approvalId = hold.approvalId
  · rw [if_pos same] at pending
    exact absurd ((result old).2.symm.trans pending) resolved
  · rw [if_neg same] at pending id
    refine h j (lt_of_le_of_ne (Nat.le_of_lt_succ hj) fun e => same ?_) old at_j pending r hr id
    rw [e, found] at at_j
    rw [Option.some.inj at_j]

theorem safe_reconcileFrom (left i : Nat) (count : p.state.holds.records.length = i + left) (settled : SettledTo i p.state) :
    Script.Safe (crashing L uuid4 clock) (fun _ q => Settled q.state) (fun _ q => Settled q.state)
      (reconcileFrom left i) p := by
  induction left generalizing i p with
  | zero => exact Script.safe_pure (settled.settled count)
  | succ left ih =>
    unfold reconcileFrom
    apply Script.safe_bind
    refine Script.safe_read fun q same kept => ⟨trivial, ?_⟩
    obtain rfl := same
    have count' : p.state.holds.records.length = i + 1 + left := by omega
    cases found : p.state.holds.records[i]? with
    | none => exact ih (i + 1) count' (settled.next fun hold at_ => by simp [found] at at_)
    | some hold =>
      have mem := List.mem_of_getElem? found
      cases corrected : correction p.state.records hold with
      | none =>
        simp only [corrected, Option.bind_eq_bind, Option.bind_some, Option.bind_none]
        refine ih (i + 1) count' (settled.next fun hold' at_ pending r hr id => ?_)
        obtain rfl : hold = hold' := Option.some.inj (found.symm.trans at_)
        exact correction_none corrected pending (kept.record_unique.get? hr id)
      | some f =>
        simp only [corrected, Option.bind_eq_bind, Option.bind_some]
        obtain ⟨-, r, status, -, -, result⟩ := correction_some corrected
        apply Script.safe_bind
        refine Script.safe_modify fun q same kept _ => ?_
        obtain rfl := same
        refine ⟨kept.updateHold fun h => ⟨(result h).1, correction_expiresAt corrected h⟩, trivial, ih (i + 1) ?_
          (settled.corrected kept.hold_unique found corrected)⟩
        show (p.state.holds.update (·.approvalId) hold.approvalId f).records.length = _
        rw [DurableStore.update_records kept.hold_unique, DurableStore.setKey, List.length_map, count']

theorem safe_reconcileHolds :
    Script.Safe (crashing L uuid4 clock) (fun _ q => Settled q.state) (fun _ q => Settled q.state) reconcileHolds p := by
  unfold reconcileHolds
  apply Script.safe_bind
  refine Script.safe_read fun q same _ => ⟨trivial, ?_⟩
  obtain rfl := same
  exact safe_reconcileFrom _ 0 (Nat.zero_add _).symm fun j hj => absurd hj (Nat.not_lt_zero j)

/-- What is on disk keeps the invariant. -/
theorem Intact.restart {P : Platform W L} (kept : Intact P.uuid4 P.clock s done) (world : W) :
    Intact P.uuid4 P.clock { s.restart P with world } done := by
  have records : (s.records.restart id).records = s.records.records := kept.record_mirrored.restart
  have authorizations : (s.authorizations.restart id).records = s.authorizations.records :=
    kept.authorization_mirrored.restart
  have back : ∀ h ∈ (s.restart P).holds.records, ∃ old ∈ s.holds.records,
      h.approvalId = old.approvalId ∧ h.expiresAt = old.expiresAt := fun h hh => by
    obtain ⟨d, hd, rfl⟩ := List.mem_map.mp hh
    obtain ⟨old, mem, trailing⟩ := kept.hold_trailing.exists_of_mem hd
    exact ⟨old, mem, trailing.id, trailing.expiresAt⟩
  have loaded : ((s.restart P).holds.records.map (·.approvalId)) = s.holds.records.map (·.approvalId) := by
    rw [← kept.hold_trailing.keys fun _ _ h => h.id]
    show (s.holds.durable.map _).map _ = _
    rw [List.map_map]
    rfl
  constructor
  · intro h hh
    obtain ⟨old, mem, id, -⟩ := back h hh
    exact id ▸ kept.hold_drawn old mem
  · show ∀ r ∈ (s.records.restart id).records, _
    rw [records]
    exact kept.record_drawn
  · show ∀ a ∈ (s.authorizations.restart id).records, _
    rw [authorizations]
    exact kept.authorization_drawn
  · exact kept.mark_drawn
  · show ((s.restart P).holds.records.map _).Nodup
    rw [loaded]
    exact kept.hold_unique
  · show ((s.records.restart id).records.map _).Nodup
    rw [records]
    exact kept.record_unique
  · exact DurableStore.Trails.restart fun h => ⟨⟨rfl, .inr rfl⟩, rfl⟩
  · exact DurableStore.Trails.restart fun _ => rfl
  · exact DurableStore.Trails.restart fun _ => rfl
  · show ∀ r ∈ (s.records.restart id).records, _
    rw [records]
    exact kept.bounded
  · intro h hh expired
    obtain ⟨old, mem, id, expires⟩ := back h hh
    rw [id] at expired
    rw [expires]
    exact kept.overdue old mem expired

end

/-! ### Runs -/

/-- Neither a hold of the caller's own making nor a request of the engine. -/
def Call.Served : Call → Prop
  | .governed .. | .resolve .. | .approve .. => True
  | .hold .. | .engine .. => False

/-- A process that stops leaves what is on disk, and the world anyhow; the next one reconciles the holds. -/
def recovery (P : Platform W L) : Serial.Recovery (State W) (Event L) (Except Raised Unit) where
  crash s s' := ∃ world, s' = { s.restart P with world }
  restart := reconcileHolds

/-- The world may be as it was. -/
theorem crash_restart (P : Platform W L) (s : State W) : (recovery P).crash s (s.restart P) := ⟨s.world, rfl⟩

/-- Runs of served calls, whatever is registered when each starts. -/
abbrev CrashRun (P : Platform W L) := Serial.Reach
  (fun x (_ : Point (State W) (Event L)) => ∃ registry call, Call.Served call ∧ x = call.script (P.registering registry))
  (fun _ _ => True) (recovery P)

/-- A served call, with what is registered now. -/
theorem Call.served_now (P : Platform W L) (call : Call) (h : call.Served) :
    ∃ registry call', Call.Served call' ∧ call.script P = call'.script (P.registering registry) :=
  ⟨P.toRegistry, call, h, rfl⟩

theorem serves_call {P : Platform W L} {p : Point (State W) (Event L)} (steady : P.Steady) {call : Call}
    (served : call.Served) (settled : Settled p.state) : Serves P (fun _ q => Settled q.state) (call.script P) p := by
  cases call with
  | governed action adapterName =>
    exact Script.safe_bind ((serves_executeGovernedAction settled).mono (fun _ _ h => Script.safe_pure h) fun _ _ h => h)
  | resolve action adapterName =>
    refine Script.safe_bind (serves_passing settled (calm_resolveAssessment (fun _ => rfl) fun _ => rfl)
      forward_resolveAssessment fun _ q passed => ?_)
    exact Script.safe_pure (settled.passed passed)
  | approve approvalId approvedBy approved =>
    exact Script.safe_bind ((serves_approveHeldAction steady settled).mono (fun _ _ h => Script.safe_pure h) fun _ _ h => h)
  | hold => exact served.elim
  | engine => exact served.elim

theorem CrashRun.kept {P : Platform W L} (steady : P.Steady) {backend : Backend} {world : W}
    {c : Serial (State W) (Event L) (Except Raised Unit)} (run : CrashRun P ⟨none, .initial backend world, []⟩ c) :
    Intact P.uuid4 P.clock c.point.state (marks c.point.trace) := by
  have starts : Serial.Sound (fun p => Intact P.uuid4 P.clock p.state (marks p.trace)) (fun p => Settled p.state)
      (fun _ _ => True) (⟨none, .initial backend world, []⟩ : Serial (State W) (Event L) (Except Raised Unit)) := by
    refine ⟨⟨?_, ?_, ?_, ?_, .nil, .nil, .nil, .nil, .nil, ?_, ?_⟩, ?_⟩ <;> intro x hx <;> cases hx
  refine (Serial.reach_sound ?_ ?_ run starts).1
  · rintro x p ⟨registry, call, served, rfl⟩ - settled
    refine Program.Safe.mono (serves_call (P := P.registering registry) steady served settled) fun r q h => ?_
    cases r <;> exact h
  · rintro p s kept ⟨world', rfl⟩
    refine ⟨kept.restart world', Program.Safe.mono safe_reconcileHolds fun r q h => ?_⟩
    cases r <;> exact h

/-- **At most one execution for each approval record**, wherever the process stops: an
adapter is called under a record only once it says so, once at most, and never under one
that was rejected or found expired. -/
theorem executed_once (P : Platform W L) (steady : P.Steady) (backend : Backend) (world : W)
    (c : Serial (State W) (Event L) (Except Raised Unit)) (run : CrashRun P ⟨none, .initial backend world, []⟩ c)
    (r : ApprovalRecord) (stored : r ∈ c.point.state.records.records) :
    (marks c.point.trace).count (.executed r.approvalId) ≤ 1 ∧
    (.executed r.approvalId ∈ marks c.point.trace → r.decision = "approved" ∧
      .rejected r.approvalId ∉ marks c.point.trace ∧ .expired r.approvalId ∉ marks c.point.trace) := by
  have bounds := (run.kept steady).bounded r stored
  refine ⟨bounds.once, fun executed => ?_⟩
  have approved := bounds.executed executed
  exact ⟨approved, bounds.approved approved⟩

namespace Sample

theorem platform_steady : platform.Steady := by
  intro m n le
  show (m : Int) * 1000000 ≤ n * 1000000
  omega

abbrev idle : Serial (State Unit) (Event Empty) (Except Raised Unit) := ⟨none, .initial .json (), []⟩

/-- The guarded action is held. -/
def heldGuarded : Serial (State Unit) (Event Empty) (Except Raised Unit) :=
  idle.serve 30 (Call.script platform (.governed guarded "simulation"))

/-- It is approved, and the process stops when the adapter has been called. -/
def stopped : Serial (State Unit) (Event Empty) (Except Raised Unit) :=
  heldGuarded.serve 12 (Call.script platform (.approve "2" "operator" true))

/-- The next process reconciles, and the hold is approved once more. -/
def approvedAgain : Serial (State Unit) (Event Empty) (Except Raised Unit) :=
  (Serial.serve 9 reconcileHolds ⟨none, stopped.point.state.restart platform, stopped.point.trace⟩).serve 30
    (Call.script platform (.approve "2" "operator" true))

/-- Each call comes to its end before the next, and an adapter is called. -/
theorem approvedAgain_goes : heldGuarded.running.isNone = true ∧
    (Serial.serve 9 (reconcileHolds : Governed Unit Empty Unit)
      ⟨none, stopped.point.state.restart platform, stopped.point.trace⟩).running.isNone = true ∧
    ∃ r ∈ approvedAgain.point.state.records.records, .executed r.approvalId ∈ marks approvedAgain.point.trace := by
  decide +kernel

theorem approvedAgain_run : CrashRun platform idle approvedAgain := by
  obtain ⟨ends, ends', -⟩ := approvedAgain_goes
  have held : CrashRun platform idle heldGuarded :=
    Serial.serve_reach 30 rfl (Call.served_now platform (.governed guarded "simulation") trivial)
  have stops : CrashRun platform heldGuarded stopped :=
    Serial.serve_reach 12 ends (Call.served_now platform (.approve "2" "operator" true) trivial)
  have crashed : CrashRun platform stopped
      (Serial.serve 9 reconcileHolds ⟨none, stopped.point.state.restart platform, stopped.point.trace⟩) :=
    Serial.crash_reach 9 (crash_restart platform stopped.point.state)
  exact held.trans (stops.trans (crashed.trans
    (Serial.serve_reach 30 ends' (Call.served_now platform (.approve "2" "operator" true) trivial))))

end Sample

/-- The hold approved twice, with the process stopped in between, is executed once. -/
theorem executed_once_again : ∃ r ∈ Sample.approvedAgain.point.state.records.records,
    (marks Sample.approvedAgain.point.trace).count (.executed r.approvalId) = 1 ∧ r.decision = "approved" := by
  obtain ⟨-, -, r, stored, executed⟩ := Sample.approvedAgain_goes
  obtain ⟨once, told⟩ := executed_once Sample.platform Sample.platform_steady .json () Sample.approvedAgain
    Sample.approvedAgain_run r stored
  exact ⟨r, stored, le_antisymm once (List.one_le_count_iff.mpr executed), (told executed).1⟩

end RmtPlatform.Core
