import RmtPlatform.Core.Service

/-! Nothing is executed that was not assessed and let through.

The invariant is about digests: every authorization carries the digest of an
instruction that was assessed and then approved, automatically or by releasing a
hold (`LetThrough`), and the engine calls an adapter only on a request that has the
authorization's digest and all its other fields. Any number of calls may be in
progress: authorizations and the trace only grow, and no call relies on more. -/
namespace RmtPlatform.Core

variable {W L : Type} (P : Platform W L)

/-- An instruction with this digest was assessed, and approved one way or the other. -/
def LetThrough (trace : List (Event L)) (digest : String) : Prop :=
  ∃ action adapterName assessment, .assessed action adapterName assessment ∈ trace ∧
    bindAction P.rt action adapterName = .ok digest ∧
    (.autoApproved action adapterName assessment ∈ trace ∨
      ∃ hold, .holdApproved hold ∈ trace ∧ bindAction P.rt hold.action hold.adapterName = .ok digest)

/-- The authorization is stored, valid at the reading of the clock, and of this very request. -/
structure Authorized (s : State W) (now : Option Int) (a : ExecutionAuthorization) (request : ExecutionRequest)
    (adapterName : String) : Prop where
  stored : a ∈ s.authorizations.records
  approved : a.status = "approved"
  unexpired : ∀ e ∈ a.expiresAt, ∃ t ∈ now, t ≤ e
  actionId : a.actionId = request.actionId
  target : a.target = request.target
  operation : a.operation = request.operation
  expectedOutcome : a.expectedOutcome = request.expectedOutcome
  governanceDomain : a.governanceDomain = request.governanceDomain
  adapter : a.adapterName = some adapterName ∧ request.adapterName = some adapterName
  /-- The assessment, the evaluators, the evidence and the digest. -/
  provenance : a.toProvenance = request.toProvenance
  bound : ∃ digest, a.instructionDigest = some digest ∧ bindExecutionRequest P.rt request adapterName = .ok digest

/-- The digest a hold carries is that of an assessed instruction, if it has one. -/
def Assessed (trace : List (Event L)) (digest : Option String) : Prop :=
  ∀ d ∈ digest, ∃ action adapterName assessment, Event.assessed action adapterName assessment ∈ trace ∧
    assessment.instructionDigest = d

/-- What an authorization rests on: an assessment that was let through automatically, or the approval of a hold. -/
def Rests (trace : List (Event L)) (a : ExecutionAuthorization) : Prop :=
  (∃ action adapterName assessment, .assessed action adapterName assessment ∈ trace ∧
    .autoApproved action adapterName assessment ∈ trace ∧ a.actionId = action.actionId ∧
    a.toProvenance = assessment.provenance) ∨
  ∃ hold, .holdApproved hold ∈ trace ∧ a.approvalId = some hold.approvalId ∧ a.actionId = hold.action.actionId ∧
    a.toProvenance = hold.toProvenance

structure Inv (p : Point (State W) (Event L)) : Prop where
  assessed : ∀ action adapterName assessment, .assessed action adapterName assessment ∈ p.trace →
    bindAction P.rt action adapterName = .ok assessment.instructionDigest
  holds : ∀ h ∈ p.state.holds.records, Assessed p.trace h.instructionDigest
  authorizations : ∀ a ∈ p.state.authorizations.records,
    (∃ d, a.instructionDigest = some d ∧ LetThrough P p.trace d) ∧ Rests p.trace a
  executed : ∀ now a request adapterName, .adapterExecute now a request adapterName ∈ p.trace →
    Authorized P p.state now a request adapterName

/-- Authorizations and the trace only grow. -/
def Grows (p q : Point (State W) (Event L)) : Prop :=
  p.state.authorizations.records ⊆ q.state.authorizations.records ∧ p.trace ⊆ q.trace

abbrev discipline : Discipline (State W) (Event L) := .shared Grows (Inv P) fun _ _ => True

/-- The script keeps the invariant and returns in `Q`. -/
abbrev Keeps {α : Type} (Q : α → Point (State W) (Event L) → Prop) (x : Governed W L α)
    (p : Point (State W) (Event L)) : Prop :=
  Script.Safe (discipline P) Q (fun _ _ => True) x p

section
variable {P} {p q r : Point (State W) (Event L)} {α : Type}

theorem Grows.refl (p : Point (State W) (Event L)) : Grows p p := ⟨fun _ h => h, fun _ h => h⟩

theorem Grows.trans (h : Grows p q) (h' : Grows q r) : Grows p r :=
  ⟨fun _ ha => h'.1 (h.1 ha), fun _ he => h'.2 (h.2 he)⟩

theorem LetThrough.mono {d : String} (h : LetThrough P p.trace d) (grows : Grows p q) :
    LetThrough P q.trace d := by
  obtain ⟨action, adapterName, assessment, assessed, bound, approved⟩ := h
  refine ⟨action, adapterName, assessment, grows.2 assessed, bound, ?_⟩
  exact approved.imp (fun h => grows.2 h) fun ⟨hold, h, hb⟩ => ⟨hold, grows.2 h, hb⟩

theorem Rests.mono {a : ExecutionAuthorization} (h : Rests p.trace a) (grows : Grows p q) : Rests q.trace a := by
  rcases h with ⟨action, adapterName, assessment, assessed, auto, of⟩ | ⟨hold, released, of⟩
  · exact .inl ⟨action, adapterName, assessment, grows.2 assessed, grows.2 auto, of⟩
  · exact .inr ⟨hold, grows.2 released, of⟩

theorem Assessed.mono {d : Option String} (h : Assessed p.trace d) (grows : Grows p q) : Assessed q.trace d :=
  fun d hd => by
    obtain ⟨action, adapterName, assessment, assessed, rfl⟩ := h d hd
    exact ⟨action, adapterName, assessment, grows.2 assessed, rfl⟩

theorem Authorized.mono {now : Option Int} {a : ExecutionAuthorization} {request : ExecutionRequest}
    {adapterName : String} (h : Authorized P p.state now a request adapterName) (grows : Grows p q) :
    Authorized P q.state now a request adapterName :=
  { h with stored := grows.1 h.stored }

/-- What a labelled step has to establish. -/
def Owes (P : Platform W L) (p : Point (State W) (Event L)) : Event L → Prop
  | .assessed action adapterName assessment => bindAction P.rt action adapterName = .ok assessment.instructionDigest
  | .adapterExecute now a request adapterName => Authorized P p.state now a request adapterName
  | _ => True

/-- No hold carries an empty digest. -/
theorem Inv.digest_ne (h : Inv P p) {x : ApprovalHold} (hx : x ∈ p.state.holds.records) :
    x.instructionDigest ≠ some "" := by
  intro empty
  obtain ⟨action, adapterName, assessment, hm, hd⟩ := h.holds x hx "" empty
  obtain ⟨t, -, ht⟩ := Instruction.digest_ok (h.assessed _ _ _ hm)
  exact P.digest_ne t (ht.symm.trans hd)

/-- A step keeps the invariant if what it adds is in order. -/
theorem Inv.step (h : Inv P p) {l : Option (Event L)} {f : State W → State W}
    (grows : Grows p (p.step l f))
    (holds : ∀ x ∈ (f p.state).holds.records, Assessed (p.step l f).trace x.instructionDigest)
    (authorizations : ∀ a ∈ (f p.state).authorizations.records,
      a ∈ p.state.authorizations.records ∨
        (∃ d, a.instructionDigest = some d ∧ LetThrough P p.trace d) ∧ Rests p.trace a)
    (owes : ∀ m ∈ l, Owes P p m) : Inv P (p.step l f) := by
  have old : ∀ m, m ∈ (p.step l f).trace → m ∈ p.trace ∨ Owes P p m := fun m hm => by
    rcases List.mem_append.mp hm with hm | hm
    · exact .inr (owes m (by simpa using hm))
    · exact .inl hm
  refine ⟨fun action adapterName assessment hm => ?_, holds, fun a ha => ?_, fun now a request adapterName hm => ?_⟩
  · exact (old _ hm).elim (h.assessed action adapterName assessment) fun h => h
  · obtain ⟨⟨d, hd, through⟩, rests⟩ := (authorizations a ha).elim (h.authorizations a) fun h => h
    exact ⟨⟨d, hd, through.mono grows⟩, rests.mono grows⟩
  · exact ((old _ hm).elim (h.executed now a request adapterName) fun h => h).mono grows

/-- A step that touches neither holds' digests nor authorizations. -/
theorem Inv.quiet (h : Inv P p) {l : Option (Event L)} {f : State W → State W}
    (authorizations : (f p.state).authorizations = p.state.authorizations)
    (holds : ∀ x ∈ (f p.state).holds.records, ∃ y ∈ p.state.holds.records, y.instructionDigest = x.instructionDigest)
    (owes : ∀ m ∈ l, Owes P p m) : Inv P (p.step l f) ∧ Grows p (p.step l f) := by
  have grows : Grows p (p.step l f) := by
    refine ⟨fun a ha => ?_, fun m hm => List.mem_append_right _ hm⟩
    show a ∈ (f p.state).authorizations.records
    rwa [authorizations]
  refine ⟨h.step grows (fun x hx => ?_) (fun a ha => .inl (authorizations ▸ ha)) owes, grows⟩
  obtain ⟨y, hy, same⟩ := holds x hx
  exact same ▸ (h.holds y hy).mono grows

/-! ### Statements -/

variable {Q : α → Point (State W) (Event L) → Prop}

theorem keeps_read {f : State W → α} (h : ∀ q, Grows p q → Inv P q → Q (f q.state) q) :
    Keeps P Q (Script.read f) p :=
  Script.safe_read fun q hg hi => ⟨Grows.refl q, h q hg hi⟩

/-- A step on anything but holds and authorizations. -/
theorem keeps_quiet {Q : Unit → Point (State W) (Event L) → Prop} {l : Option (Event L)} {f : State W → State W}
    (authorizations : ∀ s, (f s).authorizations = s.authorizations)
    (holds : ∀ s, ∀ x ∈ (f s).holds.records, ∃ y ∈ s.holds.records, y.instructionDigest = x.instructionDigest)
    (owes : ∀ q, Grows p q → ∀ m ∈ l, Owes P q m)
    (h : ∀ q, Grows p q → (∀ m ∈ l, m ∈ q.trace) → Q () q) : Keeps P Q (Script.modify l f) p := by
  refine Script.safe_modify fun q hg hi _ => ?_
  obtain ⟨hi', hg'⟩ := hi.quiet (authorizations q.state) (holds q.state) (owes q hg)
  refine ⟨hi', hg', h _ (hg.trans hg') fun m hm => ?_⟩
  exact List.mem_append_left _ (by simpa using hm)

theorem keeps_uuid4 {Q : String → Point (State W) (Event L) → Prop} (h : ∀ id q, Grows p q → Q id q) :
    Keeps P Q (uuid4 P) p := by
  refine Script.safe_step fun q hg hi _ => ?_
  obtain ⟨hi', hg'⟩ := hi.quiet (l := none) (f := fun _ => { q.state with draws := q.state.draws + 1 }) rfl
    (fun x hx => ⟨x, hx, rfl⟩) (by simp)
  exact ⟨hi', hg', h _ _ (hg.trans hg')⟩

theorem keeps_now {Q : Int → Point (State W) (Event L) → Prop} (h : ∀ t q, Grows p q → Q t q) :
    Keeps P Q (now P) p := by
  refine Script.safe_step fun q hg hi _ => ?_
  obtain ⟨hi', hg'⟩ := hi.quiet (l := none) (f := fun _ => { q.state with ticks := q.state.ticks + 1 }) rfl
    (fun x hx => ⟨x, hx, rfl⟩) (by simp)
  exact ⟨hi', hg', h _ _ (hg.trans hg')⟩

theorem keeps_outside {x : Script W L Raised α} (h : ∀ a q, Grows p q → Q a q) : Keeps P Q (outside x) p := by
  refine Program.Safe.mono (Program.Safe.within Grows.refl (fun _ _ _ => Grows.trans) (fun _ _ h => h)
    fun q l e hi => ?_) fun r q hg => ?_
  · exact hi.quiet rfl (fun x hx => ⟨x, hx, rfl⟩) (by cases l <;> simp [Owes])
  · cases r with
    | ok a => exact h a q hg
    | error e => trivial

theorem keeps_saveTrace {Q : Unit → Point (State W) (Event L) → Prop} (t : ExecutionTrace)
    (h : ∀ q, Grows p q → Q () q) : Keeps P Q (saveTrace t) p :=
  keeps_quiet (fun _ => rfl) (fun _ x hx => ⟨x, hx, rfl⟩) (by simp) fun q hg _ => h q hg

theorem keeps_saveAudit {Q : Unit → Point (State W) (Event L) → Prop} (a : ExecutionAuditRecord)
    (h : ∀ q, Grows p q → Q () q) : Keeps P Q (saveAudit a) p :=
  keeps_quiet (fun _ => rfl) (fun _ x hx => ⟨x, hx, rfl⟩) (by simp) fun q hg _ => h q hg

theorem keeps_saveVerification {Q : Unit → Point (State W) (Event L) → Prop} (v : VerificationResult)
    (h : ∀ q, Grows p q → Q () q) : Keeps P Q (saveVerification v) p :=
  keeps_quiet (fun _ => rfl) (fun _ x hx => ⟨x, hx, rfl⟩) (by simp) fun q hg _ => h q hg

theorem keeps_saveRecord {Q : Unit → Point (State W) (Event L) → Prop} (r : ApprovalRecord)
    (h : ∀ q, Grows p q → Q () q) : Keeps P Q (saveRecord r) p :=
  keeps_quiet (fun _ => rfl) (fun _ x hx => ⟨x, hx, rfl⟩) (by simp) fun q hg _ => h q hg

theorem keeps_updateRecord {Q : Unit → Point (State W) (Event L) → Prop} {l : Option (Event L)} (id : String)
    (f : ApprovalRecord → ApprovalRecord) (owes : ∀ q, ∀ m ∈ l, Owes P q m) (h : ∀ q, Grows p q → Q () q) :
    Keeps P Q (updateRecord l id f) p :=
  keeps_quiet (fun _ => rfl) (fun _ x hx => ⟨x, hx, rfl⟩) (fun q _ => owes q) fun q hg _ => h q hg

/-- Setting a status or an approver. -/
theorem keeps_setHold {Q : Unit → Point (State W) (Event L) → Prop} {l : Option (Event L)} (id : String)
    {f : ApprovalHold → ApprovalHold} (same : ∀ x, (f x).instructionDigest = x.instructionDigest)
    (owes : ∀ q, ∀ m ∈ l, Owes P q m) (h : ∀ q, Grows p q → (∀ m ∈ l, m ∈ q.trace) → Q () q) :
    Keeps P Q (setHold l id f) p := by
  refine keeps_quiet (fun _ => rfl) (fun s x hx => ?_) (fun q _ => owes q) h
  rcases DurableStore.mem_mutate hx with hx | ⟨y, hy, rfl⟩
  · exact ⟨x, hx, rfl⟩
  · exact ⟨y, hy, (same y).symm⟩

theorem keeps_saveHold {Q : Unit → Point (State W) (Event L) → Prop} {x : ApprovalHold}
    (assessed : Assessed p.trace x.instructionDigest) (h : ∀ q, Grows p q → Q () q) :
    Keeps P Q (saveHold x) p := by
  refine Script.safe_modify fun q hg hi _ => ?_
  refine ⟨hi.step (Grows.refl q) (fun y hy => ?_) (fun a ha => .inl ha) (by simp), Grows.refl q, h _ hg⟩
  rcases List.mem_append.mp hy with hy | hy
  · exact hi.holds y hy
  · exact List.mem_singleton.mp hy ▸ assessed.mono hg

theorem keeps_saveAuthorization {Q : Unit → Point (State W) (Event L) → Prop} {a : ExecutionAuthorization}
    (through : ∀ q, Grows p q → Inv P q → (∃ d, a.instructionDigest = some d ∧ LetThrough P q.trace d) ∧ Rests q.trace a)
    (h : ∀ q, Grows p q → Q () q) : Keeps P Q (saveAuthorization a) p := by
  refine Script.safe_modify fun q hg hi _ => ?_
  have grows : Grows q (q.step none fun s => { s with authorizations := s.authorizations.save a }) :=
    ⟨fun b hb => List.mem_append_left _ hb, fun m hm => hm⟩
  refine ⟨hi.step grows (fun y hy => hi.holds y hy) (fun b hb => ?_) (by simp), grows, h _ (hg.trans grows)⟩
  rcases List.mem_append.mp hb with hb | hb
  · exact .inl hb
  · exact .inr (List.mem_singleton.mp hb ▸ through q hg hi)

theorem keeps_announce {Q : Unit → Point (State W) (Event L) → Prop} {m : Event L}
    (owes : ∀ q, Grows p q → Owes P q m) (h : ∀ q, Grows p q → m ∈ q.trace → Q () q) :
    Keeps P Q (Script.announce m) p :=
  keeps_quiet (fun _ => rfl) (fun _ x hx => ⟨x, hx, rfl⟩) (fun q hg => by simpa using owes q hg)
    fun q hg hm => h q hg (hm m rfl)

/-- Whatever a script ends in, it has only grown. -/
theorem keeps_caught {Q : Except Raised α → Point (State W) (Event L) → Prop} {x : Governed W L α}
    (hx : Keeps P (fun a q => Q (.ok a) q) x p) (herror : ∀ e q, Grows p q → Q (.error e) q) :
    Keeps P Q (Script.caught x) p := by
  refine Script.Safe.caught ?_
  refine Program.Safe.mono (Program.Safe.moves Grows.refl (fun _ _ _ => Grows.trans) (fun _ _ h => h) hx)
    fun r q hr => ?_
  cases r with
  | ok a => exact hr.1
  | error e => exact herror e q hr.2

/-! ### Assessment -/

theorem keeps_evaluate {registration : AssessmentRegistration W L} {action : ActionRequest} {adapterName : String}
    {Q : String × PolicyAnswer × RiskAnswer → Point (State W) (Event L) → Prop}
    (h : ∀ d policy risk q, Grows p q → bindAction P.rt action adapterName = .ok d → Q (d, policy, risk) q) :
    Keeps P Q (evaluate P registration action adapterName) p := by
  unfold evaluate
  refine Script.safe_bind (Script.safe_ofExcept (fun d hd => ?_) fun _ _ => trivial)
  refine Script.safe_bind (keeps_outside fun policy q hg => ?_)
  refine Script.safe_bind (keeps_outside fun risk r hg' => ?_)
  exact Script.safe_pure (h d policy risk r (hg.trans hg') hd)

/-- An assessment is announced with the digest of its instruction. -/
theorem keeps_resolveAssessment {action : ActionRequest} {adapterName : String}
    {Q : GovernanceAssessment → Point (State W) (Event L) → Prop}
    (h : ∀ assessment q, Grows p q → .assessed action adapterName assessment ∈ q.trace → Q assessment q) :
    Keeps P Q (resolveAssessment P action adapterName) p := by
  unfold resolveAssessment
  split
  · exact Script.safe_throw trivial
  · next registration _ =>
    refine Script.safe_bind (Script.safe_raiseIf (fun _ => trivial) fun _ => ?_)
    refine Script.safe_bind (Script.safe_raiseIf (fun _ => trivial) fun _ => ?_)
    refine Script.safe_bind (keeps_caught (keeps_evaluate fun d policy risk q hg bound => ?_)
      fun e q _ => Script.safe_throw trivial)
    refine Script.safe_bind (Script.safe_ofExcept (fun policyResult _ => ?_) fun _ _ => trivial)
    refine Script.safe_bind (Script.safe_ofExcept (fun riskResult _ => ?_) fun _ _ => trivial)
    refine Script.safe_bind (Script.safe_raiseIf (fun _ => trivial) fun _ => ?_)
    refine Script.safe_bind (keeps_uuid4 fun id r hr => ?_)
    refine Script.safe_bind (keeps_announce (fun _ _ => bound) fun s hs hm => ?_)
    exact Script.safe_pure (h _ s (hg.trans (hr.trans hs)) hm)

/-! ### The execution boundary -/

theorem keeps_blocked {request : ExecutionRequest} {reason : String}
    {Q : ExecutionResult → Point (State W) (Event L) → Prop} (h : ∀ r q, Grows p q → Q r q) :
    Keeps P Q (blocked request reason) p :=
  Script.safe_bind (keeps_saveTrace _ fun q hg => Script.safe_pure (h _ q hg))

theorem keeps_expired {expiresAt : Option Int} {Q : Bool × Option Int → Point (State W) (Event L) → Prop}
    (h : ∀ late t q, Grows p q → (late = false → ∀ e ∈ expiresAt, ∃ u ∈ t, u ≤ e) → Q (late, t) q) :
    Keeps P Q (expired P expiresAt) p := by
  unfold expired
  cases expiresAt with
  | none => exact Script.safe_pure (h _ _ p (Grows.refl p) (by simp))
  | some e => exact Script.safe_bind (keeps_now fun t q hg => Script.safe_pure (h _ _ q hg (by simp)))

/-- The engine's comparison of the fields. -/
theorem mismatch_none {a : ExecutionAuthorization} {request : ExecutionRequest} {adapterName : String}
    (h : mismatch a request adapterName = none) :
    a.actionId = request.actionId ∧ a.target = request.target ∧ a.operation = request.operation ∧
      a.expectedOutcome = request.expectedOutcome ∧ a.governanceDomain = request.governanceDomain ∧
      (a.adapterName = some adapterName ∧ request.adapterName = some adapterName) ∧
      a.toProvenance = request.toProvenance := by
  unfold mismatch at h
  split_ifs at h with h₁ h₂ h₃ h₄ h₅
  simp only [ne_eq, not_or, not_not] at *
  exact ⟨h₁, h₂, h₃, h₄.symm, h₅.2.2.2.1, ⟨h₅.2.1, h₅.2.2.1⟩, h₅.2.2.2.2⟩

theorem misbound_false {rt : Runtime} {request : ExecutionRequest} {adapterName : String}
    (h : misbound rt request adapterName = .ok false) :
    ∃ d, request.instructionDigest = some d ∧ bindExecutionRequest rt request adapterName = .ok d := by
  unfold misbound at h
  split at h
  · next d hd =>
    simp only [Except.ok.injEq, ne_eq, decide_eq_false_iff_not, not_or, not_not] at h
    exact ⟨d, h.1, hd⟩
  · cases h
  · cases h

theorem keeps_perform {authorization : ExecutionAuthorization} {checkedAt : Option Int} {request : ExecutionRequest}
    {adapterName : String} {Q : ExecutionResult → Point (State W) (Event L) → Prop}
    (authorized : ∀ q, Grows p q → Authorized P q.state checkedAt authorization request adapterName)
    (h : ∀ r q, Grows p q → Q r q) : Keeps P Q (perform P authorization checkedAt request adapterName) p := by
  unfold perform
  dsimp only
  split
  · exact Script.safe_bind (keeps_saveTrace _ fun q hg => Script.safe_pure (h _ q hg))
  · split
    · exact Script.safe_pure (h _ p (Grows.refl p))
    · refine Script.safe_bind (keeps_outside fun supported q₁ h₁ => ?_)
      split
      · exact Script.safe_pure (h _ q₁ h₁)
      · refine Script.safe_bind (keeps_announce (fun q hg => authorized q (h₁.trans hg)) fun q₂ h₂ _ => ?_)
        refine Script.safe_bind (keeps_outside fun result q₃ h₃ => ?_)
        refine Script.safe_bind (keeps_saveAudit _ fun q₄ h₄ => ?_)
        refine Script.safe_bind (keeps_saveTrace _ fun q₅ h₅ => ?_)
        exact Script.safe_pure (h _ q₅ (h₁.trans (h₂.trans (h₃.trans (h₄.trans h₅)))))

/-- **The engine calls an adapter only on what a stored authorization allows.** -/
theorem keeps_execute {request : ExecutionRequest} {adapterName : String}
    {Q : ExecutionResult → Point (State W) (Event L) → Prop} (h : ∀ r q, Grows p q → Q r q) :
    Keeps P Q (execute P request adapterName) p := by
  unfold execute
  refine Script.safe_bind (keeps_read fun q₁ h₁ _ => ?_)
  have blocks : ∀ {reason : String} {q}, Grows p q → Keeps P Q (blocked request reason) q := fun hq =>
    keeps_blocked fun r q hg => h r q (hq.trans hg)
  split
  · exact blocks h₁
  · next authorization found =>
    split
    · exact blocks h₁
    · next approved =>
      refine Script.safe_bind (keeps_expired fun late t q₂ h₂ unexpired => ?_)
      dsimp only
      split
      · exact blocks (h₁.trans h₂)
      · next valid =>
        split
        · exact blocks (h₁.trans h₂)
        · next agrees =>
          refine Script.safe_bind (Script.safe_ofExcept (fun differs bound => ?_) fun _ _ => trivial)
          cases differs with
          | true => exact blocks (h₁.trans h₂)
          | false =>
            obtain ⟨actionId, target, operation, outcome, domain, adapter, provenance⟩ := mismatch_none agrees
            obtain ⟨d, hd, digest⟩ := misbound_false bound
            refine keeps_perform (fun q hg => ?_) fun r q hg => h r q (h₁.trans (h₂.trans hg))
            have stored := List.mem_of_find?_eq_some found
            refine ⟨(h₂.trans hg).1 stored, not_not.mp approved, unexpired (Bool.not_eq_true _ ▸ valid), actionId,
              target, operation, outcome, domain, adapter, provenance, d, ?_, digest⟩
            rw [← hd, provenance]

theorem keeps_verifyExecution {id : String} {request : ExecutionRequest}
    {Q : VerificationResult → Point (State W) (Event L) → Prop} (h : ∀ r q, Grows p q → Q r q) :
    Keeps P Q (verifyExecution P id request) p := by
  have observes : ∀ {R : Option ObservedState → Point (State W) (Event L) → Prop}, (∀ o q, Grows p q → R o q) →
      Keeps P R (observe P request) p := by
    intro R hR
    unfold observe
    dsimp only
    split
    · refine Script.safe_bind (keeps_caught (keeps_outside fun modules q hg => ?_) fun e q hg => ?_)
      · dsimp only
        split <;> exact Script.safe_pure (hR _ q hg)
      · exact Script.safe_pure (hR _ q hg)
    · exact Script.safe_pure (hR _ p (Grows.refl p))
  refine Script.safe_bind (observes fun o q hg => ?_)
  exact Script.safe_bind (keeps_saveVerification _ fun r hr => Script.safe_pure (h _ r (hg.trans hr)))

theorem keeps_executeAndVerify {request : ExecutionRequest} {adapterName : String}
    {Q : Execution → Point (State W) (Event L) → Prop} (h : ∀ r q, Grows p q → Q r q) :
    Keeps P Q (executeAndVerify P request adapterName) p := by
  refine Script.safe_bind (keeps_execute fun result q hg => ?_)
  split
  · exact Script.safe_bind (keeps_verifyExecution fun v r hr => Script.safe_pure (h _ r (hg.trans hr)))
  · exact Script.safe_pure (h _ q hg)

/-! ### Approval -/

theorem keeps_holdForManualApproval {action : ActionRequest} {decision : ApprovalDecision} {adapterName : String}
    {riskLevel : Option String} {assessment : Option GovernanceAssessment}
    {Q : ApprovalHold → Point (State W) (Event L) → Prop}
    (assessed : Assessed p.trace (provenanceOf assessment).instructionDigest)
    (h : ∀ hold q, Grows p q → Q hold q) :
    Keeps P Q (holdForManualApproval P action decision adapterName riskLevel assessment) p := by
  refine Script.safe_bind (keeps_uuid4 fun id q₁ h₁ => ?_)
  refine Script.safe_bind (keeps_now fun created q₂ h₂ => ?_)
  refine Script.safe_bind (keeps_saveHold (assessed.mono (h₁.trans h₂)) fun q₃ h₃ => ?_)
  exact Script.safe_pure (h _ q₃ (h₁.trans (h₂.trans h₃)))

/-- A digest that is not empty is the held action's. -/
theorem heldDigest_ok {rt : Runtime} {hold : ApprovalHold} {d : String} (h : heldDigest rt hold = .ok d) (nonempty : d ≠ "") :
    bindAction rt hold.action hold.adapterName = .ok d := by
  unfold heldDigest at h
  split at h
  · next bound => rw [bound, Except.ok.inj h]
  · cases h
  · exact absurd (Except.ok.inj h).symm nonempty

/-- A hold whose digest is that of its own action and of an assessed instruction may be released. -/
theorem keeps_resumeHold {hold : ApprovalHold} {approvalId approvedBy : String} {d : String} (own : hold.approvalId = approvalId)
    (assessed : Assessed p.trace (some d)) (digest : hold.instructionDigest = some d)
    (bound : bindAction P.rt hold.action hold.adapterName = .ok d)
    {Q : GovernedResult → Point (State W) (Event L) → Prop} (h : ∀ r q, Grows p q → Q r q) :
    Keeps P Q (resumeHold P hold approvalId approvedBy) p := by
  refine Script.safe_bind (keeps_setHold _ (fun _ => rfl) (by simp [Owes]) fun q₁ h₁ released => ?_)
  refine Script.safe_bind (keeps_setHold _ (fun _ => rfl) (by simp) fun q₂ h₂ _ => ?_)
  refine Script.safe_bind (keeps_updateRecord _ _ (by simp) fun q₃ h₃ => ?_)
  refine Script.safe_bind (Script.safe_bind (keeps_uuid4 fun id q₄ h₄ => ?_))
  refine Script.safe_bind (keeps_now fun created q₅ h₅ => Script.safe_pure ?_)
  have h₀₅ := h₁.trans (h₂.trans (h₃.trans (h₄.trans h₅)))
  have told : ∀ q, Grows q₅ q → .holdApproved hold ∈ q.trace := fun q hg =>
    (h₂.trans (h₃.trans (h₄.trans (h₅.trans hg)))).2 (released _ rfl)
  have through : ∀ q, Grows q₅ q → Inv P q → LetThrough P q.trace d := fun q hg hi => by
    obtain ⟨action, adapterName, assessment, hm, rfl⟩ := assessed d rfl
    have hm := (h₀₅.trans hg).2 hm
    exact ⟨action, adapterName, assessment, hm, hi.assessed _ _ _ hm, .inr ⟨hold, told q hg, bound⟩⟩
  refine Script.safe_bind (keeps_saveAuthorization (fun q hg hi => ⟨⟨d, digest, through q hg hi⟩, ?_⟩) fun q₆ h₆ => ?_)
  · exact .inr ⟨hold, told q hg, congrArg some own.symm, rfl, rfl⟩
  refine Script.safe_bind (Script.safe_bind (keeps_uuid4 fun id q₇ h₇ => Script.safe_pure ?_))
  refine Script.safe_bind (keeps_executeAndVerify fun r q₈ h₈ => ?_)
  exact Script.safe_pure (h _ q₈ (h₀₅.trans (h₆.trans (h₇.trans h₈))))

theorem keeps_approveHeldAction {approvalId approvedBy : String} {approved : Bool}
    {Q : GovernedResult → Point (State W) (Event L) → Prop} (h : ∀ r q, Grows p q → Q r q) :
    Keeps P Q (approveHeldAction P approvalId approvedBy approved) p := by
  unfold approveHeldAction
  refine Script.safe_bind (keeps_read fun q₁ h₁ inv => ?_)
  split
  · exact Script.safe_pure (h _ q₁ h₁)
  · next hold found =>
    split
    · exact Script.safe_pure (h _ q₁ h₁)
    · refine Script.safe_bind (keeps_expired fun late t q₂ h₂ _ => ?_)
      dsimp only
      split
      · refine Script.safe_bind (keeps_setHold _ (fun _ => rfl) (by simp [Owes]) fun q₃ h₃ _ => ?_)
        exact Script.safe_pure (h _ q₃ (h₁.trans (h₂.trans h₃)))
      · split
        · refine Script.safe_bind (keeps_setHold _ (fun _ => rfl) (by simp) fun q₃ h₃ _ => ?_)
          refine Script.safe_bind (keeps_updateRecord _ _ (by simp [Owes]) fun q₄ h₄ => ?_)
          exact Script.safe_pure (h _ q₄ (h₁.trans (h₂.trans (h₃.trans h₄))))
        · split
          · exact Script.safe_pure (h _ q₂ (h₁.trans h₂))
          · refine Script.safe_bind (Script.safe_ofExcept (fun digest digested => ?_) fun _ _ => trivial)
            split
            · exact Script.safe_pure (h _ q₂ (h₁.trans h₂))
            · next bound =>
              simp only [not_or, not_not] at bound
              have assessed : Assessed q₂.trace hold.instructionDigest :=
                (inv.holds hold (List.mem_of_find?_eq_some found)).mono h₂
              rw [← bound.2] at assessed
              have own : hold.approvalId = approvalId := by simpa using List.find?_some found
              refine keeps_resumeHold own assessed bound.2.symm ?_ fun r q hg => h r q (h₁.trans (h₂.trans hg))
              -- A digest is not empty, so the held action has one.
              have nonempty := inv.digest_ne (List.mem_of_find?_eq_some found)
              rw [← bound.2] at nonempty
              exact heldDigest_ok digested fun empty => nonempty (congrArg some empty)

/-! ### The entry point -/

theorem keeps_proceed {action : ActionRequest} {adapterName : String} {assessment : GovernanceAssessment}
    {decision : ApprovalDecision} (assessed : .assessed action adapterName assessment ∈ p.trace)
    {Q : GovernedResult → Point (State W) (Event L) → Prop} (h : ∀ r q, Grows p q → Q r q) :
    Keeps P Q (proceed P action adapterName assessment decision) p := by
  unfold proceed
  split
  · exact Script.safe_bind (keeps_saveRecord _ fun q hg => Script.safe_pure (h _ q hg))
  · refine Script.safe_bind (keeps_holdForManualApproval (fun d hd => ?_) fun hold q₁ h₁ => ?_)
    · exact ⟨action, adapterName, assessment, assessed, Option.some.inj hd⟩
    · exact Script.safe_bind (keeps_saveRecord _ fun q₂ h₂ => Script.safe_pure (h _ q₂ (h₁.trans h₂)))
  · refine Script.safe_bind (keeps_announce (fun _ _ => trivial) fun q₁ h₁ auto => ?_)
    refine Script.safe_bind (keeps_saveRecord _ fun q₂ h₂ => ?_)
    have told : ∀ q, Grows q₂ q → .assessed action adapterName assessment ∈ q.trace ∧
        .autoApproved action adapterName assessment ∈ q.trace := fun q hg =>
      ⟨(h₁.trans (h₂.trans hg)).2 assessed, (h₂.trans hg).2 auto⟩
    have through : ∀ q, Grows q₂ q → Inv P q → LetThrough P q.trace assessment.instructionDigest := fun q hg hi =>
      ⟨action, adapterName, assessment, (told q hg).1, hi.assessed _ _ _ (told q hg).1, .inl (told q hg).2⟩
    unfold createExecutionAuthorization
    split
    · exact Script.safe_bind (Script.safe_pure (Script.safe_pure (h _ q₂ (h₁.trans h₂))))
    · split
      · exact Script.safe_bind (Script.safe_pure (Script.safe_pure (h _ q₂ (h₁.trans h₂))))
      · refine Script.safe_bind (Script.safe_bind (keeps_uuid4 fun id q₃ h₃ => ?_))
        refine Script.safe_bind (keeps_now fun created q₄ h₄ => Script.safe_pure ?_)
        refine Script.safe_bind (keeps_saveAuthorization (fun q hg hi => ?_) fun q₅ h₅ => ?_)
        · have told' := told q (h₃.trans (h₄.trans hg))
          exact ⟨⟨_, rfl, through q (h₃.trans (h₄.trans hg)) hi⟩, .inl ⟨_, _, _, told'.1, told'.2, rfl, rfl⟩⟩
        · refine Script.safe_bind (Script.safe_bind (keeps_uuid4 fun id q₆ h₆ => Script.safe_pure ?_))
          refine Script.safe_bind (keeps_executeAndVerify fun r q₇ h₇ => ?_)
          exact Script.safe_pure
            (h _ q₇ (h₁.trans (h₂.trans (h₃.trans (h₄.trans (h₅.trans (h₆.trans h₇)))))))

theorem keeps_executeGovernedAction {action : ActionRequest} {adapterName : String}
    {Q : GovernedResult → Point (State W) (Event L) → Prop} (h : ∀ r q, Grows p q → Q r q) :
    Keeps P Q (executeGovernedAction P action adapterName) p := by
  unfold executeGovernedAction
  refine Script.safe_bind (keeps_caught (keeps_resolveAssessment fun assessment q₁ h₁ assessed => ?_)
    fun e q hg => ?_)
  · dsimp only
    split
    · exact Script.safe_pure (h _ q₁ h₁)
    · refine Script.safe_bind (Script.safe_bind (keeps_uuid4 fun id q₂ h₂ => Script.safe_pure ?_))
      exact keeps_proceed (h₂.2 assessed) fun r q₃ h₃ => h r q₃ (h₁.trans (h₂.trans h₃))
  · cases e with
    | other message => exact Script.safe_throw trivial
    | assessment message => exact Script.safe_pure (h _ q hg)
    | value message => exact Script.safe_pure (h _ q hg)

end

/-! ### Runs -/

/-- A caller that holds an action has its assessment from the core, if it has one. -/
def Call.Honest (trace : List (Event L)) : Call → Prop
  | .hold _ _ _ _ assessment => Assessed trace (provenanceOf assessment).instructionDigest
  | _ => True

theorem keeps_call {P : Platform W L} {p : Point (State W) (Event L)} (call : Call) (honest : call.Honest p.trace) :
    Keeps P (fun _ _ => True) (call.script P) p := by
  cases call with
  | governed action adapterName =>
    exact Script.safe_bind (keeps_executeGovernedAction fun _ _ _ => Script.safe_pure trivial)
  | resolve action adapterName =>
    exact Script.safe_bind (keeps_resolveAssessment fun _ _ _ _ => Script.safe_pure trivial)
  | hold action decision adapterName riskLevel assessment =>
    exact Script.safe_bind (keeps_holdForManualApproval honest fun _ _ _ => Script.safe_pure trivial)
  | approve approvalId approvedBy approved =>
    exact Script.safe_bind (keeps_approveHeldAction fun _ _ _ => Script.safe_pure trivial)
  | engine request adapterName => exact Script.safe_bind (keeps_execute fun _ _ _ => Script.safe_pure trivial)

/-- Runs of calls that meet `admissible` when they start, interleaved step by step. -/
abbrev Run (P : Platform W L) (admissible : Call → List (Event L) → Prop) :=
  Pool.Reach (fun x p => ∃ call, admissible call p.trace ∧ x = Call.script P call) fun (_ : Event L) _ => True

/-- Nothing in progress, nothing stored. -/
def start (L : Type) (backend : Backend) (world : W) : Pool (State W) (Event L) (Except Raised Unit) :=
  ⟨[], .initial backend world, []⟩

theorem run_inv {P : Platform W L} {backend : Backend} {world : W} {c : Pool (State W) (Event L) (Except Raised Unit)}
    (h : Run P (fun call trace => call.Honest trace) (start L backend world) c) : Inv P c.point := by
  have initial : Inv P (start L backend world : Pool (State W) (Event L) (Except Raised Unit)).point := by
    constructor <;> simp [start, State.initial, DurableStore.empty]
  obtain ⟨inv, -, -⟩ := Pool.reach_sound (D := discipline P) (fun _ _ _ => Grows.trans) Grows.refl
    (fun _ _ h => h) (fun x p ⟨call, honest, hx⟩ _ => by
      subst hx
      exact Program.Safe.mono (keeps_call call honest) fun _ _ _ => trivial) h initial (by simp [Pool.AllSafe, start])
  exact inv

/-- **Execution safety.** Whatever calls interleave, an adapter is called only on a
request that a stored, valid authorization is for in every field, and that says the
same as an instruction that was assessed and either auto-approved or released from
its hold. -/
theorem execution_safety (P : Platform W L) (hash : Function.Injective P.rt.sha256) (backend : Backend) (world : W)
    (c : Pool (State W) (Event L) (Except Raised Unit))
    (h : Run P (fun call trace => call.Honest trace) (start L backend world) c)
    (checkedAt : Option Int) (authorization : ExecutionAuthorization) (request : ExecutionRequest)
    (adapterName : String)
    (executed : .adapterExecute checkedAt authorization request adapterName ∈ c.point.trace) :
    Authorized P c.point.state checkedAt authorization request adapterName ∧
      ∃ action assessedFor assessment, .assessed action assessedFor assessment ∈ c.point.trace ∧
        (request.instruction adapterName).Same (action.instruction assessedFor) ∧
        (.autoApproved action assessedFor assessment ∈ c.point.trace ∨
          ∃ hold, .holdApproved hold ∈ c.point.trace ∧
            (request.instruction adapterName).Same (hold.action.instruction hold.adapterName)) := by
  have inv := run_inv h
  have authorized := inv.executed _ _ _ _ executed
  obtain ⟨d, hd, bound⟩ := authorized.bound
  obtain ⟨⟨d', hd', action, assessedFor, assessment, assessed, digest, approved⟩, -⟩ :=
    inv.authorizations authorization authorized.stored
  obtain rfl : d = d' := by simpa [hd] using hd'
  refine ⟨authorized, action, assessedFor, assessment, assessed, Instruction.same_of_digest hash bound digest, ?_⟩
  exact approved.imp_right fun ⟨hold, released, held⟩ =>
    ⟨hold, released, Instruction.same_of_digest hash bound held⟩

/-! ### Two runs -/

def Event.isExecute : Event L → Bool
  | adapterExecute .. => true
  | _ => false

def Event.isAssessed : Event L → Bool
  | assessed .. => true
  | _ => false

theorem exists_execute {trace : List (Event L)} (h : trace.any Event.isExecute = true) :
    ∃ checkedAt authorization request adapterName,
      .adapterExecute checkedAt authorization request adapterName ∈ trace := by
  obtain ⟨m, hm, executes⟩ := List.any_eq_true.mp h
  cases m with
  | adapterExecute checkedAt authorization request adapterName => exact ⟨_, _, _, _, hm⟩
  | _ => cases executes

namespace Sample

/-- The action runs at once. -/
def governed : Pool (State Unit) (Event Empty) (Except Raised Unit) :=
  Pool.runSchedule ⟨[Call.script platform (.governed action "simulation")], .initial .sqlite (), []⟩
    (List.replicate 30 0)

theorem governed_run : Run platform (fun call trace => call.Honest trace) (start Empty .sqlite ()) governed :=
  (Relation.ReflTransGen.single (.call _ ⟨.governed action "simulation", trivial, rfl⟩)).trans (Pool.runSchedule_reach _ _ _)

/-- An assessment nobody made, with the default evaluators' names and the action's digest. -/
def fabricated : GovernanceAssessment where
  assessmentId := "assessment-1"
  governanceDomain := "rmt.default"
  policyResult := evaluateActionPolicy action .none
  riskResult := simulateAction action
  policyEvaluatorId := "rmt.default.action-policy"
  policyEvaluatorVersion := "1"
  riskEvaluatorId := "rmt.default.action-simulation"
  riskEvaluatorVersion := "1"
  instructionDigest := "29ff90b1a8a2532f4bbf5405baac473e7387b220274573b06ad4d54523869ffd"
  canonicalizationVersion
  adapterName := "simulation"
  policyEvidenceReferences := []
  riskEvidenceReferences := []
  uncertainty := "unspecified"
  recoverySemantics := ""

/-- A caller holds the action on the fabricated assessment and has the hold approved. -/
def forged : Pool (State Unit) (Event Empty) (Except Raised Unit) :=
  Pool.runSchedule
    ⟨[Call.script platform (.approve (uuid 0).text "olga" true),
      Call.script platform (.hold action ⟨"approval-1", "action-1", .manual, false, "Held"⟩ "simulation" none
        (some fabricated))], .initial .sqlite (), []⟩
    (List.replicate 5 1 ++ List.replicate 30 0)

theorem forged_run : Run platform (fun _ _ => True) (start Empty .sqlite ()) forged :=
  (Relation.ReflTransGen.head (.call _ ⟨_, trivial, rfl⟩) (.single (.call _ ⟨_, trivial, rfl⟩))).trans
    (Pool.runSchedule_reach _ _ _)

end Sample

/-- The action that runs at once is authorized. -/
theorem execution_safety_governed :
    ∃ checkedAt authorization request adapterName,
      .adapterExecute checkedAt authorization request adapterName ∈ Sample.governed.point.trace ∧
      Authorized Sample.platform Sample.governed.point.state checkedAt authorization request adapterName := by
  obtain ⟨checkedAt, authorization, request, adapterName, executed⟩ :=
    exists_execute (by decide +kernel : Sample.governed.point.trace.any Event.isExecute = true)
  exact ⟨checkedAt, authorization, request, adapterName, executed,
    (execution_safety Sample.platform Sample.sha256_injective .sqlite () Sample.governed Sample.governed_run
      checkedAt authorization request adapterName executed).1⟩

/-- **A fabricated assessment is taken for one**: an adapter is called although
nothing was ever assessed. -/
theorem execution_unassessed :
    Function.Injective Sample.platform.rt.sha256 ∧
    Run Sample.platform (fun _ _ => True) (start Empty .sqlite ()) Sample.forged ∧
    (∃ checkedAt authorization request adapterName,
      .adapterExecute checkedAt authorization request adapterName ∈ Sample.forged.point.trace) ∧
    ∀ action assessedFor assessment,
      .assessed action assessedFor assessment ∉ Sample.forged.point.trace := by
  have trace : Sample.forged.point.trace.any Event.isExecute = true ∧
      Sample.forged.point.trace.any Event.isAssessed = false := by decide +kernel
  refine ⟨Sample.sha256_injective, Sample.forged_run, exists_execute trace.1, ?_⟩
  intro action assessedFor assessment assessed
  exact absurd (List.any_eq_true.mpr ⟨_, assessed, rfl⟩) (by rw [trace.2]; simp)

end RmtPlatform.Core
