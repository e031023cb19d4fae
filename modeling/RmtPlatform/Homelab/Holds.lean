import RmtPlatform.Ops.Effects

/-! Whether a hold can still be approved.

Three places decide it: the operational loop, before it routes another remediation
(`holdIsStillActionable`); the view of open holds (`openHold`); and the core itself
(`GoesBeyond`). The first counts the instant of expiry as too late, the others do not;
the core alone does not read the approval record. `approvable_agree_iff` says when the
three agree. -/
namespace RmtPlatform.Homelab

open Core Ops

variable {W L : Type}

def terminalDecisions : List String := ["approved", "rejected"]

/-- The approval record has a terminal decision. -/
def recordTerminal (record : Option ApprovalRecord) : Bool :=
  match record with
  | some r => r.decision ∈ terminalDecisions
  | none => false

/-! ### The operational loop -/

/-- `_hold_is_still_actionable`. -/
def holdIsStillActionable (s : State W) (hold : ApprovalHold) (now : Int) : Bool :=
  if hold.status ≠ .pending then false
  else if hold.expiresAt.any (· ≤ now) then false
  else !recordTerminal (s.record? hold.approvalId)

/-- `_pending_hold_for`. -/
def pendingHoldFor (s : State W) (component : String) (now : Int) : Option ApprovalHold :=
  s.holds.records.find? fun hold => hold.action.component = component && holdIsStillActionable s hold now

/-! ### The view of open holds -/

structure OpenHold where
  approvalId : String
  component : String
  actionType : String
  createdAt : Option Int
  expiresAt : Option Int
  age : Option Int
  expired : Bool
  recordDecision : Option String
  recordTerminal : Bool
  actionable : Bool
  kind : String
  grantedBy : Option String
  agentId : Option String

section
variable (createdAt : ApprovalHold → Option Int)

/-- What the view says of a pending hold. -/
def openHold (record : Option ApprovalRecord) (provenance : Option HoldProvenance) (now : Int) (hold : ApprovalHold) :
    OpenHold :=
  let expired := hold.expiresAt.any (· < now)
  { approvalId := hold.approvalId
    component := hold.action.component
    actionType := hold.action.actionType.value
    createdAt := createdAt hold
    expiresAt := hold.expiresAt
    age := (createdAt hold).map (now - ·)
    expired
    recordDecision := record.map (·.decision)
    recordTerminal := recordTerminal record
    actionable := !expired && !recordTerminal record
    kind := if provenance.isSome then "agent_proposal" else "held_action"
    grantedBy := provenance.bind (·.grantedBy)
    agentId := provenance.bind (·.agentId) }

/-- The pending holds among these. -/
def openHoldsFrom (D : Deployment W L) (t : Int) : List ApprovalHold → Above W L (List OpenHold)
  | [] => pure []
  | hold :: rest => do
    if hold.status ≠ .pending then openHoldsFrom D t rest
    else
      let record ← Script.read fun s => s.core.record? hold.approvalId
      let provenance ← getHoldProvenance D hold.approvalId
      let views ← openHoldsFrom D t rest
      pure (openHold createdAt record provenance t hold :: views)

def openHoldsView (D : Deployment W L) : Above W L (List OpenHold) := do
  let holds ← Script.read fun s => s.core.holds.records
  let t ← inCore (now D.toPlatform)
  openHoldsFrom createdAt D t holds

end

/-! ### The core -/

/-- The approval is unknown, resolved already, or has expired. -/
def turnedBack : GovernedResult → Bool
  | .approvalNotFound _ | .approvalAlreadyResolved .. | .approvalExpired .. => true
  | _ => false

/-- The call goes beyond these exits. -/
def GoesBeyond (P : Platform W L) (s : State W) (approvalId approvedBy : String) (approved : Bool) : Prop :=
  ∀ r s', (approveHeldAction P approvalId approvedBy approved).exec s = (.ok r, s') → turnedBack r = false

section
variable {P : Platform W L} {s : State W} {hold : ApprovalHold} {approvalId approvedBy : String} {approved : Bool}

theorem resumeHold_beyond : Script.Yields (fun r _ (_ : List (Event L)) => turnedBack r = false) (fun _ _ _ => True)
    (resumeHold P hold approvalId approvedBy) s := by
  apply yields_resumeHold
  apply Script.Yields.of_exec
  · exact fun e s' _ => rfl
  · exact fun e s' _ => trivial

/-- **The core decides by the hold alone.** -/
theorem goesBeyond_iff (found : s.hold? approvalId = some hold) :
    GoesBeyond P s approvalId approvedBy approved ↔ hold.status = .pending ∧ late P s hold.expiresAt = false := by
  obtain ⟨checkedAt, checked, silent⟩ := expired_exec (P := P) (s := s) hold.expiresAt
  have spec : Script.Yields
      (fun r _ (_ : List (Event L)) => turnedBack r = false ↔ hold.status = .pending ∧ late P s hold.expiresAt = false)
      (fun _ _ _ => hold.status = .pending ∧ late P s hold.expiresAt = false)
      (approveHeldAction P approvalId approvedBy approved) s := by
    unfold approveHeldAction
    apply Script.yields_bind.mpr
    apply Script.yields_read.mpr
    rw [found]
    dsimp only
    by_cases pending : hold.status = .pending
    · rw [if_neg (by simp [pending])]
      apply Script.yields_bind.mpr
      apply (Script.yields_of_exec checked silent).mpr
      dsimp only
      cases timely : late P s hold.expiresAt with
      | true =>
        apply Script.yields_bind.mpr
        apply Script.yields_modify.mpr
        simp [turnedBack]
      | false =>
        have beyond : ∀ r, turnedBack r = false → (turnedBack r = false ↔ hold.status = .pending ∧ false = false) :=
          fun r h => ⟨fun _ => ⟨pending, rfl⟩, fun _ => h⟩
        rw [if_neg (by simp)]
        cases approved with
        | false =>
          apply Script.yields_bind.mpr
          apply Script.yields_modify.mpr
          apply Script.yields_bind.mpr
          apply Script.yields_modify.mpr
          exact beyond _ rfl
        | true =>
          rw [if_neg (by simp)]
          cases registered : P.registration? hold.governanceDomain with
          | none => exact beyond _ rfl
          | some registration =>
            dsimp only
            apply Script.yields_bind.mpr
            refine Script.yields_ofExcept.mpr ⟨fun digest _ => ?_, fun _ _ => ⟨pending, rfl⟩⟩
            split
            · exact beyond _ rfl
            · exact resumeHold_beyond.mono (fun r _ _ h => beyond r h) fun _ _ _ _ => ⟨pending, rfl⟩
    · rw [if_pos pending]
      apply Script.yields_pure.mpr
      simp [turnedBack, pending]
  unfold GoesBeyond
  rcases answer : (approveHeldAction P approvalId approvedBy approved).exec s with ⟨e | r, s'⟩
  · have decided := spec.error answer
    exact ⟨fun _ => decided, fun _ r s'' h => by cases h⟩
  · have decided := spec.ok answer
    constructor
    · exact fun beyond => decided.mp (beyond r s' rfl)
    · intro h r' s'' same
      cases same
      exact decided.mpr h

end

/-! ### The view, as it is read -/

section
variable (createdAt : ApprovalHold → Option Int)

/-- A view of a hold, as of a time. -/
def Views (s : State W) (t : Int) (v : OpenHold) (hold : ApprovalHold) : Prop :=
  ∃ provenance, v = openHold createdAt (s.record? hold.approvalId) provenance t hold

theorem openHoldsFrom_views (D : Deployment W L) (t : Int) (holds : List ApprovalHold) (s : Site W) : Script.Yields
    (fun views s' (_ : List (Notice L)) => Glanced s s' ∧
      List.Forall₂ (Views createdAt s.core t) views (holds.filter fun hold => hold.status = .pending))
    (fun _ _ _ => False) (openHoldsFrom createdAt D t holds) s := by
  induction holds generalizing s with
  | nil => exact ⟨rfl, .nil⟩
  | cons hold rest ih =>
    unfold openHoldsFrom
    by_cases pending : hold.status = .pending
    · rw [if_neg (by simp [pending]), List.filter_cons_of_pos (by simpa using pending)]
      apply Script.yields_bind.mpr
      apply Script.yields_read.mpr
      apply Script.yields_bind.mpr
      refine getHoldProvenance_yields.mono ?_ fun _ _ _ h => h
      rintro provenance s₁ ls ⟨glanced, -⟩
      apply Script.yields_bind.mpr
      refine (ih s₁).mono ?_ fun _ _ _ h => h
      rintro views s₂ ls' ⟨glanced', listed⟩
      rw [glanced] at glanced' listed
      exact ⟨glanced', .cons ⟨provenance, rfl⟩ listed⟩
    · rw [if_pos pending, List.filter_cons_of_neg (by simpa using pending)]
      exact ih s

/-- **The view is of the pending holds**, in the order they are stored. -/
theorem openHoldsView_views (D : Deployment W L) (s : Site W) : Script.Yields
    (fun views s' (_ : List (Notice L)) => Glanced s s' ∧ List.Forall₂ (Views createdAt s.core (D.clock s.core.ticks))
      views (s.core.holds.records.filter fun hold => hold.status = .pending))
    (fun _ _ _ => False) (openHoldsView createdAt D) s := by
  unfold openHoldsView
  apply Script.yields_bind.mpr
  apply Script.yields_read.mpr
  apply Script.yields_bind.mpr
  apply yields_inCore.mpr
  apply yields_now.mpr
  refine (openHoldsFrom_views createdAt D _ _ _).mono ?_ fun _ _ _ h => h
  rintro views s' ls ⟨glanced, listed⟩
  exact ⟨glanced, listed⟩

end

/-! ### Agreement -/

section
variable {s : State W} {hold : ApprovalHold} {now : Int}

theorem holdIsStillActionable_iff : holdIsStillActionable s hold now = true ↔
    hold.status = .pending ∧ (∀ e, hold.expiresAt = some e → now < e) ∧
      recordTerminal (s.record? hold.approvalId) = false := by
  unfold holdIsStillActionable
  cases hold.expiresAt <;> by_cases pending : hold.status = .pending <;> simp [pending]

/-- The view lists the hold, as actionable. -/
def ViewedActionable (createdAt : ApprovalHold → Option Int) (provenance : Option HoldProvenance) (s : State W)
    (hold : ApprovalHold) (now : Int) : Prop :=
  hold.status = .pending ∧ (openHold createdAt (s.record? hold.approvalId) provenance now hold).actionable = true

theorem viewedActionable_iff {createdAt : ApprovalHold → Option Int} {provenance : Option HoldProvenance} :
    ViewedActionable createdAt provenance s hold now ↔ hold.status = .pending ∧
      (∀ e, hold.expiresAt = some e → now ≤ e) ∧ recordTerminal (s.record? hold.approvalId) = false := by
  unfold ViewedActionable openHold
  cases hold.expiresAt <;> simp

end

/-- **When the three agree**: the hold is resolved; or its record is, and it has expired; or neither its record is, nor
this is the instant it expires. -/
theorem approvable_agree_iff (P : Platform W L) (s : State W) (createdAt : ApprovalHold → Option Int)
    (provenance : Option HoldProvenance) (approvalId approvedBy : String) (approved : Bool) (hold : ApprovalHold)
    (found : s.hold? approvalId = some hold) :
    ((holdIsStillActionable s hold (P.clock s.ticks) = true ↔
        ViewedActionable createdAt provenance s hold (P.clock s.ticks)) ∧
      (ViewedActionable createdAt provenance s hold (P.clock s.ticks) ↔ GoesBeyond P s approvalId approvedBy approved)) ↔
    hold.status ≠ .pending ∨
      (if recordTerminal (s.record? approvalId) then ∃ e, hold.expiresAt = some e ∧ e < P.clock s.ticks
        else hold.expiresAt ≠ some (P.clock s.ticks)) := by
  have named : hold.approvalId = approvalId := by simpa using List.find?_some found
  rw [holdIsStillActionable_iff, viewedActionable_iff, goesBeyond_iff found, named]
  cases recordTerminal (s.record? approvalId) <;> cases expires : hold.expiresAt <;>
    by_cases pending : hold.status = .pending <;> simp [pending, late]
  -- Pending, not resolved, and with a time: only that instant is counted differently.
  next e => omega

/-! ### Disagreement -/

namespace Sample

/-- A hold of the start of a container. -/
def holdUntil (expiresAt : Int) : ApprovalHold :=
  { Provenance.missing with
    approvalId := "approval-1"
    actionId := "action-1"
    action := Core.Sample.action
    adapterName := "simulation"
    reason := "Action explicitly requires approval"
    status := .pending
    approvedBy := none
    expiresAt := some expiresAt
    riskLevel := some "low"
    governanceDomain := "rmt.default" }

def recordOf (decision : String) : ApprovalRecord where
  approvalId := "approval-1"
  actionId := "action-1"
  decision
  approvedBy := "operator-1"
  reason := ""
  governanceDomain := "rmt.default"
  assessmentId := none
  instructionDigest := none
  adapterName := some "simulation"
  policyEvidenceReferences := []
  riskEvidenceReferences := []

/-- One hold and its record, and the clock at zero. -/
def stored (expiresAt : Int) (decision : String) : State Unit :=
  { State.initial .sqlite () with
    holds := .save (.empty .sqlite) (holdUntil expiresAt)
    records := .save (.empty .sqlite) (recordOf decision) }

end Sample

/-- An hour before it expires, of a hold that nobody has decided. -/
theorem approvable_agree_open :
    let s := Sample.stored 3600000000 "manual_required"
    (holdIsStillActionable s (Sample.holdUntil 3600000000) 0 = true ↔
        ViewedActionable (fun _ => none) none s (Sample.holdUntil 3600000000) 0) ∧
      (ViewedActionable (fun _ => none) none s (Sample.holdUntil 3600000000) 0 ↔
        GoesBeyond Core.Sample.platform s "approval-1" "operator-1" true) :=
  (approvable_agree_iff Core.Sample.platform (Sample.stored 3600000000 "manual_required") _ _ _ _ _ _ rfl).mpr
    (by decide)

/-- **Two disagreements**: at the instant a hold expires the loop takes it for done, and the view and the core do not;
and where the record is approved and the hold is not, the core alone goes on. -/
theorem approvable_disagree :
    (holdIsStillActionable (Sample.stored 0 "manual_required") (Sample.holdUntil 0) 0 = false ∧
      ViewedActionable (fun _ => none) none (Sample.stored 0 "manual_required") (Sample.holdUntil 0) 0 ∧
      GoesBeyond Core.Sample.platform (Sample.stored 0 "manual_required") "approval-1" "operator-1" true) ∧
    (holdIsStillActionable (Sample.stored 1 "approved") (Sample.holdUntil 1) 0 = false ∧
      ¬ViewedActionable (fun _ => none) none (Sample.stored 1 "approved") (Sample.holdUntil 1) 0 ∧
      GoesBeyond Core.Sample.platform (Sample.stored 1 "approved") "approval-1" "operator-1" true) := by
  have beyond : ∀ t decision, 0 ≤ t →
      GoesBeyond Core.Sample.platform (Sample.stored t decision) "approval-1" "operator-1" true := by
    intro t decision early
    have found : (Sample.stored t decision).hold? "approval-1" = some (Sample.holdUntil t) := rfl
    apply (goesBeyond_iff found).mpr
    exact ⟨rfl, by simpa [late, Sample.holdUntil, Core.Sample.platform, Sample.stored, State.initial] using early⟩
  refine ⟨⟨by decide, ⟨rfl, by decide⟩, beyond 0 _ le_rfl⟩, by decide, ?_, beyond 1 _ (by decide)⟩
  rintro ⟨-, actionable⟩
  exact absurd actionable (by decide)

end RmtPlatform.Homelab
