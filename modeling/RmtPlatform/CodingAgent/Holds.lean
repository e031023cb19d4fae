import RmtPlatform.Process.Safety
import RmtPlatform.Data.Clock

/-! Holds of the coding agent and who decides them.

`decide` looks the hold up, refuses unless it is pending, and then writes the
decision: two steps, with other calls between them. The update does not look at
the status again, so one decision is kept as long as the hold is still pending
when it is written (`decided_once`), and not otherwise (`decided_twice`). -/
namespace RmtPlatform.CodingAgent

/-! ### Records -/

inductive Leans where
  | approve | reject | neutral
deriving DecidableEq

structure EvidenceItem where
  source : String
  claim : String
  leans : Leans
deriving DecidableEq

inductive HoldStatus where
  | pending | approved | rejected
deriving DecidableEq

def HoldStatus.value : HoldStatus → String
  | pending => "pending"
  | approved => "approved"
  | rejected => "rejected"

structure CommandHold where
  holdId : String
  command : String
  cwd : String
  reason : Option String
  sessionId : Option String
  riskRule : String
  riskLevel : String
  evidence : List EvidenceItem
  verdict : Leans
  status : HoldStatus
  createdAt : Instant
  decidedAt : Option Instant
  decidedBy : Option String

abbrev Holds := List CommandHold

namespace Holds

def getById (holds : Holds) (id : String) : Option CommandHold := holds.find? fun h => h.holdId = id

/-- `update`: the first hold with the id is replaced. -/
def update (id : String) (f : CommandHold → CommandHold) : Holds → Holds
  | [] => []
  | h :: rest => if h.holdId = id then f h :: rest else h :: update id f rest

end Holds

/-! ### The endpoint -/

structure HTTPException where
  status : Nat
  detail : String
deriving DecidableEq

def disabled : HTTPException := ⟨503, "coding-agent governance disabled (RMT_CODING_AGENT_ENABLED)"⟩

structure DecideBody where
  holdId : String
  approved : Bool
deriving DecidableEq

/-- A call of `decide`: what it asks, who asks it, and what it finds of its surroundings. -/
structure DecideCall where
  body : DecideBody
  operator : String
  now : Instant
  enabled : Bool

def DecideCall.status (r : DecideCall) : HoldStatus := if r.body.approved then .approved else .rejected

/-- The fields `CommandHoldStore.decide` sets. -/
def DecideCall.set (r : DecideCall) (hold : CommandHold) : CommandHold :=
  { hold with status := r.status, decidedAt := some r.now, decidedBy := some r.operator }

/-- What a call ends with. -/
inductive Reply where
  | decided (call : DecideCall) (result : Except HTTPException CommandHold)
  | held (hold : CommandHold)

/-- Scripts over the holds; a write of a decision shows the id of its hold. -/
abbrev HoldScript (α : Type) := Script Holds String HTTPException α

abbrev HoldProgram := Program Holds String Reply

/-- `command_hold_store.decide`, and the answer made of what it returns. -/
def storeDecide (r : DecideCall) : HoldScript CommandHold :=
  Script.step (some r.body.holdId) fun holds =>
    match Holds.getById holds r.body.holdId with
    | some hold => .ok (r.set hold, Holds.update r.body.holdId r.set holds)
    | none => .error ⟨500, "Internal Server Error"⟩

/-- What `decide` does with the hold it has found. -/
def decideFound (r : DecideCall) : Option CommandHold → HoldScript CommandHold
  | none => throw ⟨404, "hold not found"⟩
  | some hold => do
    Script.raiseIf (hold.status ≠ .pending) ⟨409, "hold already " ++ hold.status.value⟩
    storeDecide r

def decide (r : DecideCall) : HoldScript CommandHold := do
  Script.raiseIf (r.enabled = false) disabled
  let hold ← Script.read fun holds => Holds.getById holds r.body.holdId
  decideFound r hold

def replying (r : DecideCall) (x : HoldScript CommandHold) : HoldProgram :=
  Program.bind x fun result => .done (.decided r result)

/-- A call of `decide`. -/
def deciding (r : DecideCall) : HoldProgram := replying r (decide r)

/-- `command_hold_store.create`, which `propose` calls. -/
def proposing (hold : CommandHold) : HoldProgram := .act none (· ++ [hold]) fun _ => .done (.held hold)

/-- Any number of calls side by side. -/
def Calls (x : HoldProgram) (_ : Point Holds String) : Prop := (∃ r, x = deciding r) ∨ ∃ hold, x = proposing hold

/-! ### One decision -/

/-- The call ended and was given the decision. -/
def succeeded (id : String) : HoldProgram → Bool
  | .done (.decided r (.ok _)) => r.body.holdId = id
  | _ => false

/-- The stored decision is the one `r` asked for. -/
def Stored (r : DecideCall) (holds : Holds) : Prop :=
  ∃ hold, Holds.getById holds r.body.holdId = some hold ∧ hold.status = r.status ∧
    hold.decidedBy = some r.operator ∧ hold.decidedAt = some r.now

/-- Once a call on the hold has been answered, one has succeeded and every other
one is refused, and what is stored is what the one that succeeded asked for. -/
structure DecidedOnce (id : String) (c : Pool Holds String Reply) : Prop where
  at_most : c.threads.countP (succeeded id) ≤ 1
  exactly : ∀ r result, .done (.decided r result) ∈ c.threads → r.body.holdId = id → r.enabled →
    c.threads.countP (succeeded id) = 1
  refused : ∀ r e, .done (.decided r (.error e)) ∈ c.threads → r.body.holdId = id → r.enabled → e.status = 409
  stored : ∀ r hold, .done (.decided r (.ok hold)) ∈ c.threads → r.body.holdId = id → Stored r c.point.state

/-- No other call has written a decision since this one found the hold pending. -/
def StillPending (id : String) (p : Point Holds String) : Prop :=
  ∀ hold ∈ Holds.getById p.state id, hold.status = .pending

instance (id : String) (p : Point Holds String) : Decidable (StillPending id p) := by
  unfold StillPending
  infer_instance

/-- A decision on the hold is written only while it is still pending. -/
def OnTime (id : String) (written : String) (p : Point Holds String) : Prop := written = id → StillPending id p

instance (id written : String) (p : Point Holds String) : Decidable (OnTime id written p) := by
  unfold OnTime
  infer_instance

/-! ### Looking up and updating -/

namespace Holds
variable {holds : Holds} {id other : String} {f : CommandHold → CommandHold} {hold : CommandHold}

theorem getById_append (there : getById holds id = some hold) (new : CommandHold) :
    getById (holds ++ [new]) id = some hold := by
  unfold getById at there ⊢
  rw [List.find?_append, there, Option.some_or]

theorem getById_update_other (keeps : ∀ h, (f h).holdId = h.holdId) (differ : other ≠ id) :
    getById (update other f holds) id = getById holds id := by
  unfold getById
  induction holds with
  | nil => rfl
  | cons h rest ih =>
    unfold update
    by_cases same : h.holdId = other
    · have mine : h.holdId ≠ id := fun h' => differ (same ▸ h')
      rw [if_pos same, List.find?_cons_of_neg (by simpa [keeps] using mine), List.find?_cons_of_neg (by simpa using mine)]
    · rw [if_neg same, List.find?_cons, List.find?_cons, ih]

theorem getById_update (keeps : ∀ h, (f h).holdId = h.holdId) :
    getById (update id f holds) id = (getById holds id).map f := by
  unfold getById
  induction holds with
  | nil => rfl
  | cons h rest ih =>
    unfold update
    by_cases same : h.holdId = id
    · rw [if_pos same, List.find?_cons_of_pos (by simpa [keeps] using same), List.find?_cons_of_pos (by simpa using same),
        Option.map_some]
    · rw [if_neg same, List.find?_cons_of_neg (by simpa using same), List.find?_cons_of_neg (by simpa using same), ih]

end Holds

/-! ### The steps of a call -/

theorem deciding_off {r : DecideCall} (off : r.enabled = false) : deciding r = .done (.decided r (.error disabled)) := by
  unfold deciding replying decide Script.raiseIf
  rw [if_pos off]
  rfl

theorem deciding_on {r : DecideCall} (on : r.enabled = true) :
    deciding r = .act none id fun holds => replying r (decideFound r (Holds.getById holds r.body.holdId)) := by
  unfold deciding replying decide Script.raiseIf
  rw [if_neg (by simp [on])]
  rfl

theorem decideFound_pending {r : DecideCall} {hold : CommandHold} (pending : hold.status = .pending) :
    replying r (decideFound r (some hold)) = replying r (storeDecide r) := by
  show replying r (Script.raiseIf (hold.status ≠ .pending) _ >>= fun _ => storeDecide r) = _
  unfold Script.raiseIf
  rw [if_neg (by simp [pending])]
  rfl

theorem decideFound_decided {r : DecideCall} {hold : CommandHold} (decided : hold.status ≠ .pending) :
    replying r (decideFound r (some hold)) =
      .done (.decided r (.error ⟨409, "hold already " ++ hold.status.value⟩)) := by
  show replying r (Script.raiseIf (hold.status ≠ .pending) _ >>= fun _ => storeDecide r) = _
  unfold Script.raiseIf
  rw [if_pos decided]
  rfl

theorem writing_eq (r : DecideCall) : replying r (storeDecide r) = .act (some r.body.holdId)
    (fun holds => match Holds.getById holds r.body.holdId with
      | some _ => Holds.update r.body.holdId r.set holds
      | none => holds)
    (fun holds => .done (.decided r (match Holds.getById holds r.body.holdId with
      | some hold => .ok (r.set hold)
      | none => .error ⟨500, "Internal Server Error"⟩))) := by
  unfold replying storeDecide Script.step
  show Program.act _ _ _ = _
  congr 1
  · funext holds
    dsimp only
    cases Holds.getById holds r.body.holdId <;> rfl
  · funext holds
    dsimp only
    cases Holds.getById holds r.body.holdId <;> rfl

/-! ### What the calls in progress have in common -/

/-- How far a call has come, and what it knows of the hold. -/
inductive Shape (id : String) (holds : Holds) (x : HoldProgram) : Prop where
  | deciding (r : DecideCall) (is : x = deciding r)
  | writing (r : DecideCall) (is : x = replying r (storeDecide r))
  | proposing (hold : CommandHold) (is : x = proposing hold)
  | held (hold : CommandHold) (is : x = .done (.held hold))
  | elsewhere (r : DecideCall) (result : Except HTTPException CommandHold) (is : x = .done (.decided r result))
      (other : r.body.holdId ≠ id)
  | off (r : DecideCall) (is : x = .done (.decided r (.error disabled))) (off : r.enabled = false)
  | refused (r : DecideCall) (e : HTTPException) (is : x = .done (.decided r (.error e))) (status : e.status = 409)
      (decided : ∀ hold, Holds.getById holds id = some hold → hold.status ≠ .pending)
  | succeeded (r : DecideCall) (hold : CommandHold) (is : x = .done (.decided r (.ok hold))) (same : r.body.holdId = id)
      (stored : Stored r holds)

/-- The number of decisions a hold with this status has had. -/
def HoldStatus.decisions : HoldStatus → Nat
  | pending => 0
  | _ => 1

/-- The hold is there, and as many calls have succeeded as its status tells. -/
structure Sound (id : String) (c : Pool Holds String Reply) : Prop where
  shapes : ∀ x ∈ c.threads, Shape id c.point.state x
  counted : ∃ hold, Holds.getById c.point.state id = some hold ∧
    c.threads.countP (succeeded id) = hold.status.decisions

variable {id : String} {c c' : Pool Holds String Reply}

theorem Shape.same {holds holds' : Holds} {x : HoldProgram} (h : Shape id holds x)
    (same : Holds.getById holds' id = Holds.getById holds id) : Shape id holds' x := by
  cases h with
  | deciding r is => exact .deciding r is
  | writing r is => exact .writing r is
  | proposing hold is => exact .proposing hold is
  | held hold is => exact .held hold is
  | elsewhere r result is other => exact .elsewhere r result is other
  | off r is off => exact .off r is off
  | refused r e is status decided => exact .refused r e is status (same ▸ decided)
  | succeeded r hold is mine stored =>
    apply Shape.succeeded r hold is mine
    unfold Stored at stored ⊢
    rw [mine] at stored ⊢
    rwa [same]

/-- A step that leaves the hold alone and ends no call with success. -/
theorem Sound.quiet {before after : List HoldProgram} {x x' : HoldProgram} {p q : Point Holds String}
    (h : Sound id ⟨before ++ x :: after, p⟩) (same : Holds.getById q.state id = Holds.getById p.state id)
    (shape : Shape id q.state x') (unmoved : succeeded id x' = succeeded id x) : Sound id ⟨before ++ x' :: after, q⟩ := by
  constructor
  · intro y hy
    rcases List.mem_append.mp hy with hy | hy
    · exact (h.shapes y (List.mem_append_left _ hy)).same same
    · rcases List.mem_cons.mp hy with rfl | hy
      · exact shape
      · exact (h.shapes y (List.mem_append_right _ (List.mem_cons_of_mem _ hy))).same same
  · obtain ⟨hold, there, count⟩ := h.counted
    refine ⟨hold, same.trans there, ?_⟩
    rw [List.countP_append, List.countP_cons] at count ⊢
    rwa [unmoved]

/-- Before the decision nobody has been told of one. -/
theorem undecided_shape {holds : Holds} {x : HoldProgram} {hold : CommandHold} (h : Shape id holds x)
    (there : Holds.getById holds id = some hold) (pending : hold.status = .pending) (failed : succeeded id x = false)
    (holds' : Holds) : Shape id holds' x := by
  cases h with
  | deciding r is => exact .deciding r is
  | writing r is => exact .writing r is
  | proposing hold is => exact .proposing hold is
  | held hold is => exact .held hold is
  | elsewhere r result is other => exact .elsewhere r result is other
  | off r is off => exact .off r is off
  | refused r e is status decided => exact absurd pending (decided hold there)
  | succeeded r hold is mine stored => simp [is, succeeded, mine] at failed

theorem deciding_step {r : DecideCall} {before after : List HoldProgram} {p : Point Holds String}
    (h : Sound id ⟨before ++ deciding r :: after, p⟩) (on : r.enabled = true) :
    Sound id ⟨before ++ replying r (decideFound r (Holds.getById p.state r.body.holdId)) :: after, p⟩ := by
  have unfinished : succeeded id (deciding r) = false := by
    rw [deciding_on on]
    rfl
  have writing_unfinished : succeeded id (replying r (storeDecide r)) = false := by
    rw [writing_eq]
    rfl
  cases there : Holds.getById p.state r.body.holdId with
  | none =>
    have other : r.body.holdId ≠ id := by
      rintro mine
      obtain ⟨hold, there', -⟩ := h.counted
      rw [mine, there'] at there
      cases there
    apply h.quiet rfl (.elsewhere r _ rfl other)
    rw [unfinished]
    rfl
  | some hold =>
    by_cases pending : hold.status = .pending
    · rw [decideFound_pending pending]
      exact h.quiet rfl (.writing r rfl) (writing_unfinished.trans unfinished.symm)
    · rw [decideFound_decided pending]
      apply h.quiet rfl _ (by rw [unfinished]; rfl)
      by_cases mine : r.body.holdId = id
      · apply Shape.refused r _ rfl rfl
        intro hold' there'
        rw [mine, there'] at there
        cases there
        exact pending
      · exact .elsewhere r _ rfl mine

/-- The write, where the hold is still pending. -/
theorem writing_step {r : DecideCall} {before after : List HoldProgram} {p : Point Holds String}
    (h : Sound id ⟨before ++ replying r (storeDecide r) :: after, p⟩) (still : r.body.holdId = id → StillPending id p)
    {l : Option String} {e : Holds → Holds} {k : Holds → HoldProgram} (is : replying r (storeDecide r) = .act l e k) :
    Sound id ⟨before ++ k p.state :: after, p.step l e⟩ := by
  have unfinished : succeeded id (replying r (storeDecide r)) = false := by
    rw [writing_eq]
    rfl
  have keeps : ∀ hold, (r.set hold).holdId = hold.holdId := fun _ => rfl
  rw [writing_eq] at is
  injection is with _ he hk
  by_cases mine : r.body.holdId = id
  · obtain ⟨hold, there, count⟩ := h.counted
    have pending : hold.status = .pending := still mine hold there
    rw [pending] at count
    have state : (p.step l e).state = Holds.update r.body.holdId r.set p.state := by
      rw [Point.step, ← he, mine]
      simp only [show Holds.getById p.state id = some hold from there]
    have next : k p.state = .done (.decided r (.ok (r.set hold))) := by
      rw [← hk, mine]
      simp only [show Holds.getById p.state id = some hold from there]
    have now : Holds.getById (p.step l e).state r.body.holdId = some (r.set hold) := by
      rw [state, Holds.getById_update keeps, mine]
      exact congrArg (Option.map r.set) there
    have none_yet : (before ++ after).countP (succeeded id) = 0 := by
      rw [List.countP_append, List.countP_cons, unfinished] at count
      rw [List.countP_append]
      exact count
    have others : ∀ y ∈ before ++ after, Shape id (p.step l e).state y := by
      intro y hy
      have shape : Shape id p.state y := by
        rcases List.mem_append.mp hy with hy | hy
        · exact h.shapes y (List.mem_append_left _ hy)
        · exact h.shapes y (List.mem_append_right _ (List.mem_cons_of_mem _ hy))
      exact undecided_shape shape there pending (by simpa using List.countP_eq_zero.mp none_yet y hy) _
    constructor
    · intro y hy
      rw [next] at hy
      rcases List.mem_append.mp hy with hy | hy
      · exact others y (List.mem_append_left _ hy)
      · rcases List.mem_cons.mp hy with rfl | hy
        · exact .succeeded r _ rfl mine ⟨r.set hold, now, rfl, rfl, rfl⟩
        · exact others y (List.mem_append_right _ hy)
    · refine ⟨r.set hold, mine ▸ now, ?_⟩
      have decisions : (r.set hold).status.decisions = 1 := by
        show r.status.decisions = 1
        unfold DecideCall.status
        split <;> rfl
      have succeeds : succeeded id (.done (.decided r (.ok (r.set hold)))) = true := by simp [succeeded, mine]
      rw [List.countP_append] at none_yet
      rw [decisions, next, List.countP_append, List.countP_cons, if_pos succeeds, ← Nat.add_assoc, none_yet]
  · have same : Holds.getById (p.step l e).state id = Holds.getById p.state id := by
      rw [Point.step, ← he]
      dsimp only
      split
      · exact Holds.getById_update_other keeps mine
      · rfl
    apply h.quiet same
    · exact .elsewhere r _ (congrFun hk p.state).symm mine
    · rw [unfinished, ← hk]
      dsimp only
      split
      · exact decide_eq_false mine
      · rfl

/-- **What one step keeps.** -/
theorem Sound.step (h : Sound id c) (step : Pool.Step Calls (OnTime id) c c') : Sound id c' := by
  cases step with
  | @call threads p x hx =>
    constructor
    · intro y hy
      rcases List.mem_cons.mp hy with rfl | hy
      · rcases hx with ⟨r, is⟩ | ⟨hold, is⟩
        · exact .deciding r is
        · exact .proposing hold is
      · exact h.shapes y hy
    · obtain ⟨hold, there, count⟩ := h.counted
      refine ⟨hold, there, ?_⟩
      have unfinished : succeeded id x = false := by
        rcases hx with ⟨r, rfl⟩ | ⟨hold, rfl⟩
        · cases on : r.enabled with
          | true =>
            rw [deciding_on on]
            rfl
          | false =>
            rw [deciding_off on]
            rfl
        · rfl
      rw [List.countP_cons_of_neg (by simp [unfinished])]
      exact count
  | @act before after l e k p admitted =>
    cases h.shapes _ (List.mem_append_right _ List.mem_cons_self) with
    | deciding r is =>
      cases on : r.enabled with
      | true =>
        rw [is] at h
        rw [deciding_on on] at is
        injection is with hl he hk
        subst hl he hk
        exact deciding_step h on
      | false =>
        rw [deciding_off on] at is
        cases is
    | writing r is =>
      rw [is] at h
      have label : l = some r.body.holdId := by
        rw [writing_eq] at is
        injection is
      exact writing_step h (fun mine => admitted _ label mine) is.symm
    | proposing hold is =>
      injection is with hl he hk
      subst hl he hk
      obtain ⟨hold', there, -⟩ := h.counted
      exact h.quiet ((Holds.getById_append there hold).trans there.symm) (.held hold rfl) rfl
    | held hold is => cases is
    | elsewhere r result is => cases is
    | off r is => cases is
    | refused r e is => cases is
    | succeeded r hold is => cases is

/-- What a call that has ended was told. -/
theorem Shape.answered {holds : Holds} {r : DecideCall} {result : Except HTTPException CommandHold}
    (h : Shape id holds (.done (.decided r result))) (mine : r.body.holdId = id) :
    match result with
    | .ok _ => Stored r holds
    | .error e => r.enabled = true →
      e.status = 409 ∧ ∀ hold, Holds.getById holds id = some hold → hold.status ≠ .pending := by
  cases h with
  | deciding r' is =>
    cases on : r'.enabled with
    | true =>
      rw [deciding_on on] at is
      cases is
    | false =>
      rw [deciding_off on] at is
      cases is
      exact fun on' => absurd on' (by simp [on])
  | writing r' is =>
    rw [writing_eq] at is
    cases is
  | proposing hold is => cases is
  | held hold is => cases is
  | elsewhere r' result is other =>
    cases is
    exact absurd mine other
  | off r' is off =>
    cases is
    exact fun on => absurd on (by simp [off])
  | refused r' e is status decided =>
    cases is
    exact fun _ => ⟨status, decided⟩
  | succeeded r' hold is same stored =>
    cases is
    exact stored

theorem Sound.once (h : Sound id c) : DecidedOnce id c := by
  obtain ⟨hold, there, count⟩ := h.counted
  have at_most : c.threads.countP (succeeded id) ≤ 1 := by
    rw [count]
    cases hold.status <;> simp [HoldStatus.decisions]
  constructor
  · exact at_most
  · intro r result ended mine on
    cases result with
    | error e =>
      have decided := ((h.shapes _ ended).answered mine on).2 hold there
      rw [count]
      revert decided
      cases hold.status <;> simp [HoldStatus.decisions]
    | ok answer =>
      have success : 0 < c.threads.countP (succeeded id) :=
        List.countP_pos_iff.mpr ⟨_, ended, by simp [succeeded, mine]⟩
      omega
  · exact fun r e ended mine on => ((h.shapes _ ended).answered mine on).1
  · exact fun r answer ended mine => (h.shapes _ ended).answered mine

/-- A write that comes late gives a second call the decision. -/
theorem late_write {r : DecideCall} {before after : List HoldProgram} {p : Point Holds String}
    (h : Sound id ⟨before ++ replying r (storeDecide r) :: after, p⟩) (mine : r.body.holdId = id)
    (late : ¬StillPending id p) {l : Option String} {e : Holds → Holds} {k : Holds → HoldProgram}
    (is : replying r (storeDecide r) = .act l e k) : ¬DecidedOnce id ⟨before ++ k p.state :: after, p.step l e⟩ := by
  intro once
  obtain ⟨hold, there, count⟩ := h.counted
  have decided : hold.status ≠ .pending := fun pending => late fun hold' there' => by
    rw [show Holds.getById p.state id = some hold from there] at there'
    cases there'
    exact pending
  have one : hold.status.decisions = 1 := by
    revert decided
    cases hold.status <;> simp [HoldStatus.decisions]
  have unfinished : succeeded id (replying r (storeDecide r)) = false := by
    rw [writing_eq]
    rfl
  have next : k p.state = .done (.decided r (.ok (r.set hold))) := by
    rw [writing_eq] at is
    injection is with _ _ hk
    rw [← hk, mine]
    simp only [show Holds.getById p.state id = some hold from there]
  have more := once.at_most
  rw [next, List.countP_append, List.countP_cons, if_pos (by simp [succeeded, mine])] at more
  rw [one, List.countP_append, List.countP_cons, unfinished] at count
  simp only [Bool.false_eq_true, if_false] at count
  omega

/-- **A hold is decided once** in every run that writes its decisions only while it
is still pending. -/
theorem decided_once {holds : Holds} (opened : ∃ hold, Holds.getById holds id = some hold ∧ hold.status = .pending)
    (run : Pool.Reach Calls (OnTime id) ⟨[], ⟨holds, []⟩⟩ c) : DecidedOnce id c := by
  have starts : Sound id (⟨[], ⟨holds, []⟩⟩ : Pool Holds String Reply) := by
    obtain ⟨hold, there, pending⟩ := opened
    refine ⟨fun x hx => absurd hx List.not_mem_nil, hold, there, ?_⟩
    rw [pending]
    rfl
  have sound : Sound id c := by
    induction run with
    | refl => exact starts
    | tail _ step ih => exact ih.step step
  exact sound.once

section
private def noon : Instant := ⟨2026, 6, 1, 12, 0, 0, 0, by decide⟩

private def pushHold : CommandHold :=
  ⟨"h1", "git push --force", "/srv/app", none, none, "git-force-push", "high", [], .reject, .pending, noon, none, none⟩

private def asked (approved : Bool) (operator : String) : HoldProgram := deciding ⟨⟨"h1", approved⟩, operator, noon, true⟩

/-- Two operators, each with a call in progress. -/
private def bothCalled : Pool Holds String Reply := ⟨[asked true "ada", asked false "grace"], ⟨[pushHold], []⟩⟩

private theorem both_called (admits : String → Point Holds String → Prop) :
    Pool.Reach Calls admits ⟨[], ⟨[pushHold], []⟩⟩ bothCalled :=
  .head (.call _ (.inl ⟨_, rfl⟩)) (.single (.call _ (.inl ⟨_, rfl⟩)))

theorem decided_once_in_turn : DecidedOnce "h1" (bothCalled.runSchedule [0, 0, 1]) := by
  have admitted : Pool.Admitted (OnTime "h1") bothCalled [0, 0, 1] := by decide +kernel
  exact decided_once ⟨pushHold, rfl, rfl⟩ ((both_called _).trans (Pool.admitted_reach Calls bothCalled [0, 0, 1] admitted))

/-- **Both operators read the hold while it is pending, and both decide it.** -/
theorem decided_twice : (∃ hold, Holds.getById [pushHold] "h1" = some hold ∧ hold.status = .pending) ∧
    Pool.Reach Calls (fun _ _ => True) ⟨[], ⟨[pushHold], []⟩⟩ (bothCalled.runSchedule [0, 1, 0, 1]) ∧
    ¬DecidedOnce "h1" (bothCalled.runSchedule [0, 1, 0, 1]) := by
  have run : Pool.Reach Calls (fun _ _ => True) ⟨[], ⟨[pushHold], []⟩⟩ (bothCalled.runSchedule [0, 1, 0, 1]) :=
    (both_called _).trans (Pool.runSchedule_reach Calls bothCalled [0, 1, 0, 1])
  have twice : (bothCalled.runSchedule [0, 1, 0, 1]).threads.countP (succeeded "h1") = 2 := by decide +kernel
  refine ⟨⟨pushHold, rfl, rfl⟩, run, fun once => ?_⟩
  have at_most := once.at_most
  omega

end

end RmtPlatform.CodingAgent
