import Mathlib.Algebra.BigOperators.Group.List.Basic
import Mathlib.Algebra.Ring.Int.Defs
import Mathlib.Algebra.Ring.Nat
import Mathlib.Data.List.Dedup
import Mathlib.Data.List.Sort
import Mathlib.Data.Nat.Cast.Basic
import RmtPlatform.Core.Engine

/-! The approval latency of the metrics.

The metrics take the time of a decision from the approval record. The record is made
beside the hold, before anything is decided, and a decision replaces its fields but not
its time. So what is measured is the time from the hold to its record, of every hold:
it is the delay of the decisions exactly where nothing is pending and the time from
records to decisions comes to nothing (`approvalLatency_iff`). -/
namespace RmtPlatform.Ops.Latency

open Core

variable {W L : Type}

/-! ### The two stores, with times -/

/-- A record with its `created_at`; times are in microseconds. -/
structure Dated (Record : Type) where
  record : Record
  createdAt : Int

/-- `model_copy(update=..)`, or fields set in place: the time is none of them. -/
def Dated.set {Record : Type} (f : Record → Record) (d : Dated Record) : Dated Record := ⟨f d.record, d.createdAt⟩

def holdId (h : Dated ApprovalHold) : String := h.record.approvalId

def recordId (r : Dated ApprovalRecord) : String := r.record.approvalId

structure Approvals where
  holds : DurableStore (Dated ApprovalHold)
  records : DurableStore (Dated ApprovalRecord)

def Approvals.empty (backend : Backend) : Approvals := ⟨.empty backend, .empty backend⟩

/-- An action to be held, with what was assessed of it. -/
structure HeldAction where
  action : ActionRequest
  decision : ApprovalDecision
  adapterName : String
  riskLevel : Option String
  assessment : Option GovernanceAssessment

/-- The hold of an action, from its identifier and the clock. -/
def HeldAction.hold (x : HeldAction) (approvalId : String) (now : Int) : ApprovalHold :=
  { provenanceOf x.assessment with
    approvalId
    actionId := x.action.actionId
    action := x.action
    adapterName := x.adapterName
    reason := x.decision.reason
    status := .pending
    approvedBy := none
    expiresAt := some (now + approvalHoldTtl)
    riskLevel := x.riskLevel
    governanceDomain := x.action.governanceDomain }

/-- `hold_for_manual_approval`; the clock is read for the expiry and for `created_at`. -/
def holdForManualApproval (x : HeldAction) (approvalId : String) (now created : Int) (s : Approvals) : Approvals :=
  { s with holds := s.holds.save ⟨x.hold approvalId now, created⟩ }

/-- `record_approval_decision`. -/
def recordApprovalDecision (x : HeldAction) (decision approvedBy : String) (approvalId : Option String) (created : Int)
    (s : Approvals) : Approvals :=
  { s with records := s.records.save ⟨approvalRecord x.action x.decision decision approvedBy approvalId x.assessment, created⟩ }

/-- What `approve_held_action` answers, or that it raises before. -/
inductive Answer where
  | approvalNotFound | approvalAlreadyResolved | approvalExpired | rejected | assessmentInvalid | executed | raised
deriving DecidableEq

/-- `approve_held_action`, as far as the two stores go: what follows an approval writes to neither. -/
def approveHeldAction (P : Platform W L) (now : Int) (approvalId approvedBy : String) (approved : Bool) (s : Approvals) :
    Answer × Approvals :=
  match s.holds.get? holdId approvalId with
  | none => (.approvalNotFound, s)
  | some ⟨hold, _⟩ =>
    if hold.status ≠ .pending then (.approvalAlreadyResolved, s)
    else if hold.expiresAt.any (· < now) then
      (.approvalExpired, { s with holds := s.holds.mutate holdId approvalId (.set fun h => { h with status := .rejected }) })
    else if !approved then
      (.rejected,
        { holds := s.holds.mutate holdId approvalId (.set fun h => { h with status := .rejected })
          records := s.records.update recordId approvalId (.set fun r => { r with decision := "rejected", approvedBy }) })
    else match P.registration? hold.governanceDomain with
      | none => (.assessmentInvalid, s)
      | some registration => match heldDigest P.rt hold with
        | .error _ => (.raised, s)
        | .ok digest =>
          if !boundTo registration hold ∨ some digest ≠ hold.instructionDigest then (.assessmentInvalid, s)
          else
            (.executed,
              { holds := (s.holds.mutate holdId approvalId (.set fun h => { h with status := .approved })).mutate holdId
                  approvalId (.set fun h => { h with approvedBy := some approvedBy })
                records := s.records.update recordId approvalId (.set fun r => { r with decision := "approved", approvedBy }) })

/-! ### The metric -/

/-- `holds_by_id`. -/
def holdsById (s : Approvals) (approvalId : String) : Option (Dated ApprovalHold) :=
  s.holds.records.reverse.find? fun h => holdId h = approvalId

/-- The decision and the time of each record that has a hold. -/
def latencies (s : Approvals) : List (String × Int) :=
  s.records.records.filterMap fun r =>
    (holdsById s (recordId r)).map fun hold => (r.record.decision, r.createdAt - hold.createdAt)

/-- `rmt_approval_latency_seconds`: the sum and the count of each decision, in microseconds. -/
def approvalLatency (s : Approvals) : List (String × Int × Nat) :=
  (((latencies s).map Prod.fst).dedup.insertionSort (· ≤ ·)).map fun decision =>
    (decision, (((latencies s).filter (·.1 = decision)).map Prod.snd).sum, ((latencies s).filter (·.1 = decision)).length)

def reportedSum (s : Approvals) : Int := ((approvalLatency s).map fun e => e.2.1).sum

def reportedCount (s : Approvals) : Nat := ((approvalLatency s).map fun e => e.2.2).sum

/-! ### Runs -/

/-- What happened to a hold: when it and its record were made, and when it was decided on. -/
structure Held where
  approvalId : String
  created : Int
  recorded : Int
  decided : Option Int
deriving DecidableEq

/-- The hold with this identifier is decided on. -/
def decideOn (approvalId : String) (now : Int) (h : Held) : Held :=
  if h.approvalId = approvalId then { h with decided := some now } else h

/-- Runs of the calls, with any readings of the clock, and the holds they made. -/
inductive Run (P : Platform W L) (backend : Backend) : Approvals → List Held → Prop where
  | start : Run P backend (.empty backend) []
  /-- An action is held: `approvalId` is a new identifier. -/
  | hold {s : Approvals} {held : List Held} (before : Run P backend s held) (x : HeldAction) (approvalId : String)
      (now created recorded : Int) (some_id : approvalId ≠ "") (new_hold : ∀ h ∈ s.holds.records, holdId h ≠ approvalId)
      (new_record : ∀ r ∈ s.records.records, recordId r ≠ approvalId) :
      Run P backend
        (recordApprovalDecision x "manual_required" "" (some approvalId) recorded
          (holdForManualApproval x approvalId now created s))
        (held ++ [⟨approvalId, created, recorded, none⟩])
  /-- An action is approved or rejected without a hold, and the record has an identifier of its own. -/
  | record {s : Approvals} {held : List Held} (before : Run P backend s held) (x : HeldAction) (decision approvedBy : String)
      (recorded : Int) (new_hold : ∀ h ∈ s.holds.records, holdId h ≠ x.decision.approvalId) :
      Run P backend (recordApprovalDecision x decision approvedBy none recorded s) held
  /-- A decision on a hold comes in. -/
  | approve {s : Approvals} {held : List Held} (before : Run P backend s held) (now : Int) (approvalId approvedBy : String)
      (approved : Bool) :
      Run P backend (approveHeldAction P now approvalId approvedBy approved s).2
        (if (approveHeldAction P now approvalId approvedBy approved s).1 ∈ [.rejected, .executed] then
          held.map (decideOn approvalId now) else held)

/-! ### What the stores keep -/

section
variable {Record β : Type} {key : Record → String} {k : String} {f : Record → Record} {g : Record → β}

theorem map_replaceFirst {p : Record → Bool} {rows : List Record} {old : Record} (found : rows.find? p = some old)
    (keeps : g (f old) = g old) : (replaceFirst p (f old) rows).map g = rows.map g := by
  induction rows with
  | nil => cases found
  | cons r rest ih =>
    rw [replaceFirst]
    cases here : p r with
    | true =>
      rw [List.find?_cons_of_pos here] at found
      cases found
      simp [keeps]
    | false =>
      rw [List.find?_cons_of_neg (by simp [here])] at found
      simp [ih found]

theorem map_mutate (s : DurableStore Record) (keeps : ∀ r, g (f r) = g r) :
    (s.mutate key k f).records.map g = s.records.map g := by
  unfold DurableStore.mutate
  split
  · rfl
  · next old found => exact map_replaceFirst found (keeps old)

theorem map_update (s : DurableStore Record) (keeps : ∀ r, g (f r) = g r) :
    (s.update key k f).records.map g = s.records.map g := by
  unfold DurableStore.update
  split
  · rfl
  · next old found => exact map_replaceFirst found (keeps old)

end

/-- What the metric reads of a hold, and of a record. -/
def holdStamp (h : Dated ApprovalHold) : String × Int := (holdId h, h.createdAt)

def recordStamp (r : Dated ApprovalRecord) : String × Int := (recordId r, r.createdAt)

/-- **A decision moves no time.** -/
theorem approve_stamps (P : Platform W L) (now : Int) (approvalId approvedBy : String) (approved : Bool) (s : Approvals) :
    (approveHeldAction P now approvalId approvedBy approved s).2.holds.records.map holdStamp =
        s.holds.records.map holdStamp ∧
      (approveHeldAction P now approvalId approvedBy approved s).2.records.records.map recordStamp =
        s.records.records.map recordStamp := by
  have held : ∀ (d : DurableStore (Dated ApprovalHold)) (f : ApprovalHold → ApprovalHold),
      (∀ h, (f h).approvalId = h.approvalId) →
      (d.mutate holdId approvalId (.set f)).records.map holdStamp = d.records.map holdStamp := by
    intro d f keeps
    apply map_mutate
    intro h
    simp [holdStamp, holdId, Dated.set, keeps]
  have recorded : ∀ (d : DurableStore (Dated ApprovalRecord)) (f : ApprovalRecord → ApprovalRecord),
      (∀ r, (f r).approvalId = r.approvalId) →
      (d.update recordId approvalId (.set f)).records.map recordStamp = d.records.map recordStamp := by
    intro d f keeps
    apply map_update
    intro r
    simp [recordStamp, recordId, Dated.set, keeps]
  unfold approveHeldAction
  split
  · exact ⟨rfl, rfl⟩
  · split
    · exact ⟨rfl, rfl⟩
    · split
      · exact ⟨held _ _ fun _ => rfl, rfl⟩
      · split
        · exact ⟨held _ _ fun _ => rfl, recorded _ _ fun _ => rfl⟩
        · split
          · exact ⟨rfl, rfl⟩
          · split
            · exact ⟨rfl, rfl⟩
            · split
              · exact ⟨rfl, rfl⟩
              · refine ⟨?_, recorded _ _ fun _ => rfl⟩
                apply Eq.trans
                · exact held _ (fun h => { h with approvedBy := some approvedBy }) fun _ => rfl
                · exact held _ (fun h => { h with status := .approved }) fun _ => rfl

/-- The stores have the times of the holds and of their records. -/
structure Tracks (s : Approvals) (held : List Held) : Prop where
  holds : s.holds.records.map holdStamp = held.map fun h => (h.approvalId, h.created)
  records : ((s.records.records.map recordStamp).filter fun e => e.1 ∈ held.map (·.approvalId)) =
    held.map fun h => (h.approvalId, h.recorded)
  nodup : (held.map (·.approvalId)).Nodup

section
variable {s : Approvals} {held : List Held} {approvalId : String}

theorem Tracks.ids (tracks : Tracks s held) : s.holds.records.map holdId = held.map (·.approvalId) := by
  have ids := congrArg (List.map Prod.fst) tracks.holds
  rw [List.map_map, List.map_map] at ids
  exact ids

theorem Tracks.unheld (tracks : Tracks s held) (new_hold : ∀ h ∈ s.holds.records, holdId h ≠ approvalId) :
    approvalId ∉ held.map (·.approvalId) := by
  rw [← tracks.ids]
  intro mem
  obtain ⟨h, mem, same⟩ := List.mem_map.mp mem
  exact new_hold h mem same

theorem Tracks.hold (tracks : Tracks s held) (x : HeldAction) (now created recorded : Int) (some_id : approvalId ≠ "")
    (new_hold : ∀ h ∈ s.holds.records, holdId h ≠ approvalId)
    (new_record : ∀ r ∈ s.records.records, recordId r ≠ approvalId) :
    Tracks
      (recordApprovalDecision x "manual_required" "" (some approvalId) recorded (holdForManualApproval x approvalId now created s))
      (held ++ [⟨approvalId, created, recorded, none⟩]) := by
  have unheld := tracks.unheld new_hold
  constructor
  · have saved := congrArg (· ++ [(approvalId, created)]) tracks.holds
    simpa [recordApprovalDecision, holdForManualApproval, DurableStore.save, holdStamp, holdId, HeldAction.hold] using saved
  · have own : recordStamp ⟨approvalRecord x.action x.decision "manual_required" "" (some approvalId) x.assessment, recorded⟩ =
        (approvalId, recorded) := by
      simp [recordStamp, recordId, approvalRecord, orText, some_id]
    have before : ((s.records.records.map recordStamp).filter fun e =>
        e.1 ∈ (held ++ [(⟨approvalId, created, recorded, none⟩ : Held)]).map (·.approvalId)) =
        (s.records.records.map recordStamp).filter fun e => e.1 ∈ held.map (·.approvalId) := by
      apply List.filter_congr
      intro e stamped
      obtain ⟨r, mem, rfl⟩ := List.mem_map.mp stamped
      have other : (recordStamp r).1 ≠ approvalId := new_record r mem
      simp [other]
    simp only [recordApprovalDecision, holdForManualApproval, DurableStore.save, List.map_append, List.filter_append,
      List.map_cons, List.map_nil, own] at before ⊢
    rw [before, tracks.records]
    simp
  · rw [List.map_append, List.nodup_append]
    refine ⟨tracks.nodup, List.nodup_singleton _, ?_⟩
    rintro id mem other last rfl
    rw [List.mem_singleton.mp last] at mem
    exact unheld mem

theorem Tracks.record (tracks : Tracks s held) (x : HeldAction) (decision approvedBy : String) (recorded : Int)
    (new_hold : ∀ h ∈ s.holds.records, holdId h ≠ x.decision.approvalId) :
    Tracks (recordApprovalDecision x decision approvedBy none recorded s) held := by
  have unheld := tracks.unheld new_hold
  refine ⟨tracks.holds, ?_, tracks.nodup⟩
  have own : recordStamp ⟨approvalRecord x.action x.decision decision approvedBy none x.assessment, recorded⟩ =
      (x.decision.approvalId, recorded) := by
    simp [recordStamp, recordId, approvalRecord, orText]
  simp only [recordApprovalDecision, DurableStore.save, List.map_append, List.filter_append, List.map_cons, List.map_nil, own]
  rw [tracks.records, List.filter_cons_of_neg (by simpa using unheld)]
  simp

theorem Tracks.approve (tracks : Tracks s held) (P : Platform W L) (now : Int) (approvalId approvedBy : String)
    (approved : Bool) :
    Tracks (approveHeldAction P now approvalId approvedBy approved s).2 held := by
  obtain ⟨holds, records⟩ := approve_stamps P now approvalId approvedBy approved s
  exact ⟨holds.trans tracks.holds, records ▸ tracks.records, tracks.nodup⟩

theorem Tracks.decide (tracks : Tracks s held) (now : Int) : Tracks s (held.map (decideOn approvalId now)) := by
  have keeps : ∀ {β : Type} (g : Held → β), (∀ h, g (decideOn approvalId now h) = g h) →
      (held.map (decideOn approvalId now)).map g = held.map g := by
    intro β g same
    rw [List.map_map]
    exact List.map_congr_left fun h _ => same h
  have id : ∀ h, (decideOn approvalId now h).approvalId = h.approvalId := fun h => by
    unfold decideOn
    split <;> rfl
  have created : ∀ h, (decideOn approvalId now h).created = h.created := fun h => by
    unfold decideOn
    split <;> rfl
  have recorded : ∀ h, (decideOn approvalId now h).recorded = h.recorded := fun h => by
    unfold decideOn
    split <;> rfl
  constructor
  · rw [keeps (fun h => (h.approvalId, h.created)) fun h => by simp only [id, created]]
    exact tracks.holds
  · rw [keeps (fun h => (h.approvalId, h.recorded)) fun h => by simp only [id, recorded], keeps _ id]
    exact tracks.records
  · rw [keeps _ id]
    exact tracks.nodup

theorem Run.tracks {P : Platform W L} {backend : Backend} (run : Run P backend s held) : Tracks s held := by
  induction run with
  | start => exact ⟨rfl, rfl, List.nodup_nil⟩
  | hold before x approvalId now created recorded some_id new_hold new_record ih =>
    exact ih.hold x now created recorded some_id new_hold new_record
  | record before x decision approvedBy recorded new_hold ih => exact ih.record x decision approvedBy recorded new_hold
  | approve before now approvalId approvedBy approved ih =>
    split
    · exact (ih.approve P now approvalId approvedBy approved).decide now
    · exact ih.approve P now approvalId approvedBy approved

/-! ### What the metric reads -/

/-- The hold of a record is the one with its identifier. -/
theorem Tracks.found (tracks : Tracks s held) {h : Held} (mem : h ∈ held) :
    (holdsById s h.approvalId).map (·.createdAt) = some h.created := by
  have stamped : (holdsById s h.approvalId).map holdStamp =
      (s.holds.records.map holdStamp).reverse.find? fun e => e.1 = h.approvalId := by
    rw [holdsById, ← List.map_reverse, List.find?_map]
    rfl
  have found : (held.map fun h => (h.approvalId, h.created)).reverse.find? (fun e => e.1 = h.approvalId) =
      some (h.approvalId, h.created) := by
    have own : (h.approvalId, h.created) ∈ (held.map fun h => (h.approvalId, h.created)).reverse :=
      List.mem_reverse.mpr (List.mem_map.mpr ⟨h, mem, rfl⟩)
    cases hit : (held.map fun h => (h.approvalId, h.created)).reverse.find? (fun e => e.1 = h.approvalId) with
    | none => simpa using List.find?_eq_none.mp hit _ own
    | some e =>
      obtain ⟨h', mem', rfl⟩ := List.mem_map.mp (List.mem_reverse.mp (List.mem_of_find?_eq_some hit))
      have same : h'.approvalId = h.approvalId := by simpa using List.find?_some hit
      rw [List.inj_on_of_nodup_map tracks.nodup mem' mem same]
  rw [tracks.holds, found] at stamped
  have times := congrArg (Option.map Prod.snd) stamped
  rw [Option.map_map] at times
  exact times

theorem Tracks.not_found (tracks : Tracks s held) (unheld : approvalId ∉ held.map (·.approvalId)) :
    holdsById s approvalId = none := by
  apply List.find?_eq_none.mpr
  intro h mem same
  rw [← tracks.ids] at unheld
  exact unheld (List.mem_map.mpr ⟨h, List.mem_reverse.mp mem, by simpa using same⟩)

/-- **The times of the metric**: from each hold to its record. -/
theorem Tracks.measured (tracks : Tracks s held) :
    (latencies s).map Prod.snd = held.map fun h => h.recorded - h.created := by
  have read : (latencies s).map Prod.snd = (s.records.records.map recordStamp).filterMap fun e =>
      ((holdsById s e.1).map (·.createdAt)).map (e.2 - ·) := by
    rw [latencies, List.map_filterMap, List.filterMap_map]
    apply List.filterMap_congr
    intro r _
    simp only [Function.comp, recordStamp, Option.map_map]
    rfl
  have filtered : ((s.records.records.map recordStamp).filterMap fun e =>
      ((holdsById s e.1).map (·.createdAt)).map (e.2 - ·)) =
      ((s.records.records.map recordStamp).filter fun e => e.1 ∈ held.map (·.approvalId)).filterMap fun e =>
        ((holdsById s e.1).map (·.createdAt)).map (e.2 - ·) := by
    rw [List.filterMap_filter]
    apply List.filterMap_congr
    intro e _
    split
    · rfl
    · next unheld =>
      rw [tracks.not_found (by simpa using unheld)]
      rfl
  rw [read, filtered, tracks.records, List.filterMap_map]
  rw [← List.filterMap_eq_map]
  apply List.filterMap_congr
  intro h mem
  simp only [Function.comp, tracks.found mem, Option.map_some]

/-- Summing by groups is summing. -/
theorem sum_groups {M : Type} [AddCommMonoid M] (f : String × Int → M) {labels : List String} (nodup : labels.Nodup)
    (entries : List (String × Int)) (covered : ∀ e ∈ entries, e.1 ∈ labels) :
    (labels.map fun label => ((entries.filter (·.1 = label)).map f).sum).sum = (entries.map f).sum := by
  induction entries with
  | nil => simp
  | cons e rest ih =>
    have one : (labels.map fun label => if e.1 = label then f e else 0).sum = f e := by
      rw [List.sum_map_eq_nsmul_single e.1 _ fun label other _ => if_neg (Ne.symm other),
        List.count_eq_one_of_mem nodup (covered e List.mem_cons_self), one_nsmul, if_pos rfl]
    have grouped : ∀ label, (((e :: rest).filter (·.1 = label)).map f).sum =
        (if e.1 = label then f e else 0) + ((rest.filter (·.1 = label)).map f).sum := by
      intro label
      by_cases own : e.1 = label
      · rw [List.filter_cons_of_pos (by simpa using own), if_pos own, List.map_cons, List.sum_cons]
      · rw [List.filter_cons_of_neg (by simpa using own), if_neg own, zero_add]
    rw [List.map_congr_left fun label _ => grouped label, List.sum_map_add, one,
      ih fun e mem => covered e (List.mem_cons_of_mem _ mem), List.map_cons, List.sum_cons]

theorem labels_nodup (entries : List (String × Int)) :
    ((entries.map Prod.fst).dedup.insertionSort (· ≤ ·)).Nodup :=
  (List.perm_insertionSort _ _).nodup_iff.mpr (List.nodup_dedup _)

theorem labels_cover (entries : List (String × Int)) (e : String × Int) (mem : e ∈ entries) :
    e.1 ∈ (entries.map Prod.fst).dedup.insertionSort (· ≤ ·) :=
  (List.perm_insertionSort _ _).mem_iff.mpr (List.mem_dedup.mpr (List.mem_map_of_mem mem))

theorem reportedSum_eq : reportedSum s = ((latencies s).map Prod.snd).sum := by
  rw [reportedSum, approvalLatency, List.map_map]
  exact sum_groups Prod.snd (labels_nodup _) _ (labels_cover _)

theorem reportedCount_eq : reportedCount s = (latencies s).length := by
  have counted := sum_groups (fun _ => 1) (labels_nodup (latencies s)) _ (labels_cover _)
  rw [reportedCount, approvalLatency, List.map_map]
  simpa [Function.comp_def] using counted

end

/-! ### What it measures -/

/-- The holds decided on. -/
def decidedCount (held : List Held) : Nat := held.countP (·.decided.isSome)

/-- The time from each of them to its decision, in all. -/
def decisionDelay (held : List Held) : Int := (held.filterMap fun h => h.decided.map (· - h.created)).sum

/-- The time from each record to the decision, in all. -/
def recordDelay (held : List Held) : Int := (held.filterMap fun h => h.decided.map (· - h.recorded)).sum

/-- Once all are decided on, the delays differ by what is measured. -/
theorem delay_split {held : List Held} (all : ∀ h ∈ held, h.decided ≠ none) :
    decisionDelay held = recordDelay held + (held.map fun h => h.recorded - h.created).sum := by
  induction held with
  | nil => rfl
  | cons h rest ih =>
    have later := ih fun h mem => all h (List.mem_cons_of_mem _ mem)
    obtain ⟨decided, is⟩ := Option.ne_none_iff_exists'.mp (all h List.mem_cons_self)
    simp only [decisionDelay, recordDelay, List.filterMap_cons, is, Option.map_some, List.sum_cons, List.map_cons] at later ⊢
    omega

/-- **The approval latency is the delay of the decisions** exactly where no hold is left undecided and the time from the
records to the decisions comes to nothing. -/
theorem approvalLatency_iff (P : Platform W L) (backend : Backend) (s : Approvals) (held : List Held)
    (run : Run P backend s held) :
    (reportedCount s = decidedCount held ∧ reportedSum s = decisionDelay held) ↔
      (∀ h ∈ held, h.decided ≠ none) ∧ recordDelay held = 0 := by
  have measured := run.tracks.measured
  have count : reportedCount s = held.length := by
    rw [reportedCount_eq, ← List.length_map Prod.snd, measured, List.length_map]
  have sum : reportedSum s = (held.map fun h => h.recorded - h.created).sum := by
    rw [reportedSum_eq, measured]
  have all_iff : held.length = decidedCount held ↔ ∀ h ∈ held, h.decided ≠ none := by
    rw [eq_comm, decidedCount, List.countP_eq_length]
    simp only [Option.isSome_iff_ne_none]
  rw [count, all_iff]
  apply and_congr_right
  intro all
  rw [sum, delay_split all]
  omega

namespace Sample

def x : HeldAction where
  action := Core.Sample.action
  decision := ⟨"decision-1", "action-1", .manual, false, "High risk"⟩
  adapterName := "simulation"
  riskLevel := some "high"
  assessment := none

/-- One action is held, and its record made at once. -/
def pending : Approvals :=
  recordApprovalDecision x "manual_required" "" (some "hold-1") 0 (holdForManualApproval x "hold-1" 0 0 (.empty .sqlite))

/-- It is rejected half a minute later. -/
def rejected : Approvals := (approveHeldAction Core.Sample.platform 30000000 "hold-1" "olga" false pending).2

theorem pending_run : Run Core.Sample.platform .sqlite pending [⟨"hold-1", 0, 0, none⟩] :=
  .hold .start x "hold-1" 0 0 0 (by decide) (fun _ mem => by cases mem) fun _ mem => by cases mem

theorem rejected_run : Run Core.Sample.platform .sqlite rejected [⟨"hold-1", 0, 0, some 30000000⟩] :=
  .approve pending_run 30000000 "hold-1" "olga" false

end Sample

/-- **A hold rejected after 30 s is reported with no delay**, and one that is pending is counted. -/
theorem latency_of_records :
    (Run Core.Sample.platform .sqlite Sample.rejected [⟨"hold-1", 0, 0, some 30000000⟩] ∧
      approvalLatency Sample.rejected = [("rejected", 0, 1)] ∧
      decisionDelay [⟨"hold-1", 0, 0, some 30000000⟩] = 30000000) ∧
    Run Core.Sample.platform .sqlite Sample.pending [⟨"hold-1", 0, 0, none⟩] ∧
      approvalLatency Sample.pending = [("manual_required", 0, 1)] ∧ decidedCount [⟨"hold-1", 0, 0, none⟩] = 0 :=
  ⟨⟨Sample.rejected_run, by decide +kernel, by decide +kernel⟩, Sample.pending_run, by decide +kernel, by decide +kernel⟩

/-- The rejected hold is counted, and its delay is not. -/
theorem approvalLatency_iff_rejected :
    ¬(reportedCount Sample.rejected = decidedCount [⟨"hold-1", 0, 0, some 30000000⟩] ∧
      reportedSum Sample.rejected = decisionDelay [⟨"hold-1", 0, 0, some 30000000⟩]) := by
  rw [approvalLatency_iff Core.Sample.platform .sqlite Sample.rejected _ Sample.rejected_run]
  decide +kernel

/-! ### The core -/

/-- The store without the times. -/
def erase {Record : Type} (s : DurableStore (Dated Record)) : DurableStore Record :=
  ⟨s.backend, s.records.map (·.record), s.durable.map (·.record)⟩

section
variable {Record : Type} {key : Record → String} {k : String} {f : Record → Record} (s : DurableStore (Dated Record))

theorem erase_save (d : Dated Record) : erase (s.save d) = (erase s).save d.record := by
  unfold erase DurableStore.save
  cases s.backend <;> simp

theorem erase_get? : (erase s).get? key k = (s.get? (fun d => key d.record) k).map (·.record) := by
  rw [erase, DurableStore.get?, DurableStore.get?, List.find?_map]
  rfl

theorem erase_replaceFirst (p : Record → Bool) (new : Dated Record) (rows : List (Dated Record)) :
    (replaceFirst (fun d => p d.record) new rows).map (·.record) = replaceFirst p new.record (rows.map (·.record)) := by
  induction rows with
  | nil => rfl
  | cons r rest ih =>
    rw [replaceFirst, List.map_cons, replaceFirst]
    split
    · rfl
    · rw [List.map_cons, ih]

theorem erase_mutate : erase (s.mutate (fun d => key d.record) k (.set f)) = (erase s).mutate key k f := by
  unfold DurableStore.mutate
  rw [erase_get?]
  cases s.get? (fun d => key d.record) k with
  | none => rfl
  | some old =>
    simp only [Option.map_some, erase]
    rw [erase_replaceFirst (fun r => key r = k)]
    rfl

theorem erase_update : erase (s.update (fun d => key d.record) k (.set f)) = (erase s).update key k f := by
  unfold DurableStore.update
  rw [erase_get?]
  cases s.get? (fun d => key d.record) k with
  | none => rfl
  | some old =>
    simp only [Option.map_some, erase]
    cases s.backend with
    | json =>
      dsimp only
      rw [erase_replaceFirst (fun r => key r = k)]
      rfl
    | sqlite =>
      dsimp only
      rw [erase_replaceFirst (fun r => key r = k)]
      congr 1
      rw [List.map_map, List.map_map]
      apply List.map_congr_left
      intro d _
      simp only [Function.comp]
      split <;> rfl

end

/-- A state of the core has these stores. -/
structure Has (c : State W) (s : Approvals) : Prop where
  holds : c.holds = erase s.holds
  records : c.records = erase s.records

theorem Has.quiet {c c' : State W} {s : Approvals} (has : Has c s) (quiet : Quiet c c') : Has c' s :=
  ⟨quiet.holds.trans has.holds, quiet.records.trans has.records⟩

/-- The core's `hold_for_manual_approval` is this one. -/
theorem Has.hold {P : Platform W L} {c : State W} {s : Approvals} (has : Has c s) (x : HeldAction) (created : Int) :
    Has ((Core.holdForManualApproval P x.action x.decision x.adapterName x.riskLevel x.assessment).exec c).2
      (holdForManualApproval x (P.uuid4 c.draws).text (P.clock c.ticks) created s) where
  holds := by
    rw [holdForManualApproval, erase_save, ← has.holds]
    rfl
  records := has.records

/-- So is its `approve_held_action`, whatever follows the approval. -/
theorem Has.approve {P : Platform W L} {c : State W} {s : Approvals} (has : Has c s) (approvalId approvedBy : String)
    (approved : Bool) :
    Has ((Core.approveHeldAction P approvalId approvedBy approved).exec c).2
      (approveHeldAction P (P.clock c.ticks) approvalId approvedBy approved s).2 := by
  have look : c.hold? approvalId = (s.holds.get? holdId approvalId).map (·.record) := by
    rw [State.hold?, has.holds]
    exact erase_get? s.holds
  have held : ∀ (d : DurableStore (Dated ApprovalHold)) (f : ApprovalHold → ApprovalHold),
      (erase d).mutate (·.approvalId) approvalId f = erase (d.mutate holdId approvalId (.set f)) :=
    fun d f => (erase_mutate d).symm
  have recorded : ∀ (d : DurableStore (Dated ApprovalRecord)) (f : ApprovalRecord → ApprovalRecord),
      (erase d).update (·.approvalId) approvalId f = erase (d.update recordId approvalId (.set f)) :=
    fun d f => (erase_update d).symm
  unfold Core.approveHeldAction approveHeldAction
  rw [Script.exec_bind, Script.exec_read]
  dsimp only
  rw [look]
  cases found : s.holds.get? holdId approvalId with
  | none => exact has
  | some dated =>
    obtain ⟨hold, created⟩ := dated
    have id : hold.approvalId = approvalId := (DurableStore.mem_of_get? found).2
    subst id
    simp only [Option.map_some]
    split
    · exact has
    · obtain ⟨checkedAt, checks, -⟩ := expired_exec (P := P) (s := c) hold.expiresAt
      have after : Has { c with ticks := checkedTicks c hold.expiresAt } s := ⟨has.holds, has.records⟩
      have same : late P c hold.expiresAt = hold.expiresAt.any (· < P.clock c.ticks) := by
        cases hold.expiresAt <;> rfl
      rw [Script.exec_bind, checks, same]
      dsimp only
      split
      · refine ⟨?_, has.records⟩
        rw [← held, ← has.holds]
        rfl
      · split
        · constructor
          · rw [← held, ← has.holds]
            rfl
          · rw [← recorded, ← has.records]
            rfl
        · cases P.registration? hold.governanceDomain with
          | none => exact after
          | some registration =>
            dsimp only
            rw [Script.exec_bind, Script.exec_ofExcept]
            cases heldDigest P.rt hold with
            | error e => exact after
            | ok digest =>
              dsimp only
              split
              · exact after
              · obtain ⟨a, c', -, -, -, rfl, quiet⟩ := resumeHold_quiet (P := P)
                  (s := { c with ticks := checkedTicks c hold.expiresAt }) hold approvedBy
                refine Has.quiet ?_ quiet
                constructor
                · have first := held s.holds fun h => { h with status := .approved }
                  have second := held (s.holds.mutate holdId hold.approvalId (.set fun h => { h with status := .approved }))
                    fun h => { h with approvedBy := some approvedBy }
                  rw [← first] at second
                  rw [← second, ← has.holds]
                · rw [← recorded, ← has.records]

end RmtPlatform.Ops.Latency
