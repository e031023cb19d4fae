import RmtPlatform.Core.Correlation
import RmtPlatform.Core.Durability

/-! Holds brought back into agreement with their records.

`approve_held_action` changes a hold in memory only, so that after a restart it may be
pending although its record is decided. `reconcileHoldsAgainstRecords` writes what the
record says into the hold store, one update a hold, and stops at the first that raises.
It repairs every such hold and no other, and has nothing left to do afterwards
(`reconcile_repairs`). The core's own model does the same to its two lists
(`reconcile_represents`). -/
namespace RmtPlatform.Ops

open Core Core.Durability
open Transaction (Faults)

structure ReconcileSummary where
  checked : Nat
  reconciled : Nat
  ids : List String
deriving DecidableEq

/-- The two stores. -/
structure GovernanceStores (P Q : Type) where
  holds : Store ApprovalHold P
  records : Store ApprovalRecord Q

section
variable {P Q : Type} (m : RecordModel ApprovalHold P)

/-- The records as `get_by_id` sees them. -/
def shown (s : Store ApprovalRecord Q) : DurableStore ApprovalRecord := ⟨.json, getAll s, []⟩

/-- The loop over the holds, from number `i` on. An exception ends it and is swallowed. -/
def reconcileLoop (faults : Nat → Faults WriteError) :
    Nat → Nat → ReconcileSummary → GovernanceStores P Q → ReconcileSummary × GovernanceStores P Q
  | 0, _, summary, s => (summary, s)
  | left + 1, i, summary, s => match (getAll s.holds)[i]? with
    | none => (summary, s)
    | some hold => match correction (shown s.records) hold with
      | none => reconcileLoop faults left (i + 1) summary s
      | some f => match update m (faults i) hold.approvalId f s.holds with
        | (.error _, holds) => (summary, { s with holds })
        | (.ok _, holds) =>
          let summary := { summary with reconciled := summary.reconciled + 1, ids := summary.ids ++ [hold.approvalId] }
          reconcileLoop faults left (i + 1) summary { s with holds }

/-- `reconcile_holds_against_records`. -/
def reconcileHoldsAgainstRecords (faults : Nat → Faults WriteError) (s : GovernanceStores P Q) :
    ReconcileSummary × GovernanceStores P Q :=
  reconcileLoop m faults (getAll s.holds).length 0 ⟨(getAll s.holds).length, 0, []⟩ s

/-! ### What it is for -/

/-- What is read from a store reads back, also with another status and approver. -/
structure HoldModel (m : RecordModel ApprovalHold P) : Prop where
  keyOf : ∀ h, m.keyOf h = some h.approvalId
  reads : ∀ p, ReadsBack m (m.validate p)
  sets : ∀ h status approvedBy, ReadsBack m h → ReadsBack m { h with status, approvedBy }

/-- The hold is pending, and its record decided. -/
structure Contradicts (records : List ApprovalRecord) (h : ApprovalHold) (r : ApprovalRecord) (status : ApprovalStatus) :
    Prop where
  pending : h.status = .pending
  recorded : r ∈ records
  key : r.approvalId = h.approvalId
  terminal : terminalStatus r.decision = some status

/-- What becomes of a hold. -/
def Settles (records : List ApprovalRecord) (h h' : ApprovalHold) : Prop :=
  (∃ r status, Contradicts records h r status ∧
    h' = { h with status, approvedBy := some (h.approvedBy.getD r.approvedBy) }) ∨
  ((∀ r status, ¬Contradicts records h r status) ∧ h' = h)

/-- Every hold as its record wants it, in the same order, and none contradicted any more. -/
structure Repaired (records : List ApprovalRecord) (before after : List ApprovalHold) : Prop where
  each : List.Forall₂ (Settles records) before after
  agreed : ∀ h ∈ after, ∀ r status, ¬Contradicts records h r status

/-! ### One hold -/

variable {m} {s : GovernanceStores P Q} {h : ApprovalHold} {f : ApprovalHold → ApprovalHold}

/-- A store as it is after it was opened. -/
structure Fresh (m : RecordModel ApprovalHold P) (s : Store ApprovalHold P) : Prop where
  agree : Durability.Agrees m s
  keyed : Keyed m s.medium
  disk : OnDisk s.medium
  reads : ∀ h ∈ getAll s, ReadsBack m h
  unique : ((getAll s).map (·.approvalId)).Nodup

theorem opened_fresh (model : HoldModel m) {medium : Medium P} (keyed : Keyed m medium) (disk : OnDisk medium)
    (unique : ((load m medium).map (·.approvalId)).Nodup) : Fresh m (opened m medium) := by
  obtain ⟨agree, keyed', disk'⟩ := opened_sound keyed disk
  refine ⟨agree, keyed', disk', ?_, unique⟩
  intro h mem
  have read : ∃ p, m.validate p = h := by
    cases medium with
    | memory => exact absurd disk id
    | json files =>
      obtain ⟨p, -, is⟩ := List.mem_map.mp mem
      exact ⟨p, is⟩
    | sqlite rows =>
      obtain ⟨x, -, is⟩ := List.mem_map.mp mem
      exact ⟨x.payload, is⟩
  obtain ⟨p, rfl⟩ := read
  exact model.reads p

theorem undisturbed_none (records : List ApprovalHold) (body : Sql P Unit) (medium : Medium P) :
    Undisturbed m (fun _ => none) records body medium := by
  cases medium with
  | memory => trivial
  | json files => exact fun _ _ => rfl
  | sqlite rows => exact fun _ _ => rfl

/-- The hold with a key is the one an update finds. -/
theorem findIdx_only (model : HoldModel m) {before rest : List ApprovalHold}
    (unique : ((before ++ h :: rest).map (·.approvalId)).Nodup) :
    (before ++ h :: rest).findIdx? (fun r => m.keyOf r = some h.approvalId) = some before.length := by
  rw [List.map_append, List.map_cons, List.nodup_append] at unique
  have apart : ∀ r ∈ before, r.approvalId ≠ h.approvalId := fun r mem =>
    unique.2.2 r.approvalId (List.mem_map_of_mem mem) h.approvalId List.mem_cons_self
  have none_before : before.findIdx? (fun r => m.keyOf r = some h.approvalId) = none := by
    rw [List.findIdx?_eq_none_iff]
    intro r mem
    simp [model.keyOf, apart r mem]
  rw [List.findIdx?_append, none_before]
  simp [List.findIdx?_cons, model.keyOf]

/-- An update of one hold. -/
theorem update_at (model : HoldModel m) {store : Store ApprovalHold P} {before rest : List ApprovalHold}
    (fresh : Fresh m store) (split : getAll store = before ++ h :: rest) (key : (f h).approvalId = h.approvalId)
    (reads : ReadsBack m (f h)) : ∃ store', update m (fun _ => none) h.approvalId f store = (.ok (), store') ∧
      getAll store' = before ++ f h :: rest ∧ Fresh m store' := by
  obtain ⟨agree, keyed, disk, reads_all, unique⟩ := fresh
  unfold getAll at *
  rw [split] at unique
  have at_i : store.records[before.length]? = some h := by
    rw [split]
    simp
  have bound : before.length < store.records.length := by
    rw [split]
    simp
  let op : Op ApprovalHold := .commitUpdate before.length (f h)
  have after : op.after store.records = before ++ f h :: rest := by
    show store.records.set before.length (f h) = _
    rw [split]
    simp
  have apply : update m (fun _ => none) h.approvalId f store = op.apply m (fun _ => none) store := by
    unfold update
    rw [split, findIdx_only model unique, ← split]
    dsimp only
    rw [at_i]
    rfl
  have reads_after : ∀ r ∈ op.after store.records, ReadsBack m r := by
    intro r mem
    rcases List.mem_or_eq_of_mem_set mem with mem | rfl
    · exact reads_all r mem
    · exact reads
  have keeps : op.KeepsRows m store.records := by
    intro old found
    obtain rfl : h = old := Option.some.inj (at_i.symm.trans found)
    rw [model.keyOf]
    refine ⟨reads, fun j r there other same => ?_⟩
    rw [model.keyOf] at same
    have id : r.approvalId = h.approvalId := Option.some.inj same
    have at_j : ((before ++ h :: rest).map (·.approvalId))[j]? = ((before ++ h :: rest).map (·.approvalId))[before.length]? := by
      rw [List.getElem?_map, List.getElem?_map, ← split, there, at_i]
      exact congrArg some id
    have inside : before.length < ((before ++ h :: rest).map (·.approvalId)).length := by simp
    exact absurd ((List.getElem?_inj inside unique).mp at_j.symm).symm other
  have valid : op.Valid store.records := bound
  obtain ⟨medium, done, disk', same, keyed'⟩ := apply_undisturbed agree keyed disk valid
    (undisturbed_none _ _ _)
  have loads : op.after store.records = load m medium := by
    rw [same]
    cases store.medium with
    | memory => trivial
    | json files => exact reads_after
    | sqlite rows => exact keeps
  refine ⟨_, apply.trans done, after, ⟨loads, keyed' loads, disk', reads_after, ?_⟩⟩
  show ((op.after store.records).map (·.approvalId)).Nodup
  rw [after]
  simpa [key] using unique

/-! ### The loop -/

/-- A hold as it should be. -/
def repair (records : DurableStore ApprovalRecord) (h : ApprovalHold) : ApprovalHold :=
  match correction records h with
  | some f => f h
  | none => h

/-- The holds the loop writes. -/
def stale (records : DurableStore ApprovalRecord) (holds : List ApprovalHold) : List ApprovalHold :=
  holds.filter fun h => (correction records h).isSome

/-- The loop from any hold on. -/
theorem loop_repairs (model : HoldModel m) (todo : List ApprovalHold) :
    ∀ (before : List ApprovalHold) (summary : ReconcileSummary) (s : GovernanceStores P Q), Fresh m s.holds →
      getAll s.holds = before ++ todo →
      ∃ store, reconcileLoop m (fun _ _ => none) todo.length before.length summary s =
          (⟨summary.checked, summary.reconciled + (stale (shown s.records) todo).length,
            summary.ids ++ (stale (shown s.records) todo).map (·.approvalId)⟩, ⟨store, s.records⟩) ∧
        getAll store = before ++ todo.map (repair (shown s.records)) ∧ Fresh m store := by
  induction todo with
  | nil =>
    intro before summary s fresh split
    refine ⟨s.holds, ?_, by simpa using split, fresh⟩
    simp [reconcileLoop, stale]
  | cons h rest ih =>
    intro before summary s fresh split
    have at_i : (getAll s.holds)[before.length]? = some h := by
      rw [split]
      simp
    have moved : ∀ h' : ApprovalHold, before.length + 1 = (before ++ [h']).length := fun h' => by simp
    rw [List.length_cons, reconcileLoop, at_i]
    dsimp only
    cases corrected : correction (shown s.records) h with
    | none =>
      obtain ⟨store, ran, holds, fresh'⟩ := ih (before ++ [h]) summary s fresh (by simpa using split)
      refine ⟨store, ?_, ?_, fresh'⟩
      · dsimp only
        rw [moved h, ran]
        simp [stale, corrected]
      · rw [holds]
        simp [repair, corrected]
    | some f =>
      obtain ⟨status, approvedBy, is⟩ := correction_keeps corrected h
      have reads : ReadsBack m (f h) := by
        rw [is]
        apply model.sets
        exact fresh.reads h (by simp [split])
      obtain ⟨store₁, updated, holds₁, fresh₁⟩ := update_at model fresh split (by rw [is]) reads
      obtain ⟨store, ran, holds, fresh'⟩ := ih (before ++ [f h])
        { summary with reconciled := summary.reconciled + 1, ids := summary.ids ++ [h.approvalId] }
        { s with holds := store₁ } fresh₁ (by simpa using holds₁)
      refine ⟨store, ?_, ?_, fresh'⟩
      · dsimp only
        rw [updated]
        dsimp only
        rw [moved (f h), ran]
        simp [stale, corrected, Nat.add_assoc, Nat.add_comm]
      · rw [holds]
        simp [repair, corrected]

/-- Nothing stale, nothing done. -/
theorem loop_idle (summary : ReconcileSummary) (left i : Nat)
    (none_stale : ∀ h ∈ getAll s.holds, correction (shown s.records) h = none) :
    reconcileLoop m (fun _ _ => none) left i summary s = (summary, s) := by
  induction left generalizing i with
  | zero => rfl
  | succ left ih =>
    rw [reconcileLoop]
    cases found : (getAll s.holds)[i]? with
    | none => rfl
    | some h =>
      dsimp only
      rw [none_stale h (List.mem_of_getElem? found)]
      exact ih (i + 1)

/-! ### What the loop leaves -/

variable {records : Store ApprovalRecord Q}

/-- Where no two records have one key, the correction is what the hold's record says. -/
theorem repair_settles (unique : ((getAll records).map (·.approvalId)).Nodup) (h : ApprovalHold) :
    Settles (getAll records) h (repair (shown records) h) := by
  unfold repair
  have only : (shown records).Unique (·.approvalId) := unique
  cases corrected : correction (shown records) h with
  | none =>
    refine .inr ⟨fun r status against => ?_, rfl⟩
    have found := only.get? against.recorded against.key
    simp [correction, against.pending, found, against.terminal] at corrected
  | some f =>
    unfold correction at corrected
    split at corrected
    · cases corrected
    · next pending =>
      obtain ⟨r, found, corrected⟩ := Option.bind_eq_some_iff.mp corrected
      obtain ⟨status, terminal, corrected⟩ := Option.bind_eq_some_iff.mp corrected
      cases corrected
      obtain ⟨recorded, key⟩ := DurableStore.mem_of_get? found
      refine .inl ⟨r, status, ⟨not_not.mp pending, recorded, key, terminal⟩, ?_⟩
      cases approver : h.approvedBy <;> simp [approver]

theorem terminal_resolved {decision : String} {status : ApprovalStatus} (h : terminalStatus decision = some status) :
    status ≠ .pending := by
  unfold terminalStatus at h
  split at h <;> cases h <;> exact ApprovalStatus.noConfusion

theorem settles_agreed {records : List ApprovalRecord} {h h' : ApprovalHold} (settled : Settles records h h') :
    ∀ r status, ¬Contradicts records h' r status := by
  intro r status against
  rcases settled with ⟨r₀, status₀, before, rfl⟩ | ⟨never, rfl⟩
  · exact terminal_resolved before.terminal against.pending
  · exact never r status against

variable (records) in
theorem repairs (unique : ((getAll records).map (·.approvalId)).Nodup) (holds : List ApprovalHold) :
    Repaired (getAll records) holds (holds.map (repair (shown records))) where
  each := by
    rw [List.forall₂_map_right_iff]
    exact List.forall₂_same.mpr fun h _ => repair_settles unique h
  agreed := by
    intro h' mem
    obtain ⟨h, -, rfl⟩ := List.mem_map.mp mem
    exact settles_agreed (repair_settles unique h)

theorem correction_agreed {h : ApprovalHold} (agreed : ∀ r status, ¬Contradicts (getAll records) h r status) :
    correction (shown records) h = none := by
  cases corrected : correction (shown records) h with
  | none => rfl
  | some f =>
    obtain ⟨pending, r, status, found, terminal, -⟩ := correction_some corrected
    obtain ⟨recorded, key⟩ := DurableStore.mem_of_get? found
    exact absurd ⟨pending, recorded, key, terminal⟩ (agreed r status)

/-- **Reconciliation repairs the holds**, on disk as in memory, and a second one, in the
same process or in the next, has nothing to do. -/
theorem reconcile_repairs {P Q : Type} {m : RecordModel ApprovalHold P} {mr : RecordModel ApprovalRecord Q}
    (model : HoldModel m) {holds : Medium P} {records : Medium Q} (disk : OnDisk holds) (keyed : Keyed m holds)
    (holds_unique : ((load m holds).map (·.approvalId)).Nodup)
    (records_unique : ((load mr records).map (·.approvalId)).Nodup) :
    let s : GovernanceStores P Q := ⟨opened m holds, opened mr records⟩
    let done := reconcileHoldsAgainstRecords m (fun _ _ => none) s
    let restarted : GovernanceStores P Q := ⟨opened m done.2.holds.medium, opened mr done.2.records.medium⟩
    Repaired (getAll s.records) (getAll s.holds) (getAll done.2.holds) ∧ done.2.records = s.records ∧
      getAll restarted.holds = getAll done.2.holds ∧
      reconcileHoldsAgainstRecords m (fun _ _ => none) done.2 = (⟨(getAll s.holds).length, 0, []⟩, done.2) ∧
      reconcileHoldsAgainstRecords m (fun _ _ => none) restarted = (⟨(getAll s.holds).length, 0, []⟩, restarted) := by
  intro s done restarted
  obtain ⟨store, ran, after, fresh⟩ := loop_repairs model (getAll s.holds) [] ⟨(getAll s.holds).length, 0, []⟩ s
    (opened_fresh model keyed disk holds_unique) rfl
  have is : done = _ := ran
  have same_records : getAll restarted.records = getAll s.records := by
    show load mr done.2.records.medium = load mr records
    rw [is]
    cases records <;> rfl
  have same_holds : getAll restarted.holds = getAll done.2.holds := by
    show load m done.2.holds.medium = _
    rw [is]
    exact fresh.agree.symm
  have shows : getAll done.2.holds = (getAll s.holds).map (repair (shown s.records)) := by
    rw [is]
    exact after
  have repaired : Repaired (getAll s.records) (getAll s.holds) (getAll done.2.holds) := by
    rw [shows]
    exact repairs s.records records_unique _
  have count : (getAll done.2.holds).length = (getAll s.holds).length := by
    rw [shows, List.length_map]
  refine ⟨repaired, by rw [is], same_holds, ?_, ?_⟩
  · unfold reconcileHoldsAgainstRecords
    rw [loop_idle, count]
    intro h mem
    apply correction_agreed
    rw [is]
    exact repaired.agreed h mem
  · unfold reconcileHoldsAgainstRecords
    rw [loop_idle, same_holds, count]
    intro h mem
    apply correction_agreed
    rw [same_records]
    rw [same_holds] at mem
    exact repaired.agreed h mem

/-! ### A hold that was approved before a restart -/

private def staleHold : ApprovalHold :=
  { Provenance.missing with
    approvalId := "approval-1", actionId := "action-1", action := Core.Sample.action, adapterName := "simulation",
    reason := "Action explicitly requires approval", status := .pending, approvedBy := none, expiresAt := none,
    riskLevel := none, governanceDomain := "rmt.default" }

private def decided : ApprovalRecord :=
  { Durability.Sample.record "action-1" with decision := "approved", approvedBy := "operator" }

private def openHold : ApprovalHold := { staleHold with approvalId := "approval-2" }

private def undecided : ApprovalRecord := { Durability.Sample.record "action-1" with approvalId := "approval-2" }

/-- A hold's JSON form is taken for the hold itself. -/
private def holdModel : RecordModel ApprovalHold ApprovalHold := ⟨id, id, fun h => some h.approvalId⟩

private theorem holdModel_reads : HoldModel holdModel := ⟨fun _ => rfl, fun _ => rfl, fun _ _ _ _ => rfl⟩

/-- The first hold is repaired, and the one that is still open stays. -/
theorem reconcile_repairs_stale :
    let s : GovernanceStores ApprovalHold ApprovalRecord :=
      ⟨opened holdModel (.sqlite [row holdModel staleHold, row holdModel openHold]), opened Durability.Sample.recordModel
        (.sqlite [row Durability.Sample.recordModel decided, row Durability.Sample.recordModel undecided])⟩
    let done := reconcileHoldsAgainstRecords holdModel (fun _ _ => none) s
    done.1 = ⟨2, 1, ["approval-1"]⟩ ∧
      (getAll done.2.holds).map (fun h => (h.approvalId, h.status)) = [("approval-1", .approved), ("approval-2", .pending)] ∧
      Repaired (getAll s.records) (getAll s.holds) (getAll done.2.holds) := by
  have keyed : Keyed holdModel (.sqlite [row holdModel staleHold, row holdModel openHold]) := by
    intro x mem
    rcases List.mem_cons.mp mem with rfl | mem
    · rfl
    · rw [List.mem_singleton.mp mem]
      rfl
  have disk : OnDisk (.sqlite [row holdModel staleHold, row holdModel openHold]) := trivial
  have repaired := @reconcile_repairs _ _ holdModel Durability.Sample.recordModel holdModel_reads _
    (.sqlite [row Durability.Sample.recordModel decided, row Durability.Sample.recordModel undecided]) disk keyed
    (by decide) (by decide)
  exact ⟨by decide +kernel, by decide +kernel, repaired.1⟩

/-! ### The core's model -/

theorem update_returns (store : Store ApprovalHold P) (key : String) (f : ApprovalHold → ApprovalHold) :
    (update m (fun _ => none) key f store).1 = .ok () := by
  obtain ⟨list, medium⟩ := store
  unfold update
  split
  · rfl
  · split
    · rfl
    · next index _ old found =>
      unfold commitUpdate
      rw [found]
      dsimp only
      cases medium with
      | memory => rfl
      | json files => rw [change_json (undisturbed_none _ _ (.json files))]
      | sqlite rows => rw [change_sqlite (undisturbed_none _ _ (.sqlite rows)) (sqlUpdateByKey_exec _ _)]

theorem correction_represents {mr : RecordModel ApprovalRecord Q} {d : DurableStore ApprovalRecord}
    (represents : Represents mr d records) (h : ApprovalHold) : correction d h = correction (shown records) h := by
  unfold correction DurableStore.get? shown getAll
  rw [represents.records]

theorem replaceFirst_length {α : Type} (p : α → Bool) (new : α) (list : List α) :
    (replaceFirst p new list).length = list.length := by
  induction list with
  | nil => rfl
  | cons a rest ih =>
    unfold replaceFirst
    split
    · rfl
    · rw [List.length_cons, ih, List.length_cons]

theorem update_length {Record : Type} (d : DurableStore Record) (key : Record → String) (k : String) (f : Record → Record) :
    (d.update key k f).records.length = d.records.length := by
  unfold DurableStore.update
  split
  · rfl
  · exact replaceFirst_length _ _ _

/-- The two lists of the core's model after `reconcile_holds_against_records` are the
store's records and what is on its medium. -/
theorem reconcile_represents {W L : Type} {mr : RecordModel ApprovalRecord Q}
    (keyOf : ∀ h, m.keyOf h = some h.approvalId) {k : State W} (holds : Represents m k.holds s.holds)
    (records : Represents mr k.records s.records) :
    Represents m ((reconcileHolds : Governed W L Unit).exec k).2.holds
      (reconcileHoldsAgainstRecords m (fun _ _ => none) s).2.holds := by
  have run : ∀ left i summary (k : State W) (s : GovernanceStores P Q), Represents m k.holds s.holds →
      Represents mr k.records s.records → left + i = k.holds.records.length →
      Represents m ((List.range' i left).foldl reconcileAt k).holds
        (reconcileLoop m (fun _ _ => none) left i summary s).2.holds := by
    intro left
    induction left with
    | zero => exact fun i summary k s holds _ _ => holds
    | succ left ih =>
      intro i summary k s holds records count
      rw [List.range'_succ, List.foldl_cons, reconcileLoop, getAll, ← holds.records]
      obtain ⟨h, found⟩ : ∃ h, k.holds.records[i]? = some h :=
        ⟨_, List.getElem?_eq_getElem (by omega)⟩
      rw [reconcileAt, found]
      dsimp only
      rw [correction_represents records]
      cases corrected : correction (shown s.records) h with
      | none => exact ih (i + 1) summary k s holds records (by omega)
      | some f =>
        have updated := represents_update keyOf holds h.approvalId f
        have returns := update_returns (m := m) s.holds h.approvalId f
        dsimp only
        cases applied : update m (fun _ => none) h.approvalId f s.holds with
        | mk result store =>
          rw [applied] at updated returns
          cases returns
          apply ih (i + 1) _ { k with holds := k.holds.update (·.approvalId) h.approvalId f } { s with holds := store }
            updated records
          show left + (i + 1) = (k.holds.update (·.approvalId) h.approvalId f).records.length
          rw [update_length]
          omega
  unfold reconcileHoldsAgainstRecords reconcileHolds
  rw [Script.exec_bind, Script.exec_read]
  dsimp only
  rw [exec_reconcileFrom, getAll, ← holds.records]
  exact run _ 0 _ k s holds records rfl

end

end RmtPlatform.Ops
