import RmtPlatform.Core.Durability
import Mathlib.Logic.Function.Basic
import Mathlib.Data.List.Permutation

/-! Calls of one approval store side by side.

A save and a rewriting do all their work under the lock. An update looks the record up
and builds the changed copy before it takes the lock, and then puts the copy where the
record was. Other calls may come in between. The calls come to the same as one after
another, in the order in which they take the lock, as long as every update that takes
it would still find its record there and make the same of it
(`updates_serializable`). -/
namespace RmtPlatform.Core.Concurrency

open Core.Durability
open Transaction (Faults)

/-! ### Calls in progress -/

/-- How far a call is. -/
inductive Phase (Record : Type) where
  | called
  | found (index : Nat) (old : Record)
  | copied (index : Nat) (new : Record)
  | done

/-- A change under the lock. -/
structure Commit (T Record Payload : Type) where
  call : T
  before : Store Record Payload
  after : Store Record Payload

/-- The store, the calls, and the changes made, newest first. -/
structure System (T Record Payload : Type) where
  store : Store Record Payload
  phase : T → Phase Record
  log : List (Commit T Record Payload)

section
variable {T Record Payload : Type} [DecidableEq T]

namespace System

def start (store : Store Record Payload) : System T Record Payload := ⟨store, fun _ => .called, []⟩

def setPhase (s : System T Record Payload) (t : T) (phase : Phase Record) : System T Record Payload :=
  { s with phase := Function.update s.phase t phase }

/-- The call is done, with this store. -/
def commit (s : System T Record Payload) (t : T) (store : Store Record Payload) : System T Record Payload :=
  { s.setPhase t .done with store, log := ⟨t, s.store, store⟩ :: s.log }

end System

variable (m : RecordModel Record Payload) (calls : T → Durability.Call Record) (faults : T → Faults WriteError)

/-- One step of the call `t`. -/
inductive Moves (t : T) (s : System T Record Payload) : System T Record Payload → Prop where
  | saved {r : Record} (call : calls t = .save r) (phase : s.phase t = .called) :
      Moves t s (s.commit t (save m (faults t) r s.store).2)
  | replaced {records : List Record} (call : calls t = .replaceRecords records) (phase : s.phase t = .called) :
      Moves t s (s.commit t (replaceRecords m (faults t) records s.store).2)
  /-- `update` finds no record, and returns `None`. -/
  | missed {key : String} {f : Record → Record} (call : calls t = .update key f) (phase : s.phase t = .called)
      (absent : found m s.store.records key = none) : Moves t s (s.setPhase t .done)
  | found {key : String} {f : Record → Record} {index : Nat} {old : Record} (call : calls t = .update key f)
      (phase : s.phase t = .called) (there : found m s.store.records key = some (index, old)) :
      Moves t s (s.setPhase t (.found index old))
  | copied {key : String} {f : Record → Record} {index : Nat} {old : Record} (call : calls t = .update key f)
      (phase : s.phase t = .found index old) : Moves t s (s.setPhase t (.copied index (f old)))
  | committed {key : String} {f : Record → Record} {index : Nat} {new : Record} (call : calls t = .update key f)
      (phase : s.phase t = .copied index new) (within : index < s.store.records.length) :
      Moves t s (s.commit t (commitUpdate m (faults t) index new s.store).2)
  /-- `_commit_update` raises `IndexError`. -/
  | outside {key : String} {f : Record → Record} {index : Nat} {new : Record} (call : calls t = .update key f)
      (phase : s.phase t = .copied index new) (outside : s.store.records.length ≤ index) :
      Moves t s (s.setPhase t .done)

/-- The interleavings whose steps all meet `admits`. -/
inductive Runs (store : Store Record Payload) (admits : System T Record Payload → T → Prop) :
    System T Record Payload → Prop where
  | start : Runs store admits (.start store)
  | step {s s' : System T Record Payload} (before : Runs store admits s) (t : T) (admitted : admits s t)
      (moves : Moves m calls faults t s s') : Runs store admits s'

/-! ### One after another -/

/-- The call as one step. -/
def atomically (t : T) (s : System T Record Payload) : System T Record Payload :=
  match (calls t).op m s.store.records with
  | none => s.setPhase t .done
  | some op => s.commit t (op.apply m (faults t) s.store).2

/-- The calls one after another. -/
def serial (store : Store Record Payload) (order : List T) : System T Record Payload :=
  order.foldl (fun s t => atomically m calls faults t s) (.start store)

/-- The calls that are done come to the same in some order, one after another: the store, and every change on the way. -/
def Serializable (store : Store Record Payload) (s : System T Record Payload) : Prop :=
  ∃ order : List T, order.Nodup ∧ (∀ t, t ∈ order ↔ s.phase t = .done) ∧
    (serial m calls faults store order).store = s.store ∧ (serial m calls faults store order).log = s.log

/-- An update that is to take the lock would find its record where it was, and make the same of it; or it would find
none, and is to raise. -/
def Fresh (s : System T Record Payload) (t : T) : Prop :=
  ∀ key f index new, calls t = .update key f → s.phase t = .copied index new →
    match found m s.store.records key with
    | some (index', record) => index' = index ∧ f record = new
    | none => s.store.records.length ≤ index

/-- The change sets the record that the update finds, and no other. -/
def Commit.Own (c : Commit T Record Payload) : Prop :=
  ∀ key f, calls c.call = .update key f → ∃ index old, found m c.before.records key = some (index, old) ∧
    c.after.records = c.before.records.set index (f old)

variable {m calls faults} {store : Store Record Payload} {s s' : System T Record Payload} {t : T}

/-! ### Steps -/

theorem serial_snoc (order : List T) (t : T) :
    serial m calls faults store (order ++ [t]) = atomically m calls faults t (serial m calls faults store order) := by
  unfold serial
  rw [List.foldl_append]
  rfl

theorem found_bound {records : List Record} {key : String} {index : Nat} {old : Record}
    (there : found m records key = some (index, old)) : index < records.length ∧ records[index]? = some old := by
  simp only [Durability.found, Option.bind_eq_bind, Option.bind_eq_some_iff] at there
  obtain ⟨i, -, o, hget, same⟩ := there
  cases same
  exact ⟨(List.getElem?_eq_some_iff.mp hget).1, hget⟩

/-- **What one step comes to**: nothing that can be seen, or the call as one step. -/
theorem moves_cases (fresh : Fresh m calls s t) (moves : Moves m calls faults t s s') :
    s.phase t ≠ .done ∧
      ((∃ phase, phase ≠ .done ∧ s' = s.setPhase t phase) ∨ s' = atomically m calls faults t s) := by
  cases moves with
  | saved call phase =>
    refine ⟨by simp [phase], .inr ?_⟩
    unfold atomically
    rw [call]
    rfl
  | replaced call phase =>
    refine ⟨by simp [phase], .inr ?_⟩
    unfold atomically
    rw [call]
    rfl
  | missed call phase absent =>
    refine ⟨by simp [phase], .inr ?_⟩
    unfold atomically
    rw [call, Call.op, absent]
    rfl
  | found call phase there => exact ⟨by simp [phase], .inl ⟨_, by simp, rfl⟩⟩
  | copied call phase => exact ⟨by simp [phase], .inl ⟨_, by simp, rfl⟩⟩
  | @committed key f index new call phase within =>
    refine ⟨by simp [phase], .inr ?_⟩
    have again := fresh key f index new call phase
    unfold atomically
    rw [call, Call.op]
    cases there : found m s.store.records key with
    | none =>
      rw [there] at again
      exact absurd within (Nat.not_lt.mpr again)
    | some place =>
      rw [there] at again
      obtain ⟨rfl, rfl⟩ := again
      rfl
  | @outside key f index new call phase outside =>
    refine ⟨by simp [phase], .inr ?_⟩
    have again := fresh key f index new call phase
    unfold atomically
    rw [call, Call.op]
    cases there : found m s.store.records key with
    | none => rfl
    | some place =>
      rw [there] at again
      obtain ⟨rfl, -⟩ := again
      exact absurd (found_bound there).1 (Nat.not_lt.mpr outside)

theorem setPhase_done {phase : Phase Record} (other : phase ≠ .done) (running : s.phase t ≠ .done) (u : T) :
    (s.setPhase t phase).phase u = .done ↔ s.phase u = .done := by
  by_cases same : u = t
  · subst same
    simp [System.setPhase, other, running]
  · simp [System.setPhase, same]

theorem atomically_phase (u : T) :
    (atomically m calls faults t s).phase u = if u = t then .done else s.phase u := by
  unfold atomically
  split <;> simp [System.setPhase, System.commit, Function.update_apply]

/-- A call as one step is told by the store and the log. -/
theorem atomically_congr {s₁ s₂ : System T Record Payload} (store : s₁.store = s₂.store) (log : s₁.log = s₂.log) :
    (atomically m calls faults t s₁).store = (atomically m calls faults t s₂).store ∧
      (atomically m calls faults t s₁).log = (atomically m calls faults t s₂).log := by
  unfold atomically
  rw [store]
  cases (calls t).op m s₂.store.records with
  | none => exact ⟨store, log⟩
  | some op => exact ⟨rfl, by simp only [System.commit, store, log]⟩

theorem own_atomically (own : ∀ c ∈ s.log, c.Own m calls) : ∀ c ∈ (atomically m calls faults t s).log, c.Own m calls := by
  unfold atomically
  cases hop : (calls t).op m s.store.records with
  | none => exact own
  | some op =>
    intro c mem
    rcases List.mem_cons.mp mem with rfl | mem
    · intro key f call
      dsimp only at call ⊢
      rw [call, Call.op] at hop
      obtain ⟨⟨index, old⟩, there, rfl⟩ := Option.map_eq_some_iff.mp hop
      have valid : (Op.commitUpdate index (f old)).Valid s.store.records := (found_bound there).1
      refine ⟨index, old, there, ?_⟩
      rw [apply_eq valid]
      rfl
    · exact own c mem

end

/-- **The calls are serializable** in every interleaving in which every update is fresh when it takes the lock, and every
change sets the record its update finds. -/
theorem updates_serializable {T Record Payload : Type} [DecidableEq T] (m : RecordModel Record Payload)
    (calls : T → Durability.Call Record) (faults : T → Faults WriteError) (store : Store Record Payload) (s : System T Record Payload)
    (run : Runs m calls faults store (Fresh m calls) s) :
    Serializable m calls faults store s ∧ ∀ c ∈ s.log, c.Own m calls := by
  induction run with
  | start =>
    refine ⟨⟨[], List.nodup_nil, fun t => ?_, rfl, rfl⟩, fun c mem => absurd mem List.not_mem_nil⟩
    simp [System.start]
  | @step s s' before t fresh moves ih =>
    obtain ⟨⟨order, distinct, done, sameStore, sameLog⟩, own⟩ := ih
    obtain ⟨running, ⟨phase, other, rfl⟩ | rfl⟩ := moves_cases fresh moves
    · -- Nothing to be seen.
      exact ⟨⟨order, distinct, fun u => (done u).trans (setPhase_done other running u).symm, sameStore, sameLog⟩, own⟩
    · -- The call takes its place at the end of the order.
      have new : t ∉ order := fun mem => running ((done t).mp mem)
      obtain ⟨sameStore', sameLog'⟩ :
          (atomically m calls faults t (serial m calls faults store order)).store = (atomically m calls faults t s).store ∧
            (atomically m calls faults t (serial m calls faults store order)).log = (atomically m calls faults t s).log :=
        atomically_congr sameStore sameLog
      refine ⟨⟨order ++ [t], ?_, fun u => ?_, ?_, ?_⟩, own_atomically own⟩
      · exact List.nodup_append.mpr ⟨distinct, List.nodup_singleton t, fun a ha b hb same => by
          rw [List.mem_singleton.mp hb] at same
          exact new (same ▸ ha)⟩
      · rw [atomically_phase, List.mem_append, List.mem_singleton, done u]
        by_cases same : u = t <;> simp [same]
      · rw [serial_snoc, sameStore']
      · rw [serial_snoc, sameLog']

namespace Sample

/-- What two calls set. -/
def updated (t : Bool) (r : ApprovalRecord) : ApprovalRecord :=
  match t with
  | false => { r with decision := "approved" }
  | true => { r with approvedBy := "olga" }

/-- The two calls update these records. -/
def calls (key : Bool → String) (t : Bool) : Durability.Call ApprovalRecord := .update (key t) (updated t)

def undisturbed : Bool → Faults WriteError := fun _ _ => none

def undecided : ApprovalRecord := Durability.Sample.record "action-1"

def other : ApprovalRecord := { Durability.Sample.record "action-2" with approvalId := "approval-2" }

/-- Two records, in memory. -/
def stored : Store ApprovalRecord ApprovalRecord := ⟨[undecided, other], .memory⟩

abbrev Calls := System Bool ApprovalRecord ApprovalRecord

def looked (t : Bool) (index : Nat) (old : ApprovalRecord) (s : Calls) : Calls := s.setPhase t (.found index old)

def copied (t : Bool) (index : Nat) (old : ApprovalRecord) (s : Calls) : Calls :=
  s.setPhase t (.copied index (updated t old))

def committed (t : Bool) (index : Nat) (old : ApprovalRecord) (s : Calls) : Calls :=
  s.commit t (commitUpdate Durability.Sample.recordModel (undisturbed t) index (updated t old) s.store).2

/-- One record each. -/
def apart (t : Bool) : String := if t then "approval-2" else "approval-1"

/-- Both calls have looked their records up and made their copies. -/
def ready : Calls :=
  copied false 0 undecided (copied true 1 other (looked true 1 other (looked false 0 undecided (.start stored))))

/-- Each puts its copy there. -/
def parallel : Calls := committed false 0 undecided (committed true 1 other ready)

/-- One record for both. -/
def shared : Bool → String := fun _ => "approval-1"

/-- Both look the record up, and then each puts its copy there. -/
def crossed : Calls :=
  committed true 0 undecided (committed false 0 undecided (copied true 0 undecided (copied false 0 undecided
    (looked true 0 undecided (looked false 0 undecided (.start stored))))))

/-- A call with no copy is fresh. -/
theorem fresh_uncopied {key : Bool → String} {s : Calls} {t : Bool} (uncopied : ∀ index new, s.phase t ≠ .copied index new) :
    Fresh Durability.Sample.recordModel (calls key) s t :=
  fun _ _ index new _ phase => absurd phase (uncopied index new)

end Sample

/-- Two updates that take turns at every step. -/
theorem updates_serializable_parallel :
    Serializable Durability.Sample.recordModel (Sample.calls Sample.apart) Sample.undisturbed Sample.stored Sample.parallel ∧
      ∀ c ∈ Sample.parallel.log, c.Own Durability.Sample.recordModel (Sample.calls Sample.apart) := by
  apply updates_serializable
  apply Runs.step _ false _ (Moves.committed rfl rfl (by decide))
  · apply Runs.step _ true _ (Moves.committed rfl rfl (by decide))
    · apply Runs.step _ false (Sample.fresh_uncopied fun _ _ same => by cases same) (Moves.copied rfl rfl)
      apply Runs.step _ true (Sample.fresh_uncopied fun _ _ same => by cases same) (Moves.copied rfl rfl)
      apply Runs.step _ true (Sample.fresh_uncopied fun _ _ same => by cases same) (Moves.found rfl rfl rfl)
      exact Runs.step .start false (Sample.fresh_uncopied fun _ _ same => by cases same) (Moves.found rfl rfl rfl)
    · intro key f index new call phase
      cases call
      cases phase
      exact ⟨rfl, rfl⟩
  · intro key f index new call phase
    cases call
    cases phase
    exact ⟨rfl, rfl⟩

/-- **An update lost**: two calls that set one record after both have looked it up leave what no order of them leaves. -/
theorem updates_unserializable :
    Runs Durability.Sample.recordModel (Sample.calls Sample.shared) Sample.undisturbed Sample.stored (fun _ _ => True) Sample.crossed ∧
      ¬Serializable Durability.Sample.recordModel (Sample.calls Sample.shared) Sample.undisturbed Sample.stored Sample.crossed := by
  constructor
  · apply Runs.step _ true trivial (Moves.committed rfl rfl (by decide))
    apply Runs.step _ false trivial (Moves.committed rfl rfl (by decide))
    apply Runs.step _ true trivial (Moves.copied rfl rfl)
    apply Runs.step _ false trivial (Moves.copied rfl rfl)
    apply Runs.step _ true trivial (Moves.found rfl rfl rfl)
    exact Runs.step .start false trivial (Moves.found rfl rfl rfl)
  · rintro ⟨order, distinct, done, same, -⟩
    have both : order.Perm [false, true] := by
      apply (List.perm_ext_iff_of_nodup distinct (by decide)).mpr
      intro t
      rw [done t]
      exact iff_of_true (by cases t <;> rfl) (by cases t <;> decide)
    have orders : order = [true, false] ∨ order = [false, true] := by
      have mem := List.mem_permutations'.mpr both
      have all : [false, true].permutations' = [[false, true], [true, false]] := by decide
      rw [all] at mem
      simpa [or_comm] using mem
    have records := congrArg Store.records same
    rcases orders with rfl | rfl <;> exact absurd records (by decide)

end RmtPlatform.Core.Concurrency
