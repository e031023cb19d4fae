import RmtPlatform.Core.Records
import RmtPlatform.Process.Safety

/-! The durable stores, and the platform the core runs on.

A `DurableStore` keeps its records in memory and mirrors them on disk: `save` and
`update` write both in one step, while setting a field of a record the store handed
out changes the memory only (`mutate`) and is on disk after the next rewrite of the
file, or never. A restart reads the disk. `Platform` is what the core is given: the
registries as they are after import, the clock, and the library calls. -/
namespace RmtPlatform.Core

/-- Where a store keeps its records: a file rewritten whole, or a table. -/
inductive Backend where
  | json | sqlite
deriving DecidableEq

structure DurableStore (Record : Type) where
  backend : Backend
  records : List Record
  durable : List Record
deriving DecidableEq

/-- The list with its first element that meets `p` replaced. -/
def replaceFirst {α : Type} (p : α → Bool) (new : α) : List α → List α
  | [] => []
  | a :: rest => if p a then new :: rest else a :: replaceFirst p new rest

theorem mem_replaceFirst {α : Type} {p : α → Bool} {new a : α} {l : List α} (h : a ∈ replaceFirst p new l) :
    a = new ∨ a ∈ l := by
  induction l with
  | nil => exact .inr h
  | cons b rest ih =>
    unfold replaceFirst at h
    split at h
    · exact (List.mem_cons.mp h).imp_right (List.mem_cons_of_mem b)
    · rcases List.mem_cons.mp h with rfl | h
      · exact .inr List.mem_cons_self
      · exact (ih h).imp_right (List.mem_cons_of_mem b)

namespace DurableStore
variable {Record : Type}

def empty (backend : Backend) : DurableStore Record := ⟨backend, [], []⟩

/-- The first record with this key. -/
def get? (s : DurableStore Record) (key : Record → String) (k : String) : Option Record :=
  s.records.find? fun r => key r = k

def save (s : DurableStore Record) (r : Record) : DurableStore Record where
  backend := s.backend
  records := s.records ++ [r]
  durable := match s.backend with
    | .json => s.records ++ [r]
    | .sqlite => s.durable ++ [r]

/-- The first record with this key replaced, in memory only. -/
def mutate (s : DurableStore Record) (key : Record → String) (k : String) (f : Record → Record) :
    DurableStore Record :=
  match s.get? key k with
  | none => s
  | some old => { s with records := replaceFirst (fun r => key r = k) (f old) s.records }

/-- `update`: the first record with this key replaced; the table sets every row with it. -/
def update (s : DurableStore Record) (key : Record → String) (k : String) (f : Record → Record) :
    DurableStore Record :=
  match s.get? key k with
  | none => s
  | some old =>
    let records := replaceFirst (fun r => key r = k) (f old) s.records
    { s with
      records
      durable := match s.backend with
        | .json => records
        | .sqlite => s.durable.map fun r => if key r = k then f old else r }

theorem mem_mutate {s : DurableStore Record} {key : Record → String} {k : String} {f : Record → Record} {r : Record}
    (h : r ∈ (s.mutate key k f).records) : r ∈ s.records ∨ ∃ old ∈ s.records, r = f old := by
  unfold mutate at h
  split at h
  · exact .inl h
  · next old hold =>
    exact (mem_replaceFirst h).symm.imp_right fun h => ⟨old, List.mem_of_find?_eq_some hold, h⟩

/-- What a new process reads; `load` is what writing and reading a record makes of it. -/
def restart (s : DurableStore Record) (load : Record → Record) : DurableStore Record :=
  { s with records := s.durable.map load }

/-! Where every key is taken once, setting the first record with a key sets the one with it. -/

section
variable {s : DurableStore Record} {key : Record → String} {k : String} {f : Record → Record} {r : Record}

/-- No two records have one key. -/
def Unique (s : DurableStore Record) (key : Record → String) : Prop := (s.records.map key).Nodup

/-- The record with key `k` set by `f`. -/
def setKey (key : Record → String) (k : String) (f : Record → Record) (rows : List Record) : List Record :=
  rows.map fun r => if key r = k then f r else r

theorem setKey_keys (hf : ∀ r, key (f r) = key r) (rows : List Record) :
    (setKey key k f rows).map key = rows.map key := by
  unfold setKey
  rw [List.map_map]
  refine List.map_congr_left fun r _ => ?_
  simp only [Function.comp]
  split <;> simp [hf]

theorem mem_setKey {rows : List Record} : r ∈ setKey key k f rows ↔
    (∃ old ∈ rows, key old = k ∧ r = f old) ∨ (r ∈ rows ∧ key r ≠ k) := by
  unfold setKey
  rw [List.mem_map]
  constructor
  · rintro ⟨old, hold, rfl⟩
    by_cases hk : key old = k
    · exact .inl ⟨old, hold, hk, if_pos hk⟩
    · exact .inr ⟨by rwa [if_neg hk], by rwa [if_neg hk]⟩
  · rintro (⟨old, hold, hk, rfl⟩ | ⟨hr, hk⟩)
    · exact ⟨old, hold, if_pos hk⟩
    · exact ⟨r, hr, if_neg hk⟩

theorem replaceFirst_eq (rows : List Record) (unique : (rows.map key).Nodup) {old : Record} (hold : old ∈ rows)
    (hk : key old = k) : replaceFirst (fun r => key r = k) (f old) rows = setKey key k f rows := by
  induction rows with
  | nil => cases hold
  | cons a rest ih =>
    obtain ⟨new, unique⟩ := List.nodup_cons.mp unique
    have away : ∀ r ∈ rest, key r ≠ key a := fun r hr h => new (h ▸ List.mem_map_of_mem hr)
    by_cases ha : key a = k
    · -- The first record with the key is the only one.
      obtain rfl : old = a := by
        rcases List.mem_cons.mp hold with h | h
        · exact h
        · exact absurd (hk.trans ha.symm) (away old h)
      have rest_same : setKey key k f rest = rest := by
        refine List.map_congr_left (g := id) (fun r hr => if_neg ?_) |>.trans (List.map_id rest)
        exact fun h => away r hr (h.trans ha.symm)
      simp only [replaceFirst, ha, decide_true, if_true]
      rw [show setKey key k f (old :: rest) = f old :: setKey key k f rest by simp [setKey, ha], rest_same]
    · have hrest : old ∈ rest := (List.mem_cons.mp hold).resolve_left fun h => ha (h ▸ hk)
      simp only [replaceFirst, ha, decide_false]
      rw [show setKey key k f (a :: rest) = a :: setKey key k f rest by simp [setKey, ha]]
      simpa using ih unique hrest

theorem setKey_absent {rows : List Record} (h : ∀ r ∈ rows, key r ≠ k) : setKey key k f rows = rows :=
  (List.map_congr_left (g := id) fun r hr => if_neg (h r hr)).trans (List.map_id rows)

@[simp] theorem setKey_id (rows : List Record) : setKey key k id rows = rows := by simp [setKey]

theorem setKey_setKey (hf : ∀ r, key (f r) = key r) (g : Record → Record) (rows : List Record) :
    setKey key k g (setKey key k f rows) = setKey key k (g ∘ f) rows := by
  unfold setKey
  rw [List.map_map]
  refine List.map_congr_left fun r _ => ?_
  by_cases h : key r = k <;> simp [h, hf]

theorem mem_of_get? (h : s.get? key k = some r) : r ∈ s.records ∧ key r = k :=
  ⟨List.mem_of_find?_eq_some h, by simpa using List.find?_some h⟩

theorem get?_eq_none : s.get? key k = none ↔ ∀ r ∈ s.records, key r ≠ k := by
  simp [get?]

theorem Unique.get? (unique : s.Unique key) (hr : r ∈ s.records) (hk : key r = k) : s.get? key k = some r := by
  cases hg : s.get? key k with
  | none => exact absurd hk (get?_eq_none.mp hg r hr)
  | some r' =>
    obtain ⟨hr', hk'⟩ := mem_of_get? hg
    rw [List.inj_on_of_nodup_map unique hr' hr (hk'.trans hk.symm)]

theorem Unique.filter (unique : s.Unique key) (hr : r ∈ s.records) (hk : key r = k) :
    (s.records.filter fun r => key r = k) = [r] := by
  obtain ⟨before, after, split⟩ := List.append_of_mem hr
  rw [Unique, split, List.map_append, List.map_cons, List.nodup_append, List.nodup_cons] at unique
  obtain ⟨-, ⟨new, -⟩, apart⟩ := unique
  have none_before : (before.filter fun r => key r = k) = [] := List.filter_eq_nil_iff.mpr fun r' hr' e =>
    apart (key r') (List.mem_map_of_mem hr') (key r) List.mem_cons_self ((of_decide_eq_true e).trans hk.symm)
  have none_after : (after.filter fun r => key r = k) = [] := List.filter_eq_nil_iff.mpr fun r' hr' e =>
    new (((of_decide_eq_true e).trans hk.symm) ▸ List.mem_map_of_mem hr')
  rw [split, List.filter_append, List.filter_cons_of_pos (by simpa using hk), none_before, none_after, List.nil_append]

theorem mutate_records (unique : s.Unique key) : (s.mutate key k f).records = setKey key k f s.records := by
  unfold mutate
  split
  · next h => rw [setKey_absent (get?_eq_none.mp h)]
  · next old h =>
    obtain ⟨hold, hk⟩ := mem_of_get? h
    exact replaceFirst_eq s.records unique hold hk

theorem mutate_durable : (s.mutate key k f).durable = s.durable := by
  unfold mutate
  split <;> rfl

theorem update_records (unique : s.Unique key) : (s.update key k f).records = setKey key k f s.records := by
  unfold update
  split
  · next h => rw [setKey_absent (get?_eq_none.mp h)]
  · next old h =>
    obtain ⟨hold, hk⟩ := mem_of_get? h
    exact replaceFirst_eq s.records unique hold hk

theorem mem_update (unique : s.Unique key) : r ∈ (s.update key k f).records ↔
    (∃ old ∈ s.records, key old = k ∧ r = f old) ∨ (r ∈ s.records ∧ key r ≠ k) := by
  rw [update_records unique, mem_setKey]

theorem Unique.save (unique : s.Unique key) (new : ∀ r' ∈ s.records, key r' ≠ key r) : (s.save r).Unique key := by
  unfold Unique DurableStore.save at *
  rw [List.map_append, List.nodup_append]
  refine ⟨unique, List.nodup_singleton _, fun a ha b hb => ?_⟩
  obtain ⟨r', hr', rfl⟩ := List.mem_map.mp ha
  rw [List.mem_singleton.mp hb]
  exact new r' hr'

theorem Unique.update (unique : s.Unique key) (hf : ∀ r, key (f r) = key r) : (s.update key k f).Unique key := by
  rw [Unique, update_records unique, setKey_keys hf]
  exact unique

theorem Unique.mutate (unique : s.Unique key) (hf : ∀ r, key (f r) = key r) : (s.mutate key k f).Unique key := by
  rw [Unique, mutate_records unique, setKey_keys hf]
  exact unique

/-- Every record on disk is behind the one in memory by `R`. -/
def Trails (R : Record → Record → Prop) (s : DurableStore Record) : Prop := List.Forall₂ R s.durable s.records

section
variable {R : Record → Record → Prop}

theorem trails_refl (hrefl : ∀ r, R r r) (rows : List Record) : List.Forall₂ R rows rows :=
  List.forall₂_same.mpr fun r _ => hrefl r

theorem mem_forall₂ {ds rs : List Record} (h : List.Forall₂ R ds rs) :
    List.Forall₂ (fun d r => R d r ∧ r ∈ rs) ds rs := by
  induction h with
  | nil => exact .nil
  | cons hr _ ih =>
    exact .cons ⟨hr, List.mem_cons_self⟩ (ih.imp fun _ _ ⟨hr, mem⟩ => ⟨hr, List.mem_cons_of_mem _ mem⟩)

theorem Trails.save (h : s.Trails R) (hrefl : ∀ r, R r r) (r : Record) : (s.save r).Trails R := by
  unfold Trails DurableStore.save at *
  cases s.backend with
  | json => exact trails_refl hrefl _
  | sqlite => exact List.rel_append h (.cons (hrefl r) .nil)

theorem Trails.mutate (h : s.Trails R) (unique : s.Unique key)
    (hf : ∀ d, ∀ r ∈ s.records, R d r → key r = k → R d (f r)) : (s.mutate key k f).Trails R := by
  unfold Trails at *
  rw [mutate_durable, mutate_records unique, setKey, List.forall₂_map_right_iff]
  refine (mem_forall₂ h).imp fun d r ⟨hr, mem⟩ => ?_
  split
  · exact hf d r mem hr ‹_›
  · exact hr

theorem Trails.update (h : s.Trails R) (unique : s.Unique key) (hrefl : ∀ r, R r r)
    (keys : ∀ d r, R d r → key d = key r) : (s.update key k f).Trails R := by
  unfold Trails at *
  rw [update_records unique]
  unfold DurableStore.update
  split
  · next none => rwa [setKey_absent (get?_eq_none.mp none)]
  · next old found =>
    obtain ⟨mem, hk⟩ := mem_of_get? found
    rw [replaceFirst_eq s.records unique mem hk]
    cases s.backend with
    | json => exact trails_refl hrefl _
    | sqlite =>
      show List.Forall₂ R (s.durable.map _) (setKey key k f s.records)
      rw [setKey, List.forall₂_map_left_iff, List.forall₂_map_right_iff]
      refine (mem_forall₂ h).imp fun d r ⟨hr, mem'⟩ => ?_
      rw [keys d r hr]
      split
      · next hr' =>
        rw [List.inj_on_of_nodup_map unique mem' mem (hr'.trans hk.symm)]
        exact hrefl _
      · exact hr

theorem Trails.restart {load : Record → Record} (hload : ∀ r, R r (load r)) : (s.restart load).Trails R := by
  unfold Trails DurableStore.restart
  rw [List.forall₂_map_right_iff]
  exact List.forall₂_same.mpr fun r _ => hload r

theorem Trails.keys (h : s.Trails R) (keys : ∀ d r, R d r → key d = key r) :
    s.durable.map key = s.records.map key := by
  unfold Trails at h
  generalize s.durable = ds, s.records = rs at h
  induction h with
  | nil => rfl
  | cons hr _ ih => rw [List.map_cons, List.map_cons, keys _ _ hr, ih]

theorem Trails.exists_of_mem {d : Record} (h : s.Trails R) (hd : d ∈ s.durable) : ∃ r ∈ s.records, R d r := by
  unfold Trails at h
  generalize s.durable = ds, s.records = rs at h hd
  induction h with
  | nil => cases hd
  | @cons d' r ds rs hr _ ih =>
    rcases List.mem_cons.mp hd with rfl | hd
    · exact ⟨r, List.mem_cons_self, hr⟩
    · obtain ⟨r', mem, hr'⟩ := ih hd
      exact ⟨r', List.mem_cons_of_mem r mem, hr'⟩

/-- The disk says what the memory says. -/
abbrev Mirrored (s : DurableStore Record) : Prop := s.Trails (· = ·)

theorem Mirrored.restart (h : s.Mirrored) : (s.restart id).records = s.records :=
  (List.map_id s.durable).trans (by rwa [Mirrored, Trails, List.forall₂_eq_eq_eq] at h)

end

end

end DurableStore

/-! ### The state -/

/-- The stores of the core, the world its adapters act on, and how many identifiers
and clock readings have been drawn. -/
structure State (W : Type) where
  holds : DurableStore ApprovalHold
  records : DurableStore ApprovalRecord
  authorizations : DurableStore ExecutionAuthorization
  audits : DurableStore ExecutionAuditRecord
  traces : DurableStore ExecutionTrace
  verifications : DurableStore VerificationResult
  world : W
  draws : Nat
  ticks : Nat

namespace State
variable {W : Type}

/-- Nothing stored yet. -/
def initial (backend : Backend) (world : W) : State W where
  holds := .empty backend
  records := .empty backend
  authorizations := .empty backend
  audits := .empty backend
  traces := .empty backend
  verifications := .empty backend
  world
  draws := 0
  ticks := 0

def worldPart : Component (State W) W where
  get := (·.world)
  set w s := { s with world := w }
  get_set _ _ := rfl
  set_get _ := rfl
  set_set _ _ _ := rfl

def hold? (s : State W) (approvalId : String) : Option ApprovalHold := s.holds.get? (·.approvalId) approvalId

def record? (s : State W) (approvalId : String) : Option ApprovalRecord := s.records.get? (·.approvalId) approvalId

def authorization? (s : State W) (authorizationId : String) : Option ExecutionAuthorization :=
  s.authorizations.get? (·.authorizationId) authorizationId

end State

/-! ### The platform -/

/-- What an observer of a run sees. -/
inductive Event (L : Type) where
  | world (label : L)
  /-- `resolve_assessment` returns. -/
  | assessed (action : ActionRequest) (adapterName : String) (assessment : GovernanceAssessment)
  /-- `evaluate_approval` lets an assessed action proceed. -/
  | autoApproved (action : ActionRequest) (adapterName : String) (assessment : GovernanceAssessment)
  /-- `approve_held_action` approves, rejects, or finds expired. -/
  | holdApproved (hold : ApprovalHold)
  | holdRejected (approvalId : String)
  | holdExpired (approvalId : String)
  /-- The engine calls `adapter.execute`; `now` is its reading of the clock. -/
  | adapterExecute (now : Option Int) (authorization : ExecutionAuthorization) (request : ExecutionRequest)
      (adapterName : String)

/-- What an evaluator returns, before anything is known of it. -/
inductive PolicyAnswer where
  | result (allowed reason requiresApproval evidenceReferences : PyVal)
  | malformed

inductive RiskAnswer where
  | result (actionId component actionType expectedImpact riskLevel rollbackAvailable uncertainty
      recoverySemantics evidenceReferences : PyVal)
  | malformed

/-- A registration; `register` refuses one without identities, operations or adapters. -/
structure AssessmentRegistration (W L : Type) where
  policyId : String
  policyVersion : String
  policy : ActionRequest → Script W L Raised PolicyAnswer
  riskId : String
  riskVersion : String
  risk : ActionRequest → Script W L Raised RiskAnswer
  operations : List String
  adapters : List String
  identified : policyId ≠ "" ∧ policyVersion ≠ "" ∧ riskId ≠ "" ∧ riskVersion ≠ ""
  nonempty : operations ≠ [] ∧ adapters ≠ []

structure ExecutionAdapter (W L : Type) where
  supports : ExecutionRequest → Script W L Raised Bool
  execute : ExecutionRequest → Script W L Raised ExecutionResult

structure RegisteredModule where
  name : String
  container : Option String

/-- What is registered, which a new process may find changed. -/
structure Registry (W L : Type) where
  registration? : String → Option (AssessmentRegistration W L)
  adapter? : String → Option (ExecutionAdapter W L)
  getModules : Script W L Raised (List RegisteredModule)

structure Platform (W L : Type) extends Registry W L where
  rt : Runtime
  /-- A digest is never empty. -/
  digest_ne : ∀ s, rt.sha256 s ≠ ""
  /-- The `n`-th identifier drawn, unlike any other. -/
  uuid4 : Nat → Uuid
  uuid4_fresh : ∀ m n, (uuid4 m).text = (uuid4 n).text → m = n
  /-- The `n`-th reading of the clock. -/
  clock : Nat → Int
  /-- What storing a parameter dictionary as JSON and loading it makes of it. -/
  reload : Dict → Dict

/-- The platform with other things registered. -/
def Platform.registering {W L : Type} (P : Platform W L) (registry : Registry W L) : Platform W L :=
  { P with toRegistry := registry }

/-- A call of the core. -/
abbrev Governed (W L α : Type) := Script (State W) (Event L) Raised α

section
variable {W L α : Type} (P : Platform W L)

/-- `str(uuid4())`. -/
def uuid4 : Governed W L String := Script.step none fun s => .ok ((P.uuid4 s.draws).text, { s with draws := s.draws + 1 })

/-- `datetime.now(timezone.utc)`. -/
def now : Governed W L Int := Script.step none fun s => .ok (P.clock s.ticks, { s with ticks := s.ticks + 1 })

/-- What an evaluator, an adapter or an observer does, as a part of a call. -/
def outside (x : Script W L Raised α) : Governed W L α := Program.within State.worldPart Event.world x

def saveHold (h : ApprovalHold) : Governed W L Unit := Script.modify none fun s => { s with holds := s.holds.save h }

def saveRecord (r : ApprovalRecord) : Governed W L Unit :=
  Script.modify none fun s => { s with records := s.records.save r }

def saveAuthorization (a : ExecutionAuthorization) : Governed W L Unit :=
  Script.modify none fun s => { s with authorizations := s.authorizations.save a }

def saveAudit (a : ExecutionAuditRecord) : Governed W L Unit :=
  Script.modify none fun s => { s with audits := s.audits.save a }

def saveTrace (t : ExecutionTrace) : Governed W L Unit :=
  Script.modify none fun s => { s with traces := s.traces.save t }

def saveVerification (v : VerificationResult) : Governed W L Unit :=
  Script.modify none fun s => { s with verifications := s.verifications.save v }

/-- A field of a hold set on the object the store handed out. -/
def setHold (label : Option (Event L)) (approvalId : String) (f : ApprovalHold → ApprovalHold) : Governed W L Unit :=
  Script.modify label fun s => { s with holds := s.holds.mutate (·.approvalId) approvalId f }

def updateHold (approvalId : String) (f : ApprovalHold → ApprovalHold) : Governed W L Unit :=
  Script.modify none fun s => { s with holds := s.holds.update (·.approvalId) approvalId f }

def updateRecord (label : Option (Event L)) (approvalId : String) (f : ApprovalRecord → ApprovalRecord) :
    Governed W L Unit :=
  Script.modify label fun s => { s with records := s.records.update (·.approvalId) approvalId f }

end

end RmtPlatform.Core
