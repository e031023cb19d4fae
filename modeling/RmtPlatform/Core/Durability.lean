import Mathlib.Data.List.Induction
import RmtPlatform.Core.Stores
import RmtPlatform.Process.Transaction

/-! What a durable store writes, and what a fresh one reads.

`Core.Stores` keeps a store as two lists. Here its medium is what it is in the
source: a JSON file that is written next to itself and moved into place, a table
whose rows are found by their key column, or nothing. Every file operation and
every SQL statement of a write may raise (`Faults`). Memory is changed first and
stays changed, so a write that raises leaves the two apart
(`memory_agrees_iff`); and one `UPDATE` sets every row with the key, so the table
may say more than the update did (`backends_agree_iff`). -/
namespace RmtPlatform.Core.Durability

open Transaction (Faults Clean attempt bracket mark statements)

inductive WriteError where
  | os (message : String)
  | sqlite (message : String)
  | index
deriving DecidableEq

/-- A record class: its JSON form, what is made of one that is read, and `_key_of`. -/
structure RecordModel (Record Payload : Type) where
  dump : Record → Payload
  validate : Payload → Record
  keyOf : Record → Option String

/-- The file, and the one written next to it, which has no content while it is incomplete. -/
structure Files (Payload : Type) where
  file : Option (List Payload)
  tmp : Option (Option (List Payload))

structure Row (Payload : Type) where
  key : Option String
  payload : Payload

/-- No path, a `.json` path, or a table in a `.db` path with its rows in the order of their ids. -/
inductive Medium (Payload : Type) where
  | memory
  | json (files : Files Payload)
  | sqlite (rows : List (Row Payload))

structure Store (Record Payload : Type) where
  records : List Record
  medium : Medium Payload

section
variable {Record Payload : Type} (m : RecordModel Record Payload)

/-! ### The writes -/

/-- `_persist`: the whole list, written to the temporary file and moved into place. -/
def persist (payloads : List Payload) : Script (Files Payload) Empty WriteError Unit := do
  Script.modify none fun f => { f with tmp := some none }
  Script.modify none fun f => { f with tmp := some (some payloads) }
  -- `flush`, `fsync` and `close`
  mark
  mark
  mark
  Script.modify none fun f => ⟨f.tmp.join, none⟩

def row (r : Record) : Row Payload := ⟨m.keyOf r, m.dump r⟩

abbrev Sql (Payload α : Type) := Script (List (Row Payload)) Empty WriteError α

def sqlInsert (r : Record) : Sql Payload Unit := Script.modify none fun rows => rows ++ [row m r]

/-- `executemany`. -/
def sqlInsertAll : List Record → Sql Payload Unit
  | [] => pure ()
  | r :: rest => do
    sqlInsert m r
    sqlInsertAll rest

def sqlReplaceAll (records : List Record) : Sql Payload Unit := do
  Script.modify none fun _ => []
  sqlInsertAll m records

/-- `UPDATE .. WHERE key = ?`; no key equals `NULL`. -/
def sqlUpdateByKey (key : Option String) (r : Record) : Sql Payload Unit :=
  Script.modify none fun rows => rows.map fun x => if key ≠ none ∧ x.key = key then row m r else x

/-- The write that follows a change in memory. -/
def write (faults : Faults WriteError) (records : List Record) (sql : Sql Payload Unit) :
    Medium Payload → Except WriteError Unit × Medium Payload
  | .memory => (.ok (), .memory)
  | .json files =>
    let (result, files) := attempt faults 0 (persist (records.map m.dump)) files
    (result, .json files)
  | .sqlite rows =>
    let (result, rows) := Transaction.run faults id sql rows
    (result, .sqlite rows)

/-- Memory first, then the medium. -/
def change (faults : Faults WriteError) (records : List Record) (sql : Sql Payload Unit) (s : Store Record Payload) :
    Except WriteError Unit × Store Record Payload :=
  let (result, medium) := write m faults records sql s.medium
  (result, ⟨records, medium⟩)

def save (faults : Faults WriteError) (r : Record) (s : Store Record Payload) :
    Except WriteError Unit × Store Record Payload :=
  change m faults (s.records ++ [r]) (sqlInsert m r) s

/-- `_commit_update`. -/
def commitUpdate (faults : Faults WriteError) (index : Nat) (new : Record) (s : Store Record Payload) :
    Except WriteError Unit × Store Record Payload :=
  match s.records[index]? with
  | none => (.error .index, s)
  | some old => change m faults (s.records.set index new) (sqlUpdateByKey m (m.keyOf old) new) s

/-- `_replace_records`. -/
def replaceRecords (faults : Faults WriteError) (records : List Record) (s : Store Record Payload) :
    Except WriteError Unit × Store Record Payload :=
  change m faults records (sqlReplaceAll m records) s

/-- `update` of the approval stores: the first record with the key, its fields set. -/
def update (faults : Faults WriteError) (key : String) (f : Record → Record) (s : Store Record Payload) :
    Except WriteError Unit × Store Record Payload :=
  match s.records.findIdx? fun r => m.keyOf r = some key with
  | none => (.ok (), s)
  | some index => match s.records[index]? with
    | none => (.ok (), s)
    | some old => commitUpdate m faults index (f old) s

/-! ### Reading -/

def getAll (s : Store Record Payload) : List Record := s.records

/-- `_load`; a temporary file left behind is not read. -/
def load : Medium Payload → List Record
  | .memory => []
  | .json files => (files.file.getD []).map m.validate
  | .sqlite rows => rows.map fun x => m.validate x.payload

/-- A store constructed on a path. -/
def opened (medium : Medium Payload) : Store Record Payload where
  records := load m medium
  medium := match medium with
    | .json files => .json { files with tmp := none }
    | other => other

/-- What `get_all` shows is what a fresh store on the path loads. -/
def Agrees (s : Store Record Payload) : Prop := getAll s = load m s.medium

/-- The key column holds the records' keys. -/
def Keyed : Medium Payload → Prop
  | .sqlite rows => ∀ x ∈ rows, x.key = m.keyOf (m.validate x.payload)
  | _ => True

/-- The store has a path. -/
def OnDisk : Medium Payload → Prop
  | .memory => False
  | _ => True

/-- Writing the record and reading it gives the record. -/
def ReadsBack (r : Record) : Prop := m.validate (m.dump r) = r

/-! ### What a write leaves -/

/-- No file operation and no statement of the write raises. -/
def Undisturbed (faults : Faults WriteError) (records : List Record) (sql : Sql Payload Unit) : Medium Payload → Prop
  | .memory => True
  | .json files => Clean faults (persist (records.map m.dump)) files
  | .sqlite rows => Clean faults (bracket sql) rows

variable {m} {faults : Faults WriteError} {records : List Record} {body : Sql Payload Unit} {files : Files Payload}
  {rows : List (Row Payload)} {s : Store Record Payload}

theorem persist_exec (payloads : List Payload) : (persist payloads).exec files = (.ok (), ⟨some payloads, none⟩) := rfl

/-- A refused step of the persisting leaves the file. -/
theorem persist_file {payloads : List Payload} {e : WriteError} {files' : Files Payload}
    (h : attempt faults 0 (persist payloads) files = (.error e, files')) : files'.file = files.file := by
  unfold persist mark Script.modify at h
  simp only [bind, ExceptT.bind, ExceptT.mk, Program.bind, ExceptT.bindCont, attempt] at h
  repeat' split at h
  all_goals first
    | cases h; rfl
    | cases h

theorem sqlInsert_exec (r : Record) : (sqlInsert m r).exec rows = (.ok (), rows ++ [row m r]) := rfl

theorem sqlUpdateByKey_exec (key : Option String) (r : Record) : (sqlUpdateByKey m key r).exec rows =
    (.ok (), rows.map fun x => if key ≠ none ∧ x.key = key then row m r else x) :=
  rfl

theorem sqlInsertAll_exec (records : List Record) :
    (sqlInsertAll m records).exec rows = (.ok (), rows ++ records.map (row m)) := by
  induction records generalizing rows with
  | nil => simp [sqlInsertAll]
  | cons r rest ih => simp [sqlInsertAll, sqlInsert, Script.exec_bind, ih]

theorem sqlReplaceAll_exec (records : List Record) :
    (sqlReplaceAll m records).exec rows = (.ok (), records.map (row m)) := by
  simp [sqlReplaceAll, Script.exec_bind, sqlInsertAll_exec]

theorem write_json (clean : Undisturbed m faults records body (.json files)) :
    write m faults records body (.json files) = (.ok (), .json ⟨some (records.map m.dump), none⟩) := by
  have h : attempt faults 0 (persist (records.map m.dump)) files = _ :=
    Transaction.attempt_clean fun k hk => by rw [Nat.zero_add]; exact clean k hk
  rw [persist_exec] at h
  simp only [write, h]

theorem write_sqlite {rows' : List (Row Payload)} (clean : Undisturbed m faults records body (.sqlite rows))
    (h : body.exec rows = (.ok (), rows')) : write m faults records body (.sqlite rows) = (.ok (), .sqlite rows') := by
  simp only [write, Transaction.run_clean clean h]

theorem change_json (clean : Undisturbed m faults records body (.json files)) (old : List Record) :
    change m faults records body ⟨old, .json files⟩ =
      (.ok (), ⟨records, .json ⟨some (records.map m.dump), none⟩⟩) := by
  rw [change, write_json clean]

theorem change_sqlite {rows' : List (Row Payload)} (clean : Undisturbed m faults records body (.sqlite rows))
    (h : body.exec rows = (.ok (), rows')) (old : List Record) :
    change m faults records body ⟨old, .sqlite rows⟩ = (.ok (), ⟨records, .sqlite rows'⟩) := by
  rw [change, write_sqlite clean h]

/-- A write that is disturbed raises, and a fresh store loads what it would have loaded. -/
theorem write_disturbed {medium : Medium Payload} (h : ¬Undisturbed m faults records body medium) :
    ∃ e medium', write m faults records body medium = (.error e, medium') ∧ load m medium' = load m medium ∧
      (Keyed m medium → Keyed m medium') ∧ (OnDisk medium → OnDisk medium') := by
  cases medium with
  | memory => exact absurd trivial h
  | json files =>
    obtain ⟨e, files', hraise⟩ : ∃ e files', attempt faults 0 (persist (records.map m.dump)) files = (.error e, files') := by
      apply Transaction.attempt_refused
      simpa only [Nat.zero_add, Undisturbed, Clean] using h
    refine ⟨e, .json files', by simp only [write, hraise], ?_, fun _ => trivial, fun _ => trivial⟩
    rw [load, load, persist_file hraise]
  | sqlite rows =>
    obtain ⟨e, hraise⟩ : ∃ e, Transaction.run faults id body rows = (.error e, rows) := Transaction.run_unclean h
    exact ⟨e, .sqlite rows, by simp only [write, hraise], rfl, fun keyed => keyed, fun _ => trivial⟩

/-! ### Operations -/

inductive Op (Record : Type) where
  | save (r : Record)
  | commitUpdate (index : Nat) (new : Record)
  | replaceRecords (records : List Record)

namespace Op

def apply (m : RecordModel Record Payload) (faults : Faults WriteError) :
    Op Record → Store Record Payload → Except WriteError Unit × Store Record Payload
  | save r => Durability.save m faults r
  | commitUpdate index new => Durability.commitUpdate m faults index new
  | replaceRecords records => Durability.replaceRecords m faults records

/-- The index is one of the list; `update` finds no other. -/
def Valid (records : List Record) : Op Record → Prop
  | commitUpdate index _ => index < records.length
  | _ => True

/-- What the operation makes of the list in memory. -/
def after (records : List Record) : Op Record → List Record
  | save r => records ++ [r]
  | commitUpdate index new => records.set index new
  | replaceRecords new => new

/-- The statements it runs on a table. -/
def sql (m : RecordModel Record Payload) (records : List Record) : Op Record → Sql Payload Unit
  | save r => sqlInsert m r
  | commitUpdate index new => sqlUpdateByKey m (records[index]?.bind m.keyOf) new
  | replaceRecords new => sqlReplaceAll m new

/-- The table will say what memory says. An update reaches every row with the key it finds. -/
def KeepsRows (m : RecordModel Record Payload) (records : List Record) : Op Record → Prop
  | save r => ReadsBack m r
  | replaceRecords new => ∀ r ∈ new, ReadsBack m r
  | commitUpdate index new => ∀ old, records[index]? = some old → match m.keyOf old with
    | none => new = old
    | some key => ReadsBack m new ∧ ∀ j r, records[j]? = some r → j ≠ index → m.keyOf r = some key → r = new

/-- Either the write goes through and everything it writes reads back, or there was nothing to write. -/
def Keeps (m : RecordModel Record Payload) (faults : Faults WriteError) (s : Store Record Payload) (op : Op Record) :
    Prop :=
  op.Valid s.records →
    (¬Undisturbed m faults (op.after s.records) (op.sql m s.records) s.medium → op.after s.records = s.records) ∧
    (Undisturbed m faults (op.after s.records) (op.sql m s.records) s.medium → match s.medium with
      | .memory => True
      | .json _ => ∀ r ∈ op.after s.records, ReadsBack m r
      | .sqlite _ => op.KeepsRows m s.records)

end Op

theorem apply_eq {op : Op Record} (valid : op.Valid s.records) :
    op.apply m faults s = change m faults (op.after s.records) (op.sql m s.records) s := by
  cases op with
  | save r => rfl
  | replaceRecords records => rfl
  | commitUpdate index new =>
    obtain ⟨old, found⟩ : ∃ old, s.records[index]? = some old := ⟨_, List.getElem?_eq_getElem valid⟩
    simp only [Op.apply, commitUpdate, Op.sql, Op.after, found, Option.bind_some]

/-- A list with one element set is an image of the list. -/
theorem map_eq_set {g : Record → Record} {index : Nat} {new old : Record} (found : records[index]? = some old) :
    records.map g = records.set index new ↔
      g old = new ∧ ∀ (j : Nat) r, records[j]? = some r → j ≠ index → g r = r := by
  have bound : index < records.length := (List.getElem?_eq_some_iff.mp found).1
  constructor
  · intro h
    have at_j : ∀ j : Nat, (records.map g)[j]? = (records.set index new)[j]? := fun j => by rw [h]
    constructor
    · have here := at_j index
      rw [List.getElem?_map, found, List.getElem?_set_self bound] at here
      exact Option.some.inj here
    · intro j r hr other
      have there := at_j j
      rw [List.getElem?_map, hr, List.getElem?_set_ne other.symm, hr] at there
      exact Option.some.inj there
  · rintro ⟨here, others⟩
    apply List.ext_getElem?
    intro j
    by_cases same : j = index
    · subst same
      rw [List.getElem?_map, found, List.getElem?_set_self bound, Option.map_some, here]
    · rw [List.getElem?_map, List.getElem?_set_ne (Ne.symm same)]
      cases hr : records[j]? with
      | none => rfl
      | some r => rw [Option.map_some, others j r hr same]

theorem map_reads_back {g : Record → Record} : records = records.map g ↔ ∀ r ∈ records, g r = r := by
  constructor
  · intro same r hr
    apply List.map_inj_left.mp _ r hr
    rw [← same, List.map_id']
  · intro reads
    rw [List.map_congr_left reads, List.map_id']

/-- What the table holds after an undisturbed operation. -/
theorem sql_agrees {op : Op Record} (valid : op.Valid records)
    (agree : records = rows.map fun x => m.validate x.payload) (keyed : Keyed m (.sqlite rows)) :
    ∃ rows', (op.sql m records).exec rows = (.ok (), rows') ∧
      (op.after records = load m (.sqlite rows') ↔ op.KeepsRows m records) ∧
      (op.KeepsRows m records → Keyed m (.sqlite rows')) := by
  cases op with
  | save r =>
    refine ⟨rows ++ [row m r], rfl, ?_, fun reads => ?_⟩
    · simp [Op.after, load, Op.KeepsRows, ReadsBack, row, ← agree, eq_comm]
    · intro x hx
      rcases List.mem_append.mp hx with hx | hx
      · exact keyed x hx
      · rw [List.mem_singleton.mp hx]
        exact congrArg m.keyOf (Eq.symm reads)
  | replaceRecords new =>
    refine ⟨new.map (row m), sqlReplaceAll_exec new, ?_, fun reads => ?_⟩
    · rw [Op.after, load, List.map_map]
      exact map_reads_back
    · intro x hx
      obtain ⟨r, hr, rfl⟩ := List.mem_map.mp hx
      exact congrArg m.keyOf (reads r hr).symm
  | commitUpdate index new =>
    obtain ⟨old, found⟩ : ∃ old, records[index]? = some old := ⟨_, List.getElem?_eq_getElem valid⟩
    -- What the statement makes of a row, seen through the records.
    let g := fun r => if m.keyOf old ≠ none ∧ m.keyOf r = m.keyOf old then m.validate (m.dump new) else r
    refine ⟨_, rfl, ?_, fun keeps => ?_⟩
    · have image : load m (.sqlite (rows.map fun x =>
          if m.keyOf old ≠ none ∧ x.key = m.keyOf old then row m new else x)) = records.map g := by
        rw [agree, load, List.map_map, List.map_map]
        apply List.map_congr_left
        intro x hx
        simp only [Function.comp, g, keyed x hx]
        split <;> rfl
      rw [show (records[index]?.bind m.keyOf) = m.keyOf old by rw [found]; rfl]
      rw [Op.after, image, eq_comm, map_eq_set found]
      simp only [Op.KeepsRows, found, Option.some.injEq, forall_eq', g]
      cases m.keyOf old with
      | none => simp [eq_comm]
      | some key =>
        simp only [ne_eq, reduceCtorEq, not_false_eq_true, true_and, if_true]
        apply and_congr_right
        intro reads
        apply forall_congr'
        intro j
        apply forall_congr'
        intro r
        apply imp_congr_right
        intro _
        apply imp_congr_right
        intro _
        by_cases same : m.keyOf r = some key
        · rw [if_pos same, reads]
          exact ⟨fun h _ => h.symm, fun h => (h same).symm⟩
        · simp [same]
    · intro x hx
      obtain ⟨y, hy, rfl⟩ := List.mem_map.mp hx
      simp only [Op.KeepsRows, found, Option.some.injEq, forall_eq', Option.bind_some] at keeps ⊢
      split
      · next reached =>
        cases hkey : m.keyOf old with
        | none => exact absurd hkey reached.1
        | some key =>
          rw [hkey] at keeps
          exact congrArg m.keyOf (Eq.symm keeps.1)
      · exact keyed y hy

/-! ### A write that fails -/

/-- Whether it returned or raised, memory and medium agree; where it raised, nothing shows. -/
def Op.Atomic (m : RecordModel Record Payload) (faults : Faults WriteError) (s : Store Record Payload)
    (op : Op Record) : Prop :=
  Agrees m (op.apply m faults s).2 ∧
    ∀ e, (op.apply m faults s).1 = .error e → getAll (op.apply m faults s).2 = getAll s

/-- An index that is not one of the list raises before anything is changed. -/
theorem apply_invalid {op : Op Record} (invalid : ¬op.Valid s.records) :
    op.apply m faults s = (.error .index, s) := by
  cases op with
  | save r => exact absurd trivial invalid
  | replaceRecords records => exact absurd trivial invalid
  | commitUpdate index new =>
    have none_there : s.records[index]? = none := List.getElem?_eq_none (Nat.le_of_not_lt invalid)
    simp only [Op.apply, commitUpdate, none_there]

/-- What a disturbed operation leaves. -/
theorem apply_disturbed {op : Op Record} (valid : op.Valid s.records)
    (h : ¬Undisturbed m faults (op.after s.records) (op.sql m s.records) s.medium) :
    ∃ e medium', op.apply m faults s = (.error e, ⟨op.after s.records, medium'⟩) ∧
      load m medium' = load m s.medium ∧ (Keyed m s.medium → Keyed m medium') ∧ (OnDisk s.medium → OnDisk medium') := by
  obtain ⟨e, medium', hwrite, same, keyed, disk⟩ := write_disturbed h
  exact ⟨e, medium', by rw [apply_eq valid, change, hwrite], same, keyed, disk⟩

/-- What an undisturbed one leaves. -/
theorem apply_undisturbed {op : Op Record} (agree : Agrees m s) (keyed : Keyed m s.medium) (disk : OnDisk s.medium)
    (valid : op.Valid s.records)
    (h : Undisturbed m faults (op.after s.records) (op.sql m s.records) s.medium) :
    ∃ medium', op.apply m faults s = (.ok (), ⟨op.after s.records, medium'⟩) ∧ OnDisk medium' ∧
      (op.after s.records = load m medium' ↔ match s.medium with
        | .memory => True
        | .json _ => ∀ r ∈ op.after s.records, ReadsBack m r
        | .sqlite _ => op.KeepsRows m s.records) ∧
      (op.after s.records = load m medium' → Keyed m medium') := by
  obtain ⟨records, medium⟩ := s
  cases medium with
  | memory => exact absurd disk id
  | json files =>
    refine ⟨.json ⟨some ((op.after records).map m.dump), none⟩, ?_, trivial, ?_, fun _ => trivial⟩
    · rw [apply_eq valid, change_json h]
    · rw [load, Option.getD_some, List.map_map]
      exact map_reads_back
  | sqlite rows =>
    obtain ⟨rows', hexec, same, keyed'⟩ := sql_agrees valid agree keyed
    refine ⟨.sqlite rows', ?_, trivial, same, fun h => keyed' (same.mp h)⟩
    rw [apply_eq valid, change_sqlite h hexec]

/-- **An operation is atomic exactly when its write goes through** and what it writes
reads back, or when it had nothing to write. -/
theorem atomic_iff (agree : Agrees m s) (keyed : Keyed m s.medium) (disk : OnDisk s.medium) (op : Op Record) :
    op.Atomic m faults s ↔ op.Keeps m faults s := by
  by_cases valid : op.Valid s.records
  · by_cases clean : Undisturbed m faults (op.after s.records) (op.sql m s.records) s.medium
    · obtain ⟨medium', happly, -, same, -⟩ := apply_undisturbed agree keyed disk valid clean
      simp only [Op.Atomic, happly, Op.Keeps, valid, clean, not_true_eq_false, false_imp_iff, true_imp_iff,
        reduceCtorEq, implies_true, and_true, true_and]
      exact same
    · obtain ⟨e, medium', happly, same, -⟩ := apply_disturbed valid clean
      simp only [Op.Atomic, happly, Op.Keeps, valid, clean, not_false_eq_true, false_imp_iff, true_imp_iff, and_true]
      unfold Agrees getAll at *
      rw [same, ← agree]
      exact ⟨fun h => h.1, fun h => ⟨h, fun _ _ => h⟩⟩
  · simp only [Op.Atomic, apply_invalid valid, Op.Keeps, valid, false_imp_iff, iff_true, implies_true, and_true]
    exact agree

/-- One operation, or a new process on the same path. -/
inductive Step (m : RecordModel Record Payload) (s : Store Record Payload) : Store Record Payload → Prop where
  | op (faults : Faults WriteError) (op : Op Record) (keeps : op.Keeps m faults s) : Step m s (op.apply m faults s).2
  | reopened : Step m s (opened m s.medium)

abbrev Run (m : RecordModel Record Payload) (medium : Medium Payload) :=
  Relation.ReflTransGen (Step m) (opened m medium)

theorem opened_sound {medium : Medium Payload} (keyed : Keyed m medium) (disk : OnDisk medium) :
    Agrees m (opened m medium) ∧ Keyed m (opened m medium).medium ∧ OnDisk (opened m medium).medium := by
  cases medium with
  | memory => exact absurd disk id
  | json files => exact ⟨rfl, trivial, trivial⟩
  | sqlite rows => exact ⟨rfl, keyed, trivial⟩

theorem step_sound {s' : Store Record Payload} (h : Step m s s') (agree : Agrees m s) (keyed : Keyed m s.medium)
    (disk : OnDisk s.medium) : Agrees m s' ∧ Keyed m s'.medium ∧ OnDisk s'.medium := by
  cases h with
  | reopened => exact opened_sound keyed disk
  | op faults op keeps =>
    have atomic := (atomic_iff agree keyed disk op).mpr keeps
    refine ⟨atomic.1, ?_⟩
    by_cases valid : op.Valid s.records
    · by_cases clean : Undisturbed m faults (op.after s.records) (op.sql m s.records) s.medium
      · obtain ⟨medium', happly, disk', -, keyed'⟩ := apply_undisturbed agree keyed disk valid clean
        have after := atomic.1
        rw [happly] at after ⊢
        exact ⟨keyed' after, disk'⟩
      · obtain ⟨e, medium', happly, -, keyed', disk'⟩ := apply_disturbed valid clean
        rw [happly]
        exact ⟨keyed' keyed, disk' disk⟩
    · rw [apply_invalid valid]
      exact ⟨keyed, disk⟩

theorem run_sound {medium : Medium Payload} (keyed : Keyed m medium) (disk : OnDisk medium)
    (run : Run m medium s) : Agrees m s ∧ Keyed m s.medium ∧ OnDisk s.medium := by
  induction run with
  | refl => exact opened_sound keyed disk
  | tail _ step ih => exact step_sound step ih.1 ih.2.1 ih.2.2

/-- **Memory and disk agree** throughout a run whose writes go through, and at each point
of it the next operation is atomic exactly when its own does. -/
theorem memory_agrees_iff (m : RecordModel Record Payload) (medium : Medium Payload) (keyed : Keyed m medium)
    (disk : OnDisk medium) (s : Store Record Payload) (run : Run m medium s) :
    Agrees m s ∧ ∀ (faults : Faults WriteError) (op : Op Record), op.Atomic m faults s ↔ op.Keeps m faults s := by
  obtain ⟨agree, keyed', disk'⟩ := run_sound keyed disk run
  exact ⟨agree, fun faults op => atomic_iff agree keyed' disk' op⟩

/-! ### Three media -/

/-- A call and its arguments; `update` is that of the approval stores. -/
inductive Call (Record : Type) where
  | save (r : Record)
  | update (key : String) (f : Record → Record)
  | replaceRecords (records : List Record)

/-- The first record with the key, and where it is. -/
def found (m : RecordModel Record Payload) (records : List Record) (key : String) : Option (Nat × Record) := do
  let index ← records.findIdx? fun r => m.keyOf r = some key
  let old ← records[index]?
  some (index, old)

/-- The operation a call comes to, if any. -/
def Call.op (m : RecordModel Record Payload) (records : List Record) : Call Record → Option (Op Record)
  | save r => some (.save r)
  | update key f => (found m records key).map fun (index, old) => .commitUpdate index (f old)
  | replaceRecords new => some (.replaceRecords new)

/-- A call none of whose writes fails. -/
def Call.apply (m : RecordModel Record Payload) (s : Store Record Payload) : Call Record → Store Record Payload
  | save r => (Durability.save m (fun _ => none) r s).2
  | update key f => (Durability.update m (fun _ => none) key f s).2
  | replaceRecords new => (Durability.replaceRecords m (fun _ => none) new s).2

/-- The list in memory after a call. -/
def Call.after (m : RecordModel Record Payload) (records : List Record) (c : Call Record) : List Record :=
  match c.op m records with
  | none => records
  | some op => op.after records

/-- What it writes reads back, and an update reaches no record but the one it found. -/
def Call.Plain (m : RecordModel Record Payload) (records : List Record) (c : Call Record) : Prop :=
  ∀ op ∈ c.op m records, op.KeepsRows m records

/-- A store on the medium after the calls. -/
def runCalls (m : RecordModel Record Payload) (medium : Medium Payload) (calls : List (Call Record)) :
    Store Record Payload :=
  calls.foldl (Call.apply m) (opened m medium)

/-- After the calls the three modes show one list, and reopened they load it. -/
structure Alike (m : RecordModel Record Payload) (calls : List (Call Record)) : Prop where
  json : getAll (runCalls m (.json ⟨none, none⟩) calls) = getAll (runCalls m .memory calls)
  sqlite : getAll (runCalls m (.sqlite []) calls) = getAll (runCalls m .memory calls)
  json_reopened : load m (runCalls m (.json ⟨none, none⟩) calls).medium = getAll (runCalls m .memory calls)
  sqlite_reopened : load m (runCalls m (.sqlite []) calls).medium = getAll (runCalls m .memory calls)

theorem apply_call (c : Call Record) : c.apply m s = match c.op m s.records with
    | none => s
    | some op => (op.apply m (fun _ => none) s).2 := by
  cases c with
  | save r => rfl
  | replaceRecords new => rfl
  | update key f =>
    simp only [Call.apply, Durability.update, Call.op, found]
    cases s.records.findIdx? fun r => m.keyOf r = some key with
    | none => rfl
    | some index =>
      simp only [Option.bind_eq_bind, Option.bind_some]
      cases s.records[index]? <;> rfl

theorem call_valid {c : Call Record} {op : Op Record} (h : c.op m records = some op) : op.Valid records := by
  cases c with
  | save r => cases h; trivial
  | replaceRecords new => cases h; trivial
  | update key f =>
    obtain ⟨⟨index, old⟩, hfound, rfl⟩ := Option.map_eq_some_iff.mp h
    simp only [found, Option.bind_eq_bind, Option.bind_eq_some_iff] at hfound
    obtain ⟨i, -, o, hget, same⟩ := hfound
    cases same
    exact (List.getElem?_eq_some_iff.mp hget).1

/-- Memory is changed in the same way whatever the medium. -/
theorem records_apply (c : Call Record) : (c.apply m s).records = c.after m s.records := by
  rw [apply_call, Call.after]
  cases h : c.op m s.records with
  | none => rfl
  | some op =>
    show (op.apply m (fun _ => none) s).2.records = op.after s.records
    rw [apply_eq (call_valid h)]
    rfl

theorem records_run (medium : Medium Payload) (start : load m medium = []) (calls : List (Call Record)) :
    (runCalls m medium calls).records = calls.foldl (Call.after m) [] := by
  have from_here : ∀ s : Store Record Payload, (calls.foldl (Call.apply m) s).records =
      calls.foldl (Call.after m) s.records := by
    intro s
    induction calls generalizing s with
    | nil => rfl
    | cons c rest ih => rw [List.foldl_cons, List.foldl_cons, ih, records_apply]
  rw [runCalls, from_here]
  show calls.foldl (Call.after m) (load m medium) = _
  rw [start]

/-- No call of the sequence writes what does not read back, or updates more than it finds. -/
def PlainFrom (m : RecordModel Record Payload) : List Record → List (Call Record) → Prop
  | _, [] => True
  | records, c :: rest => c.Plain m records ∧ PlainFrom m (c.after m records) rest

theorem plainFrom_append (calls : List (Call Record)) (c : Call Record) :
    PlainFrom m records (calls ++ [c]) ↔
      PlainFrom m records calls ∧ c.Plain m (calls.foldl (Call.after m) records) := by
  induction calls generalizing records with
  | nil => simp [PlainFrom]
  | cons c' rest ih => simp only [List.cons_append, PlainFrom, ih, List.foldl_cons, and_assoc]

theorem reads_after {c : Call Record} (reads : ∀ r ∈ records, ReadsBack m r) (plain : c.Plain m records) :
    ∀ r ∈ c.after m records, ReadsBack m r := by
  intro r hr
  unfold Call.after at hr
  cases hop : c.op m records with
  | none => rw [hop] at hr; exact reads r hr
  | some op =>
    rw [hop] at hr
    have keeps := plain op hop
    cases op with
    | save new =>
      rcases List.mem_append.mp hr with hr | hr
      · exact reads r hr
      · rw [List.mem_singleton.mp hr]
        exact keeps
    | replaceRecords new => exact keeps r hr
    | commitUpdate index new =>
      rcases List.mem_or_eq_of_mem_set hr with hr | rfl
      · exact reads r hr
      · have there := List.getElem?_eq_getElem (call_valid hop)
        have keeps := keeps _ there
        split at keeps
        · rw [keeps]
          exact reads _ (List.getElem_mem _)
        · exact keeps.1

/-- A call on a file. -/
theorem json_call (agree : records = load m (.json files)) (c : Call Record) :
    ∃ files', c.apply m ⟨records, .json files⟩ = ⟨c.after m records, .json files'⟩ ∧
      ((∀ r ∈ c.after m records, ReadsBack m r) → c.after m records = load m (.json files')) := by
  rw [apply_call, Call.after]
  cases hop : c.op m records with
  | none => exact ⟨files, rfl, fun _ => agree⟩
  | some op =>
    refine ⟨⟨some ((op.after records).map m.dump), none⟩, ?_, fun reads => ?_⟩
    · dsimp only
      rw [apply_eq (call_valid hop), change_json fun _ _ => rfl]
    · rw [load, Option.getD_some, List.map_map]
      exact map_reads_back.mpr reads

/-- A call on a table. -/
theorem sqlite_call (agree : records = load m (.sqlite rows)) (keyed : Keyed m (.sqlite rows)) (c : Call Record) :
    ∃ rows', c.apply m ⟨records, .sqlite rows⟩ = ⟨c.after m records, .sqlite rows'⟩ ∧
      (c.after m records = load m (.sqlite rows') ↔ c.Plain m records) ∧
      (c.Plain m records → Keyed m (.sqlite rows')) := by
  rw [apply_call, Call.after, Call.Plain]
  cases hop : c.op m records with
  | none => exact ⟨rows, rfl, by simpa using agree, fun _ => keyed⟩
  | some op =>
    obtain ⟨rows', hexec, same, keyed'⟩ := sql_agrees (call_valid hop) agree keyed
    refine ⟨rows', ?_, by simpa using same, fun plain => keyed' (plain op rfl)⟩
    dsimp only
    rw [apply_eq (call_valid hop), change_sqlite (fun _ _ => rfl) hexec]

theorem runCalls_append (medium : Medium Payload) (calls : List (Call Record)) (c : Call Record) :
    runCalls m medium (calls ++ [c]) = c.apply m (runCalls m medium calls) := by
  rw [runCalls, List.foldl_append]
  rfl

/-- Where a sequence of plain calls leads to on a file and on a table. -/
theorem plain_run (calls : List (Call Record)) (plain : PlainFrom m [] calls) :
    (∀ r ∈ calls.foldl (Call.after m) [], ReadsBack m r) ∧
      (∃ files, runCalls m (.json ⟨none, none⟩) calls = ⟨calls.foldl (Call.after m) [], .json files⟩ ∧
        calls.foldl (Call.after m) [] = load m (.json files)) ∧
      ∃ rows, runCalls m (.sqlite []) calls = ⟨calls.foldl (Call.after m) [], .sqlite rows⟩ ∧
        calls.foldl (Call.after m) [] = load m (.sqlite rows) ∧ Keyed m (.sqlite rows) := by
  induction calls using List.reverseRecOn with
  | nil => exact ⟨by simp, ⟨_, rfl, rfl⟩, _, rfl, rfl, by simp [Keyed]⟩
  | append_singleton calls c ih =>
    obtain ⟨before, here⟩ := (plainFrom_append calls c).mp plain
    obtain ⟨reads, ⟨files, hjson, json⟩, rows, hsqlite, sqlite, keyed⟩ := ih before
    obtain ⟨files', hjson', json'⟩ := json_call json c
    obtain ⟨rows', hsqlite', sqlite', keyed'⟩ := sqlite_call sqlite keyed c
    have reads' := reads_after reads here
    simp only [List.foldl_append, List.foldl_cons, List.foldl_nil, runCalls_append]
    refine ⟨reads', ⟨files', ?_, json' reads'⟩, rows', ?_, sqlite'.mpr here, keyed' here⟩
    · rw [hjson, hjson']
    · rw [hsqlite, hsqlite']

/-- After plain calls one more leaves the modes alike exactly when it is plain too. -/
theorem alike_append (calls : List (Call Record)) (plain : PlainFrom m [] calls) (c : Call Record) :
    Alike m (calls ++ [c]) ↔ c.Plain m (calls.foldl (Call.after m) []) := by
  obtain ⟨reads, ⟨files, hjson, json⟩, rows, hsqlite, sqlite, keyed⟩ := plain_run calls plain
  obtain ⟨files', hjson', json'⟩ := json_call json c
  obtain ⟨rows', hsqlite', sqlite', keyed'⟩ := sqlite_call sqlite keyed c
  have memory : getAll (runCalls m .memory (calls ++ [c])) = c.after m (calls.foldl (Call.after m) []) := by
    rw [getAll, records_run _ rfl, List.foldl_append]
    rfl
  constructor
  · intro alike
    have reopened := alike.sqlite_reopened
    rw [memory, runCalls_append, hsqlite, hsqlite'] at reopened
    exact sqlite'.mp reopened.symm
  · intro here
    refine ⟨?_, ?_, ?_, ?_⟩
    · rw [memory, runCalls_append, hjson, hjson', getAll]
    · rw [memory, runCalls_append, hsqlite, hsqlite', getAll]
    · rw [memory, runCalls_append, hjson, hjson']
      exact (json' (reads_after reads here)).symm
    · rw [memory, runCalls_append, hsqlite, hsqlite']
      exact (sqlite'.mpr here).symm

/-- **The three modes are interchangeable**, after every call, exactly on the sequences
whose records read back and whose updates reach no record but the first with the key. -/
theorem backends_agree_iff (m : RecordModel Record Payload) (calls : List (Call Record)) :
    (∀ done, done <+: calls → Alike m done) ↔ PlainFrom m [] calls := by
  induction calls using List.reverseRecOn with
  | nil =>
    refine iff_of_true (fun done hdone => ?_) trivial
    rw [List.prefix_nil.mp hdone]
    exact ⟨rfl, rfl, rfl, rfl⟩
  | append_singleton calls c ih =>
    rw [plainFrom_append, ← ih]
    constructor
    · intro alike
      have before : ∀ done, done <+: calls → Alike m done := fun done h => alike done (h.trans (List.prefix_append _ _))
      exact ⟨before, (alike_append calls (ih.mp before) c).mp (alike _ List.prefix_rfl)⟩
    · rintro ⟨before, here⟩ done hdone
      rcases List.prefix_concat_iff.mp hdone with rfl | h
      · exact (alike_append calls (ih.mp before) c).mpr here
      · exact before done h

/-! ### The stores of the core -/

/-- The two lists of a store of `Core.Stores` are the records in memory and those on the medium. -/
structure Represents (m : RecordModel Record Payload) (d : DurableStore Record) (s : Store Record Payload) : Prop where
  records : d.records = s.records
  medium : match d.backend with
    | .json => ∃ files, s.medium = .json files ∧ files.file.getD [] = d.durable.map m.dump
    | .sqlite => s.medium = .sqlite (d.durable.map (row m))

variable {d : DurableStore Record}

theorem represents_save (h : Represents m d s) (r : Record) :
    Represents m (d.save r) (save m (fun _ => none) r s).2 := by
  obtain ⟨backend, records, durable⟩ := d
  obtain ⟨records', medium⟩ := s
  obtain ⟨same, hmedium⟩ := h
  subst same
  cases backend with
  | json =>
    obtain ⟨files, rfl, -⟩ := hmedium
    rw [save, change_json fun _ _ => rfl]
    exact ⟨rfl, _, rfl, rfl⟩
  | sqlite =>
    obtain rfl : medium = .sqlite (durable.map (row m)) := hmedium
    rw [save, change_sqlite (fun _ _ => rfl) (sqlInsert_exec r)]
    refine ⟨rfl, ?_⟩
    show _ = Medium.sqlite ((durable ++ [r]).map (row m))
    rw [List.map_append]
    rfl

/-- Setting the first record that meets `p`, by its index. -/
theorem set_found {p : Record → Bool} {index : Nat} (h : records.findIdx? p = some index) :
    ∃ old, records[index]? = some old ∧ records.find? p = some old ∧
      ∀ new, records.set index new = replaceFirst p new records := by
  induction records generalizing index with
  | nil => cases h
  | cons r rest ih =>
    rw [List.findIdx?_cons] at h
    by_cases hr : p r
    · rw [if_pos hr, Option.some.injEq] at h
      subst h
      exact ⟨r, rfl, by simp [hr], fun new => by simp [replaceFirst, hr]⟩
    · rw [if_neg hr] at h
      obtain ⟨i, hi, rfl⟩ := Option.map_eq_some_iff.mp h
      obtain ⟨old, hget, hfind, hset⟩ := ih hi
      exact ⟨old, hget, by simp [hr, hfind], fun new => by simp [replaceFirst, hr, hset]⟩

theorem represents_update {key : Record → String} (hkey : ∀ r, m.keyOf r = some (key r)) (h : Represents m d s)
    (k : String) (f : Record → Record) : Represents m (d.update key k f) (update m (fun _ => none) k f s).2 := by
  obtain ⟨backend, records, durable⟩ := d
  obtain ⟨records', medium⟩ := s
  obtain ⟨same, hmedium⟩ := h
  subst same
  simp only [update, hkey, Option.some.injEq, DurableStore.update, DurableStore.get?]
  cases hindex : records.findIdx? fun r => key r = k with
  | none =>
    have absent : records.find? (fun r => key r = k) = none := by
      rw [List.find?_eq_none]
      intro r hr
      simpa using List.findIdx?_eq_none_iff.mp hindex r hr
    rw [absent]
    exact ⟨rfl, hmedium⟩
  | some index =>
    obtain ⟨old, hget, hfind, hset⟩ := set_found hindex
    have hold : key old = k := by simpa using List.find?_some hfind
    simp only [hget, hfind, commitUpdate, hset]
    cases backend with
    | json =>
      obtain ⟨files, rfl, -⟩ := hmedium
      rw [change_json fun _ _ => rfl]
      exact ⟨rfl, _, rfl, rfl⟩
    | sqlite =>
      obtain rfl : medium = .sqlite (durable.map (row m)) := hmedium
      rw [change_sqlite (fun _ _ => rfl) (sqlUpdateByKey_exec _ _)]
      refine ⟨rfl, ?_⟩
      show Medium.sqlite _ = Medium.sqlite _
      rw [List.map_map, List.map_map]
      congr 1
      apply List.map_congr_left
      intro r _
      by_cases hr : key r = k <;> simp [Function.comp, row, hkey, hold, hr]

theorem represents_restart (h : Represents m d s) :
    Represents m (d.restart fun r => m.validate (m.dump r)) (opened m s.medium) := by
  obtain ⟨backend, records, durable⟩ := d
  obtain ⟨records', medium⟩ := s
  obtain ⟨same, hmedium⟩ := h
  cases backend with
  | json =>
    obtain ⟨files, rfl, hfile⟩ := hmedium
    refine ⟨?_, _, rfl, hfile⟩
    show durable.map _ = (files.file.getD []).map m.validate
    rw [hfile, List.map_map]
    rfl
  | sqlite =>
    obtain rfl : medium = .sqlite (durable.map (row m)) := hmedium
    refine ⟨?_, rfl⟩
    show durable.map _ = (durable.map (row m)).map _
    rw [List.map_map]
    rfl

end

namespace Sample

/-- Approval records are texts and lists of texts. -/
def recordModel : RecordModel ApprovalRecord ApprovalRecord := ⟨id, id, fun r => some r.approvalId⟩

def record (actionId : String) : ApprovalRecord where
  approvalId := "approval-1"
  actionId
  decision := "manual_required"
  approvedBy := ""
  reason := "Action explicitly requires approval"
  governanceDomain := "rmt.default"
  assessmentId := none
  instructionDigest := none
  adapterName := none
  policyEvidenceReferences := []
  riskEvidenceReferences := []

/-- `os.replace` is the sixth operation of a write. -/
def unreplaced : Faults WriteError := fun n => if n = 5 then some (.os "No space left on device") else none

/-- The record is saved in a table. -/
def saved : Store ApprovalRecord ApprovalRecord :=
  (save recordModel (fun _ => none) (record "action-1") (opened recordModel (.sqlite []))).2

theorem saved_run : Run recordModel (.sqlite []) saved := by
  apply Relation.ReflTransGen.single
  apply Step.op (fun _ => none) (.save (record "action-1"))
  intro _
  exact ⟨fun disturbed => absurd (fun _ _ => rfl) disturbed, fun _ => rfl⟩

/-- Two records with one key, and an update of the first. -/
def shared : List (Call ApprovalRecord) :=
  [.save (record "action-1"), .save (record "action-2"),
    .update "approval-1" fun r => { r with decision := "approved", approvedBy := "olga" }]

end Sample

/-- A save that returns is on disk. -/
theorem memory_agrees_saved :
    Agrees Sample.recordModel Sample.saved ∧
      Op.Atomic Sample.recordModel (fun _ => none) Sample.saved (.save (Sample.record "action-2")) := by
  obtain ⟨agree, iff⟩ := memory_agrees_iff Sample.recordModel (.sqlite []) (fun x hx => by cases hx) trivial
    Sample.saved Sample.saved_run
  refine ⟨agree, (iff _ _).mpr ?_⟩
  intro _
  exact ⟨fun disturbed => absurd (fun _ _ => rfl) disturbed, fun _ => rfl⟩

/-- **A save whose `os.replace` raises is seen all the same**, until a new process reads the file. -/
theorem memory_ahead :
    let s := opened Sample.recordModel (.json ⟨none, none⟩)
    let (result, s') := save Sample.recordModel Sample.unreplaced (Sample.record "action-1") s
    result = .error (.os "No space left on device") ∧ getAll s = [] ∧ getAll s' = [Sample.record "action-1"] ∧
      load Sample.recordModel s'.medium = [] :=
  ⟨rfl, rfl, rfl, rfl⟩

/-- **One update of a table sets both rows with the key**: memory and the file keep the second record. -/
theorem backends_apart :
    ¬Alike Sample.recordModel Sample.shared ∧
      getAll (runCalls Sample.recordModel (.sqlite []) Sample.shared) ≠
        load Sample.recordModel (runCalls Sample.recordModel (.sqlite []) Sample.shared).medium := by
  have apart : getAll (runCalls Sample.recordModel (.sqlite []) Sample.shared) ≠
      load Sample.recordModel (runCalls Sample.recordModel (.sqlite []) Sample.shared).medium := by
    decide +kernel
  exact ⟨fun alike => apart (alike.sqlite.trans alike.sqlite_reopened.symm), apart⟩

end RmtPlatform.Core.Durability
