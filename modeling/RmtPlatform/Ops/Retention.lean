import RmtPlatform.Core.Durability
import RmtPlatform.Data.Dumps

/-! Retention of the evidence.

A run moves what is older than the cutoff from a store to its archive, one line of
JSON a record: the lines are appended first, and then the store is rewritten
(`archiveStore`). The append may stop after any byte, and the rewriting may fail. Such a
rest of a line is completed by whatever the next run appends, so the first record of
that run is lost: no record is lost in a series of runs that each begin at the start of
a line (`retention_recoverable`). -/
namespace RmtPlatform.Ops

open Core.Durability Transaction

/-! ### Age -/

/-- What a record has under `created_at`; times are in microseconds. -/
inductive CreatedAt where
  | absent
  | text (s : String)
  | datetime (wall : Int) (offset : Option Int)
  | other
deriving DecidableEq

/-- A time without an offset is taken for UTC. -/
def instant (wall : Int) (offset : Option Int) : Int := wall - offset.getD 0

/-- `_older_than`; `fromisoformat` is given. -/
def olderThan (fromisoformat : String → Option (Int × Option Int)) (createdAt : CreatedAt) (cutoff : Int) : Bool :=
  match createdAt with
  | .absent => false
  | .text s => (fromisoformat (s.replace "Z" "+00:00")).any fun t => instant t.1 t.2 < cutoff
  | .datetime wall offset => instant wall offset < cutoff
  | .other => false

/-! ### One store -/

/-- A store and its archive's text. -/
structure Archived (Record : Type) where
  store : Store Record Json
  archive : List Char

/-- What goes wrong in a run: an exception when so many bytes are appended, or in the rewriting. -/
structure Mishap where
  appending : Option (Nat × WriteError)
  rewriting : Faults WriteError

structure ArchiveResult where
  store : String
  archived : Nat
  kept : Int
  skipped : Option String
  error : Option WriteError

section
variable {Record : Type} (m : RecordModel Record Json)

/-- A record's line. -/
def lineOf (r : Record) : List Char := Json.dumps (m.dump r) ++ ['\n']

def linesOf (records : List Record) : List Char := records.flatMap (lineOf m)

/-- `archive_store`. -/
def archiveStore (older : Record → Bool) (mishap : Mishap) (name : String) (a : Archived Record) :
    Archived Record × ArchiveResult :=
  match a.store.medium with
  | .memory => (a, ⟨name, 0, 0, some "in_memory", none⟩)
  | _ =>
    let keep := (getAll a.store).filter fun r => !older r
    let archive := (getAll a.store).filter older
    if archive = [] then (a, ⟨name, 0, keep.length, none, none⟩)
    else match mishap.appending with
      | some (n, e) => ({ a with archive := a.archive ++ (linesOf m archive).take n }, ⟨name, 0, -1, none, some e⟩)
      | none =>
        let (result, store) := replaceRecords m mishap.rewriting keep a.store
        let a := { store, archive := a.archive ++ linesOf m archive }
        match result with
        | .ok () => (a, ⟨name, archive.length, keep.length, none, none⟩)
        | .error e => (a, ⟨name, 0, -1, none, some e⟩)

/-! ### Runs -/

/-- The archive's text ends at the end of a line. -/
def Complete (text : List Char) : Prop := text = [] ∨ ∃ before, text = before ++ ['\n']

/-- A run that appends begins at the start of a line. -/
def Begins (a : Archived Record) (older : Record → Bool) : Prop :=
  (∀ r ∈ a.store.records, older r = false) ∨ Complete a.archive

/-- A series of runs, saves and new processes on a path, and every record saved. -/
inductive Retains (m : RecordModel Record Json) (medium : Medium Json) (archive : List Char)
    (admits : Archived Record → (Record → Bool) → Prop) : Archived Record → List Record → Prop where
  | opened : Retains m medium archive admits ⟨Core.Durability.opened m medium, archive⟩ (load m medium)
  | saved {a : Archived Record} {records : List Record} (before : Retains m medium archive admits a records)
      (faults : Faults WriteError) (r : Record) (saves : (save m faults r a.store).1 = .ok ()) :
      Retains m medium archive admits { a with store := (save m faults r a.store).2 } (r :: records)
  | unsaved {a : Archived Record} {records : List Record} (before : Retains m medium archive admits a records)
      (faults : Faults WriteError) (r : Record) :
      Retains m medium archive admits { a with store := (save m faults r a.store).2 } records
  | run {a : Archived Record} {records : List Record} (before : Retains m medium archive admits a records)
      (older : Record → Bool) (mishap : Mishap) (name : String) (admitted : admits a older) :
      Retains m medium archive admits (archiveStore m older mishap name a).1 records
  | reopened {a : Archived Record} {records : List Record} (before : Retains m medium archive admits a records) :
      Retains m medium archive admits { a with store := Core.Durability.opened m a.store.medium } records

/-- A record that says what `r` says. -/
def LiveIn (r : Record) (records : List Record) : Prop := ∃ live ∈ records, m.dump live = m.dump r

/-- A line of the text parses to the record. -/
def LineOf (r : Record) (text : List Char) : Prop := ∃ line ∈ text.splitOn '\n', Json.loads line = some (m.dump r)

/-- The record is live, or a line of the archive. -/
def Recoverable (a : Archived Record) (r : Record) : Prop := LiveIn m r a.store.records ∨ LineOf m r a.archive

/-! ### Lines -/

variable {m} {r : Record} {text : List Char}

theorem lineOf_unbroken (v : Json) : '\n' ∉ Json.dumps v := by
  intro broken
  exact absurd (Json.dumps_printable v _ broken) (by decide)

theorem loads_nil : Json.loads [] = none := rfl

/-- What is appended at the start of a line leaves the lines there are. -/
theorem LineOf.append (kept : LineOf m r text) (complete : Complete text) (more : List Char) : LineOf m r (text ++ more) := by
  obtain ⟨line, mem, loaded⟩ := kept
  rcases complete with rfl | ⟨before, rfl⟩
  · obtain rfl : line = [] := by simpa using mem
    rw [loads_nil] at loaded
    cases loaded
  · refine ⟨line, ?_, loaded⟩
    rw [List.splitOn_append_cons_self, List.splitOn_nil, List.mem_append, List.mem_singleton] at mem
    rw [List.append_assoc, List.singleton_append, List.splitOn_append_cons_self, List.mem_append]
    rcases mem with mem | rfl
    · exact .inl mem
    · rw [loads_nil] at loaded
      cases loaded

theorem Complete.append_linesOf (complete : Complete text) (records : List Record) : Complete (text ++ linesOf m records) := by
  induction records generalizing text with
  | nil => simpa [linesOf] using complete
  | cons r rest ih =>
    rw [linesOf, List.flatMap_cons, ← List.append_assoc]
    apply ih
    exact .inr ⟨text ++ Json.dumps (m.dump r), by rw [lineOf, List.append_assoc]⟩

/-- Every record appended at the start of a line is one. -/
theorem lineOf_appended (complete : Complete text) {records : List Record} (mem : r ∈ records) :
    LineOf m r (text ++ linesOf m records) := by
  obtain ⟨before, after, rfl⟩ := List.append_of_mem mem
  have started : Complete (text ++ linesOf m before) := complete.append_linesOf before
  have split : text ++ linesOf m (before ++ r :: after) =
      (text ++ linesOf m before) ++ (Json.dumps (m.dump r) ++ '\n' :: linesOf m after) := by
    simp [linesOf, lineOf]
  rw [split]
  have line : Json.dumps (m.dump r) ∈ (Json.dumps (m.dump r) ++ '\n' :: linesOf m after).splitOn '\n' := by
    rw [List.splitOn_append_cons_self_of_not_mem (lineOf_unbroken _)]
    exact List.mem_cons_self
  refine ⟨_, ?_, Json.loads_dumps (m.dump r)⟩
  rcases started with none | ⟨first, ends⟩
  · rwa [none]
  · rw [ends, List.append_assoc, List.singleton_append, List.splitOn_append_cons_self]
    exact List.mem_append_right _ line

/-! ### What the store keeps -/

variable {s : Store Record Json} {faults : Faults WriteError} {records new : List Record} {medium : Medium Json}

/-- What is read back says what was written. -/
def Faithful (m : RecordModel Record Json) : Prop := ∀ r, m.dump (m.validate (m.dump r)) = m.dump r

theorem liveIn_reloaded (faithful : Faithful m) (live : LiveIn m r records) :
    LiveIn m r (records.map fun x => m.validate (m.dump x)) := by
  obtain ⟨x, mem, same⟩ := live
  exact ⟨_, List.mem_map_of_mem mem, (faithful x).trans same⟩

theorem LiveIn.mono (live : LiveIn m r records) (more : ∀ x ∈ records, x ∈ new) : LiveIn m r new := by
  obtain ⟨x, mem, same⟩ := live
  exact ⟨x, more x mem, same⟩

/-- What a save leaves in memory and on disk. -/
theorem save_leaves (disk : OnDisk s.medium) :
    (save m faults r s).2.records = s.records ++ [r] ∧ OnDisk (save m faults r s).2.medium ∧
      (load m (save m faults r s).2.medium = load m s.medium ∧ (save m faults r s).1 ≠ .ok () ∨
        load m (save m faults r s).2.medium = (s.records ++ [r]).map (fun x => m.validate (m.dump x)) ∨
        load m (save m faults r s).2.medium = load m s.medium ++ [m.validate (m.dump r)]) := by
  by_cases clean : Undisturbed m faults (s.records ++ [r]) (sqlInsert m r) s.medium
  · obtain ⟨memory, medium⟩ := s
    cases medium with
    | memory => exact absurd disk id
    | json files =>
      unfold save
      rw [change_json clean]
      refine ⟨rfl, trivial, .inr (.inl ?_)⟩
      simp [load]
    | sqlite rows =>
      unfold save
      rw [change_sqlite clean (sqlInsert_exec r)]
      refine ⟨rfl, trivial, .inr (.inr ?_)⟩
      simp [load, row]
  · obtain ⟨e, medium', write, same, -, disk'⟩ := write_disturbed clean
    unfold save change
    rw [write]
    exact ⟨rfl, disk' disk, .inl ⟨same, fun ok => by cases ok⟩⟩

/-- What a rewriting leaves. -/
theorem replaceRecords_leaves (disk : OnDisk s.medium) :
    (replaceRecords m faults new s).2.records = new ∧ OnDisk (replaceRecords m faults new s).2.medium ∧
      (load m (replaceRecords m faults new s).2.medium = load m s.medium ∨
        load m (replaceRecords m faults new s).2.medium = new.map fun x => m.validate (m.dump x)) := by
  by_cases clean : Undisturbed m faults new (sqlReplaceAll m new) s.medium
  · obtain ⟨memory, medium⟩ := s
    cases medium with
    | memory => exact absurd disk id
    | json files =>
      unfold replaceRecords
      rw [change_json clean]
      refine ⟨rfl, trivial, .inr ?_⟩
      simp [load]
    | sqlite rows =>
      unfold replaceRecords
      rw [change_sqlite clean (sqlReplaceAll_exec new)]
      refine ⟨rfl, trivial, .inr ?_⟩
      simp [load, row]
  · obtain ⟨e, medium', write, same, -, disk'⟩ := write_disturbed clean
    unfold replaceRecords change
    rw [write]
    exact ⟨rfl, disk' disk, .inl same⟩

theorem opened_leaves (disk : OnDisk medium) :
    (Core.Durability.opened m medium).records = load m medium ∧ OnDisk (Core.Durability.opened m medium).medium ∧
      load m (Core.Durability.opened m medium).medium = load m medium := by
  cases medium with
  | memory => exact absurd disk id
  | json files => exact ⟨rfl, trivial, rfl⟩
  | sqlite rows => exact ⟨rfl, trivial, rfl⟩

/-! ### What a run keeps -/

/-- A record is a line of the archive, or live in memory and on disk. -/
def Kept (m : RecordModel Record Json) (a : Archived Record) (r : Record) : Prop :=
  LineOf m r a.archive ∨ LiveIn m r a.store.records ∧ LiveIn m r (load m a.store.medium)

variable {a : Archived Record} {older : Record → Bool} {mishap : Mishap} {name : String}

/-- **What a run of the archiving leaves**: nothing changed, or an append that stopped, or a store without what was
appended. -/
theorem archiveStore_cases (m : RecordModel Record Json) (older : Record → Bool) (mishap : Mishap) (name : String)
    (a : Archived Record) :
    (archiveStore m older mishap name a).1 = a ∨
      (∃ r ∈ a.store.records, older r = true) ∧
        ((∃ n, (archiveStore m older mishap name a).1 =
            { a with archive := a.archive ++ (linesOf m (a.store.records.filter older)).take n }) ∨
          (archiveStore m older mishap name a).1 =
            { store := (replaceRecords m mishap.rewriting (a.store.records.filter fun r => !older r) a.store).2
              archive := a.archive ++ linesOf m (a.store.records.filter older) }) := by
  unfold archiveStore
  split
  · exact .inl rfl
  · dsimp only
    split
    · exact .inl rfl
    · next some =>
      refine .inr ⟨?_, ?_⟩
      · by_contra none
        apply some
        rw [List.filter_eq_nil_iff]
        exact fun r mem old => none ⟨r, mem, old⟩
      · split
        · exact .inl ⟨_, rfl⟩
        · split <;> exact .inr rfl

theorem kept_run (faithful : Faithful m) (disk : OnDisk a.store.medium) (begins : Begins a older) (kept : Kept m a r) :
    Kept m (archiveStore m older mishap name a).1 r := by
  rcases archiveStore_cases m older mishap name a with same | ⟨⟨x, mem, old⟩, ends⟩
  · rwa [same]
  · have complete : Complete a.archive := by
      rcases begins with none | complete
      · rw [none x mem] at old
        cases old
      · exact complete
    rcases ends with ⟨n, stopped⟩ | moved
    · rw [stopped]
      exact kept.imp (fun line => line.append complete _) id
    · rw [moved]
      rcases kept with line | ⟨live, durable⟩
      · exact .inl (line.append complete _)
      · obtain ⟨records, -, rewritten⟩ :=
          @replaceRecords_leaves _ m a.store mishap.rewriting (a.store.records.filter fun r => !older r) disk
        obtain ⟨y, mem, same⟩ := live
        cases age : older y with
        | true =>
          left
          obtain ⟨line, mem', loaded⟩ := lineOf_appended (m := m) complete (List.mem_filter.mpr ⟨mem, age⟩)
          exact ⟨line, mem', by rw [loaded, same]⟩
        | false =>
          right
          have stays : LiveIn m r (a.store.records.filter fun r => !older r) :=
            ⟨y, List.mem_filter.mpr ⟨mem, by rw [age]; rfl⟩, same⟩
          refine ⟨by rw [records]; exact stays, ?_⟩
          rcases rewritten with unchanged | rewritten
          · rwa [unchanged]
          · rw [rewritten]
            exact liveIn_reloaded faithful stays

theorem kept_save (faithful : Faithful m) (disk : OnDisk a.store.medium) (faults : Faults WriteError) (new : Record)
    (kept : Kept m a r) : Kept m { a with store := (save m faults new a.store).2 } r := by
  obtain ⟨records, -, medium⟩ := @save_leaves _ m new a.store faults disk
  rcases kept with line | ⟨live, durable⟩
  · exact .inl line
  · have more : LiveIn m r (a.store.records ++ [new]) := live.mono fun x mem => List.mem_append_left _ mem
    refine .inr ⟨by rw [records]; exact more, ?_⟩
    rcases medium with ⟨same, -⟩ | same | same
    · rwa [same]
    · rw [same]
      exact liveIn_reloaded faithful more
    · rw [same]
      exact durable.mono fun x mem => List.mem_append_left _ mem

theorem kept_saved (faithful : Faithful m) (disk : OnDisk a.store.medium) (saves : (save m faults r a.store).1 = .ok ()) :
    Kept m { a with store := (save m faults r a.store).2 } r := by
  obtain ⟨records, -, medium⟩ := @save_leaves _ m r a.store faults disk
  have live : LiveIn m r (a.store.records ++ [r]) := ⟨r, List.mem_append_right _ List.mem_cons_self, rfl⟩
  refine .inr ⟨by rw [records]; exact live, ?_⟩
  rcases medium with ⟨-, failed⟩ | same | same
  · exact absurd saves failed
  · rw [same]
    exact liveIn_reloaded faithful live
  · rw [same]
    exact ⟨_, List.mem_append_right _ List.mem_cons_self, faithful r⟩

theorem onDisk_run (disk : OnDisk a.store.medium) : OnDisk (archiveStore m older mishap name a).1.store.medium := by
  rcases archiveStore_cases m older mishap name a with same | ⟨-, ⟨n, stopped⟩ | moved⟩
  · rwa [same]
  · rwa [stopped]
  · rw [moved]
    exact (replaceRecords_leaves disk).2.1

end

/-- **No record is lost** in a series of runs each of which begins at the start of a line. -/
theorem retention_recoverable {Record : Type} (m : RecordModel Record Json) (faithful : Faithful m) (medium : Medium Json)
    (disk : OnDisk medium) (archive : List Char) (a : Archived Record) (records : List Record)
    (run : Retains m medium archive Begins a records) : ∀ r ∈ records, Recoverable m a r := by
  have kept : OnDisk a.store.medium ∧ ∀ r ∈ records, Kept m a r := by
    induction run with
    | opened =>
      obtain ⟨records, disk', same⟩ := @opened_leaves _ m medium disk
      refine ⟨disk', fun r mem => .inr ⟨⟨r, ?_, rfl⟩, ⟨r, ?_, rfl⟩⟩⟩
      · rwa [records]
      · rwa [same]
    | saved before faults r saves ih =>
      refine ⟨(save_leaves ih.1).2.1, fun x mem => ?_⟩
      rcases List.mem_cons.mp mem with rfl | mem
      · exact kept_saved faithful ih.1 saves
      · exact kept_save faithful ih.1 faults r (ih.2 x mem)
    | unsaved before faults r ih =>
      exact ⟨(save_leaves ih.1).2.1, fun x mem => kept_save faithful ih.1 faults r (ih.2 x mem)⟩
    | run before older mishap name begins ih =>
      exact ⟨onDisk_run ih.1, fun x mem => kept_run faithful ih.1 begins (ih.2 x mem)⟩
    | reopened before ih =>
      obtain ⟨records, disk', same⟩ := @opened_leaves _ m _ ih.1
      refine ⟨disk', fun x mem => (ih.2 x mem).imp id fun ⟨_, durable⟩ => ⟨?_, ?_⟩⟩
      · rwa [records]
      · rwa [same]
  intro r mem
  exact (kept.2 r mem).symm.imp (fun live => live.1) id

namespace Sample

/-- A record that is its own JSON. -/
def evidence : RecordModel Json Json := ⟨id, id, fun _ => none⟩

def audited : Json := .object [("execution_id", .string "execution-1")]

/-- One record, saved in a new file. -/
def saved : Archived Json :=
  { store := (save evidence (fun _ => none) audited (Core.Durability.opened evidence (.json ⟨none, none⟩))).2, archive := [] }

/-- A run that finds everything old. -/
def archiving (appending : Option (Nat × WriteError)) (a : Archived Json) : Archived Json :=
  (archiveStore evidence (fun _ => true) ⟨appending, fun _ => none⟩ "audit" a).1

/-- The disk is full when ten bytes are appended; then a new process begins. -/
def torn : Archived Json :=
  let a := archiving (some (10, .os "No space left on device")) saved
  { a with store := Core.Durability.opened evidence a.store.medium }

end Sample

theorem retention_recoverable_archived : Recoverable Sample.evidence (Sample.archiving none Sample.saved) Sample.audited := by
  have run : Retains Sample.evidence (.json ⟨none, none⟩) [] Begins (Sample.archiving none Sample.saved) [Sample.audited] :=
    .run (.saved .opened (fun _ => none) Sample.audited rfl) (fun _ => true) ⟨none, fun _ => none⟩ "audit" (.inr (.inl rfl))
  exact retention_recoverable Sample.evidence (fun _ => rfl) (.json ⟨none, none⟩) trivial _ _ _ run Sample.audited List.mem_cons_self

/-- **A record lost**: the next run completes the rest of a line, and takes the record out of the store. -/
theorem retention_torn :
    Retains Sample.evidence (.json ⟨none, none⟩) [] (fun _ _ => True) (Sample.archiving none Sample.torn) [Sample.audited] ∧
      ¬Recoverable Sample.evidence (Sample.archiving none Sample.torn) Sample.audited := by
  constructor
  · apply Retains.run _ (fun _ => true) ⟨none, fun _ => none⟩ "audit" trivial
    apply Retains.reopened
    apply Retains.run _ (fun _ => true) ⟨some (10, .os "No space left on device"), fun _ => none⟩ "audit" trivial
    exact .saved .opened (fun _ => none) Sample.audited rfl
  · rintro (⟨live, mem, -⟩ | ⟨line, mem, loaded⟩)
    · cases mem
    · have unread : ∀ line ∈ (Sample.archiving none Sample.torn).archive.splitOn '\n', (Json.loads line).isNone = true := by
        decide +kernel
      have none := unread line mem
      rw [loaded] at none
      cases none

end RmtPlatform.Ops
