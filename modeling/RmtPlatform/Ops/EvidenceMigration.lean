import Mathlib.Logic.Function.Basic
import RmtPlatform.Data.Indent
import RmtPlatform.Process.Transaction

/-! The migration of the evidence stores from JSON files to SQLite tables, and back.

`forward` loads a store's file, inserts its records in one transaction each and renames
the file; unless it is forced it skips a store whose table has rows. The process may
crash between any two statements. What crashes leave of a store is one of the cases of
`Stage`, and from each of them a run that is forced, or that finds the table empty or
complete, leaves the records of the file, which `reverse` writes back
(`migration_lossless`). -/
namespace RmtPlatform.Ops.EvidenceMigration

/-! ### The stores -/

inductive EvidenceStore where
  | approvalHolds | approvalRecords | authorizations | traces | audit | verifications
deriving DecidableEq

/-- In the order of `_stores`. -/
def specs : List EvidenceStore := [.approvalHolds, .approvalRecords, .authorizations, .traces, .audit, .verifications]

/-- A row of a store's table, the `id` apart: the rows are in its order. -/
structure Row where
  key : Option String
  createdAt : Option String
  payload : List Char

/-- What is on disk of a store. -/
structure Files where
  table : List Row
  /-- `<name>.json`. -/
  json : Option (List Char)
  /-- `<name>.json.migrated`. -/
  migrated : Option (List Char)

abbrev Disk := EvidenceStore → Files

def Disk.change (name : EvidenceStore) (f : Files → Files) (d : Disk) : Disk := Function.update d name (f (d name))

inductive MigrationError where
  | jsonDecodeError | validationError | typeError | fileNotFound
deriving DecidableEq

abbrev MigrationScript (α : Type) := Script Disk Empty MigrationError α

/-- A record class, and the fields its store has columns for. -/
structure RecordModel (Record : Type) where
  /-- `model_dump` in its JSON mode. -/
  dump : Record → Json
  /-- `model_validate`. -/
  validate : Json → Option Record
  keyOf : Record → Option String
  createdAtOf : Record → Option String

def jsonLoads (text : List Char) : Except MigrationError Json :=
  match Json.loads text with
  | some data => .ok data
  | none => .error .jsonDecodeError

/-- `for item in data`. -/
def iterate : Json → Except MigrationError (List Json)
  | .array items => .ok items
  | .object members => .ok ((members.map Prod.fst).eraseDups.map .string)
  | .string s => .ok (s.toList.map fun c => .string (String.ofList [c]))
  | _ => .error .typeError

section
variable {Record : Type} (m : RecordModel Record)

def modelValidate (item : Json) : Except MigrationError Record :=
  match m.validate item with
  | some r => .ok r
  | none => .error .validationError

/-- `_row`. -/
def row (r : Record) : Row := ⟨m.keyOf r, m.createdAtOf r, Json.dumps (m.dump r)⟩

/-- `_sql_load`. -/
def sqlLoad (rows : List Row) : Except MigrationError (List Record) :=
  rows.mapM fun r => do
    let item ← jsonLoads r.payload
    modelValidate m item

/-- `_load_json`, of a file that may not be there. -/
def loadJson : Option (List Char) → Except MigrationError (List Record)
  | none => .ok []
  | some text => do
    let data ← jsonLoads text
    let items ← iterate data
    items.mapM (modelValidate m)

/-- What a JSON store of these records has in its file, and what `reverse` writes. -/
def written (records : List Record) : List Char := Json.indented (.array (records.map m.dump))

/-! ### The script -/

/-- A store on its table: the database is opened, and the rows are loaded. -/
def openStore (name : EvidenceStore) : MigrationScript (List Record) := do
  Transaction.mark -- PRAGMA journal_mode
  Transaction.mark -- PRAGMA busy_timeout
  Transaction.mark -- CREATE TABLE IF NOT EXISTS
  Transaction.mark -- CREATE INDEX IF NOT EXISTS, on the key
  Transaction.mark -- CREATE INDEX IF NOT EXISTS, on created_at
  let rows ← Script.read fun d => (d name).table
  Script.ofExcept (sqlLoad m rows)

/-- `save`: one `INSERT`, there from its commit on. -/
def save (name : EvidenceStore) (r : Record) : MigrationScript Unit := do
  Transaction.mark
  Script.modify none (Disk.change name fun f => { f with table := f.table ++ [row m r] })

/-- `_replace_records([])`: the `DELETE` is there from its commit on. -/
def clear (name : EvidenceStore) : MigrationScript Unit := do
  Transaction.mark
  Script.modify none (Disk.change name fun f => { f with table := [] })

def readText (name : EvidenceStore) : MigrationScript (List Char) := do
  let text ← Script.read fun d => (d name).json
  match text with
  | some text => pure text
  | none => throw .fileNotFound

def rename (name : EvidenceStore) : MigrationScript Unit :=
  Script.modify none (Disk.change name fun f => { f with json := none, migrated := f.json })

/-- `if existing and force`. -/
def clearIf (condition : Prop) [Decidable condition] (name : EvidenceStore) : MigrationScript Unit :=
  if condition then clear name else pure ()

def saveAll (name : EvidenceStore) : List Json → MigrationScript Unit
  | [] => pure ()
  | item :: rest => do
    let r ← Script.ofExcept (modelValidate m item)
    save m name r
    saveAll name rest

/-- What `forward` does with one store; `existing` is what the store was opened with. -/
def forwardStore (force : Bool) (name : EvidenceStore) (existing : List Record) : MigrationScript Nat :=
  if existing ≠ [] ∧ ¬force then pure 0
  else do
    let there ← Script.read fun d => (d name).json.isSome
    if ¬there then pure 0
    else do
      clearIf (existing ≠ [] ∧ force) name
      let text ← readText name
      let data ← Script.ofExcept (jsonLoads text)
      let items ← Script.ofExcept (iterate data)
      saveAll m name items
      rename name
      pure 1

/-- `write_text` truncates the file first. -/
def writeText (name : EvidenceStore) (text : List Char) : MigrationScript Unit := do
  Script.modify none (Disk.change name fun f => { f with json := some [] })
  Script.modify none (Disk.change name fun f => { f with json := some text })

def reverseStore (name : EvidenceStore) (records : List Record) : MigrationScript Nat :=
  if records = [] then pure 0
  else do
    writeText name (written m records)
    pure 1

end

section
variable {Record : EvidenceStore → Type} (m : (name : EvidenceStore) → RecordModel (Record name))

/-- `_stores`: every store is opened before any of them is worked on. -/
def openStores : List EvidenceStore → MigrationScript (List ((name : EvidenceStore) × List (Record name)))
  | [] => pure []
  | name :: rest => do
    let records ← openStore (m name) name
    let stores ← openStores rest
    pure (⟨name, records⟩ :: stores)

/-- The sum of what `work` counts. -/
def eachStore (work : (name : EvidenceStore) → List (Record name) → MigrationScript Nat) :
    List ((name : EvidenceStore) × List (Record name)) → MigrationScript Nat
  | [] => pure 0
  | ⟨name, records⟩ :: rest => do
    let changed ← work name records
    let more ← eachStore work rest
    pure (changed + more)

def forward (force : Bool) : MigrationScript Nat := do
  let stores ← openStores m specs
  eachStore (fun name existing => forwardStore (m name) force name existing) stores

def reverse : MigrationScript Nat := do
  let stores ← openStores m specs
  eachStore (fun name records => reverseStore (m name) name records) stores

end

/-! ### What is loaded -/

section
variable {Record : Type} {m : RecordModel Record} {records done : List Record}

/-- `model_validate` gives back what `model_dump` was given. -/
def Valid (m : RecordModel Record) (records : List Record) : Prop := ∀ r ∈ records, m.validate (m.dump r) = some r

theorem Valid.validate {r : Record} (valid : Valid m records) (mem : r ∈ records) :
    modelValidate m (m.dump r) = .ok r := by
  unfold modelValidate
  rw [valid r mem]

theorem Valid.part (valid : Valid m records) (part : done <+: records) : Valid m done := fun r mem =>
  valid r (part.subset mem)

theorem mapM_map_ok {α β ε : Type} {f : β → Except ε α} {g : α → β} {l : List α} (h : ∀ a ∈ l, f (g a) = .ok a) :
    (l.map g).mapM f = .ok l := by
  induction l with
  | nil => rfl
  | cons a l ih =>
    rw [List.map_cons, List.mapM_cons, h a List.mem_cons_self, ih fun b mem => h b (List.mem_cons_of_mem a mem)]
    rfl

/-- **Rows load as the records they were made of.** -/
theorem sqlLoad_rows (valid : Valid m records) : sqlLoad m (records.map (row m)) = .ok records := by
  apply mapM_map_ok
  intro r mem
  have loads : jsonLoads (row m r).payload = .ok (m.dump r) := by
    unfold jsonLoads row
    rw [Json.loads_dumps]
  rw [loads]
  exact valid.validate mem

theorem jsonLoads_written (m : RecordModel Record) (records : List Record) :
    jsonLoads (written m records) = .ok (.array (records.map m.dump)) := by
  unfold jsonLoads written
  rw [Json.loads_indented]

/-- **A written file loads as the records it was written from.** -/
theorem loadJson_written (valid : Valid m records) : loadJson m (some (written m records)) = .ok records := by
  have items : (records.map m.dump).mapM (modelValidate m) = .ok records := mapM_map_ok fun _ mem => valid.validate mem
  simp only [loadJson, jsonLoads_written]
  exact items

end

/-! ### What crashes leave of a store -/

/-- The cases for a store whose file had `kept` in it, if there was one. -/
inductive Stage {Record : Type} (m : RecordModel Record) : (kept : Option (List Record)) → Files → Prop where
  | absent (old : Option (List Char)) : Stage m none ⟨[], none, old⟩
  | filling {records done : List Record} (part : done <+: records) (old : Option (List Char)) :
      Stage m (some records) ⟨done.map (row m), some (written m records), old⟩
  | moved (records : List Record) : Stage m (some records) ⟨records.map (row m), none, some (written m records)⟩

/-- What `forward` makes of a store's files. -/
inductive Forwarded {Record : Type} (m : RecordModel Record) (force : Bool) :
    (kept : Option (List Record)) → Files → Files → Prop where
  | skipped {kept f} : f.table ≠ [] → force = false → Forwarded m force kept f f
  | nothing {kept f} : f.json = none → Forwarded m force kept f f
  | migrated {records done old} : done = [] ∨ force = true → Forwarded m force (some records)
      ⟨done.map (row m), some (written m records), old⟩ ⟨records.map (row m), none, some (written m records)⟩

section
variable {Record : EvidenceStore → Type} (m : (name : EvidenceStore) → RecordModel (Record name))
  (lists : (name : EvidenceStore) → Option (List (Record name)))

def AllValid : Prop := ∀ name records, lists name = some records → Valid (m name) records

/-- Before the first run: no tables, and the files as the JSON stores have written them. -/
def Initial (d : Disk) : Prop := ∀ name, (d name).table = [] ∧ (d name).json = (lists name).map (written (m name))

def Staged (d : Disk) : Prop := ∀ name, Stage (m name) (lists name) (d name)

end

section
variable {Record : EvidenceStore → Type} {m : (name : EvidenceStore) → RecordModel (Record name)}
  {lists : (name : EvidenceStore) → Option (List (Record name))} {d : Disk}

theorem Initial.staged (initial : Initial m lists d) : Staged m lists d := by
  intro name
  obtain ⟨table, json⟩ := initial name
  rcases files : d name with ⟨rows, text, old⟩
  rw [files] at table json
  cases kept : lists name with
  | none =>
    rw [kept] at json
    cases table
    cases json
    exact .absent old
  | some records =>
    rw [kept] at json
    cases table
    cases json
    exact .filling (List.nil_prefix) old

theorem Staged.change (staged : Staged m lists d) {name : EvidenceStore} {f : Files → Files}
    (stage : Stage (m name) (lists name) (f (d name))) : Staged m lists (d.change name f) := by
  intro other
  unfold Disk.change
  by_cases same : other = name
  · subst same
    rw [Function.update_self]
    exact stage
  · rw [Function.update_of_ne same]
    exact staged other

/-- Every table a crash leaves loads. -/
theorem Staged.loads (staged : Staged m lists d) (valid : AllValid m lists) (name : EvidenceStore) :
    ∃ existing, sqlLoad (m name) (d name).table = .ok existing := by
  have stage := staged name
  generalize kept : lists name = list at stage
  generalize d name = files at stage
  cases stage with
  | absent old => exact ⟨[], rfl⟩
  | filling part old => exact ⟨_, sqlLoad_rows ((valid name _ kept).part part)⟩
  | moved records => exact ⟨_, sqlLoad_rows (valid name _ kept)⟩

end

/-! ### What the script keeps -/

section
variable {α : Type} {p : Point Disk Empty} {inv : Point Disk Empty → Prop} {X : MigrationError → Point Disk Empty → Prop}

/-- Alone in the process. -/
abbrev alone (inv : Point Disk Empty → Prop) : Discipline Disk Empty := .alone inv fun _ _ => True

theorem mark_safe (holds : inv p) : Script.Safe (alone inv) (fun _ q => q = p) X Transaction.mark p := by
  apply Script.safe_modify
  rintro q rfl _ _
  exact ⟨holds, trivial, rfl⟩

theorem read_safe {f : Disk → α} :
    Script.Safe (alone inv) (fun a q => q = p ∧ f p.state = a) X (Script.read f) p := by
  apply Script.safe_read
  rintro q rfl _
  exact ⟨trivial, rfl, rfl⟩

theorem change_safe {name : EvidenceStore} {f : Files → Files}
    (holds : inv (p.step none (Disk.change name f))) :
    Script.Safe (alone inv) (fun _ q => q.state = p.state.change name f) X (Script.modify none (Disk.change name f)) p := by
  apply Script.safe_modify
  rintro q rfl _ _
  exact ⟨holds, trivial, rfl⟩

theorem ok_safe {r : Except MigrationError α} {a : α} (returns : r = .ok a) :
    Script.Safe (alone inv) (fun b q => q = p ∧ a = b) X (Script.ofExcept r) p := by
  rw [returns]
  exact ⟨rfl, rfl⟩

theorem openStore_safe {Record : Type} {m : RecordModel Record} {name : EvidenceStore} {existing : List Record}
    (holds : inv p) (loads : sqlLoad m (p.state name).table = .ok existing) :
    Script.Safe (alone inv) (fun records q => q = p ∧ existing = records) X (openStore m name) p := by
  apply (mark_safe holds).bind
  rintro _ q rfl
  apply (mark_safe holds).bind
  rintro _ q rfl
  apply (mark_safe holds).bind
  rintro _ q rfl
  apply (mark_safe holds).bind
  rintro _ q rfl
  apply (mark_safe holds).bind
  rintro _ q rfl
  apply read_safe.bind
  rintro _ q ⟨rfl, rfl⟩
  exact ok_safe loads

end

section
variable {Record : EvidenceStore → Type} {m : (name : EvidenceStore) → RecordModel (Record name)}
  {p : Point Disk Empty} {inv : Point Disk Empty → Prop} {X : MigrationError → Point Disk Empty → Prop}

/-- The stores as they are opened: each has its table's records. -/
def Opened (m : (name : EvidenceStore) → RecordModel (Record name)) (d : Disk)
    (stores : List ((name : EvidenceStore) × List (Record name))) : Prop :=
  ∀ s ∈ stores, sqlLoad (m s.1) (d s.1).table = .ok s.2

theorem openStores_safe (holds : inv p) (loads : ∀ name, ∃ existing, sqlLoad (m name) (p.state name).table = .ok existing)
    (names : List EvidenceStore) : Script.Safe (alone inv)
      (fun stores q => q = p ∧ stores.map Sigma.fst = names ∧ Opened m p.state stores) X (openStores m names) p := by
  induction names with
  | nil => exact ⟨rfl, rfl, fun _ mem => by cases mem⟩
  | cons name rest ih =>
    obtain ⟨existing, loaded⟩ := loads name
    apply (openStore_safe holds loaded).bind
    rintro _ q ⟨rfl, rfl⟩
    apply ih.bind
    rintro stores q ⟨rfl, fst, opened⟩
    apply Script.safe_pure
    refine ⟨rfl, by rw [List.map_cons, fst], ?_⟩
    intro s mem
    rcases List.mem_cons.mp mem with rfl | mem
    · exact loaded
    · exact opened s mem

/-- Nothing of the other stores changes. -/
def Elsewhere (name : EvidenceStore) (d d' : Disk) : Prop := ∀ other, other ≠ name → d' other = d other

theorem Elsewhere.change (name : EvidenceStore) (f : Files → Files) (d : Disk) : Elsewhere name d (d.change name f) :=
  fun _ other => Function.update_of_ne other _ _

theorem Elsewhere.trans {name : EvidenceStore} {a b c : Disk} (h : Elsewhere name a b) (h' : Elsewhere name b c) :
    Elsewhere name a c := fun other ne => (h' other ne).trans (h other ne)

/-- **Each store on its own**: what the work on one store is safe to end in, the work on all of them is. -/
theorem eachStore_safe {I : Disk → Prop} {R : EvidenceStore → Files → Files → Prop}
    {work : (name : EvidenceStore) → List (Record name) → MigrationScript Nat}
    (each : ∀ name existing q, I q.state → sqlLoad (m name) (q.state name).table = .ok existing →
      Script.Safe (alone inv) (fun _ r => I r.state ∧ R name (q.state name) (r.state name) ∧
        Elsewhere name q.state r.state) X (work name existing) q)
    {stores : List ((name : EvidenceStore) × List (Record name))} (unique : (stores.map Sigma.fst).Nodup)
    (opened : Opened m p.state stores) (holds : I p.state) :
    Script.Safe (alone inv) (fun _ q => I q.state ∧
      (∀ name ∈ stores.map Sigma.fst, R name (p.state name) (q.state name)) ∧
      ∀ name, name ∉ stores.map Sigma.fst → q.state name = p.state name) X (eachStore work stores) p := by
  induction stores generalizing p with
  | nil => exact Script.safe_pure ⟨holds, fun _ mem => absurd mem List.not_mem_nil, fun _ _ => rfl⟩
  | cons s rest ih =>
    rw [List.map_cons, List.nodup_cons] at unique
    apply (each s.1 s.2 p holds (opened s List.mem_cons_self)).bind
    rintro changed q ⟨holds', worked, elsewhere⟩
    have opened' : Opened m q.state rest := by
      intro t mem
      have other : t.1 ≠ s.1 := fun same => unique.1 (same ▸ List.mem_map_of_mem mem)
      rw [elsewhere t.1 other]
      exact opened t (List.mem_cons_of_mem s mem)
    apply (ih unique.2 opened' holds').bind
    rintro more r ⟨holds'', inside, outside⟩
    apply Script.safe_pure
    refine ⟨holds'', ?_, ?_⟩
    · intro name mem
      rcases List.mem_cons.mp mem with rfl | mem
      · rw [outside _ unique.1]
        exact worked
      · have other : name ≠ s.1 := fun same => unique.1 (same ▸ mem)
        rw [← elsewhere name other]
        exact inside name mem
    · intro name not_mem
      rw [List.map_cons, List.mem_cons, not_or] at not_mem
      rw [outside name not_mem.2, elsewhere name not_mem.1]

end

/-! ### One store -/

section
variable {Record : EvidenceStore → Type} {m : (name : EvidenceStore) → RecordModel (Record name)}
  {lists : (name : EvidenceStore) → Option (List (Record name))} {p : Point Disk Empty}
  {inv : Point Disk Empty → Prop} {X : MigrationError → Point Disk Empty → Prop} {name : EvidenceStore}
  {records : List (Record name)}

/-- A change that leaves a case of `Stage` for this store. -/
theorem staged_safe (keeps : ∀ q : Point Disk Empty, Staged m lists q.state → inv q) (staged : Staged m lists p.state)
    {f : Files → Files} {files : Files} (same : f (p.state name) = files) (stage : Stage (m name) (lists name) files) :
    Script.Safe (alone inv) (fun _ q => Staged m lists q.state ∧ q.state name = files ∧ Elsewhere name p.state q.state) X
      (Script.modify none (Disk.change name f)) p := by
  have changed : Staged m lists (p.state.change name f) := staged.change (same ▸ stage)
  apply (change_safe (keeps (p.step none (Disk.change name f)) changed)).mono
  · rintro _ q is
    rw [is]
    refine ⟨changed, ?_, .change name f p.state⟩
    rw [Disk.change, Function.update_self, same]
  · exact fun _ _ raised => raised

/-- **The records are inserted one by one**, and each prefix of them is a case of `Stage`. -/
theorem saveAll_safe (keeps : ∀ q : Point Disk Empty, Staged m lists q.state → inv q) (kept : lists name = some records)
    (valid : Valid (m name) records) {done todo : List (Record name)} {old : Option (List Char)}
    (whole : done ++ todo = records) (staged : Staged m lists p.state)
    (files : p.state name = ⟨done.map (row (m name)), some (written (m name) records), old⟩) :
    Script.Safe (alone inv) (fun _ q => Staged m lists q.state ∧
        q.state name = ⟨records.map (row (m name)), some (written (m name) records), old⟩ ∧
        Elsewhere name p.state q.state) X (saveAll (m name) name (todo.map (m name).dump)) p := by
  induction todo generalizing done p with
  | nil =>
    rw [List.append_nil] at whole
    subst whole
    exact Script.safe_pure ⟨staged, files, fun _ _ => rfl⟩
  | cons r todo ih =>
    have part : done ++ [r] <+: records := ⟨todo, by rw [List.append_assoc]; exact whole⟩
    apply (ok_safe (valid.validate (part.subset (List.mem_append_right done List.mem_cons_self)))).bind
    rintro _ q ⟨rfl, rfl⟩
    have saved : Script.Safe (alone inv) (fun _ s => Staged m lists s.state ∧
        s.state name = ⟨(done ++ [r]).map (row (m name)), some (written (m name) records), old⟩ ∧
        Elsewhere name q.state s.state) X (save (m name) name r) q := by
      apply (mark_safe (keeps q staged)).bind
      rintro _ s rfl
      apply staged_safe keeps staged
      · rw [files, List.map_append]
        rfl
      · rw [kept]
        exact .filling part old
    apply saved.bind
    rintro _ s ⟨staged', files', elsewhere⟩
    apply (ih (by rw [List.append_assoc]; exact whole) staged' files').mono
    · rintro _ t ⟨staged'', files'', elsewhere'⟩
      exact ⟨staged'', files'', elsewhere.trans elsewhere'⟩
    · exact fun _ _ raised => raised

theorem clearIf_safe (keeps : ∀ q : Point Disk Empty, Staged m lists q.state → inv q) (kept : lists name = some records)
    {done : List (Record name)} {old : Option (List Char)} (staged : Staged m lists p.state)
    (files : p.state name = ⟨done.map (row (m name)), some (written (m name) records), old⟩) (force : Bool)
    (admitted : ¬(done ≠ [] ∧ ¬force)) :
    Script.Safe (alone inv) (fun _ q => Staged m lists q.state ∧
      q.state name = ⟨[], some (written (m name) records), old⟩ ∧ Elsewhere name p.state q.state) X
      (clearIf (done ≠ [] ∧ force) name) p := by
  unfold clearIf
  by_cases rows : done ≠ [] ∧ force
  · rw [if_pos rows]
    apply (mark_safe (keeps p staged)).bind
    rintro _ q rfl
    apply staged_safe keeps staged
    · rw [files]
    · rw [kept]
      exact Stage.filling (List.nil_prefix : [] <+: records) old
  · have empty : done = [] := by
      by_contra some_
      exact admitted ⟨some_, fun forced => rows ⟨some_, forced⟩⟩
    rw [if_neg rows]
    subst empty
    exact Script.safe_pure ⟨staged, files, fun _ _ => rfl⟩

theorem readText_safe {text : List Char} (there : (p.state name).json = some text) :
    Script.Safe (alone inv) (fun read q => q = p ∧ text = read) X (readText name) p := by
  apply read_safe.bind
  rintro _ q ⟨rfl, rfl⟩
  rw [there]
  exact Script.safe_pure ⟨rfl, rfl⟩

theorem forwardStore_safe (keeps : ∀ q : Point Disk Empty, Staged m lists q.state → inv q) (valid : AllValid m lists)
    (force : Bool) (name : EvidenceStore) (existing : List (Record name)) (staged : Staged m lists p.state)
    (opened : sqlLoad (m name) (p.state name).table = .ok existing) :
    Script.Safe (alone inv) (fun _ q => Staged m lists q.state ∧
        Forwarded (m name) force (lists name) (p.state name) (q.state name) ∧ Elsewhere name p.state q.state) X
      (forwardStore (m name) force name existing) p := by
  have stage := staged name
  generalize kept : lists name = list at stage ⊢
  generalize files : p.state name = before at stage opened ⊢
  have same : ∀ q, q = p → Forwarded (m name) force list before before → Staged m lists q.state ∧
      Forwarded (m name) force list before (q.state name) ∧ Elsewhere name p.state q.state := by
    rintro q rfl unchanged
    exact ⟨staged, files ▸ unchanged, fun _ _ => rfl⟩
  unfold forwardStore
  cases stage with
  | absent old =>
    cases opened
    rw [if_neg (by simp)]
    apply read_safe.bind
    rintro _ q ⟨rfl, rfl⟩
    rw [files]
    exact Script.safe_pure (same _ rfl (.nothing rfl))
  | @filling records done part old =>
    obtain rfl : done = existing := Except.ok.inj ((sqlLoad_rows ((valid name _ kept).part part)).symm.trans opened)
    by_cases skip : done ≠ [] ∧ ¬force
    · rw [if_pos skip]
      apply Script.safe_pure
      apply same _ rfl
      exact .skipped (by simpa using skip.1) (by simpa using skip.2)
    · rw [if_neg skip]
      apply read_safe.bind
      rintro _ q ⟨rfl, rfl⟩
      rw [files, if_neg (by simp)]
      apply (clearIf_safe keeps kept staged files force skip).bind
      rintro _ q ⟨staged', files', elsewhere⟩
      apply (readText_safe (congrArg Files.json files')).bind
      rintro _ r ⟨rfl, rfl⟩
      apply (ok_safe (jsonLoads_written (m name) records)).bind
      rintro _ r ⟨rfl, rfl⟩
      apply (ok_safe (a := records.map (m name).dump) rfl).bind
      rintro _ r ⟨rfl, rfl⟩
      apply (saveAll_safe keeps kept (valid name records kept) (List.nil_append records) staged' files').bind
      rintro _ s ⟨staged'', files'', elsewhere'⟩
      have renamed : Script.Safe (alone inv) (fun _ t => Staged m lists t.state ∧
          t.state name = ⟨records.map (row (m name)), none, some (written (m name) records)⟩ ∧
          Elsewhere name s.state t.state) X (rename name) s := by
        apply staged_safe keeps staged''
        · rw [files'']
        · rw [kept]
          exact .moved records
      apply renamed.bind
      rintro _ t ⟨staged₃, files₃, elsewhere''⟩
      apply Script.safe_pure
      refine ⟨staged₃, ?_, (elsewhere.trans elsewhere').trans elsewhere''⟩
      rw [files₃]
      apply Forwarded.migrated
      by_cases forced : force = true
      · exact .inr forced
      · exact .inl (by simpa [forced] using skip)
  | moved records =>
    obtain rfl : records = existing := Except.ok.inj ((sqlLoad_rows (valid name _ kept)).symm.trans opened)
    by_cases skip : records ≠ [] ∧ ¬force
    · rw [if_pos skip]
      apply Script.safe_pure
      apply same _ rfl
      exact .skipped (by simpa using skip.1) (by simpa using skip.2)
    · rw [if_neg skip]
      apply read_safe.bind
      rintro _ q ⟨rfl, rfl⟩
      rw [files]
      exact Script.safe_pure (same _ rfl (.nothing rfl))

/-- What `reverse` makes of a store's file. -/
def Reversed {Record : Type} (m : RecordModel Record) (before after : Files) : Prop :=
  ∀ records, sqlLoad m before.table = .ok records →
    after.json = if records.isEmpty then before.json else some (written m records)

theorem writeText_safe {text : List Char} :
    Script.Safe (alone fun _ => True) (fun _ q => (q.state name).json = some text ∧ Elsewhere name p.state q.state) X
      (writeText name text) p := by
  have truncate : Script.Safe (alone fun _ => True) _ X
      (Script.modify none (Disk.change name fun f => { f with json := some [] })) p := change_safe trivial
  apply truncate.bind
  intro _ q truncated
  have write : Script.Safe (alone fun _ => True) _ X
      (Script.modify none (Disk.change name fun f => { f with json := some text })) q := change_safe trivial
  apply write.mono
  · intro _ r rewritten
    rw [rewritten]
    constructor
    · rw [Disk.change, Function.update_self]
    · rw [truncated]
      exact (Elsewhere.change name _ p.state).trans (.change name _ _)
  · exact fun _ _ raised => raised

theorem reverseStore_safe (name : EvidenceStore) (existing : List (Record name))
    (opened : sqlLoad (m name) (p.state name).table = .ok existing) :
    Script.Safe (alone fun _ => True) (fun _ q => True ∧ Reversed (m name) (p.state name) (q.state name) ∧
      Elsewhere name p.state q.state) X (reverseStore (m name) name existing) p := by
  unfold reverseStore
  by_cases none_ : existing = []
  · rw [if_pos none_]
    apply Script.safe_pure
    refine ⟨trivial, ?_, fun _ _ => rfl⟩
    intro records loaded
    cases opened.symm.trans loaded
    rw [none_]
    rfl
  · rw [if_neg none_]
    apply writeText_safe.bind
    rintro _ q ⟨rewritten, elsewhere⟩
    apply Script.safe_pure
    refine ⟨trivial, ?_, elsewhere⟩
    intro records loaded
    cases opened.symm.trans loaded
    rw [rewritten, if_neg (by simpa using none_)]

end

/-! ### Whole runs -/

section
variable {Record : EvidenceStore → Type} {m : (name : EvidenceStore) → RecordModel (Record name)}
  {lists : (name : EvidenceStore) → Option (List (Record name))} {p : Point Disk Empty}
  {inv : Point Disk Empty → Prop} {X : MigrationError → Point Disk Empty → Prop}

theorem mem_specs (name : EvidenceStore) : name ∈ specs := by cases name <;> decide

theorem forward_safe (keeps : ∀ q : Point Disk Empty, Staged m lists q.state → inv q) (valid : AllValid m lists)
    (staged : Staged m lists p.state) (force : Bool) :
    Script.Safe (alone inv) (fun _ q => Staged m lists q.state ∧
      ∀ name, Forwarded (m name) force (lists name) (p.state name) (q.state name)) X (forward m force) p := by
  apply (openStores_safe (keeps p staged) (staged.loads valid) specs).bind
  rintro stores q ⟨rfl, names, opened⟩
  have each := eachStore_safe (I := Staged m lists)
    (R := fun name before after => Forwarded (m name) force (lists name) before after)
    (fun name existing q staged' opened' =>
      forwardStore_safe (p := q) (X := X) keeps valid force name existing staged' opened')
    (names ▸ (by decide : specs.Nodup)) opened staged
  apply each.mono
  · rintro _ r ⟨staged', forwarded, -⟩
    exact ⟨staged', fun name => forwarded name (names ▸ mem_specs name)⟩
  · exact fun _ _ raised => raised

theorem reverse_safe (loads : ∀ name, ∃ existing, sqlLoad (m name) (p.state name).table = .ok existing) :
    Script.Safe (alone fun _ => True) (fun _ q => ∀ name, Reversed (m name) (p.state name) (q.state name)) X
      (reverse m) p := by
  apply (openStores_safe trivial loads specs).bind
  rintro stores q ⟨rfl, names, opened⟩
  have each := eachStore_safe (I := fun _ => True) (R := fun name => Reversed (m name))
    (fun name existing q _ opened' => reverseStore_safe (p := q) (X := X) name existing opened')
    (names ▸ (by decide : specs.Nodup)) opened trivial
  apply each.mono
  · rintro _ r ⟨-, reversed, -⟩
    exact fun name => reversed name (names ▸ mem_specs name)
  · exact fun _ _ raised => raised

end

/-- A script that is safe and does not raise returns. -/
theorem safe_returns {α : Type} {x : MigrationScript α} {Q : α → Point Disk Empty → Prop} {d : Disk}
    (safe : Script.Safe (alone fun _ => True) Q (fun _ _ => False) x ⟨d, []⟩) :
    ∃ a q, Script.exec x d = (.ok a, q.state) ∧ Q a q := by
  obtain ⟨q, state, ends⟩ := Program.Safe.run safe
  rcases ran : Script.exec x d with ⟨_ | a, d'⟩
  · have run : Program.run x d = _ := ran
    rw [run] at ends
    exact ends.elim
  · have run : Program.run x d = _ := ran
    rw [run] at ends state
    exact ⟨a, q, by rw [state], ends⟩

section
variable {Record : EvidenceStore → Type} (m : (name : EvidenceStore) → RecordModel (Record name))

/-- After a crash nothing runs until `forward` is started again. -/
def interrupted : Serial.Recovery Disk Empty (Except MigrationError Nat) := ⟨fun d d' => d' = d, .done (.ok 0)⟩

/-- Runs of `forward`, each of which may crash between any two of its statements. -/
abbrev MigrationRun := Serial.Reach (S := Disk) (L := Empty) (fun x _ => ∃ force, x = forward m force) (fun _ _ => True)
  interrupted

/-- No run yet. -/
def unmigrated (d : Disk) : Serial Disk Empty (Except MigrationError Nat) := ⟨none, ⟨d, []⟩⟩

/-- The table loads as these records, and once `reverse` has run, the file does. -/
def Restored (name : EvidenceStore) (records : List (Record name)) (d : Disk) : Prop :=
  sqlLoad (m name) (d name).table = .ok records ∧
    ∃ n d', Script.exec (reverse m) d = (.ok n, d') ∧ loadJson (m name) (d' name).json = .ok records ∧
      (records ≠ [] → (d' name).json.bind Json.loads = some (.array (records.map (m name).dump)))

end

section
variable {Record : EvidenceStore → Type} {m : (name : EvidenceStore) → RecordModel (Record name)}
  {lists : (name : EvidenceStore) → Option (List (Record name))} {start : Disk}
  {c : Serial Disk Empty (Except MigrationError Nat)} {name : EvidenceStore} {records : List (Record name)} {d : Disk}

theorem MigrationRun.staged (valid : AllValid m lists) (initial : Initial m lists start)
    (run : MigrationRun m (unmigrated start) c) : Staged m lists c.point.state := by
  have starts : Serial.Sound (fun p => Staged m lists p.state) (fun _ => True) (fun _ _ => True) (unmigrated start) :=
    ⟨initial.staged, trivial⟩
  refine (Serial.reach_sound ?_ ?_ run starts).1
  · rintro x p ⟨force, rfl⟩ staged _
    apply Program.Safe.mono (forward_safe (X := fun _ _ => True) (fun _ staged => staged) valid staged force)
    exact fun _ _ _ => trivial
  · rintro p s staged rfl
    exact ⟨staged, trivial⟩

theorem MigrationRun.crash {c c' : Serial Disk Empty (Except MigrationError Nat)} (run : MigrationRun m c c') :
    MigrationRun m c ⟨some interrupted.restart, c'.point⟩ := run.tail (.crash rfl)

theorem Staged.restored (staged : Staged m lists d) (valid : AllValid m lists) (kept : lists name = some records)
    (full : (d name).table = records.map (row (m name))) : Restored m name records d := by
  have loads : sqlLoad (m name) (d name).table = .ok records := full ▸ sqlLoad_rows (valid name records kept)
  apply And.intro loads
  obtain ⟨n, q, ran, reversed⟩ := safe_returns (reverse_safe (p := ⟨d, []⟩) (X := fun _ _ => False) (staged.loads valid))
  refine ⟨n, q.state, ran, ?_⟩
  have json : (q.state name).json = if records.isEmpty then (d name).json else some (written (m name) records) :=
    reversed name records loads
  cases records with
  | nil =>
    have stage := staged name
    rw [kept] at stage
    rw [List.isEmpty_nil, if_pos rfl] at json
    rw [json]
    generalize d name = before at stage ⊢
    refine ⟨?_, fun some_ => absurd rfl some_⟩
    cases stage with
    | filling part old => exact loadJson_written (valid name [] kept)
    | moved => rfl
  | cons r rest =>
    rw [json]
    exact ⟨loadJson_written (valid name _ kept), fun _ => Json.loads_indented _⟩

/-- Whether a run of `forward` takes up this store, or finds nothing left to do: it is forced, or the table is empty
or complete. -/
def Taken (force : Bool) (records : List (Record name)) (files : Files) : Prop :=
  force = true ∨ files.table = [] ∨ files.table.length = records.length

theorem Forwarded.full {force : Bool} {before after : Files}
    (forwarded : Forwarded (m name) force (some records) before after)
    (stage : Stage (m name) (some records) before) (taken : Taken force records before) :
    after.table = records.map (row (m name)) := by
  cases forwarded with
  | skipped rows unforced =>
    have complete : before.table.length = records.length := by
      rcases taken with forced | empty | complete
      · rw [forced] at unforced
        cases unforced
      · exact absurd empty rows
      · exact complete
    cases stage with
    | filling part old =>
      rw [List.length_map] at complete
      rw [part.eq_of_length complete]
    | moved => rfl
  | nothing gone =>
    cases stage with
    | filling part old => cases gone
    | moved => rfl
  | migrated _ => rfl

theorem Forwarded.untouched {force : Bool} {before after : Files}
    (forwarded : Forwarded (m name) force (some records) before after) (not_taken : ¬Taken force records before) :
    after = before := by
  cases forwarded with
  | skipped _ _ => rfl
  | nothing _ => rfl
  | migrated admitted =>
    exfalso
    apply not_taken
    rcases admitted with rfl | forced
    · exact .inr (.inl rfl)
    · exact .inl forced

/-- **The migration loses nothing and can be run again**: after any number of runs that crashed anywhere, `forward`
returns; where it is forced, or finds the table empty or complete, the table has the records and `reverse` writes
them back; otherwise it leaves the store as it is. -/
theorem migration_lossless (valid : AllValid m lists) (initial : Initial m lists start)
    (run : MigrationRun m (unmigrated start) c) (force : Bool) (kept : lists name = some records) :
    ∃ n d, Script.exec (forward m force) c.point.state = (.ok n, d) ∧
      (Taken force records (c.point.state name) → Restored m name records d) ∧
      (¬Taken force records (c.point.state name) → d name = c.point.state name) := by
  have staged := run.staged valid initial
  obtain ⟨n, q, ran, staged', forwarded⟩ := safe_returns
    (forward_safe (p := ⟨c.point.state, []⟩) (X := fun _ _ => False) (fun _ _ => trivial) valid staged force)
  have here := forwarded name
  have stage := staged name
  rw [kept] at here stage
  exact ⟨n, q.state, ran, fun taken => staged'.restored valid kept (here.full stage taken), here.untouched⟩

end

/-- As the migration is documented: the table has the records, and `reverse` writes them back to the file. -/
def Lossless {Record : EvidenceStore → Type} (m : (name : EvidenceStore) → RecordModel (Record name)) (force : Bool)
    (name : EvidenceStore) (records : List (Record name)) (d : Disk) : Prop :=
  ∃ n d', Script.exec (forward m force) d = (.ok n, d') ∧ sqlLoad (m name) (d' name).table = .ok records ∧
    ∃ n' d'', Script.exec (reverse m) d' = (.ok n', d'') ∧
      (d'' name).json.bind Json.loads = some (.array (records.map (m name).dump))

namespace Sample

/-- A verification that observed nothing. -/
structure Verification where
  verificationId : String
  executionId : String
  status : String
  reason : String
  /-- The time without its zone, which is UTC. -/
  createdAt : String
deriving DecidableEq

def string : Option Json → Option String
  | some (.string s) => some s
  | _ => none

def absent : Option Json → Option Unit
  | none => some ()
  | some .null => some ()
  | _ => none

def utc (text : String) : Option String :=
  if text.toList.getLast? = some 'Z' then some (String.ofList text.toList.dropLast) else none

def readVerification (members : List (String × Json)) : Option Verification := do
  absent (members.lookup "expected")
  absent (members.lookup "observed")
  some
    { verificationId := ← string (members.lookup "verification_id")
      executionId := ← string (members.lookup "execution_id")
      status := ← string (members.lookup "status")
      reason := ← string (members.lookup "reason")
      createdAt := ← utc (← string (members.lookup "created_at")) }

def model : RecordModel Verification where
  dump v := .object [("verification_id", .string v.verificationId), ("execution_id", .string v.executionId),
    ("status", .string v.status), ("expected", .null), ("observed", .null), ("reason", .string v.reason),
    ("created_at", .string (v.createdAt ++ "Z"))]
  validate
    | .object members => readVerification members
    | _ => none
  keyOf v := some v.executionId
  createdAtOf v := some (v.createdAt ++ "+00:00")

def first : Verification := ⟨"v1", "e1", "verified_success", "ok", "2026-09-09T10:00:00"⟩

def second : Verification := ⟨"v2", "e2", "verification_failure", "", "2026-09-09T10:00:01"⟩

/-- The verifications are all there is. -/
def lists (records : List Verification) : (name : EvidenceStore) → Option (List Verification)
  | .verifications => some records
  | _ => none

def disk (records : List Verification) : Disk := fun name => ⟨[], (lists records name).map (written model), none⟩

/-- A first run that has inserted one record, and not the other. -/
def halfway : Serial Disk Empty (Except MigrationError Nat) :=
  Serial.advance 46 ⟨some (forward (fun _ => model) false), ⟨disk [first, second], []⟩⟩

/-- It has crashed there. -/
def crashed : Serial Disk Empty (Except MigrationError Nat) := ⟨some interrupted.restart, halfway.point⟩

theorem utc_zone (text : String) : utc (text ++ "Z") = some text := by
  have chars : (text ++ "Z").toList = text.toList ++ ['Z'] := String.toList_append
  unfold utc
  rw [chars, List.getLast?_concat, if_pos rfl, List.dropLast_concat, String.ofList_toList]

theorem valid (records : List Verification) : AllValid (fun _ => model) (lists records) := by
  intro name list kept v mem
  show readVerification _ = some v
  have zone := utc_zone v.createdAt
  simp [readVerification, List.lookup_cons, absent, string, zone]

theorem initial (records : List Verification) : Initial (fun _ => model) (lists records) (disk records) := fun _ =>
  ⟨rfl, rfl⟩

theorem crashed_run : MigrationRun (fun _ => model) (unmigrated (disk [first, second])) crashed := by
  have run : MigrationRun (fun _ => model) (unmigrated (disk [first, second])) halfway := by
    apply Relation.ReflTransGen.head (.call (forward (fun _ => model) false) ⟨false, rfl⟩)
    exact Serial.advance_reach _ interrupted 46 _
  exact run.crash

end Sample

open Sample in
/-- The migration that crashed between the two records, run again by force. -/
theorem migration_lossless_forced : ∃ n d, Script.exec (forward (fun _ => model) true) crashed.point.state = (.ok n, d) ∧
    Restored (fun _ => model) .verifications [first, second] d := by
  have kept : lists [first, second] .verifications = some [first, second] := rfl
  obtain ⟨n, d, ran, restored, -⟩ :=
    migration_lossless (valid [first, second]) (initial [first, second]) crashed_run true kept
  exact ⟨n, d, ran, restored (.inl rfl)⟩

open Sample in
/-- **What is not migrated**: run again without force, the rest of the records; and an empty list is not written back. -/
theorem migration_lossy :
    (AllValid (fun _ => model) (lists [first, second]) ∧
      Initial (fun _ => model) (lists [first, second]) (disk [first, second]) ∧
      MigrationRun (fun _ => model) (unmigrated (disk [first, second])) crashed ∧
      ¬Lossless (fun _ => model) false .verifications [first, second] crashed.point.state) ∧
    (AllValid (fun _ => model) (lists []) ∧ Initial (fun _ => model) (lists []) (disk []) ∧
      ¬Lossless (fun _ => model) false .verifications [] (disk [])) := by
  refine ⟨⟨valid _, initial _, crashed_run, ?_⟩, valid _, initial _, ?_⟩
  · rintro ⟨n, d, ran, loads, -⟩
    have skips : sqlLoad model ((Script.exec (forward (fun _ => model) false) crashed.point.state).2 .verifications).table =
        .ok [first] := by decide +kernel
    rw [ran] at skips
    have same := loads.symm.trans skips
    revert same
    decide
  · rintro ⟨n, d, ran, -, n', d', ran', json⟩
    have gone : ((Script.exec (reverse fun _ => model) (Script.exec (forward (fun _ => model) false) (disk [])).2).2
        .verifications).json = none := by decide +kernel
    rw [ran] at gone
    simp only at gone
    rw [ran'] at gone
    simp only at gone
    rw [gone] at json
    cases json

end RmtPlatform.Ops.EvidenceMigration
