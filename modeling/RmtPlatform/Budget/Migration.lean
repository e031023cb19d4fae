import RmtPlatform.Process.Safety
import RmtPlatform.Data.Json

/-! `init_storage` and the crashes it may meet.

The file is the rows of `schema_version`, if there is that table, and the tables
and indexes in the order they were created. Outside a transaction every statement
is durable on its own, so a crash leaves the file as the last finished statement
left it, and the next start runs `init_storage` on that. -/
namespace RmtPlatform.Budget

/-! ### The schema -/

/-- A statement of the migration. -/
inductive SchemaObject where
  | table (name : String) (columns : List String)
  | index (name on : String) (columns : List String)
deriving DecidableEq

def SchemaObject.name : SchemaObject → String
  | table name _ => name
  | index name _ _ => name

def firstTable : SchemaObject := .table "organizations" ["id", "name", "currency", "bootstrap_principal", "created_at"]

/-- `_migrate_v1`, statement by statement. -/
def migrationV1 : List SchemaObject :=
  [firstTable,
    .table "budgets" ["id", "organization_id", "name", "owner_type", "owner_name", "period_start", "period_end",
      "currency", "status", "created_at"],
    .table "role_assignments" ["id", "organization_id", "budget_id", "principal", "role", "created_at"],
    .table "purchase_requests" ["id", "organization_id", "budget_id", "requester", "status", "current_version",
      "created_at", "updated_at"],
    .table "purchase_request_versions" ["request_id", "version", "amount_minor", "currency", "purpose",
      "supporting_reference", "created_by", "created_at"],
    .table "domain_decisions" ["id", "request_id", "request_version", "decision", "decided_by", "reason",
      "instruction_digest", "action_json", "balance_evidence_minor", "created_at"],
    .table "ledger_entries" ["id", "organization_id", "budget_id", "entry_type", "amount_minor", "currency",
      "request_id", "request_version", "related_entry_id", "correction_of", "instruction_digest", "execution_id",
      "actor", "created_at"],
    .table "idempotency_receipts" ["instruction_digest", "idempotency_key", "content_digest", "parameters_json",
      "execution_id", "ledger_entry_id", "mutation_type", "request_id", "request_version", "available_minor",
      "currency", "created_at"],
    .table "financial_verifications" ["id", "execution_id", "instruction_digest", "status", "reason",
      "expected_available_minor", "observed_available_minor", "ledger_entry_id", "created_at"],
    .index "idx_roles_principal" "role_assignments" ["principal"],
    .index "idx_requests_budget" "purchase_requests" ["budget_id"],
    .index "idx_decisions_request" "domain_decisions" ["request_id", "request_version"],
    .index "idx_ledger_budget" "ledger_entries" ["budget_id", "created_at"],
    .index "idx_one_correction" "ledger_entries" ["correction_of"],
    .index "idx_receipts_execution" "idempotency_receipts" ["execution_id"]]

structure SchemaFile where
  /-- The rows of `schema_version`. -/
  versions : Option (List Int)
  objects : List SchemaObject
deriving DecidableEq

namespace SchemaFile

/-- Before the first start. -/
def fresh : SchemaFile := ⟨none, []⟩

/-- Schema version 1 is recorded, and every table and index is there. -/
def Complete (f : SchemaFile) : Prop := f.versions = some [1] ∧ f.objects = migrationV1

/-- Something of the migration is there, and no version that tells of it. -/
def HalfMigrated (f : SchemaFile) : Prop := f.objects ≠ [] ∧ f.versions ≠ some [1]

instance (f : SchemaFile) : Decidable f.Complete := by
  unfold Complete
  infer_instance

instance (f : SchemaFile) : Decidable f.HalfMigrated := by
  unfold HalfMigrated
  infer_instance

/-- The columns of a table. -/
def columns? (f : SchemaFile) (name : String) : Option (List String) :=
  f.objects.findSome? fun
    | .table n columns => if n = name then some columns else none
    | .index _ _ _ => none

end SchemaFile

/-! ### The program -/

inductive InitError where
  | operational (message : String)
  | runtime (message : String)
deriving DecidableEq

abbrev InitScript (α : Type) := Script SchemaFile Empty InitError α

/-- `CREATE TABLE` and `CREATE INDEX`, neither of them `IF NOT EXISTS`. -/
def createObject (f : SchemaFile) (o : SchemaObject) : Except InitError SchemaFile :=
  if f.objects.any fun p => p.name = o.name then
    .error (.operational (match o with
      | .table name _ => "table " ++ name ++ " already exists"
      | .index name _ _ => "index " ++ name ++ " already exists"))
  else match o with
    | .table _ _ => .ok { f with objects := f.objects ++ [o] }
    | .index _ on wanted => match f.columns? on with
      | none => .error (.operational ("no such table: main." ++ on))
      | some columns => match wanted.find? (· ∉ columns) with
        | some column => .error (.operational ("table " ++ on ++ " has no column named " ++ column))
        | none => .ok { f with objects := f.objects ++ [o] }

def create (o : SchemaObject) : InitScript Unit := Script.step none fun f => (createObject f o).map fun f' => ((), f')

/-- What is left of the script `_migrate_v1` runs. -/
def migrate : List SchemaObject → InitScript Unit
  | [] => pure ()
  | o :: rest => do
    create o
    migrate rest

def SCHEMA_VERSION : Int := 1

/-- `CREATE TABLE IF NOT EXISTS schema_version`. -/
def createVersions : InitScript Unit := Script.modify none fun f => { f with versions := some (f.versions.getD []) }

def selectVersion : InitScript (Option Int) := Script.read fun f => (f.versions.getD []).head?

/-- `INSERT INTO schema_version(version) VALUES (0)`. -/
def insertVersion : InitScript Unit := Script.modify none fun f => { f with versions := f.versions.map (· ++ [0]) }

/-- `UPDATE schema_version SET version = 1`. -/
def stampVersion : InitScript Unit :=
  Script.modify none fun f => { f with versions := f.versions.map fun rows => rows.map fun _ => 1 }

/-- `if current < 1`. -/
def upgrade (current : Int) : InitScript Unit :=
  if current < 1 then do
    migrate migrationV1
    stampVersion
  else pure ()

def initStorage : InitScript Unit := do
  createVersions
  let row ← selectVersion
  match row with
  | some version =>
    if SCHEMA_VERSION < version then
      throw (.runtime ("Budget database schema " ++ String.ofList (Json.renderInt version) ++
        " is newer than supported schema " ++ String.ofList (Json.renderInt SCHEMA_VERSION)))
    else upgrade version
  | none => do
    insertVersion
    upgrade 0

/-- Running `init_storage` returns and leaves the whole schema. -/
def Restarts (f : SchemaFile) : Prop := ∃ f', Script.exec initStorage f = (.ok (), f') ∧ f'.Complete

/-- A process that does nothing but `init_storage`; a crash may come before or
after any of its statements, and the next start runs it again on the same file. -/
def initRecovery : Serial.Recovery SchemaFile Empty (Except InitError Unit) := ⟨fun f f' => f' = f, initStorage⟩

abbrev InitRun := Serial.Reach (S := SchemaFile) (L := Empty) (fun _ _ => False) (fun _ _ => True) initRecovery

/-! ### The files a crash can leave -/

inductive SchemaFile.Stage : SchemaFile → Prop where
  | fresh : Stage .fresh
  | unversioned : Stage ⟨some [], []⟩
  | migrating (n : Nat) : Stage ⟨some [0], migrationV1.take n⟩
  | stamped : Stage ⟨some [1], migrationV1⟩

/-- Each statement runs on what those before it have created. -/
theorem createObject_next (n : Fin migrationV1.length) :
    createObject ⟨some [0], migrationV1.take n⟩ migrationV1[n] = .ok ⟨some [0], migrationV1.take (n + 1)⟩ := by
  revert n
  decide +kernel

/-- The first one does not run on what it has created itself. -/
theorem createObject_again (n : Nat) :
    createObject ⟨some [0], migrationV1.take (n + 1)⟩ firstTable
      = .error (.operational "table organizations already exists") := by
  simp [createObject, migrationV1, firstTable, SchemaObject.name]

section
variable {p : Point SchemaFile Empty}

/-- Alone in the process, and every statement leaves one of those files. -/
abbrev staged : Discipline SchemaFile Empty := .alone (fun p => p.state.Stage) fun _ _ => True

theorem create_safe {o : SchemaObject} {f : SchemaFile} (at_ : createObject p.state o = .ok f) (stage : f.Stage) :
    Script.Safe staged (fun _ q => q.state = f) (fun _ q => q.state.Stage) (create o) p := by
  apply Script.safe_step
  rintro q rfl _ _
  rw [at_]
  exact ⟨stage, trivial, rfl⟩

theorem migrate_safe {n : Nat} (bound : n ≤ migrationV1.length) (at_ : p.state = ⟨some [0], migrationV1.take n⟩) :
    Script.Safe staged (fun _ q => q.state = ⟨some [0], migrationV1⟩) (fun _ q => q.state.Stage)
      (migrate (migrationV1.drop n)) p := by
  induction hk : migrationV1.length - n generalizing n p with
  | zero =>
    obtain rfl : n = migrationV1.length := by omega
    rw [List.drop_length]
    rw [List.take_length] at at_
    exact Script.safe_pure at_
  | succ k ih =>
    have lt : n < migrationV1.length := by omega
    rw [List.drop_eq_getElem_cons lt]
    apply Script.safe_bind
    have next := createObject_next ⟨n, lt⟩
    apply (create_safe (p := p) (at_ ▸ next) (.migrating (n + 1))).mono
    · intro _ q at'
      exact ih lt at' (by omega)
    · exact fun _ _ stage => stage

theorem stampVersion_safe (at_ : p.state = ⟨some [0], migrationV1⟩) :
    Script.Safe staged (fun _ q => q.state.Stage) (fun _ q => q.state.Stage) stampVersion p := by
  apply Script.safe_modify
  rintro q rfl _ _
  have stamps : (p.step none fun f : SchemaFile =>
      { f with versions := f.versions.map fun rows => rows.map fun _ => 1 }).state.Stage := by
    rw [Point.step, at_]
    exact .stamped
  exact ⟨stamps, trivial, stamps⟩

theorem upgrade_safe {n : Nat} (at_ : p.state = ⟨some [0], migrationV1.take n⟩) :
    Script.Safe staged (fun _ q => q.state.Stage) (fun _ q => q.state.Stage) (upgrade 0) p := by
  unfold upgrade
  rw [if_pos (by decide)]
  apply Script.safe_bind
  cases n with
  | zero =>
    apply (migrate_safe (Nat.zero_le _) at_).mono
    · exact fun _ _ done => stampVersion_safe done
    · exact fun _ _ stage => stage
  | succ n =>
    -- The first `CREATE TABLE` of the script is the one that raises.
    apply Script.safe_bind
    apply Script.safe_step
    rintro q rfl inv _
    have again := createObject_again n
    rw [at_, again]
    exact ⟨inv, trivial, inv⟩

theorem initStorage_safe (stage : p.state.Stage) :
    Script.Safe staged (fun _ q => q.state.Stage) (fun _ q => q.state.Stage) initStorage p := by
  have versions_there : ∀ q : Point SchemaFile Empty, q.state.Stage → q.state.versions ≠ none →
      Script.Safe staged (fun _ q => q.state.Stage) (fun _ q => q.state.Stage) (do
        let row ← selectVersion
        match row with
        | some version =>
          if SCHEMA_VERSION < version then
            throw (.runtime ("Budget database schema " ++ String.ofList (Json.renderInt version) ++
              " is newer than supported schema " ++ String.ofList (Json.renderInt SCHEMA_VERSION)))
          else upgrade version
        | none => do
          insertVersion
          upgrade 0) q := by
    rintro ⟨f, trace⟩ inv there
    apply Script.safe_bind
    apply Script.safe_read
    rintro q rfl _
    apply And.intro trivial
    cases inv with
    | fresh => exact absurd rfl there
    | unversioned =>
      apply Script.safe_bind
      apply Script.safe_modify
      rintro q rfl _ _
      exact ⟨.migrating 0, trivial, upgrade_safe (n := 0) rfl⟩
    | migrating n => exact upgrade_safe rfl
    | stamped => exact .stamped
  apply Script.safe_bind
  apply Script.safe_modify
  rintro q rfl _ _
  have creates : (p.step none fun f : SchemaFile => { f with versions := some (f.versions.getD []) }).state.Stage := by
    rcases p with ⟨f, trace⟩
    cases stage with
    | fresh => exact .unversioned
    | unversioned => exact .unversioned
    | migrating n => exact .migrating n
    | stamped => exact .stamped
  exact ⟨creates, trivial, versions_there _ creates nofun⟩

end

/-- However the script ends, the file it leaves is one of them. -/
theorem InitScript.settled {x : InitScript Unit} {p : Point SchemaFile Empty}
    (h : Script.Safe staged (fun _ q => q.state.Stage) (fun _ q => q.state.Stage) x p) :
    Program.Safe staged (fun _ q => q.state.Stage) x p := by
  apply Program.Safe.mono h
  intro r q stage
  cases r with
  | ok _ => exact stage
  | error _ => exact stage

theorem InitRun.stage {c : Serial SchemaFile Empty (Except InitError Unit)}
    (run : InitRun ⟨some initStorage, ⟨.fresh, []⟩⟩ c) : c.point.state.Stage := by
  have starts : Serial.Sound (fun p => p.state.Stage) (fun p => p.state.Stage) (fun _ _ => True)
      (⟨some initStorage, ⟨.fresh, []⟩⟩ : Serial SchemaFile Empty (Except InitError Unit)) := by
    apply And.intro .fresh
    exact InitScript.settled (initStorage_safe (p := ⟨.fresh, []⟩) .fresh)
  refine (Serial.reach_sound (fun _ _ h => h.elim) ?_ run starts).1
  rintro p f inv rfl
  exact ⟨inv, InitScript.settled (initStorage_safe (p := ⟨p.state, p.trace⟩) inv)⟩

/-! ### Starting again -/

theorem exec_unfinished (n : Nat) : Script.exec initStorage ⟨some [0], migrationV1.take (n + 1)⟩ =
    (.error (.operational "table organizations already exists"), ⟨some [0], migrationV1.take (n + 1)⟩) := by
  have again := createObject_again n
  have raises : Script.exec (create firstTable)
      ⟨some [0], migrationV1.take (n + 1)⟩ =
      (.error (.operational "table organizations already exists"), ⟨some [0], migrationV1.take (n + 1)⟩) := by
    unfold create Script.step Script.exec Program.run
    simp only [again]
    rfl
  have stops : Script.exec (upgrade 0) ⟨some [0], migrationV1.take (n + 1)⟩ =
      (.error (.operational "table organizations already exists"), ⟨some [0], migrationV1.take (n + 1)⟩) := by
    show Script.exec ((create firstTable >>= fun _ => migrate (migrationV1.drop 1)) >>= fun _ => stampVersion) _ = _
    rw [Script.exec_bind, Script.exec_bind, raises]
  exact stops

theorem SchemaFile.Stage.restarts {f : SchemaFile} (stage : f.Stage) : Restarts f ↔ ¬f.HalfMigrated := by
  have whole : ∀ g, Script.exec initStorage g = (.ok (), ⟨some [1], migrationV1⟩) → ¬g.HalfMigrated →
      (Restarts g ↔ ¬g.HalfMigrated) := fun g ran not_half => iff_of_true ⟨_, ran, rfl, rfl⟩ not_half
  cases stage with
  | fresh => exact whole _ (by decide +kernel) (by decide)
  | unversioned => exact whole _ (by decide +kernel) (by decide)
  | stamped => exact whole _ (by decide +kernel) (by decide)
  | migrating n =>
    cases n with
    | zero => exact whole _ (by decide +kernel) (by decide)
    | succ n =>
      have half : SchemaFile.HalfMigrated ⟨some [0], migrationV1.take (n + 1)⟩ :=
        ⟨by simp [migrationV1], by simp⟩
      apply iff_of_false
      · rintro ⟨f', ran, -⟩
        rw [exec_unfinished] at ran
        simp at ran
      · exact fun h => h half

/-- **`init_storage` can be run again** on what any number of crashes left of the
file exactly when they left nothing of the migration, or all of it and its version. -/
theorem restarts_iff {c : Serial SchemaFile Empty (Except InitError Unit)}
    (run : InitRun ⟨some initStorage, ⟨.fresh, []⟩⟩ c) : Restarts c.point.state ↔ ¬c.point.state.HalfMigrated :=
  run.stage.restarts

/-- A crash between the first `CREATE TABLE` and the second. -/
theorem unfinished_run : InitRun ⟨some initStorage, ⟨.fresh, []⟩⟩
    ⟨some initStorage, ⟨⟨some [0], migrationV1.take 1⟩, []⟩⟩ :=
  .head (.act nofun) <| .head (.act nofun) <| .head (.act nofun) <| .head (.act nofun) <| .single (.crash rfl)

theorem restarts_iff_unfinished : Restarts ⟨some [0], migrationV1.take 1⟩ ↔
    ¬SchemaFile.HalfMigrated ⟨some [0], migrationV1.take 1⟩ :=
  restarts_iff unfinished_run

theorem unfinished_stays_broken : ¬∀ c : Serial SchemaFile Empty (Except InitError Unit),
    InitRun ⟨some initStorage, ⟨.fresh, []⟩⟩ c → Restarts c.point.state := by
  intro claim
  have half : SchemaFile.HalfMigrated ⟨some [0], migrationV1.take 1⟩ := by decide
  exact (SchemaFile.Stage.migrating 1).restarts.mp (claim _ unfinished_run) half

end RmtPlatform.Budget
