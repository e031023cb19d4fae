import RmtPlatform.Core.ModuleRegistry
import RmtPlatform.Data.Indent
import RmtPlatform.Process.Safety

/-! The registry file, read and rewritten by executions that interleave.

An execution loads the file, searches what it loaded and rewrites the file with one
module more. Nothing keeps another execution from rewriting it in between, and a rewrite
that a crash cuts short leaves a file that does not load. The registry loads and no module
is lost in a run whose rewrites find the file as it was loaded and are cut short by no crash
(`modules_kept`); two executions that load before either rewrites lose one (`module_lost`). -/
namespace RmtPlatform.Core

/-! ### The file -/

def textOrNull : Option String → Json
  | none => .null
  | some s => .string s

/-- `module.model_dump()`. -/
def Module.modelDump (m : Module) : Json := .object [
  ("module_id", .string m.moduleId),
  ("name", .string m.name),
  ("description", .string m.description),
  ("version", .string m.version),
  ("type", .string m.type),
  ("status", .string m.status),
  ("runtime", .object [
    ("engine", .string m.runtime.engine),
    ("service", textOrNull m.runtime.service),
    ("container", textOrNull m.runtime.container),
    ("ports", .array (m.runtime.ports.map .int))]),
  ("dependencies", .array (m.dependencies.map .string)),
  ("configuration", .object m.configuration),
  ("health", .object [
    ("status", .string m.health.status),
    ("endpoint", textOrNull m.health.endpoint),
    ("last_check", textOrNull m.health.lastCheck)])]

/-- What validation makes of the file's items, and the texts of its errors. -/
structure Schema where
  /-- `Module(**item)`. -/
  validate : Json → Except Raised Module
  validate_dump : ∀ m : Module, validate m.modelDump = .ok m
  /-- The text of the error where the file is not JSON. -/
  undecodable : List Char → String
  /-- The text of the error where it is JSON but no list. -/
  notItems : Json → String

variable (schema : Schema)

def loadText (text : List Char) : Except Raised (List Module) :=
  match Json.loads text with
  | none => .error (.value (schema.undecodable text))
  | some (.array items) => items.mapM schema.validate
  -- An empty object or string has no item either.
  | some (.object []) => .ok []
  | some (.string s) => if s = "" then .ok [] else .error (.other (schema.notItems (.string s)))
  | some v => .error (.other (schema.notItems v))

def dumpText (modules : List Module) : List Char := Json.indented (.array (modules.map Module.modelDump))

/-- What is saved is loaded. -/
theorem loadText_dumpText (modules : List Module) : loadText schema (dumpText modules) = .ok modules := by
  have validated : (modules.map Module.modelDump).mapM schema.validate = Except.ok modules := by
    induction modules with
    | nil => rfl
    | cons m modules ih =>
      rw [List.map_cons, List.mapM_cons, schema.validate_dump, ih]
      rfl
  unfold loadText dumpText
  rw [Json.loads_indented]
  exact validated

/-- **What is left of a rewrite loads** only where the rewrite is all there. -/
theorem loadText_cut_iff {modules : List Module} {text : List Char} (cut : text <+: dumpText modules) :
    (∃ loaded, loadText schema text = .ok loaded) ↔ text = dumpText modules := by
  constructor
  · rintro ⟨loaded, loads⟩
    by_contra short
    unfold loadText at loads
    rw [Json.loads_cut cut short] at loads
    cases loads
  · rintro rfl
    exact ⟨modules, loadText_dumpText schema modules⟩

/-! ### Executions -/

/-- The file, and how many identifiers have been drawn. -/
structure Disk where
  text : List Char
  drawn : Nat

/-- What is seen of an execution: that it rewrites the file, that a crash leaves this of what it rewrites, and what it
returns. -/
inductive FileEvent where
  | rewrites (modules : List Module)
  | cut (modules : List Module) (text : List Char)
  | returned (result : ExecutionResult) (module : Option Module)

variable (naming : Naming)

def fileRegistrar : Registrar Disk FileEvent where
  toNaming := naming
  draw := Script.step none fun d => .ok (d.drawn, { d with drawn := d.drawn + 1 })
  loadModules := Script.step none fun d => (loadText schema d.text).map fun modules => (modules, d)
  saveModules modules := Script.modify (some (.rewrites modules)) fun d => { d with text := dumpText modules }

/-- `ModuleChangeAdapter.execute` on the file. -/
def execution (request : ExecutionRequest) : Script Disk FileEvent Raised ExecutionResult := do
  let (result, module) ← changeModules (fileRegistrar schema naming) request
  Script.announce (.returned result module)
  pure result

abbrev Executions := Pool Disk FileEvent (Except Raised ExecutionResult)

/-- An execution starts or takes a step; or the process crashes, in the midst of a rewrite or not, and no execution
goes on. -/
inductive FileStep (admits : FileEvent → Point Disk FileEvent → Prop) : Executions → Executions → Prop where
  | run {c c' : Executions} (step : Pool.Step (fun x _ => ∃ request, x = execution schema naming request) admits c c') :
      FileStep admits c c'
  | crash (c : Executions) : FileStep admits c ⟨[], c.point⟩
  | torn {before after : List (Program Disk FileEvent (Except Raised ExecutionResult))} {e : Disk → Disk}
      {k : Disk → Program Disk FileEvent (Except Raised ExecutionResult)} {p : Point Disk FileEvent}
      {modules : List Module} {text : List Char} (admitted : admits (.rewrites modules) p)
      (cut : text <+: dumpText modules) (left : admits (.cut modules text) p) :
      FileStep admits ⟨before ++ .act (some (.rewrites modules)) e k :: after, p⟩
        ⟨[], ⟨{ p.state with text }, p.trace⟩⟩

abbrev FileReach (admits : FileEvent → Point Disk FileEvent → Prop) : Executions → Executions → Prop :=
  Relation.ReflTransGen (FileStep schema naming admits)

/-! ### What is kept -/

/-- The file loads, and the module is in it. -/
def Holds (p : Point Disk FileEvent) (m : Module) : Prop := ∃ modules, loadText schema p.state.text = .ok modules ∧ m ∈ modules

/-- Before a rewrite the file holds what the execution loaded, all but the last of what it writes; and no crash cuts the
rewrite short. -/
def Current : FileEvent → Point Disk FileEvent → Prop
  | .rewrites modules, p => loadText schema p.state.text = .ok modules.dropLast
  | .cut modules text, _ => text = dumpText modules
  | .returned _ _, _ => True

/-- Every execution that has succeeded made a module, and that is in the file. -/
def Delivered (p : Point Disk FileEvent) : Prop :=
  ∀ result module, .returned result module ∈ p.trace → result.success = true → ∃ m, module = some m ∧ Holds schema p m

/-- If the file loads it loads later, with every module it had. -/
def Retains (p q : Point Disk FileEvent) : Prop :=
  ∀ modules, loadText schema p.state.text = .ok modules → ∃ modules', loadText schema q.state.text = .ok modules' ∧ modules ⊆ modules'

def fileDiscipline : Discipline Disk FileEvent := .shared (Retains schema) (Delivered schema) (Current schema)

section
variable {schema naming} {p q : Point Disk FileEvent}

theorem Retains.refl (p : Point Disk FileEvent) : Retains schema p p := fun modules loads => ⟨modules, loads, List.Subset.refl _⟩

theorem Retains.trans (p q r : Point Disk FileEvent) (h : Retains schema p q) (h' : Retains schema q r) :
    Retains schema p r := by
  intro modules loads
  obtain ⟨modules', loads', kept⟩ := h modules loads
  obtain ⟨modules'', loads'', kept'⟩ := h' modules' loads'
  exact ⟨modules'', loads'', fun m mem => kept' (kept mem)⟩

theorem Retains.of_text (same : q.state.text = p.state.text) : Retains schema p q := fun modules loads =>
  ⟨modules, by rw [same]; exact loads, List.Subset.refl _⟩

/-- A rewrite adds a module to what the file held. -/
theorem Retains.rewrite {modules : List Module} (current : Current schema (.rewrites modules) p)
    (written : q.state.text = dumpText modules) : Retains schema p q := by
  intro loaded loads
  obtain rfl : loaded = modules.dropLast := Except.ok.inj (loads.symm.trans current)
  exact ⟨modules, by rw [written, loadText_dumpText], List.dropLast_subset _⟩

theorem Holds.later {m : Module} (h : Holds schema p m) (retains : Retains schema p q) : Holds schema q m := by
  obtain ⟨modules, loads, mem⟩ := h
  obtain ⟨modules', loads', kept⟩ := retains modules loads
  exact ⟨modules', loads', kept mem⟩

theorem Delivered.later (h : Delivered schema p) (retains : Retains schema p q) (trace : q.trace = p.trace) :
    Delivered schema q := by
  intro result module returned success
  rw [trace] at returned
  obtain ⟨m, made, holds⟩ := h result module returned success
  exact ⟨m, made, holds.later retains⟩

/-! ### Every step -/

theorem safe_registerModule (m : Module) (p : Point Disk FileEvent) : Script.Safe (fileDiscipline schema)
    (fun made q => Holds schema q made) (fun _ _ => True) (registerModule (fileRegistrar schema naming) m) p := by
  unfold registerModule
  apply Script.safe_bind
  apply Script.safe_step
  intro q _ delivered _
  cases loaded : loadText schema q.state.text with
  | error e => exact ⟨delivered, .refl _, trivial⟩
  | ok modules =>
    refine ⟨delivered, .refl _, ?_⟩
    apply Script.safe_bind
    apply Script.safe_raiseIf fun _ => trivial
    intro _
    apply Script.safe_bind
    apply Script.safe_modify
    intro r _ delivered current
    have retains : Retains schema r (r.step (some (.rewrites (modules ++ [m]))) fun d =>
        { d with text := dumpText (modules ++ [m]) }) := .rewrite (current _ rfl) rfl
    refine ⟨?_, retains, ?_⟩
    · intro result module returned success
      rcases List.mem_cons.mp returned with other | earlier
      · cases other
      · obtain ⟨made, same, holds⟩ := delivered result module earlier success
        exact ⟨made, same, holds.later retains⟩
    · apply Script.safe_pure
      exact ⟨modules ++ [m], loadText_dumpText schema (modules ++ [m]), List.mem_append_right _ List.mem_cons_self⟩

theorem safe_makeModule (request : ExecutionRequest) (p : Point Disk FileEvent) : Script.Safe (fileDiscipline schema)
    (fun made q => Holds schema q made) (fun _ _ => True) (makeModule (fileRegistrar schema naming) request) p := by
  unfold makeModule createModule generateModuleId
  apply Script.safe_bind
  split
  · next name _ =>
    apply Script.safe_bind
    apply Script.safe_bind
    rw [show (fileRegistrar schema naming).draw =
      Script.step none fun d => .ok (d.drawn, { d with drawn := d.drawn + 1 }) from rfl]
    apply Script.safe_step
    intro q _ delivered _
    refine ⟨delivered, .of_text rfl, ?_⟩
    apply Script.safe_pure
    split
    · exact safe_registerModule _ _
    · exact trivial
  · exact trivial

theorem safe_execution (request : ExecutionRequest) (p : Point Disk FileEvent) : Script.Safe (fileDiscipline schema)
    (fun _ _ => True) (fun _ _ => True) (execution schema naming request) p := by
  have announced : ∀ (result : ExecutionResult) (module : Option Module) (q : Point Disk FileEvent),
      (result.success = true → ∃ m, module = some m ∧ Holds schema q m) →
      Script.Safe (fileDiscipline schema) (fun _ _ => True) (fun _ _ => True)
        (do Script.announce (.returned result module); pure result : Script Disk FileEvent Raised ExecutionResult) q := by
    intro result module q delivers
    apply Script.safe_bind
    apply Script.safe_modify
    intro r retains delivered _
    refine ⟨?_, .of_text rfl, trivial⟩
    intro result' module' returned success
    rcases List.mem_cons.mp returned with new | earlier
    · cases new
      obtain ⟨m, made, holds⟩ := delivers success
      exact ⟨m, made, holds.later retains⟩
    · exact delivered result' module' earlier success
  unfold execution changeModules
  apply Script.safe_bind
  split
  · apply announced
    intro success
    cases success
  · apply Script.safe_bind
    apply Script.Safe.caught
    apply (safe_makeModule request p).mono
    · intro made q holds
      exact announced _ _ q fun _ => ⟨made, rfl, holds⟩
    · intro e q _
      cases e with
      | value message =>
        apply announced
        intro success
        cases success
      | _ => exact trivial

/-! ### Runs -/

variable (schema naming) in
theorem fileStep_sound {c c' : Executions} (h : FileStep schema naming (Current schema) c c')
    (delivered : Delivered schema c.point) (safe : Pool.AllSafe (fileDiscipline schema) c) :
    Delivered schema c'.point ∧ Pool.AllSafe (fileDiscipline schema) c' ∧ Retains schema c.point c'.point := by
  have none_safe : ∀ q : Point Disk FileEvent,
      Pool.AllSafe (fileDiscipline schema) (⟨[], q⟩ : Executions) := fun q x hx => by cases hx
  cases h with
  | run step =>
    refine Pool.step_sound Retains.trans Retains.refl (fun _ _ h => h) ?_ step delivered safe
    rintro x p ⟨request, rfl⟩ _
    apply Program.Safe.mono (safe_execution request p)
    exact fun _ _ _ => trivial
  | crash c => exact ⟨delivered, none_safe _, .refl _⟩
  | @torn before after e k p modules text admitted cut left =>
    have retains : Retains schema p ⟨{ p.state with text }, p.trace⟩ := .rewrite admitted left
    exact ⟨delivered.later retains rfl, none_safe _, retains⟩

/-- From the start of a run, with this in the file. -/
def Executions.start (disk : Disk) : Executions := ⟨[], ⟨disk, []⟩⟩

theorem fileReach_sound {c c' : Executions} (h : FileReach schema naming (Current schema) c c')
    (delivered : Delivered schema c.point) (safe : Pool.AllSafe (fileDiscipline schema) c) :
    Delivered schema c'.point ∧ Pool.AllSafe (fileDiscipline schema) c' ∧ Retains schema c.point c'.point := by
  induction h with
  | refl => exact ⟨delivered, safe, .refl _⟩
  | tail _ step ih =>
    obtain ⟨delivered', safe', retains⟩ := ih
    obtain ⟨delivered'', safe'', retains'⟩ := fileStep_sound schema naming step delivered' safe'
    exact ⟨delivered'', safe'', .trans _ _ _ retains retains'⟩

end

/-- **The registry loads and no module is lost** in a run whose rewrites find the file as it was loaded and are not cut
short. -/
theorem modules_kept (schema : Schema) (naming : Naming) (disk : Disk) {initial : List Module}
    (loads : loadText schema disk.text = .ok initial) {c c' : Executions}
    (run : FileReach schema naming (Current schema) (.start disk) c)
    (later : FileReach schema naming (Current schema) c c') :
    ∃ earlier modules, loadText schema c.point.state.text = .ok earlier ∧ loadText schema c'.point.state.text = .ok modules ∧
      initial ⊆ earlier ∧ earlier ⊆ modules ∧
      ∀ result module, .returned result module ∈ c'.point.trace → result.success = true →
        ∃ m, module = some m ∧ m ∈ modules := by
  have none_yet : Delivered schema (Executions.start disk).point := fun _ _ returned => by cases returned
  obtain ⟨delivered, safe, retains⟩ := fileReach_sound run none_yet fun x hx => by cases hx
  obtain ⟨delivered', -, retains'⟩ := fileReach_sound later delivered safe
  obtain ⟨earlier, loadsEarlier, kept⟩ := retains initial loads
  obtain ⟨modules, loadsLater, kept'⟩ := retains' earlier loadsEarlier
  refine ⟨earlier, modules, loadsEarlier, loadsLater, kept, kept', fun result module returned success => ?_⟩
  obtain ⟨m, made, modules', loads', mem⟩ := delivered' result module returned success
  obtain rfl : modules' = modules := Except.ok.inj (loads'.symm.trans loadsLater)
  exact ⟨m, made, mem⟩

/-! ### Two executions

Both load the empty registry before either rewrites it. -/

namespace Sample

def string : Json → Option String
  | .string s => some s
  | _ => none

def nullable : Json → Option (Option String)
  | .null => some none
  | .string s => some (some s)
  | _ => none

def integer : Json → Option Int
  | .int i => some i
  | _ => none

def list : Json → Option (List Json)
  | .array items => some items
  | _ => none

def dict : Json → Option (List (String × Json))
  | .object members => some members
  | _ => none

def readRuntime (members : List (String × Json)) : Option RuntimeInfo := do
  some
    { engine := ← string (← members.lookup "engine")
      service := ← nullable ((members.lookup "service").getD .null)
      container := ← nullable ((members.lookup "container").getD .null)
      ports := ← (← list ((members.lookup "ports").getD (.array []))).mapM integer }

def readHealth (members : List (String × Json)) : Option HealthInfo := do
  some
    { status := ← string ((members.lookup "status").getD (.string "unknown"))
      endpoint := ← nullable ((members.lookup "endpoint").getD .null)
      lastCheck := ← nullable ((members.lookup "last_check").getD .null) }

def readModule (item : Json) : Option Module := do
  let members ← dict item
  some
    { moduleId := ← string (← members.lookup "module_id")
      name := ← string (← members.lookup "name")
      description := ← string ((members.lookup "description").getD (.string ""))
      version := ← string (← members.lookup "version")
      type := ← string (← members.lookup "type")
      status := ← string (← members.lookup "status")
      runtime := ← readRuntime (← dict (← members.lookup "runtime"))
      dependencies := ← (← list ((members.lookup "dependencies").getD (.array []))).mapM string
      configuration := ← dict ((members.lookup "configuration").getD (.object []))
      health := ← readHealth (← dict (← members.lookup "health")) }

theorem nullable_textOrNull (s : Option String) : nullable (textOrNull s) = some s := by cases s <;> rfl

theorem mapM_inverse {α : Type} {f : α → Json} {g : Json → Option α} (h : ∀ a, g (f a) = some a) (items : List α) :
    (items.map f).mapM g = some items := by
  induction items with
  | nil => rfl
  | cons a items ih => simp [h, ih]

/-- `modelDump` of the runtime and of the health. -/
def runtimeMembers (r : RuntimeInfo) : List (String × Json) := [("engine", .string r.engine), ("service", textOrNull r.service),
  ("container", textOrNull r.container), ("ports", .array (r.ports.map .int))]

def healthMembers (h : HealthInfo) : List (String × Json) := [("status", .string h.status), ("endpoint", textOrNull h.endpoint),
  ("last_check", textOrNull h.lastCheck)]

theorem readRuntime_members (r : RuntimeInfo) : readRuntime (runtimeMembers r) = some r := by
  have ports := mapM_inverse (f := .int) (g := integer) (fun _ => rfl) r.ports
  have engine : (runtimeMembers r).lookup "engine" = some (.string r.engine) := rfl
  have service : (runtimeMembers r).lookup "service" = some (textOrNull r.service) := rfl
  have container : (runtimeMembers r).lookup "container" = some (textOrNull r.container) := rfl
  have listed : (runtimeMembers r).lookup "ports" = some (.array (r.ports.map .int)) := rfl
  simp only [readRuntime, engine, service, container, listed, Option.getD_some, nullable_textOrNull, list, string, ports,
    Option.bind_eq_bind, Option.bind_some]

theorem readHealth_members (h : HealthInfo) : readHealth (healthMembers h) = some h := by
  have status : (healthMembers h).lookup "status" = some (.string h.status) := rfl
  have endpoint : (healthMembers h).lookup "endpoint" = some (textOrNull h.endpoint) := rfl
  have last : (healthMembers h).lookup "last_check" = some (textOrNull h.lastCheck) := rfl
  simp only [readHealth, status, endpoint, last, Option.getD_some, nullable_textOrNull, string, Option.bind_eq_bind,
    Option.bind_some]

theorem readModule_modelDump (m : Module) : readModule m.modelDump = some m := by
  have dependencies := mapM_inverse (f := .string) (g := string) (fun _ => rfl) m.dependencies
  show ((readRuntime (runtimeMembers m.runtime)).bind fun runtime =>
    ((m.dependencies.map Json.string).mapM string).bind fun dependencies =>
      (readHealth (healthMembers m.health)).bind fun health => some { m with runtime, dependencies, health }) = some m
  rw [readRuntime_members, dependencies, readHealth_members]
  rfl

def moduleSchema : Schema where
  validate item := match readModule item with
    | some m => .ok m
    | none => .error (.value "validation error for Module")
  validate_dump m := by rw [readModule_modelDump]
  undecodable _ := "Expecting value"
  notItems _ := "argument after ** must be a mapping"

def fileNaming : Naming where
  lower := Core.lower
  invalid _ _ := "validation errors for Module"
  unnamed _ := "object has no attribute 'lower'"
  shortId n := String.ofList (Nat.toDigits 16 (0xa3f0c1 + n))

def creating (name : String) : ExecutionRequest :=
  { Provenance.missing with
    executionId := "execution-" ++ name
    authorizationId := "authorization-" ++ name
    actionId := "action-" ++ name
    decisionId := "decision-" ++ name
    governanceDomain := defaultGovernanceDomain
    target := name
    operation := "create"
    parameters := [(.str "module_name", .str name)]
    riskLevel := some "medium"
    expectedOutcome := none
    adapterName := some "module_change" }

def billing : Module := newModule "billing-a3f0c1" "billing" "0.1.0" "platform-service" "docker" "billing"

def reports : Module := newModule "reports-a3f0c2" "reports" "0.1.0" "platform-service" "docker" "reports"

/-- The file of an empty registry. -/
def disk : Disk := ⟨dumpText [], 0⟩

/-- Executions that create modules of these names, each just started. -/
def started (names : List String) : Executions :=
  ⟨names.map fun name => execution moduleSchema fileNaming (creating name), ⟨disk, []⟩⟩

theorem started_reach (admits : FileEvent → Point Disk FileEvent → Prop) (names : List String) :
    FileReach moduleSchema fileNaming admits (.start disk) (started names) := by
  induction names with
  | nil => exact .refl
  | cons name names ih => exact ih.tail (.run (.call _ ⟨creating name, rfl⟩))

theorem scheduled_reach {admits : FileEvent → Point Disk FileEvent → Prop} (c : Executions) (schedule : List Nat)
    (admitted : Pool.Admitted admits c schedule) :
    FileReach moduleSchema fileNaming admits c (Pool.runSchedule c schedule) :=
  Relation.ReflTransGen.mono (fun _ _ step => .run step) _ _
    (Pool.admitted_reach (fun x _ => ∃ request, x = execution moduleSchema fileNaming request) c schedule admitted)

/-- A rewrite finds the text of what was loaded, and is not cut short. -/
def finds : FileEvent → Point Disk FileEvent → Bool
  | .rewrites modules, p => p.state.text = dumpText modules.dropLast
  | .cut modules text, _ => text = dumpText modules
  | .returned _ _, _ => true

theorem admitted_finds {c : Executions} {schedule : List Nat} (h : Pool.Admitted (fun m p => finds m p) c schedule) :
    Pool.Admitted (Current moduleSchema) c schedule := by
  induction schedule generalizing c with
  | nil => trivial
  | cons i rest ih =>
    refine ⟨fun m mem => ?_, ih h.2⟩
    have found := h.1 m mem
    cases m with
    | rewrites modules =>
      show loadText moduleSchema c.point.state.text = _
      rw [of_decide_eq_true found, loadText_dumpText]
    | cut modules text =>
      show text = dumpText modules
      exact of_decide_eq_true found
    | returned result module => trivial

/-- The first of two has loaded and rewritten the file. -/
def halfway : Executions := Pool.runSchedule (started ["billing", "reports"]) [0, 1, 0, 0]

/-- The second loads it then, and both return. -/
def interleaved : Executions := Pool.runSchedule halfway [1, 0, 1, 1]

/-- The first of two has rewritten the file; the second has loaded it before that. -/
def overtaken : Executions := Pool.runSchedule (started ["billing", "reports"]) [0, 0, 1, 1, 0]

/-- Both have returned. -/
def lost : Executions := Pool.runSchedule overtaken [0, 1, 1]

end Sample

/-- Two executions that take turns: the second loads the file after the first has rewritten it. -/
theorem modules_kept_interleaved :
    (∃ earlier modules, loadText Sample.moduleSchema Sample.halfway.point.state.text = .ok earlier ∧
      loadText Sample.moduleSchema Sample.interleaved.point.state.text = .ok modules ∧ [] ⊆ earlier ∧ earlier ⊆ modules ∧
      ∀ result module, .returned result module ∈ Sample.interleaved.point.trace → result.success = true →
        ∃ m, module = some m ∧ m ∈ modules) ∧
    Sample.halfway.point.state.text = dumpText [Sample.billing] ∧
    Sample.interleaved.point.state.text = dumpText [Sample.billing, Sample.reports] := by
  have first : Pool.Admitted (fun m p => Sample.finds m p) (Sample.started ["billing", "reports"]) [0, 1, 0, 0] := by
    decide +kernel
  have second : Pool.Admitted (fun m p => Sample.finds m p) Sample.halfway [1, 0, 1, 1] := by decide +kernel
  have run : FileReach Sample.moduleSchema Sample.fileNaming (Current Sample.moduleSchema)
      (.start Sample.disk) Sample.halfway :=
    (Sample.started_reach _ ["billing", "reports"]).trans (Sample.scheduled_reach _ _ (Sample.admitted_finds first))
  refine ⟨modules_kept Sample.moduleSchema Sample.fileNaming Sample.disk (loadText_dumpText _ []) run ?_, ?_, ?_⟩
  · exact Sample.scheduled_reach _ _ (Sample.admitted_finds second)
  · decide +kernel
  · decide +kernel

/-- **A module is lost**: its execution returned success and the file held it, and it holds it no more. -/
theorem module_lost : ∃ c c' : Executions,
    FileReach Sample.moduleSchema Sample.fileNaming (fun _ _ => True) (.start Sample.disk) c ∧
    FileReach Sample.moduleSchema Sample.fileNaming (fun _ _ => True) c c' ∧
    loadText Sample.moduleSchema c.point.state.text = .ok [Sample.billing] ∧
    loadText Sample.moduleSchema c'.point.state.text = .ok [Sample.reports] ∧
    (∃ result, .returned result (some Sample.billing) ∈ c'.point.trace ∧ result.success = true) ∧
    Sample.billing ∉ [Sample.reports] := by
  have any : ∀ (c : Executions) (schedule : List Nat), Pool.Admitted (fun _ _ => True) c schedule := by
    intro c schedule
    induction schedule generalizing c with
    | nil => trivial
    | cons i rest ih => exact ⟨fun _ _ => trivial, ih _⟩
  refine ⟨Sample.overtaken, Sample.lost, ?_, Sample.scheduled_reach _ _ (any _ _),
    loadText_dumpText Sample.moduleSchema [Sample.billing], loadText_dumpText Sample.moduleSchema [Sample.reports], ?_, ?_⟩
  · exact (Sample.started_reach _ ["billing", "reports"]).trans (Sample.scheduled_reach _ _ (any _ _))
  · exact ⟨_, List.mem_cons_of_mem _ (List.mem_cons_of_mem _ List.mem_cons_self), rfl⟩
  · intro same
    have names : "billing" = "reports" := congrArg Module.name (List.mem_singleton.mp same)
    exact absurd names (by decide)

end RmtPlatform.Core
