import RmtPlatform.Core.Lifecycle

/-! The module registry and the adapter that extends it.

`ModuleChangeAdapter` makes a module under a new identifier and registers it: the
registry is loaded, searched for that identifier, and saved with the module at its end.
Where the registry is kept is left to a `Registrar`. -/
namespace RmtPlatform.Core

/-! ### Modules -/

structure RuntimeInfo where
  engine : String
  service : Option String
  container : Option String
  ports : List Int

structure HealthInfo where
  status : String
  endpoint : Option String
  lastCheck : Option String

structure Module where
  moduleId : String
  name : String
  description : String
  version : String
  type : String
  status : String
  runtime : RuntimeInfo
  dependencies : List String
  configuration : List (String × Json)
  health : HealthInfo

/-- What the platform reads of a module. -/
def Module.registered (m : Module) : RegisteredModule := ⟨m.name, m.runtime.container⟩

/-- The names and the containers of modules, each list without repetition. -/
structure Distinct (modules : List Module) : Prop where
  names : (modules.map (·.name)).Nodup
  containers : (modules.filterMap (·.runtime.container)).Nodup

/-- A module of this name or in this container. -/
def Occupied (modules : List Module) (target : String) : Prop :=
  ∃ m ∈ modules, m.name = target ∨ m.runtime.container = some target

/-- Name and container are both this. -/
def Module.Bears (m : Module) (target : String) : Prop := m.name = target ∧ m.runtime.container = some target

theorem Distinct.extend {modules : List Module} {m : Module} {target : String} (h : Distinct modules) (bears : m.Bears target)
    (free : ¬Occupied modules target) : Distinct (modules ++ [m]) := by
  constructor
  · rw [List.map_append, List.nodup_append]
    refine ⟨h.names, List.nodup_singleton _, ?_⟩
    intro name held other new same
    obtain ⟨x, hx, rfl⟩ := List.mem_map.mp held
    obtain rfl : other = m.name := by simpa using new
    exact free ⟨x, hx, .inl (same.trans bears.1)⟩
  · rw [List.filterMap_append, List.nodup_append]
    refine ⟨h.containers, by simp [bears.2], ?_⟩
    intro container held other new same
    obtain ⟨x, hx, within⟩ := List.mem_filterMap.mp held
    have only : other = target := by simpa [bears.2] using new
    exact free ⟨x, hx, .inr (within.trans (congrArg some (same.trans only)))⟩

/-- What bears an occupied name or container repeats it. -/
theorem Distinct.repeated {modules : List Module} {m : Module} {target : String} (bears : m.Bears target)
    (occupied : Occupied modules target) : ¬Distinct (modules ++ [m]) := by
  intro h
  obtain ⟨x, hx, same | same⟩ := occupied
  · have names := h.names
    rw [List.map_append, List.nodup_append] at names
    exact names.2.2 _ (List.mem_map_of_mem hx) _ (by simp) (same.trans bears.1.symm)
  · have containers := h.containers
    rw [List.filterMap_append, List.nodup_append] at containers
    exact containers.2.2 target (List.mem_filterMap.mpr ⟨x, hx, same⟩) target (by simp [bears.2]) rfl

/-! ### Identifiers -/

def isSlugChar (c : Char) : Bool := ('a' ≤ c && c ≤ 'z') || c.isDigit

/-- `re.sub(r"[^a-z0-9]+", "-", name)`; the flag is set within a run that is replaced. -/
def squeeze : Bool → List Char → List Char
  | _, [] => []
  | replaced, c :: cs =>
    if isSlugChar c then c :: squeeze false cs
    else if replaced then squeeze true cs
    else '-' :: squeeze true cs

def slugify (lower : String → String) (name : String) : String :=
  let slug := squeeze false (lower name).toList
  String.ofList (((slug.dropWhile (· = '-')).reverse.dropWhile (· = '-')).reverse)

/-! ### Registration -/

/-- What making a module asks of the language. -/
structure Naming where
  /-- `str.lower`. -/
  lower : String → String
  /-- The text of the error where version or type is not a string. -/
  invalid : PyVal → PyVal → String
  /-- The text of the error where the name is not a string. -/
  unnamed : PyVal → String
  /-- `uuid.uuid4().hex[:6]`, the `n`-th time. -/
  shortId : Nat → String

/-- Where the registry is kept, and where the identifiers come from. -/
structure Registrar (D L : Type) extends Naming where
  draw : Script D L Raised Nat
  loadModules : Script D L Raised (List Module)
  saveModules : List Module → Script D L Raised Unit

section
variable {D L : Type} (R : Registrar D L)

def generateModuleId (name : String) : Script D L Raised String := do
  let n ← R.draw
  pure (slugify R.lower name ++ "-" ++ R.shortId n)

/-- What `create_module` makes of valid arguments. -/
def newModule (moduleId name version moduleType runtimeEngine container : String) : Module where
  moduleId
  name
  description := ""
  version
  type := moduleType
  status := "active"
  runtime := ⟨runtimeEngine, none, some container, []⟩
  dependencies := []
  configuration := []
  health := ⟨"unknown", none, none⟩

/-- `create_module` as the adapter calls it, with the name as the container. -/
def createModule (name version moduleType : PyVal) : Script D L Raised Module := do
  match name with
  | .str name =>
    let moduleId ← generateModuleId R name
    match version, moduleType with
    | .str version, .str moduleType => pure (newModule moduleId name version moduleType "docker" name)
    | _, _ => throw (.value (R.invalid version moduleType))
  | _ => throw (.other (R.unnamed name))

def registerModule (module : Module) : Script D L Raised Module := do
  let modules ← R.loadModules
  Script.raiseIf (∃ existing ∈ modules, existing.moduleId = module.moduleId)
    (.value ("Module " ++ module.moduleId ++ " already exists."))
  R.saveModules (modules ++ [module])
  pure module

/-! ### The adapter -/

/-- `request.parameters.get(key, default)`. -/
def parameter (request : ExecutionRequest) (key : String) (default : PyVal) : PyVal :=
  (request.parameters.lookup (.str key)).getD default

def makeModule (request : ExecutionRequest) : Script D L Raised Module := do
  let module ← createModule R (Dict.get request.parameters "module_name") (parameter request "version" (.str "0.1.0"))
    (parameter request "module_type" (.str "platform-service"))
  registerModule R module

/-- `ModuleChangeAdapter.execute`, and the module that its output names. -/
def changeModules (request : ExecutionRequest) : Script D L Raised (ExecutionResult × Option Module) := do
  if !(Dict.get request.parameters "module_name").truthy then pure (failed request "Module name is required", none)
  else
    match ← Script.caught (makeModule R request) with
    | .error (.value e) => pure (failed request ("Module registration failed: " ++ e), none)
    | .error e => throw e
    | .ok module =>
      pure (⟨request.executionId, "completed", true, "Module " ++ module.name ++ " registered"⟩, some module)

/-- `ModuleChangeAdapter`. -/
def moduleChangeAdapter : ExecutionAdapter D L where
  supports request := pure (lower request.operation = "create")
  execute request := do
    let (result, _) ← changeModules R request
    pure result

end

end RmtPlatform.Core
