import RmtPlatform.Core.Evolution
import RmtPlatform.Core.ModuleRegistry

/-! What changes and approvals make of the module registry.

A change is checked against the registry before it goes to the core. If the core holds
it, the approval that executes it later is not. So names and containers stay distinct in
every run whose approvals are of free targets (`modules_distinct`), and two changes of one
target, both held, register it twice. -/
namespace RmtPlatform.Core

/-! ### The platform and its registry -/

/-- The modules, how many identifiers have been drawn for them, and the rest of the world. -/
structure Registered (W : Type) where
  modules : List Module
  drawn : Nat
  rest : W

section
variable {W L : Type}

def Naming.registrar (naming : Naming) : Registrar (Registered W) L where
  toNaming := naming
  draw := Script.step none fun w => .ok (w.drawn, { w with drawn := w.drawn + 1 })
  loadModules := Script.read (·.modules)
  saveModules modules := Script.modify none fun w => { w with modules }

/-- The modules are as they were. -/
def Unmoved (w w' : Registered W) : Prop := w'.modules = w.modules

end

/-- A platform whose registry only the adapter of module changes writes. -/
structure Home (W L : Type) extends Platform (Registered W) L where
  naming : Naming
  observed : getModules = Script.read fun w => w.modules.map Module.registered
  moduleChange : adapter? "module_change" = some (moduleChangeAdapter naming.registrar)
  others : ∀ name adapter request, name ≠ "module_change" → adapter? name = some adapter →
    Script.Moves Unmoved (adapter.supports request) ∧ Script.Moves Unmoved (adapter.execute request)
  evaluators : ∀ domain registration action, registration? domain = some registration →
    Script.Moves Unmoved (registration.policy action) ∧ Script.Moves Unmoved (registration.risk action)

variable {W L α β : Type}

/-! ### What leaves the modules as they are -/

def Stays (s s' : State (Registered W)) : Prop := Unmoved s.world s'.world

theorem Stays.refl (s : State (Registered W)) : Stays s s := rfl

theorem Stays.trans (s s₁ s' : State (Registered W)) (h : Stays s s₁) (h' : Stays s₁ s') : Stays s s' := Eq.trans h' h

abbrev KeepsModules (x : Governed (Registered W) L α) : Prop := Script.Moves Stays x

section
variable {x : Governed (Registered W) L α} {f : α → Governed (Registered W) L β}

theorem KeepsModules.bind (hx : KeepsModules x) (hf : ∀ a, KeepsModules (f a)) : KeepsModules (x >>= f) :=
  Script.Moves.bind Stays.trans hx hf

theorem stays_pure (a : α) : KeepsModules (pure a : Governed (Registered W) L α) := fun _ => rfl

theorem stays_throw (e : Raised) : KeepsModules (throw e : Governed (Registered W) L α) := fun _ => rfl

theorem stays_recordApprovalDecision {action : ActionRequest} {approvalDecision : ApprovalDecision}
    {decision approvedBy : String} {approvalId : Option String} {assessment : Option GovernanceAssessment} :
    KeepsModules (recordApprovalDecision action approvalDecision decision approvedBy approvalId assessment :
      Governed (Registered W) L Unit) := fun _ => rfl

theorem stays_saveHold (hold : ApprovalHold) : KeepsModules (saveHold hold : Governed (Registered W) L Unit) := fun _ => rfl

theorem stays_saveAuthorization (a : ExecutionAuthorization) :
    KeepsModules (saveAuthorization a : Governed (Registered W) L Unit) := fun _ => rfl

theorem stays_uuid4 {P : Platform (Registered W) L} : KeepsModules (uuid4 P) := fun _ => rfl

theorem stays_saveVerification (v : VerificationResult) :
    KeepsModules (saveVerification v : Governed (Registered W) L Unit) := fun _ => rfl

theorem stays_announce (m : Event L) : KeepsModules (Script.announce m : Governed (Registered W) L Unit) := fun _ => rfl

theorem stays_now {P : Platform (Registered W) L} : KeepsModules (now P) := fun _ => rfl

theorem stays_ofExcept (r : Except Raised α) : KeepsModules (Script.ofExcept r : Governed (Registered W) L α) :=
  (Script.readOnly_ofExcept r).moves Stays.refl

theorem stays_raiseIf (c : Prop) [Decidable c] (e : Raised) :
    KeepsModules (Script.raiseIf c e : Governed (Registered W) L Unit) :=
  (Script.readOnly_raiseIf c e).moves Stays.refl

theorem stays_outside {y : Script (Registered W) L Raised α} (h : Script.Moves Unmoved y) : KeepsModules (outside y) := by
  intro s
  rw [exec_outside]
  exact h s.world

end

section
variable (H : Home W L)

theorem stays_resolveAssessment (action : ActionRequest) (adapterName : String) :
    KeepsModules (resolveAssessment H.toPlatform action adapterName) := by
  unfold resolveAssessment
  split
  · exact stays_throw _
  · next registration registered =>
    obtain ⟨policy, risk⟩ := H.evaluators _ registration action registered
    apply (stays_raiseIf _ _).bind
    intro _
    apply (stays_raiseIf _ _).bind
    intro _
    have evaluated : KeepsModules (evaluate H.toPlatform registration action adapterName) :=
      (stays_ofExcept _).bind fun _ => (stays_outside policy).bind fun _ => (stays_outside risk).bind fun _ => stays_pure _
    apply KeepsModules.bind (Script.Moves.caught evaluated)
    intro answers
    split
    · exact stays_throw _
    · apply (stays_ofExcept _).bind
      intro _
      apply (stays_ofExcept _).bind
      intro _
      apply (stays_raiseIf _ _).bind
      intro _
      exact stays_uuid4.bind fun _ => (stays_announce _).bind fun _ => stays_pure _

theorem stays_verifyExecution (executionId : String) (request : ExecutionRequest) :
    KeepsModules (verifyExecution H.toPlatform executionId request) := by
  have observed : KeepsModules (observe H.toPlatform request) := by
    unfold observe
    dsimp only
    split
    · have looked : KeepsModules (outside H.getModules) := stays_outside (by rw [H.observed]; exact fun _ => rfl)
      apply KeepsModules.bind (Script.Moves.caught looked)
      intro modules
      split
      · exact stays_pure _
      · split <;> exact stays_pure _
    · exact stays_pure _
  exact observed.bind fun _ => (stays_saveVerification _).bind fun _ => stays_pure _

end

/-! ### What executing a module change adds -/

/-- At most one module more, which bears the value as its name and its container. -/
def Gains (value : PyVal) (w w' : Registered W) : Prop :=
  Unmoved w w' ∨ ∃ target m, value = .str target ∧ m.Bears target ∧ w'.modules = w.modules ++ [m]

theorem Gains.between {value : PyVal} {w w₁ w₂ w' : Registered W} (h : Gains value w₁ w₂) (before : Unmoved w w₁)
    (after : Unmoved w₂ w') : Gains value w w' := by
  rcases h with kept | ⟨target, m, same, bears, grown⟩
  · exact .inl (Eq.trans after (Eq.trans kept before))
  · refine .inr ⟨target, m, same, bears, Eq.trans after (grown.trans ?_)⟩
    rw [show w₁.modules = w.modules from before]

theorem registerModule_gains (naming : Naming) {m : Module} {target : String} (bears : m.Bears target) :
    Script.Moves (Gains (.str target)) (registerModule (naming.registrar : Registrar (Registered W) L) m) := by
  intro w
  unfold registerModule
  rw [Script.exec_bind]
  show Gains (.str target) w (Script.exec _ w).2
  rw [Script.exec_bind, Script.exec_raiseIf]
  by_cases taken : ∃ existing ∈ w.modules, existing.moduleId = m.moduleId
  · rw [if_pos taken]
    exact .inl rfl
  · rw [if_neg taken]
    exact .inr ⟨target, m, rfl, bears, rfl⟩

theorem makeModule_gains (naming : Naming) (request : ExecutionRequest) :
    Script.Moves (Gains (Dict.get request.parameters "module_name"))
      (makeModule (naming.registrar : Registrar (Registered W) L) request) := by
  intro w
  unfold makeModule createModule
  generalize parameter request "version" (.str "0.1.0") = version
  generalize parameter request "module_type" (.str "platform-service") = moduleType
  cases Dict.get request.parameters "module_name" with
  | str target =>
    cases version with
    | str version =>
      cases moduleType with
      | str moduleType =>
        exact registerModule_gains naming ⟨rfl, rfl⟩ { w with drawn := w.drawn + 1 }
      | _ => exact .inl rfl
    | _ => exact .inl rfl
  | _ => exact .inl rfl

theorem moduleChange_gains (naming : Naming) (request : ExecutionRequest) :
    Script.Moves (Gains (Dict.get request.parameters "module_name"))
      ((moduleChangeAdapter (naming.registrar : Registrar (Registered W) L)).execute request) := by
  intro w
  unfold moduleChangeAdapter changeModules
  dsimp only
  split
  · exact .inl rfl
  · have made : Gains (Dict.get request.parameters "module_name") w
        ((makeModule (naming.registrar : Registrar (Registered W) L) request).exec w).2 := makeModule_gains naming request w
    rw [Script.exec_bind, Script.exec_bind, Script.exec_caught]
    rcases answer : (makeModule naming.registrar request).exec w with ⟨e | m, w'⟩ <;> rw [answer] at made
    · cases e <;> exact made
    · exact made

/-! ### What the core adds -/

/-- The modules stay, or the adapter creates one that bears the value. -/
def Enrols (adapterName operation : String) (value : PyVal) (s s' : State (Registered W)) : Prop :=
  Stays s s' ∨ adapterName = "module_change" ∧ lower operation = "create" ∧ Gains value s.world s'.world

section
variable {adapterName operation : String} {value : PyVal} {x : Governed (Registered W) L α}
  {f : α → Governed (Registered W) L β}

theorem Enrols.between {s s₁ s₂ s' : State (Registered W)} (h : Enrols adapterName operation value s₁ s₂)
    (before : Stays s s₁) (after : Stays s₂ s') : Enrols adapterName operation value s s' := by
  rcases h with stays | ⟨adapter, creates, gains⟩
  · exact .inl (before.trans _ _ _ (stays.trans _ _ _ after))
  · exact .inr ⟨adapter, creates, gains.between before after⟩

theorem KeepsModules.only (hx : KeepsModules x) : Script.Moves (Enrols adapterName operation value) x := fun s => .inl (hx s)

/-- What keeps the modules may come first. -/
theorem KeepsModules.enrols (hx : KeepsModules x) (hf : ∀ a, Script.Moves (Enrols adapterName operation value) (f a)) :
    Script.Moves (Enrols adapterName operation value) (x >>= f) := by
  intro s
  have before := hx s
  rw [Script.exec_bind]
  rcases answer : x.exec s with ⟨e | a, s₁⟩ <;> rw [answer] at before
  · exact .inl before
  · exact (hf a s₁).between before (Stays.refl _)

/-- What keeps them may follow. -/
theorem enrols_then (hx : Script.Moves (Enrols adapterName operation value) x) (hf : ∀ a, KeepsModules (f a)) :
    Script.Moves (Enrols adapterName operation value) (x >>= f) := by
  intro s
  have first := hx s
  rw [Script.exec_bind]
  rcases answer : x.exec s with ⟨e | a, s₁⟩ <;> rw [answer] at first
  · exact first
  · exact first.between (Stays.refl _) (hf a s₁)

end

section
variable {H : Home W L} {adapterName : String} {request : ExecutionRequest}

theorem supports_kept {adapter : ExecutionAdapter (Registered W) L} (registered : H.adapter? adapterName = some adapter) :
    Script.Moves Unmoved (adapter.supports request) := by
  by_cases own : adapterName = "module_change"
  · subst own
    obtain rfl : moduleChangeAdapter H.naming.registrar = adapter := by simpa [H.moduleChange] using registered
    exact fun _ => rfl
  · exact (H.others adapterName adapter request own registered).1

/-- The adapter is that of module changes and creates, or keeps the modules. -/
theorem adapter_enrols {adapter : ExecutionAdapter (Registered W) L} (registered : H.adapter? adapterName = some adapter)
    {w₀ w : Registered W} (supports : (adapter.supports request).exec w₀ = (.ok true, w)) :
    Unmoved w₀ ((adapter.execute request).exec w).2 ∨ adapterName = "module_change" ∧ lower request.operation = "create" ∧
      Gains (Dict.get request.parameters "module_name") w₀ ((adapter.execute request).exec w).2 := by
  have before : Unmoved w₀ w := by
    have kept : Unmoved w₀ ((adapter.supports request).exec w₀).2 := supports_kept registered w₀
    rwa [supports] at kept
  by_cases own : adapterName = "module_change"
  · subst own
    obtain rfl : moduleChangeAdapter H.naming.registrar = adapter := by simpa [H.moduleChange] using registered
    have creates : lower request.operation = "create" := by
      have answer := congrArg Prod.fst supports
      simpa [moduleChangeAdapter] using answer
    exact .inr ⟨rfl, creates, (moduleChange_gains H.naming request w).between before rfl⟩
  · exact .inl (Eq.trans ((H.others adapterName adapter request own registered).2 w) before)

theorem execute_enrols : Script.Moves (Enrols adapterName request.operation (Dict.get request.parameters "module_name"))
    (execute H.toPlatform request adapterName) := by
  intro s
  have ending : Ending H.toPlatform request adapterName s ((execute H.toPlatform request adapterName).emitted s) _ _ :=
    execute_ending
  generalize (execute H.toPlatform request adapterName).emitted s = labels at ending
  generalize ((execute H.toPlatform request adapterName).exec s).1 = r at ending
  generalize ((execute H.toPlatform request adapterName).exec s).2 = s' at ending
  cases ending with
  | refused reason ticks t why id told => exact .inl rfl
  | unbound ticks e passed raises => exact .inl rfl
  | unknown ticks passed adapter => exact .inl rfl
  | unsupported ticks adapter passed registered supports => exact .inl (supports_kept registered s.world)
  | undetermined ticks adapter e passed registered supports => exact .inl (supports_kept registered s.world)
  | raised ticks adapter e checkedAt authorization w passed registered supports executes =>
    exact adapter_enrols registered supports
  | returned ticks adapter result checkedAt authorization w a t passed registered supports executes audit id allows =>
    exact adapter_enrols registered supports

theorem executeAndVerify_enrols {operation : String} {value : PyVal} (same : request.operation = operation)
    (named : Dict.get request.parameters "module_name" = value) :
    Script.Moves (Enrols adapterName operation value) (executeAndVerify H.toPlatform request adapterName) := by
  subst same named
  apply enrols_then execute_enrols
  intro result
  split
  · exact (stays_verifyExecution H _ _).bind fun _ => stays_pure _
  · exact stays_pure _

theorem proceed_enrols {action : ActionRequest} {assessment : GovernanceAssessment} {decision : ApprovalDecision} :
    Script.Moves (Enrols adapterName action.actionType.value (Dict.get action.parameters "module_name"))
      (proceed H.toPlatform action adapterName assessment decision) := by
  unfold proceed
  split
  · exact stays_recordApprovalDecision.enrols fun _ => (stays_pure _).only
  · have held : KeepsModules (holdForManualApproval H.toPlatform action decision adapterName
        (some assessment.riskResult.riskLevel) (some assessment)) :=
      stays_uuid4.bind fun _ => stays_now.bind fun _ => (stays_saveHold _).bind fun _ => stays_pure _
    apply held.enrols
    intro hold
    exact stays_recordApprovalDecision.enrols fun _ => (stays_pure _).only
  · apply (stays_announce _).enrols
    intro _
    apply stays_recordApprovalDecision.enrols
    intro _
    have authorized : KeepsModules (createExecutionAuthorization H.toPlatform action decision (some assessment)) := by
      unfold createExecutionAuthorization
      split
      · exact stays_pure _
      · split
        · exact stays_pure _
        · exact stays_uuid4.bind fun _ => stays_now.bind fun _ => stays_pure _
    apply authorized.enrols
    intro authorization
    cases authorization with
    | none => exact (stays_pure _).only
    | some authorization =>
      apply (stays_saveAuthorization authorization).enrols
      intro _
      unfold translateActionToExecution
      rw [Script.bind_assoc]
      apply stays_uuid4.enrols
      intro _
      rw [Script.pure_bind]
      apply enrols_then
      · apply executeAndVerify_enrols
        · rfl
        · rfl
      · exact fun _ => stays_pure _

theorem executeGovernedAction_enrols {action : ActionRequest} :
    Script.Moves (Enrols adapterName action.actionType.value (Dict.get action.parameters "module_name"))
      (executeGovernedAction H.toPlatform action adapterName) := by
  unfold executeGovernedAction
  apply KeepsModules.enrols (Script.Moves.caught (stays_resolveAssessment H action adapterName))
  intro answer
  split
  · exact (stays_throw _).only
  · exact (stays_pure _).only
  · split
    · exact (stays_pure _).only
    · have processed : ∀ assessment : GovernanceAssessment,
          KeepsModules (processApproval H.toPlatform action assessment.policyResult assessment.riskResult) := fun _ =>
        stays_uuid4.bind fun _ => stays_pure _
      apply (processed _).enrols
      exact fun _ => proceed_enrols

/-- The approval resumes a hold of the creation of a module, of this name. -/
def Creates (H : Home W L) (s : State (Registered W)) (approvalId target : String) : Prop :=
  ∃ hold, Resumable H.toPlatform s approvalId hold ∧ hold.adapterName = "module_change" ∧
    lower hold.action.actionType.value = "create" ∧ Dict.get hold.action.parameters "module_name" = .str target

/-- **What an approval does to the registry.** -/
theorem approval_course (s : State (Registered W)) (approvalId approvedBy : String) (approved : Bool) :
    Stays s ((approveHeldAction H.toPlatform approvalId approvedBy approved).exec s).2 ∨
      approved = true ∧ ∃ target m, Creates H s approvalId target ∧ m.Bears target ∧
        ((approveHeldAction H.toPlatform approvalId approvedBy approved).exec s).2.world.modules = s.world.modules ++ [m] := by
  let Q (s' : State (Registered W)) : Prop := Stays s s' ∨
    approved = true ∧ ∃ target m, Creates H s approvalId target ∧ m.Bears target ∧ s'.world.modules = s.world.modules ++ [m]
  suffices h : Script.Yields (fun _ s' _ => Q s') (fun _ s' _ => Q s')
      (approveHeldAction H.toPlatform approvalId approvedBy approved) s from
    (Script.yields_both (C := fun s' _ => Q s')).mp h
  apply yields_approveHeldAction
  · intro r s' ls _ resolved _ _
    refine .inl ?_
    rw [resolved]
    rfl
  · intro e s' hold _ _ resolved
    refine .inl ?_
    rw [resolved]
    rfl
  · intro hold s₁ resumable checked yes
    apply (Script.yields_both (C := fun s' _ => Q s')).mpr
    have enrols : Script.Moves (Enrols hold.adapterName hold.action.actionType.value
        (Dict.get hold.action.parameters "module_name"))
        (executeAndVerify H.toPlatform (manualRequest H.toPlatform s₁ hold) hold.adapterName) :=
      executeAndVerify_enrols rfl rfl
    rcases enrols (manualState H.toPlatform s₁ hold approvedBy approvalId) with stays | ⟨adapter, creates, gains⟩
    · refine .inl (Eq.trans stays ?_)
      rw [checked]
      rfl
    · rcases gains with kept | ⟨target, m, named, bears, grown⟩
      · refine .inl (Eq.trans kept ?_)
        rw [checked]
        rfl
      · refine .inr ⟨yes, target, m, ⟨hold, resumable, adapter, creates, named⟩, bears, ?_⟩
        rw [grown, checked]
        rfl

/-- **What a change does to the registry.** -/
theorem change_registers (s : State (Registered W)) (proposal : ChangeProposal) (adapterName : String) :
    Stays s ((executeGovernedChange H.toPlatform proposal adapterName).exec s).2 ∨
      ∃ m, ¬Occupied s.world.modules proposal.target ∧ m.Bears proposal.target ∧
        ((executeGovernedChange H.toPlatform proposal adapterName).exec s).2.world.modules = s.world.modules ++ [m] := by
  have blocked : ∀ message, KeepsModules (blockedChange H.toPlatform proposal message) := fun _ _ => rfl
  unfold executeGovernedChange
  by_cases adapter : adapterName = "module_change"
  · rw [if_neg (by simp [adapter])]
    by_cases supported : proposal.operation ∈ supportedEvolutionOperations
    · rw [if_neg (by simp [supported])]
      unfold assessChange
      rw [if_neg (by simp [supported]), Script.bind_assoc, Script.exec_bind, exec_outside, H.observed]
      dsimp only [Script.exec_read]
      by_cases occupied : Occupied s.world.modules proposal.target
      · have found : ((s.world.modules.map Module.registered).any fun m =>
            m.name = proposal.target ∨ m.container = some proposal.target) = true := by
          obtain ⟨m, hm, bears⟩ := occupied
          exact List.any_eq_true.mpr ⟨m.registered, List.mem_map_of_mem hm, decide_eq_true bears⟩
        rw [if_pos found]
        exact .inl (blocked _ s)
      · have free : ¬((s.world.modules.map Module.registered).any fun m =>
            m.name = proposal.target ∨ m.container = some proposal.target) = true := by
          intro found
          obtain ⟨r, hr, bears⟩ := List.any_eq_true.mp found
          obtain ⟨m, hm, rfl⟩ := List.mem_map.mp hr
          exact occupied ⟨m, hm, of_decide_eq_true bears⟩
        rw [if_neg free]
        have enrols : Script.Moves (Enrols adapterName ActionType.create.value (.str proposal.target)) (do
            let action ← buildAction H.toPlatform proposal
            let result ← executeGovernedAction H.toPlatform action adapterName
            pure (changeResult proposal action result)) := by
          unfold buildAction
          rw [Script.bind_assoc]
          apply stays_uuid4.enrols
          intro actionId
          rw [Script.pure_bind]
          apply enrols_then
          · exact executeGovernedAction_enrols
          · exact fun _ => stays_pure _
        rcases enrols s with stays | ⟨-, -, kept | ⟨target, m, same, bears, grown⟩⟩
        · exact .inl stays
        · exact .inl kept
        · cases same
          exact .inr ⟨m, occupied, bears, grown⟩
    · rw [if_pos (by simpa using supported)]
      exact .inl (blocked _ s)
  · rw [if_pos adapter]
    exact .inl (blocked _ s)

/-! ### Runs -/

/-- A call of the evolution service or of the core's approval. -/
inductive RegistryCall where
  | change (proposal : ChangeProposal) (adapterName : String)
  | approve (approvalId approvedBy : String) (approved : Bool)

def RegistryCall.script (H : Home W L) : RegistryCall → Governed (Registered W) L Unit
  | change proposal adapterName => do let _ ← executeGovernedChange H.toPlatform proposal adapterName
  | approve approvalId approvedBy approved => do let _ ← approveHeldAction H.toPlatform approvalId approvedBy approved

/-- One call after another. -/
inductive Calls (H : Home W L) (admits : State (Registered W) → RegistryCall → Prop) (s : State (Registered W)) :
    State (Registered W) → Prop where
  | start : Calls H admits s s
  | call {s₁ : State (Registered W)} (c : RegistryCall) (before : Calls H admits s s₁) (admitted : admits s₁ c) :
      Calls H admits s ((c.script H).exec s₁).2

/-- An approval that creates no module creates none under a name or in a container that is registered. -/
def Free (H : Home W L) (s : State (Registered W)) : RegistryCall → Prop
  | .change _ _ => True
  | .approve approvalId _ approved => approved = true → ∀ target, Creates H s approvalId target → ¬Occupied s.world.modules target

theorem call_distinct {s : State (Registered W)} (call : RegistryCall) (free : Free H s call)
    (distinct : Distinct s.world.modules) : Distinct ((call.script H).exec s).2.world.modules := by
  cases call with
  | change proposal adapterName =>
    unfold RegistryCall.script
    rw [Script.exec_bind_readOnly fun _ => Script.readOnly_pure _]
    rcases change_registers (H := H) s proposal adapterName with stays | ⟨m, free, bears, grown⟩
    · rw [stays]
      exact distinct
    · rw [grown]
      exact distinct.extend bears free
  | approve approvalId approvedBy approved =>
    unfold RegistryCall.script
    rw [Script.exec_bind_readOnly fun _ => Script.readOnly_pure _]
    rcases approval_course (H := H) s approvalId approvedBy approved with stays | ⟨yes, target, m, creates, bears, grown⟩
    · rw [stays]
      exact distinct
    · rw [grown]
      exact distinct.extend bears (free yes target creates)

end

/-- **A module is registered at most once** in every run whose approvals are of free targets. -/
theorem modules_distinct (H : Home W L) {s s' : State (Registered W)} (run : Calls H (Free H) s s')
    (distinct : Distinct s.world.modules) : Distinct s'.world.modules := by
  induction run with
  | start => exact distinct
  | call c _ free ih => exact call_distinct c free ih

/-! ### Two changes of one target

Both are held, since they require approval, and both are approved. -/

namespace Sample

def naming : Naming where
  lower := Core.lower
  invalid _ _ := "2 validation errors for Module"
  unnamed _ := "object has no attribute 'lower'"
  shortId n := String.ofList (Nat.toDigits 16 (0xa3f0c1 + n))

/-- What the actions are digested to. -/
def digests : List (String × String) := [
  ("\x7b\"action_id\":\"0\"", "7cacad9a900196d28042ebf768ee1469aa9bbd1c93309a41fe5b239772202614"),
  ("\x7b\"action_id\":\"4\"", "b69050b38bf9ccb1dcb9d6e71b833b43318c90c6ea2800bd8a4aac7683cbe18f")]

theorem tabulated_ne (s : String) : tabulated digests s ≠ "" := by
  unfold tabulated
  dsimp only
  split
  · next e found =>
    have listed : e ∈ digests := List.mem_of_find?_eq_some found
    simp only [digests, List.mem_cons, List.not_mem_nil, or_false] at listed
    rcases listed with rfl | rfl <;> simp
  · simp

def home : Home Unit Empty where
  registration? domain := if domain = defaultGovernanceDomain then some defaultRegistration else none
  adapter? name :=
    if name = "module_change" then some (moduleChangeAdapter naming.registrar)
    else if name = "simulation" then some simulationAdapter else none
  getModules := Script.read fun w => w.modules.map Module.registered
  rt := { runtime with sha256 := tabulated digests }
  digest_ne := tabulated_ne
  uuid4 := uuid
  uuid4_fresh := platform.uuid4_fresh
  clock := platform.clock
  reload := platform.reload
  naming := naming
  observed := rfl
  moduleChange := by simp
  others name adapter request other found := by
    rw [if_neg other] at found
    split at found <;> cases found
    exact ⟨fun _ => rfl, fun _ => rfl⟩
  evaluators domain registration action found := by
    split at found <;> cases found
    exact ⟨fun _ => rfl, fun _ => rfl⟩

def proposal (changeId : String) : ChangeProposal where
  changeId
  scope := "module"
  target := "billing"
  operation := "register_module"
  version := "1.0.0"
  reason := "Billing is ready"
  confidence := 95
  requiresApproval := true
  expectedOutcome := none

/-- An empty registry. -/
def unregistered : State (Registered Unit) := .initial .sqlite ⟨[], 0, ()⟩

def changed (s : State (Registered Unit)) (changeId : String) : State (Registered Unit) :=
  (((RegistryCall.change (proposal changeId) "module_change").script home).exec s).2

def approved (s : State (Registered Unit)) (approvalId : String) : State (Registered Unit) :=
  (((RegistryCall.approve approvalId "operator" true).script home).exec s).2

theorem changed_run {admits : State (Registered Unit) → RegistryCall → Prop} {s s₁ : State (Registered Unit)}
    (before : Calls home admits s s₁) (changeId : String)
    (admitted : admits s₁ (.change (proposal changeId) "module_change")) : Calls home admits s (changed s₁ changeId) :=
  .call _ before admitted

theorem approved_run {admits : State (Registered Unit) → RegistryCall → Prop} {s s₁ : State (Registered Unit)}
    (before : Calls home admits s s₁) (approvalId : String)
    (admitted : admits s₁ (.approve approvalId "operator" true)) : Calls home admits s (approved s₁ approvalId) :=
  .call _ before admitted

theorem unregistered_distinct : Distinct unregistered.world.modules := ⟨List.nodup_nil, List.nodup_nil⟩

end Sample

/-- One change, held and approved. -/
theorem modules_distinct_approved :
    Distinct (Sample.approved (Sample.changed Sample.unregistered "change-1") "3").world.modules := by
  have held := Sample.changed_run (Calls.start : Calls Sample.home (Free Sample.home) Sample.unregistered _) "change-1" trivial
  have empty : (Sample.changed Sample.unregistered "change-1").world.modules = [] :=
    List.isEmpty_iff.mp (by decide +kernel)
  refine modules_distinct Sample.home (Sample.approved_run held "3" ?_) Sample.unregistered_distinct
  rintro - target - ⟨m, hm, -⟩
  rw [empty] at hm
  cases hm

/-- **One target, registered twice.** -/
theorem modules_repeated : ∃ s s' : State (Registered Unit), Distinct s.world.modules ∧
    Calls Sample.home (fun _ _ => True) s s' ∧ s'.world.modules.map (·.name) = ["billing", "billing"] ∧
    ¬Distinct s'.world.modules := by
  have first := Sample.changed_run (Calls.start : Calls Sample.home (fun _ _ => True) Sample.unregistered _) "change-1" trivial
  have second := Sample.changed_run first "change-2" trivial
  have third := Sample.approved_run second "3" trivial
  have fourth := Sample.approved_run third "7" trivial
  have twice : (Sample.approved (Sample.approved (Sample.changed (Sample.changed Sample.unregistered "change-1") "change-2")
      "3") "7").world.modules.map (·.name) = ["billing", "billing"] := by decide +kernel
  refine ⟨Sample.unregistered, _, Sample.unregistered_distinct, fourth, twice, ?_⟩
  intro distinct
  have names := distinct.names
  rw [twice] at names
  simp at names

end RmtPlatform.Core
