import RmtPlatform.Core.Lifecycle
import RmtPlatform.Data.Stored

/-! Whether an action keeps its binding.

An assessment binds an action by the digest of its instruction. A translated request
has the action's own instruction, so its digest is the action's. A hold that has been
through a file holds the action as JSON made of it: its digest is the action's exactly
where every dictionary within the parameters has its keys in the order of their names
(`binding_survives_iff`). -/
namespace RmtPlatform.Core

variable {W L : Type}

/-! ### Storing an action -/

/-- What `json.dump` and `json.load` make of a dictionary. -/
def storedDict (d : Dict) : Dict := PyVal.storedEntries [] d

/-- The action as a new process reads it. -/
def ActionRequest.reloaded (P : Platform W L) (action : ActionRequest) : ActionRequest :=
  { action with parameters := P.reload action.parameters }

def ApprovalHold.reloaded (P : Platform W L) (hold : ApprovalHold) : ApprovalHold :=
  { hold with action := hold.action.reloaded P }

section
variable {P : Platform W L} {action : ActionRequest} {adapterName d : String}

/-- What is digested has its parameters' tree in it. -/
theorem bindAction_tree (h : bindAction P.rt action adapterName = .ok d) :
    ∃ p, (PyVal.dict action.parameters).toJson = some p := by
  obtain ⟨t, ht, -⟩ := Instruction.digest_ok h
  obtain ⟨j, hj, -⟩ := Option.map_eq_some_iff.mp (Instruction.text_ok ht)
  rw [Instruction.toJson_payload] at hj
  obtain ⟨p, hp, -⟩ := Option.map_eq_some_iff.mp hj
  exact ⟨p, hp⟩

/-- Parameters with one tree are digested alike. -/
theorem bindAction_congr {parameters : Dict}
    {p : Json} (h : (PyVal.dict parameters).toJson = some p) (h' : (PyVal.dict action.parameters).toJson = some p) :
    bindAction P.rt { action with parameters } adapterName = bindAction P.rt action adapterName := by
  have copied := PyVal.copyErrorEntries_congr h h' P.rt.room
  have canonical : (({ action with parameters } : ActionRequest).instruction adapterName).payload.canonical =
      (action.instruction adapterName).payload.canonical := by
    unfold PyVal.canonical
    rw [Instruction.toJson_payload, Instruction.toJson_payload]
    simp only [ActionRequest.instruction, h, h']
  unfold bindAction Instruction.digest Instruction.text
  rw [canonical]
  simp only [ActionRequest.instruction, copied]
  rfl

/-- **A reloaded action has its digest** exactly where its parameters' keys are in the order of their names. -/
theorem reloaded_digest_iff (loads : P.reload = storedDict) (hash : Function.Injective P.rt.sha256)
    (proper : (PyVal.dict action.parameters).Proper) (h : bindAction P.rt action adapterName = .ok d) :
    bindAction P.rt (action.reloaded P) adapterName = .ok d ↔ (PyVal.dict action.parameters).Settled := by
  obtain ⟨p, hp⟩ := bindAction_tree h
  obtain ⟨p', hp', settled⟩ := PyVal.toJson_stored hp proper
  have tree : (PyVal.dict (action.reloaded P).parameters).toJson = some p' := by
    rw [ActionRequest.reloaded, loads]
    exact hp'
  rw [← settled]
  constructor
  · intro same
    obtain ⟨t, ht, ht'⟩ := (Instruction.same_of_digest hash same h).parameters
    have alike := PyVal.toJson_of_canonical ht ht'
    simp only [ActionRequest.instruction] at alike
    rw [tree, hp] at alike
    exact Option.some.inj alike
  · rintro rfl
    rw [← h]
    exact bindAction_congr tree hp

end

/-! ### Stops -/

/-- The engine stopped the request because it is not what was assessed or authorized. -/
def BindingStop (t : ExecutionTrace) : Prop :=
  t.policyDecision = "not_evaluated" ∧ (t.reason = "Authorization instruction or adapter binding mismatch" ∨
    t.reason = "Execution instruction binding mismatch")

/-- No such stop between the two states. -/
def Unstopped (s s' : State W) : Prop := ∀ t ∈ s'.traces.records, BindingStop t → t ∈ s.traces.records

/-- A hold made for the action, as the governed call stores it. -/
structure HeldFor (P : Platform W L) (action : ActionRequest) (adapterName : String) (hold : ApprovalHold) : Prop where
  held : hold.action = action
  adapter : hold.adapterName = adapterName
  domain : hold.governanceDomain = action.governanceDomain
  assessed : ∃ assessment, Assesses P action adapterName assessment ∧ hold.toProvenance = assessment.provenance

/-- What the digest of an action is worth: on its way to the engine, at once or held, in
one process or two, whatever the second has registered. -/
structure Survives (P : Platform W L) (action : ActionRequest) (adapterName d : String) : Prop where
  translated : ∀ (a : ActionRequest), a = action ∨ a = action.reloaded P → ∀ authorizationId riskLevel assessment hold s,
    ∃ request s', (translateActionToExecution P a authorizationId riskLevel adapterName assessment hold).exec s =
      (.ok request, s') ∧ bindExecutionRequest P.rt request adapterName = .ok d
  governed : ∀ s, Fresh P.uuid4 s → Unstopped s ((executeGovernedAction P action adapterName).exec s).2
  approved : ∀ (registry : Registry W L) s hold approvedBy approved,
    Fresh P.uuid4 s → HeldFor P action adapterName hold →
    ∀ held, held = hold ∨ held = hold.reloaded P → s.hold? held.approvalId = some held →
    (∀ registration, registry.registration? held.governanceDomain = some registration → boundTo registration held) →
    let ending := (approveHeldAction (P.registering registry) held.approvalId approvedBy approved).exec s
    Unstopped s ending.2 ∧ ending.1 ≠
      .ok (.assessmentInvalid "Held assessment or instruction binding mismatch" held.approvalId held.actionId)

section
variable {P : Platform W L} {s s₁ s' : State W} {action : ActionRequest} {adapterName d : String}

theorem Unstopped.refl (s : State W) : Unstopped s s := fun _ ht _ => ht

theorem Unstopped.of_traces (h : s'.traces = s.traces) : Unstopped s s' := fun _ ht _ => h ▸ ht

theorem unstopped_save {t : ExecutionTrace} {w : W} {ticks : Nat} {audits : DurableStore ExecutionAuditRecord}
    (h : ¬BindingStop t) : Unstopped s { s with ticks, world := w, audits, traces := s.traces.save t } := by
  intro t' ht' stop
  rcases List.mem_append.mp ht' with old | new
  · exact old
  · exact absurd stop (List.mem_singleton.mp new ▸ h)

/-- Only a refusal for its binding is a stop. -/
theorem Ending.unstopped {request : ExecutionRequest} {ls : List (Event L)} {r : Except Raised ExecutionResult}
    (h : Ending P request adapterName s ls r s')
    (refused : ∀ reason, refusal P s request adapterName = some reason → reason = "Authorization expired") :
    Unstopped s s' := by
  cases h with
  | refused reason ticks t why id told =>
    refine unstopped_save fun stop => ?_
    rw [BindingStop, told, refused reason why] at stop
    exact absurd stop.2 (by decide)
  | unbound => exact .of_traces rfl
  | unknown => exact .of_traces rfl
  | unsupported => exact .of_traces rfl
  | undetermined => exact .of_traces rfl
  | raised => exact .of_traces rfl
  | returned ticks adapter result checkedAt authorization w a t passed registered supports executes audit id allows =>
    refine unstopped_save fun stop => ?_
    rw [BindingStop, allows] at stop
    exact absurd stop.1 (by decide)

/-- A request made with its authorization is not stopped. -/
theorem Granted.unstopped {provenance : Provenance} {a : ExecutionAuthorization} {request : ExecutionRequest}
    (h : Granted P s action adapterName provenance a request s₁) (fresh : Fresh P.uuid4 s)
    (digest : provenance.instructionDigest = some d) (bound : bindAction P.rt action adapterName = .ok d)
    (version : provenance.canonicalizationVersion = some canonicalizationVersion) :
    Script.Yields (fun _ s' _ => Unstopped s₁ s') (fun _ s' _ => Unstopped s₁ s')
      (executeAndVerify P request adapterName) s₁ := by
  have nonempty : d ≠ "" := by
    obtain ⟨t, -, rfl⟩ := Instruction.digest_ok bound
    exact P.digest_ne t
  have refused : ∀ reason, Core.refusal P s₁ request adapterName = some reason → reason = "Authorization expired" := by
    intro reason why
    rw [h.refusal fresh digest nonempty bound version] at why
    split at why
    · exact (Option.some.inj why).symm
    · cases why
  apply yields_executeAndVerify
  · exact fun _ _ _ ending => ending.unstopped refused
  · exact fun _ _ _ ending _ => ending.unstopped refused
  · exact fun _ _ _ _ _ _ ending _ _ => ending.unstopped refused

/-- What a call leaves, whether it returns or raises. -/
theorem of_yields {α : Type} {C : State W → Prop} {x : Governed W L α} (h : Script.Yields (fun _ s' _ => C s') (fun _ s' _ => C s') x s) :
    C (x.exec s).2 := by
  unfold Script.Yields at h
  rcases hx : x.exec s with ⟨e | a, s'⟩ <;> rw [hx] at h <;> exact h

theorem governed_unstopped (fresh : Fresh P.uuid4 s) :
    Unstopped s ((executeGovernedAction P action adapterName).exec s).2 := by
  apply of_yields
  apply yields_executeGovernedAction
  · intro e s₁ ls _ only
    have still : Unstopped s s₁ := .of_traces (by rw [only.still.same])
    exact ⟨fun _ _ => still, still⟩
  · intro assessment s₁ ws _ assesses still _
    have before : s₁.traces = s.traces := by rw [still.same]
    split
    · by_cases auto : (evaluateApproval action assessment.policyResult assessment.riskResult).1 = .auto
      · apply yields_proceed_auto auto
        have fresh₁ : Fresh P.uuid4 s₁ := fun a ha => (fresh a (by rwa [still.same] at ha)).mono still.draws
        have granted := (automatic_granted (s := s₁) assesses).unstopped fresh₁ rfl assesses.digest
          (congrArg some assesses.version)
        refine granted.mono (fun _ s' _ h => ?_) fun _ s' _ h => ?_
        all_goals
          intro t ht stop
          exact before ▸ h t ht stop
      · apply proceed_other auto
        · exact fun _ _ _ => .of_traces before
        · exact fun _ _ _ _ _ => .of_traces before
    · exact .of_traces before

/-- A hold whose action has the digest it is held under is not stopped. -/
theorem held_unstopped {hold : ApprovalHold} {approvedBy : String} {approved : Bool} (fresh : Fresh P.uuid4 s)
    (bound : bindAction P.rt hold.action hold.adapterName = .ok d) (digest : hold.instructionDigest = some d)
    (version : hold.canonicalizationVersion = some canonicalizationVersion)
    (found : s.hold? hold.approvalId = some hold)
    (current : ∀ registration, P.registration? hold.governanceDomain = some registration → boundTo registration hold) :
    Unstopped s ((approveHeldAction P hold.approvalId approvedBy approved).exec s).2 ∧
      ((approveHeldAction P hold.approvalId approvedBy approved).exec s).1 ≠
        .ok (.assessmentInvalid "Held assessment or instruction binding mismatch" hold.approvalId hold.actionId) := by
  have intact : Unaltered P.rt hold := ⟨d, by rw [heldDigest, bound], digest⟩
  have ends : Script.Yields (fun r s' _ => Unstopped s s' ∧
        r ≠ .assessmentInvalid "Held assessment or instruction binding mismatch" hold.approvalId hold.actionId)
      (fun _ s' _ => Unstopped s s') (approveHeldAction P hold.approvalId approvedBy approved) s := by
    apply yields_approveHeldAction
    · intro r s' ls _ resolved _ invalid
      refine ⟨.of_traces (by rw [resolved]), ?_⟩
      rintro rfl
      rcases invalid _ _ rfl with other | ⟨hold', registration, found', registered, differs⟩
      · exact absurd other (by decide)
      · obtain rfl : hold = hold' := Option.some.inj (found.symm.trans found')
        exact differs (current registration registered) intact
    · exact fun _ _ _ _ _ resolved => .of_traces (by rw [resolved])
    · intro hold' s₁ resumable same _
      obtain rfl : hold = hold' := Option.some.inj (found.symm.trans resumable.found)
      have fresh₁ : Fresh P.uuid4 s₁ := by
        rw [same]
        exact fresh
      have before : (manualState P s₁ hold approvedBy hold.approvalId).traces = s.traces := by
        rw [same]
        rfl
      refine (manual_granted.unstopped fresh₁ digest bound version).mono (fun e s' _ h => ⟨?_, by simp⟩) fun _ s' _ h => ?_
      all_goals
        intro t ht stop
        exact before ▸ h t ht stop
  unfold Script.Yields at ends
  rcases answer : (approveHeldAction P hold.approvalId approvedBy approved).exec s with ⟨e | r, s'⟩ <;> rw [answer] at ends
  · exact ⟨ends, by simp⟩
  · exact ⟨ends.1, fun h => ends.2 (Except.ok.inj h)⟩

end

/-- **An action's binding survives** exactly where its parameters' keys are in the order of their names. -/
theorem binding_survives_iff (P : Platform W L) (loads : P.reload = storedDict)
    (hash : Function.Injective P.rt.sha256) (world : W) (action : ActionRequest) (adapterName d : String)
    (proper : (PyVal.dict action.parameters).Proper) (bound : bindAction P.rt action adapterName = .ok d) :
    Survives P action adapterName d ↔ (PyVal.dict action.parameters).Settled := by
  have reloaded := reloaded_digest_iff loads hash proper bound
  constructor
  · intro survives
    obtain ⟨request, s', translates, same⟩ := survives.translated _ (.inr rfl) "" none .missing .missing
      (State.initial .json world)
    cases translates
    exact reloaded.mp same
  · intro settled
    have both : ∀ a, a = action ∨ a = action.reloaded P → bindAction P.rt a adapterName = .ok d := by
      rintro a (rfl | rfl)
      · exact bound
      · exact reloaded.mpr settled
    refine ⟨?_, ?_, ?_⟩
    · intro a ha authorizationId riskLevel assessment hold s
      exact ⟨_, _, rfl, both a ha⟩
    · exact fun s fresh => governed_unstopped fresh
    · intro registry s hold approvedBy approved fresh heldFor held same found current
      obtain ⟨assessment, assesses, carries⟩ := heldFor.assessed
      have digest : assessment.instructionDigest = d := by
        have := assesses.digest.symm.trans bound
        exact Except.ok.inj this
      have carried : held.toProvenance = assessment.provenance ∧ held.adapterName = adapterName ∧
          (held.action = action ∨ held.action = action.reloaded P) := by
        rcases same with rfl | rfl
        · exact ⟨carries, heldFor.adapter, .inl heldFor.held⟩
        · exact ⟨carries, heldFor.adapter, .inr (by rw [ApprovalHold.reloaded, heldFor.held])⟩
      obtain ⟨provenance, adapter, acts⟩ := carried
      apply held_unstopped (P := P.registering registry) (d := d) fresh
      · rw [adapter]
        exact both _ acts
      · rw [provenance]
        exact congrArg some digest
      · rw [provenance]
        exact congrArg some assesses.version
      · exact found
      · exact current

namespace Sample

/-- A platform whose files are JSON. -/
def filePlatform : Platform Unit Empty := { platform with reload := storedDict }

/-- The action with a map of ports. -/
def withPorts (ports : Dict) : ActionRequest := { action with parameters := [(.str "ports", .dict ports)] }

def boundDigest (action : ActionRequest) : String :=
  match bindAction runtime action "simulation" with
  | .ok d => d
  | .error _ => ""

end Sample

theorem binding_survives_named :
    Survives Sample.filePlatform (Sample.withPorts [(.str "80", .int 8080)]) "simulation"
      (Sample.boundDigest (Sample.withPorts [(.str "80", .int 8080)])) := by
  refine (binding_survives_iff Sample.filePlatform rfl Sample.sha256_injective () _ _ _ ?_ ?_).mpr ?_
  · exact ⟨by decide, ⟨by decide, trivial, trivial⟩, trivial⟩
  · decide +kernel
  · exact ⟨by decide, ⟨by decide, trivial, trivial⟩, trivial⟩

/-- **Two numbered ports are digested in one order and, once stored, in another.** -/
theorem binding_lost :
    let action := Sample.withPorts [(.int 80, .int 8080), (.int 443, .int 8443)]
    bindAction Sample.filePlatform.rt action "simulation" = .ok (Sample.boundDigest action) ∧
      ¬Survives Sample.filePlatform action "simulation" (Sample.boundDigest action) := by
  refine ⟨by decide +kernel, fun survives => ?_⟩
  obtain ⟨request, s', translates, same⟩ := survives.translated _ (.inr rfl) "" none .missing .missing
    (State.initial .json ())
  cases translates
  exact absurd same (by decide +kernel)

end RmtPlatform.Core
