import RmtPlatform.Data.Decode
import RmtPlatform.Agent.Proposal

/-! Proposals a language model makes.

The text of the model is searched for one JSON object, and the object becomes a
proposal or is refused with an `LlmProposalError`. Two things get past the refusals:
what the decoder raises besides `JSONDecodeError`, and a target or mechanism that
cannot be hashed, which the membership tests raise for (`propose_fails_closed_iff`). -/
namespace RmtPlatform.Agent

open Core

/-- What a call may raise. -/
inductive LlmRaised where
  | proposalError (reason detail : String)
  | typeError (message : String)
  | valueError
  | recursionError

/-- What the client comes back with. -/
inductive Generated where
  | text (s : String)
  | proposalError (reason detail : String)
  | exception (repr : String)

section
variable (rt : Runtime) (J : Decoder) (knownComponents : List String)

def validMechanisms : List String := ActionType.all.map ActionType.value

/-- `ActionType(mechanism)`. -/
def mechanismOf (name : String) : Option ActionType := ActionType.all.find? fun t => t.value = name

/-- `re.search(r"\{.*\}", text, re.S)`: from the first opening brace to the last closing one. -/
def braced (text : List Char) : Option (List Char) :=
  match ((text.dropWhile (· ≠ '{')).reverse.dropWhile (· ≠ '}')).reverse with
  | [] => none
  | group => some group

def parseError (detail : String) : LlmRaised := .proposalError "llm_parse_error" detail

/-- What becomes of the braced text once it has been read. -/
def objectOf (group : List Char) : Except DecodeError PyVal → Except LlmRaised Dict
  | .ok (.dict data) => .ok data
  | .ok _ => .error (parseError "model output is not an object")
  | .error .digits => .error .valueError
  | .error .depth => .error .recursionError
  | .error _ => .error (parseError ("bad JSON: " ++ J.complaint (String.ofList group)))

def extractJson (text : String) : Except LlmRaised Dict :=
  match braced text.toList with
  | none => .error (parseError "no JSON object in model output")
  | some group => objectOf J group (J.loads group)

/-- A membership test, and the refusal where it says no. -/
def require (names : List String) (v : PyVal) (refusal : String) : Except LlmRaised String :=
  match hashedIn names v with
  | .error message => .error (.typeError message)
  | .ok (some name) => .ok name
  | .ok none => .error (.proposalError "invalid_proposal" (refusal ++ " " ++ rt.reprOf v))

/-- `data.get("propose") is not True`. -/
def proposes (data : Dict) : Bool :=
  match data.get "propose" with
  | .bool true => true
  | _ => false

/-- The proposal for a target and an operation that are allowed. -/
def intended (data : Dict) (goal : String) (grantId : Option String) (target name : String) :
    Except LlmRaised AgentProposal :=
  match (data.get "confidence").percentage, mechanismOf name with
  | none, _ => .error (.proposalError "invalid_proposal"
      ("confidence not int 0-100: " ++ rt.reprOf (data.get "confidence")))
  | some _, none => .error .valueError
  | some confidence, some mechanism =>
    let reason := data.get "reason"
    .ok {
      agentId := "llm-agent"
      operationalContext := "homelab"
      goal := strip goal
      target
      mechanism
      reason := truncated 300 (rt.str (if reason.truthy then reason else .str ("llm proposal for goal: " ++ goal)))
      confidence
      expectedState := "running"
      grantId }

/-- The proposal an object makes. -/
def proposalOf (data : Dict) (goal : String) (grantId : Option String) : Except LlmRaised AgentProposal :=
  if proposes data = false then .error (.proposalError "no_proposal" "model did not propose an action")
  else do
    let target ← require rt knownComponents (data.get "target") "unknown target"
    let name ← require rt validMechanisms (data.get "mechanism") "invalid mechanism"
    intended rt data goal grantId target name

def parseProposal (text goal : String) (grantId : Option String) : Except LlmRaised AgentProposal := do
  let data ← extractJson J text
  proposalOf rt knownComponents data goal grantId

def propose (generated : Generated) (goal : String) (grantId : Option String) : Except LlmRaised AgentProposal :=
  match generated with
  | .proposalError reason detail => .error (.proposalError reason detail)
  | .exception repr => .error (.proposalError "llm_error" repr)
  | .text text => parseProposal rt J knownComponents text goal grantId

/-! ### Failing closed -/

/-- A proposal within the allow-lists, or the one exception the endpoint answers. -/
def FailsClosed : Except LlmRaised AgentProposal → Prop
  | .ok proposal => proposal.target ∈ knownComponents ∧ proposal.mechanism.value ∈ validMechanisms
  | .error (.proposalError _ _) => True
  | .error _ => False

/-- The decoder meets one of the interpreter's limits in the text between the braces. -/
def OverLimits (text : String) : Prop :=
  ∃ group, braced text.toList = some group ∧ (J.loads group = .error .digits ∨ J.loads group = .error .depth)

/-- An object that proposes, with a target that cannot be hashed, or a known target and a mechanism that cannot. -/
def ProposesUnhashable (data : Dict) : Prop :=
  proposes data = true ∧ ((data.get "target").unhashable.isSome = true ∨
    (∃ target ∈ knownComponents, data.get "target" = .str target) ∧ (data.get "mechanism").unhashable.isSome = true)

/-- The text holds such an object. -/
def HoldsUnhashable (text : String) : Prop :=
  ∃ group data, braced text.toList = some group ∧ J.loads group = .ok (.dict data) ∧
    ProposesUnhashable knownComponents data

variable {rt J knownComponents}

theorem mechanismOf_valid {name : String} (h : name ∈ validMechanisms) : ∃ t, mechanismOf name = some t ∧ t.value = name := by
  obtain ⟨t, -, rfl⟩ := List.mem_map.mp h
  refine ⟨t, ?_, rfl⟩
  cases t <;> decide +kernel

variable (rt) in
theorem require_cases (names : List String) (v : PyVal) (refusal : String) :
    (v.unhashable.isSome = true ∧ ∃ message, require rt names v refusal = .error (.typeError message)) ∨
    (v.unhashable.isSome = false ∧ (∀ name ∈ names, v ≠ .str name) ∧
      ∃ reason detail, require rt names v refusal = .error (.proposalError reason detail)) ∨
    (v.unhashable.isSome = false ∧ ∃ name ∈ names, v = .str name ∧ require rt names v refusal = .ok name) := by
  unfold require
  rcases hashedIn_cases names v with ⟨bad, message, raised⟩ | ⟨good, unknown, looked⟩ | ⟨good, name, mem, is, looked⟩
  · exact .inl ⟨bad, message, by rw [raised]⟩
  · exact .inr (.inl ⟨good, unknown, _, _, by rw [looked]⟩)
  · exact .inr (.inr ⟨good, name, mem, is, by rw [looked]⟩)

theorem intended_closed {data : Dict} {goal target name : String} {grantId : Option String} (known : target ∈ knownComponents)
    (valid : name ∈ validMechanisms) : FailsClosed knownComponents (intended rt data goal grantId target name) := by
  obtain ⟨t, made, value⟩ := mechanismOf_valid valid
  unfold intended
  rw [made]
  cases (data.get "confidence").percentage with
  | none => trivial
  | some confidence => exact ⟨known, value ▸ valid⟩

theorem proposalOf_iff (data : Dict) (goal : String) (grantId : Option String) :
    FailsClosed knownComponents (proposalOf rt knownComponents data goal grantId) ↔
      ¬ProposesUnhashable knownComponents data := by
  unfold proposalOf ProposesUnhashable
  cases proposes data with
  | false => simp [FailsClosed]
  | true =>
    simp only [Bool.true_eq_false, if_false, true_and]
    rcases require_cases rt knownComponents (data.get "target") "unknown target" with
      ⟨bad, message, raised⟩ | ⟨good, unknown, reason, detail, refused⟩ | ⟨good, target, known, is, found⟩
    · rw [raised]
      exact iff_of_false id fun h => h (.inl bad)
    · rw [refused]
      apply iff_of_true trivial
      rintro (bad | ⟨⟨target, known, is⟩, -⟩)
      · rw [good] at bad
        cases bad
      · exact unknown target known is
    · rcases require_cases rt validMechanisms (data.get "mechanism") "invalid mechanism" with
        ⟨bad, message, raised⟩ | ⟨fine_, unknown, reason, detail, refused⟩ | ⟨fine_, name, valid, is', found'⟩
      · rw [found]
        simp only [bind, Except.bind, raised]
        exact iff_of_false id fun h => h (.inr ⟨⟨target, known, is⟩, bad⟩)
      · rw [found]
        simp only [bind, Except.bind, refused]
        apply iff_of_true trivial
        simp [good, fine_]
      · rw [found]
        simp only [bind, Except.bind, found']
        apply iff_of_true (intended_closed known valid)
        simp [good, fine_]

/-- **Proposals of a model fail closed** exactly where no limit of the decoder is met
and what the object proposes can be looked up. -/
theorem propose_fails_closed_iff (rt : Runtime) (J : Decoder) (knownComponents : List String) (text goal : String)
    (grantId : Option String) :
    FailsClosed knownComponents (propose rt J knownComponents (.text text) goal grantId) ↔
      ¬OverLimits J text ∧ ¬HoldsUnhashable J knownComponents text := by
  unfold propose parseProposal extractJson OverLimits HoldsUnhashable
  dsimp only
  cases cut : braced text.toList with
  | none =>
    apply iff_of_true trivial
    simp
  | some group =>
    simp only [Option.some.injEq, exists_eq_left']
    cases read : J.loads group with
    | error e => cases e with
      | malformed => exact iff_of_true trivial (by simp [read])
      | digits => exact iff_of_false id (by simp [read])
      | depth => exact iff_of_false id (by simp [read])
      | stuck => exact absurd read (J.loads_stuck group)
    | ok v => cases v with
      | dict data =>
        show FailsClosed knownComponents (proposalOf rt knownComponents data goal grantId) ↔ _
        rw [proposalOf_iff]
        simp [read]
      | _ => exact iff_of_true trivial (by simp [read])

/-! ### A target that is a list -/

/-- A decoder with CPython's limit, without floats. -/
private def cpython : Decoder := ⟨fun _ => none, fun _ => Char.ofNat 0xFFFD, some 4300, some 990, fun _ => ""⟩

/-- A model's answer with a list for a target. -/
def listTarget : String := "\x7b\"propose\": true, \"target\": [\"dozzle\"], \"mechanism\": \"restart\", \"confidence\": 90\x7d"

private def plainRuntime : Runtime :=
  ⟨id, id, Char.isAlpha, id, fun _ => "", fun _ => none, fun _ => none, fun _ => none, 300⟩

private def raisesTypeError : Except LlmRaised AgentProposal → Bool
  | .error (.typeError _) => true
  | _ => false

private theorem not_closed {x : Except LlmRaised AgentProposal} (h : raisesTypeError x = true) :
    ¬FailsClosed knownComponents x := by
  rcases x with (⟨_, _⟩ | _ | _ | _) | proposal
  · cases h
  · exact id
  · exact id
  · exact id
  · cases h

theorem list_target_escapes : ¬FailsClosed ["portainer", "dozzle", "uptime-kuma"]
    (propose plainRuntime cpython ["portainer", "dozzle", "uptime-kuma"] (.text listTarget) "restart it" none) := by
  have raises : raisesTypeError (propose plainRuntime cpython ["portainer", "dozzle", "uptime-kuma"] (.text listTarget)
      "restart it" none) = true := by decide +kernel
  exact not_closed raises

end

end RmtPlatform.Agent
