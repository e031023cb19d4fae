import RmtPlatform.Budget.Calls
import RmtPlatform.Data.Stored

/-! An action in JSON.

A decision keeps the whole action as text. What the service puts into an action is plain,
and reads back as it was written. -/
namespace RmtPlatform.Budget

/-- A parameter, of the kinds an action of the service holds. -/
def memberJson : PyVal → Json
  | .str s => .string s
  | .int i => .int i
  | _ => .null

def outcomeJson : Option Core.ExpectedOutcome → Json
  | none => .null
  | some outcome => .object [("target", .string outcome.target), ("operation", .string outcome.operation),
      ("expected_state", .string outcome.expectedState)]

def actionJson (action : Core.ActionRequest) : Json := .object [
  ("action_id", .string action.actionId), ("decision_id", .string action.decisionId),
  ("governance_domain", .string action.governanceDomain), ("component", .string action.component),
  ("action_type", .string action.actionType.value), ("reason", .string action.reason),
  ("confidence", .int action.confidence), ("requires_approval", .bool action.requiresApproval),
  ("rollback_required", .bool action.rollbackRequired),
  ("parameters", .object (action.parameters.map fun e => (e.1.text, memberJson e.2))),
  ("expected_outcome", outcomeJson action.expectedOutcome)]

def readOutcome : Json → Option Core.ExpectedOutcome
  | .object [(_, .string target), (_, .string operation), (_, .string expectedState)] =>
    some ⟨target, operation, expectedState⟩
  | _ => none

def readType (value : String) : Option Core.ActionType :=
  [.restartComponent, .createCheckpoint, .scaleDown, .isolateComponent, .start, .stop, .restart, .create, .remove].find?
    fun (t : Core.ActionType) => t.value = value

def readAction : Json → Option Core.ActionRequest
  | .object [(_, .string actionId), (_, .string decisionId), (_, .string governanceDomain), (_, .string component),
      (_, .string actionType), (_, .string reason), (_, .int confidence), (_, .bool requiresApproval),
      (_, .bool rollbackRequired), (_, .object parameters), (_, outcome)] =>
    (readType actionType).map fun actionType => {
      actionId, decisionId, governanceDomain, component, actionType, reason, confidence, requiresApproval,
      rollbackRequired, parameters := PyVal.ofJsonMembers [] parameters, expectedOutcome := readOutcome outcome }
  | _ => none

theorem readType_value (t : Core.ActionType) : readType t.value = some t := by
  cases t <;> decide

theorem readOutcome_outcomeJson (outcome : Option Core.ExpectedOutcome) : readOutcome (outcomeJson outcome) = outcome := by
  cases outcome <;> rfl

/-- Plain parameters are read as they are told, after those already read. -/
theorem ofJsonMembers_plain {loaded parameters : Dict} (plain : Plain (loaded ++ parameters)) :
    PyVal.ofJsonMembers loaded (parameters.map fun e => (e.1.text, memberJson e.2)) = loaded ++ parameters := by
  induction parameters generalizing loaded with
  | nil => simp [PyVal.ofJsonMembers]
  | cons e rest ih =>
    obtain ⟨⟨key, hkey⟩, value⟩ := plain.2 e (by simp)
    have named : e.1.text = key := by
      rw [hkey]
      rfl
    have new : PyKey.str key ∉ loaded.map Prod.fst := by
      have distinct := plain.1
      rw [List.map_append, List.nodup_append] at distinct
      intro mem
      exact distinct.2.2 _ mem _ (by rw [← hkey]; simp) rfl
    have same : (PyKey.str e.1.text, PyVal.ofJson (memberJson e.2)) = e := by
      obtain ⟨k, v⟩ := e
      dsimp only at hkey value
      subst hkey
      rcases value with ⟨s, rfl⟩ | ⟨i, rfl⟩ <;> simp [PyKey.text, memberJson, PyVal.ofJson]
    rw [List.map_cons, PyVal.ofJsonMembers, PyVal.setEntry_new (by rwa [named]), same, ih, List.append_assoc]
    · rfl
    · rwa [List.append_assoc]

theorem readAction_actionJson {action : Core.ActionRequest} (plain : Plain action.parameters) :
    readAction (actionJson action) = some action := by
  have parameters := @ofJsonMembers_plain [] action.parameters plain
  simp [actionJson, readAction, readType_value, readOutcome_outcomeJson]
  rw [parameters]
  rfl

/-- `model_dump_json` and `model_validate_json`. -/
def actionModels : Models where
  modelDumpJson action := String.ofList (actionJson action).render
  modelValidateJson text := (Json.parse text.toList).bind readAction
  reads action plain := by simp [Json.parse_render, readAction_actionJson plain]

theorem modelDumpJson_ne (action : Core.ActionRequest) : actionModels.modelDumpJson action ≠ "" := by
  have text : actionModels.modelDumpJson action = String.ofList (actionJson action).render := rfl
  rw [text]
  simp [actionJson, Json.render]

end RmtPlatform.Budget
