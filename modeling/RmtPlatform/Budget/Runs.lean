import Mathlib.Logic.Relation
import RmtPlatform.Budget.Posting

/-! Runs of the repository's operations.

A run is any sequence of calls, each with its own arguments and surroundings, each
returning or raising. `Outcome` is all a call can do to the tables; `Reachable`
states are those some run leads to. -/
namespace RmtPlatform.Budget

/-- A call of the repository and its arguments. -/
inductive Call where
  | createRequest (actor budgetId : String) (input : RequestInput)
  | addRequestVersion (actor requestId : String) (input : RequestInput)
  | submitRequest (actor requestId : String)
  | saveDecision (input : DecisionInput)
  | applyMutation (parameters : Dict) (instructionDigest executionId : String)

/-- The call as a script, whatever it returns. -/
def Call.script (rt : Runtime) (env : Env) : Call → Sql Empty Unit
  | createRequest actor budgetId input => do let _ ← Budget.createRequest rt env none actor budgetId input
  | addRequestVersion actor requestId input => do
    let _ ← Budget.addRequestVersion rt env none actor requestId input
  | submitRequest actor requestId => do let _ ← Budget.submitRequest env none actor requestId
  | saveDecision input => do let _ ← Budget.saveDecision rt env none input
  | applyMutation parameters digest executionId => do
    let _ ← Budget.applyMutation rt env none parameters digest executionId

/-- One call, whether it returns or raises. -/
def Step (rt : Runtime) (db db' : Db) : Prop := ∃ env call, db' = ((Call.script rt env call).exec db).2

abbrev Reachable (rt : Runtime) : Db → Prop := Relation.ReflTransGen (Step rt) .empty

/-- What a call can do to the tables. -/
inductive Outcome (rt : Runtime) (db db' : Db) : Prop where
  | unchanged (same : db' = db)
  | request (ledger : SameLedger db db') (effect : RequestEffect db db')
  | posted (e : LedgerEntry) (r : MutationReceipt) (posted : Posted rt db db' e r)

section
variable {L : Type} {rt : Runtime} {env : Env} {db : Db} {label : Option L}

/-- A transaction does what its body does, or nothing. -/
theorem immediateTransaction_outcome {α : Type} {body : Sql Empty α}
    (h : ∀ a db', body.exec db = (.ok a, db') → Outcome rt db db') :
    Outcome rt db ((immediateTransaction env label body).exec db).2 :=
  Transaction.run_keeps (I := fun db' => Outcome rt db db') (.unchanged rfl) h

/-- A check before a transaction does nothing of its own. -/
theorem keeps_after {α β : Type} {I : Db → Prop} {x : Sql L α} {f : α → Sql L β} (hx : Script.ReadOnly x) (here : I db)
    (hf : ∀ a, I ((f a).exec db).2) : I ((x >>= f).exec db).2 := by
  have hdb := hx db
  rw [Script.exec_bind]
  rcases h : x.exec db with ⟨e | a, s⟩ <;> rw [h] at hdb
  · cases hdb
    exact here
  · cases hdb
    exact hf a

/-- Looking at the tables afterwards does nothing either. -/
theorem keeps_before {α β : Type} {I : Db → Prop} {x : Sql L α} {f : α → Sql L β} (hf : ∀ a, Script.ReadOnly (f a))
    (hx : I (x.exec db).2) : I ((x >>= f).exec db).2 := by
  rw [Script.exec_bind_readOnly hf]
  exact hx

theorem outcome_after {α β : Type} {x : Sql L α} {f : α → Sql L β} (hx : Script.ReadOnly x)
    (hf : ∀ a, Outcome rt db ((f a).exec db).2) : Outcome rt db ((x >>= f).exec db).2 :=
  keeps_after hx (.unchanged rfl) hf

theorem outcome_before {α β : Type} {x : Sql L α} {f : α → Sql L β} (hf : ∀ a, Script.ReadOnly (f a))
    (hx : Outcome rt db (x.exec db).2) : Outcome rt db ((x >>= f).exec db).2 := keeps_before hf hx

theorem readOnly_orRaise {α : Type} (e : Err) (o : Option α) : Script.ReadOnly (orRaise e o : Sql L α) := by
  cases o
  · exact Script.readOnly_throw e
  · exact Script.readOnly_pure _

theorem readOnly_request (requestId : String) : Script.ReadOnly (request requestId : Sql L PurchaseRequest) :=
  (Script.readOnly_read _).bind fun _ => readOnly_orRaise _ _

theorem readOnly_requestDetail (actor requestId : String) :
    Script.ReadOnly (requestDetail actor requestId : Sql L RequestDetail) := by
  refine (readOnly_request requestId).bind fun request => .bind ?_ fun canView => ?_
  · unfold mayView
    split
    · exact Script.readOnly_pure true
    · exact Script.readOnly_read _
  · exact (Script.readOnly_raiseIf _ _).bind fun _ => (Script.readOnly_read _).bind fun _ =>
      (Script.readOnly_read _).bind fun _ => Script.readOnly_pure _

theorem createRequest_outcome (actor budgetId : String) (input : RequestInput) :
    Outcome rt db ((createRequest rt env label actor budgetId input).exec db).2 := by
  refine outcome_after (Script.readOnly_raiseIf _ _) fun _ =>
    outcome_after (Script.readOnly_raiseIf _ _) fun _ => outcome_before (readOnly_requestDetail actor) ?_
  refine immediateTransaction_outcome fun id db' h => ?_
  obtain ⟨ledger, effect⟩ := createRequestBody_ok h
  exact .request ledger effect

theorem addRequestVersion_outcome (actor requestId : String) (input : RequestInput) :
    Outcome rt db ((addRequestVersion rt env label actor requestId input).exec db).2 := by
  refine outcome_after (Script.readOnly_raiseIf _ _) fun _ =>
    outcome_before (fun _ => readOnly_requestDetail actor requestId) ?_
  refine immediateTransaction_outcome fun u db' h => ?_
  obtain ⟨ledger, effect⟩ := addRequestVersionBody_ok h
  exact .request ledger effect

theorem submitRequest_outcome (actor requestId : String) :
    Outcome rt db ((submitRequest env label actor requestId).exec db).2 := by
  refine outcome_before (fun _ => readOnly_requestDetail actor requestId) ?_
  refine immediateTransaction_outcome fun u db' h => ?_
  obtain ⟨ledger, effect⟩ := submitRequestBody_ok h
  exact .request ledger effect

theorem saveDecision_outcome (input : DecisionInput) :
    Outcome rt db ((saveDecision rt env label input).exec db).2 := by
  refine outcome_before (fun _ => readOnly_requestDetail _ _) ?_
  refine immediateTransaction_outcome fun u db' h => ?_
  obtain ⟨ledger, effect⟩ := saveDecisionBody_ok h
  exact .request ledger effect

theorem applyMutation_outcome (coherent : Coherent db) (parameters : Dict) (digest executionId : String) :
    Outcome rt db ((applyMutation rt env label parameters digest executionId).exec db).2 := by
  refine outcome_after (Script.readOnly_ofExcept _) fun key =>
    outcome_after (Script.readOnly_ofExcept _) fun encoded => ?_
  refine immediateTransaction_outcome fun r db' h => ?_
  cases (applyMutationBody_ends coherent).ok h with
  | replay same => exact .unchanged same
  | posted e posted => exact .posted e r posted

/-- **All a call can do.** -/
theorem call_outcome (coherent : Coherent db) (call : Call) :
    Outcome rt db ((call.script rt env).exec db).2 := by
  have discard : ∀ {α : Type} {x : Sql Empty α}, Outcome rt db (x.exec db).2 →
      Outcome rt db ((do let _ ← x : Sql Empty Unit).exec db).2 := fun h =>
    outcome_before (fun _ => Script.readOnly_pure ()) h
  cases call with
  | createRequest actor budgetId input => exact discard (createRequest_outcome actor budgetId input)
  | addRequestVersion actor requestId input => exact discard (addRequestVersion_outcome actor requestId input)
  | submitRequest actor requestId => exact discard (submitRequest_outcome actor requestId)
  | saveDecision input => exact discard (saveDecision_outcome input)
  | applyMutation parameters digest executionId =>
    exact discard (applyMutation_outcome coherent parameters digest executionId)

end

/-! ### A run

An organization with one budget, and a request on it that is approved and committed. -/

namespace Sample

/-- An identifier unlike any other call's. -/
def uuid (call n : Nat) : Uuid where
  text := String.ofList (Nat.toDigits 10 call ++ '-' :: Nat.toDigits 10 n)
  wf := by
    refine ⟨by simp, fun c hc => ?_⟩
    rw [String.toList_ofList] at hc
    rcases List.mem_append.mp hc with hc | hc
    · exact .inl (Nat.isDigit_of_mem_toDigits (by decide) (by decide) hc)
    · rcases List.mem_cons.mp hc with rfl | hc
      · exact .inr (.inr rfl)
      · exact .inl (Nat.isDigit_of_mem_toDigits (by decide) (by decide) hc)

/-- The surroundings of the `n`-th call; nothing fails. -/
def env (n : Nat) : Env where
  faults _ := none
  now k := String.ofList ("2026-01-15T09:0".toList ++ Nat.toDigits 10 n ++ ":0".toList ++ Nat.toDigits 10 k)
  uuid4 k := uuid n k
  today := "2026-01-15"
  bootstrapPrincipal := "root"

def bootstrap : Dict := [
  (.str "mutation_type", .str "bootstrap"), (.str "organization_id", .str "org"),
  (.str "organization_name", .str "Org"), (.str "budget_id", .str "b1"), (.str "budget_name", .str "Budget"),
  (.str "owner_type", .str "department"), (.str "owner_name", .str "Lab"),
  (.str "period_start", .str "2026-01-01"), (.str "period_end", .str "2026-12-31"),
  (.str "currency", .str "usd"), (.str "allocation_minor", .int 1000),
  (.str "owner_principal", .str "olga"), (.str "requester_principal", .str "ravi"),
  (.str "actor", .str "root"), (.str "idempotency_key", .str "boot-0001")]

/-- The identifier the second call gives the request. -/
def request : String := (uuid 2 0).text

def commitment : Dict := [
  (.str "mutation_type", .str "commitment"), (.str "budget_id", .str "b1"), (.str "request_id", .str request),
  (.str "request_version", .int 1), (.str "currency", .str "usd"), (.str "amount_minor", .int 300),
  (.str "actor", .str "olga"), (.str "domain_approval_id", .str "decision-1"),
  (.str "idempotency_key", .str "commit:decision-1")]

/-- More money for the budget. -/
def adjustment : Dict := [
  (.str "mutation_type", .str "adjustment"), (.str "organization_id", .str "org"), (.str "budget_id", .str "b1"),
  (.str "currency", .str "usd"), (.str "amount_minor", .int 100), (.str "reason", .str "more"), (.str "actor", .str "olga"),
  (.str "idempotency_key", .str "adjust-0001")]

/-- The library functions, as they are on the texts of this run. -/
def runtime : Runtime where
  sha256 s :=
    if dumps bootstrap = .ok s then "2bc41ae4ab0a1618c8a97c5dfa3eaef0772b2795fb1f600864341c32f9c8dee5"
    else if dumps commitment = .ok s then "5904175139faa9950d447aa2ceb4bbe1267bbd0bb1c2d5c791982d7965bef1cc"
    else if dumps adjustment = .ok s then "29a2850f78fc1a3222755e3a2644dfc3bbab8b1c63450241f67bef6395dddade"
    else "sha256 of " ++ s
  upper s := String.ofList (s.toList.map Char.toUpper)
  isAlpha := Char.isAlpha
  repr s := "'" ++ s ++ "'"
  strOf _ := ""
  intOf _ := none
  textColumn _ := none
  integerColumn _ := none
  room := 300

def calls : List Call := [
  .applyMutation bootstrap "digest-1" "exec-1",
  .createRequest "ravi" "b1" ⟨300, "usd", "disks", ""⟩,
  .submitRequest "ravi" request,
  .saveDecision ⟨"decision-1", "olga", request, "approved", "ok", some "digest-2", none, some 1000⟩,
  .applyMutation commitment "digest-2" "exec-2"]

theorem sha256_injective : Function.Injective runtime.sha256 := by
  intro s t h
  -- No digest begins as the other texts do.
  have head := congrArg (fun u => u.toList.head?) h
  simp only [runtime] at h head
  split_ifs at h head
  all_goals first
    | simp at head; done
    | simp_all

/-- The state after the calls, the first of them being call `n`. -/
def runFrom (n : Nat) : List Call → Db → Db
  | [], db => db
  | call :: rest, db => runFrom (n + 1) rest ((call.script runtime (env n)).exec db).2

theorem runFrom_reach (calls : List Call) (n : Nat) (db : Db) :
    Relation.ReflTransGen (Step runtime) db (runFrom n calls db) := by
  induction calls generalizing n db with
  | nil => exact .refl
  | cons call rest ih => exact .head ⟨env n, call, rfl⟩ (ih (n + 1) _)

def db : Db := runFrom 1 calls .empty

theorem reachable : Reachable runtime db := runFrom_reach calls 1 .empty

end Sample

end RmtPlatform.Budget
