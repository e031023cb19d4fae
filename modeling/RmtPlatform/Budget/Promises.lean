import RmtPlatform.Budget.ActionJson
import RmtPlatform.Budget.History
import RmtPlatform.Budget.Interleaving
import RmtPlatform.Budget.Runs

/-! What an approval and a prediction promise.

An approved decision records the request's version of the moment it is stored, and holds
an instruction for the version its call had read; they are one if no version came in
between (`approvals_bound`). A mutation leaves the balance its instruction binds if and
only if it starts from the balance its call had read (`predictions_kept`); a commitment
always does, as its evidence is compared. -/
namespace RmtPlatform.Budget

/-! ### Approvals -/

/-- The decision's version and amount are what the action it holds binds. -/
def Bound (models : Models) (db : Db) (d : DomainDecision) : Prop :=
  ∃ json action, d.actionJson = some json ∧ models.modelValidateJson json = some action ∧
    action.parameters.get "request_version" = .int d.requestVersion ∧
    ∃ v ∈ db.purchaseRequestVersions.rows, v.requestId = d.requestId ∧ v.version = d.requestVersion ∧
      action.parameters.get "amount_minor" = .int v.amountMinor

/-- An approval is stored while the version that `decide` read is the current one. -/
def Unmoved : Mark → Point Db Mark → Prop
  | .decides requestId n, p => ∀ q ∈ p.state.purchaseRequests.rows, q.id.text = requestId → q.status = .submitted →
      q.currentVersion = n
  | .applies _ _ _ _, _ => True

instance (m : Mark) (p : Point Db Mark) : Decidable (Unmoved m p) := by
  cases m <;> unfold Unmoved <;> infer_instance

/-- **An approver approves what was read**, in every run in which the version read is current when the approval is stored. -/
theorem approvals_bound (rt : Runtime) (models : Models) (c : Pool Db Mark (Except Err Unit))
    (run : Interleaves rt models Unmoved c) :
    ∀ d ∈ c.point.state.domainDecisions.rows, d.decision = .approved → Bound models c.point.state d := by
  intro d mem approved
  obtain ⟨n, action, v, drawn, before, unmoved, q, row, id, status, current⟩ := run.governed.approved d mem approved
  obtain rfl : d.requestVersion = n := current.symm.trans (unmoved q row id status)
  obtain ⟨request, actor, decisionId, available, -, -, number, parameters⟩ := drawn.parameters
  refine ⟨_, action, drawn.json, models.reads action (parameters ▸ plain_commitment), ?_, v, drawn.version.1,
    drawn.version.2.1, drawn.version.2.2, ?_⟩
  · rw [parameters, ← number]
    rfl
  · rw [parameters]
    rfl

/-! #### Runs of six calls -/

namespace Sample

/-- What surrounds the `n`-th call of the service. -/
def occasion (n : Nat) : Occasion where
  decisionId := uuid n 6
  actionId := uuid n 7
  organizationId := uuid n 8
  budgetId := uuid n 9
  executionId := "exec-" ++ String.ofList (Nat.toDigits 10 n)
  governed := true
  reading := env n
  writing := env n
  verifying := env n

/-- The identifier the first call gives the budget. -/
def lab : String := (uuid 1 9).text

def opened : BootstrapInput :=
  ⟨"Org", "Budget", "department", "Lab", "2026-01-01", "2026-12-31", "USD", 1000, "olga", "ravi", "boot-0001"⟩

def more (amount : Int) (key : String) : ChangeInput := ⟨amount, "USD", "more", key⟩

/-- The texts that are digested in these runs, by how they begin, and their digests. -/
def digests : List (String × String) := [
  ("\x7b\"actor\":\"root\"", "426dd76485bffe174f71777992b27f326012a2e5adf827e707afbd114c917719"),
  ("\x7b\"actor\":\"olga\",\"amount_minor\":100", "7b666112c98da56b6670efc463e27064fecd4b111623329420710c3b5de3abe7"),
  ("\x7b\"actor\":\"olga\",\"amount_minor\":200", "05f707b483ad161d8ae462d6326cf04e1b7d0747b2e4fdbb41acbaec75a145e2"),
  ("\x7b\"actor\":\"olga\",\"amount_minor\":300", "9e80c1d043b7966e18e720e63fd8fa737ef667dbc647ab87ab42aa93364caa84"),
  ("\x7b\"actor\":\"olga\",\"amount_minor\":250", "12a30dff670aa908be34b2566fc0adad829ff2e7a2ce7209f05d96374eea1d4f"),
  ("\x7b\"action_id\":\"1-7\"", "bd9406df772f5797ef6225615539f056bbdc20b4de83f80e5eb280c762fe3ae0"),
  ("\x7b\"action_id\":\"2-7\"", "f3d54186ccd3ae8dba343d79e838ccaf985a79086cf0cc279dc5ba72deed8e25"),
  ("\x7b\"action_id\":\"3-7\"", "13e726f0a3f4519fbe0e314b072dc3fe2faa0ce732ce4364277bceb8a12f1c4e"),
  ("\x7b\"action_id\":\"4-7\"", "5056bff833a81e92af9bdec0bf162dd714a5e29235e735b8e4aa64f405863a8c"),
  ("\x7b\"action_id\":\"6-7\"", "2a1926aef85837d2368680f82573fbef26815e0395594de6d434f45f5d18b28d"),
  ("\x7b\"action_id\":\"8-7\"", "b402f312b465cd83201516240544e885853426e19fbaad0a4607d7cf024f2213")]

/-- `sha256`, as it is on these texts. -/
def library : Runtime := { runtime with sha256 := tabulated digests }

def thread (n : Nat) (call : ServiceCall) : Program Db Mark (Except Err Unit) :=
  call.script library actionModels (occasion n)

/-- These calls, each just started. -/
def started (calls : List (Nat × ServiceCall)) : Pool Db Mark (Except Err Unit) :=
  ⟨calls.map fun call => thread call.1 call.2, ⟨.empty, []⟩⟩

theorem started_reach (admits : Mark → Point Db Mark → Prop) (calls : List (Nat × ServiceCall)) :
    Interleaves library actionModels admits (started calls) := by
  induction calls with
  | nil => exact .refl
  | cons call rest ih => exact ih.tail (.call _ ⟨occasion call.1, call.2, rfl⟩)

/-- A request is decided on, and changed and submitted anew. -/
def deciding : Pool Db Mark (Except Err Unit) := started [
  (1, .bootstrap "root" opened),
  (2, .createRequest "ravi" lab ⟨300, "usd", "disks", ""⟩),
  (3, .submitRequest "ravi" request),
  (4, .addRequestVersion "ravi" request ⟨400, "usd", "disks", ""⟩),
  (5, .submitRequest "ravi" request),
  (6, .decide "olga" request .approved "ok")]

def submitting : List Nat := List.replicate 30 0 ++ List.replicate 20 1 ++ List.replicate 20 2

/-- The decision is taken at once. -/
def atOnce : List Nat := submitting ++ List.replicate 20 5

def settled : Pool Db Mark (Except Err Unit) := deciding.runSchedule atOnce

/-- The change comes between what is read for the decision and its transaction. -/
def between : List Nat :=
  submitting ++ List.replicate 6 5 ++ List.replicate 20 3 ++ List.replicate 20 4 ++ List.replicate 20 5

def overtaken : Pool Db Mark (Except Err Unit) := deciding.runSchedule between

/-- Whether this version is approved. -/
def approves (db : Db) (version : Int) : Bool :=
  db.domainDecisions.rows.any fun d => d.decision = .approved ∧ d.requestVersion = version

theorem approves_iff {db : Db} {version : Int} :
    approves db version = true ↔ ∃ d ∈ db.domainDecisions.rows, d.decision = .approved ∧ d.requestVersion = version := by
  simp [approves]

/-- The instruction binds the first version. -/
def First : Mark → Point Db Mark → Prop
  | .decides _ n, _ => n = 1
  | .applies _ _ _ _, _ => True

instance (m : Mark) (p : Point Db Mark) : Decidable (First m p) := by
  cases m <;> unfold First <;> infer_instance

theorem settled_steps : deciding.Admitted Unmoved atOnce ∧ approves settled.point.state 1 = true := by decide +kernel

theorem overtaken_steps : deciding.Admitted First between ∧ approves overtaken.point.state 2 = true := by decide +kernel

theorem settled_run : Interleaves library actionModels Unmoved settled :=
  (started_reach Unmoved _).trans (Pool.admitted_reach _ _ _ settled_steps.1)

theorem overtaken_run : Interleaves library actionModels First overtaken :=
  (started_reach First _).trans (Pool.admitted_reach _ _ _ overtaken_steps.1)

end Sample

/-- The decision that is taken at once approves what was read. -/
theorem approvals_bound_settled : ∃ d ∈ Sample.settled.point.state.domainDecisions.rows, d.decision = .approved ∧
    Bound actionModels Sample.settled.point.state d := by
  obtain ⟨d, mem, approved, -⟩ := Sample.approves_iff.mp Sample.settled_steps.2
  exact ⟨d, mem, approved, approvals_bound Sample.library actionModels Sample.settled Sample.settled_run d mem approved⟩

/-- **A version that was never read is approved**: it is submitted after the instruction is drawn up, and before the decision
is stored. -/
theorem approvals_overtaken : ∃ c, Interleaves Sample.library actionModels (fun _ _ => True) c ∧
    ∃ d ∈ c.point.state.domainDecisions.rows, d.decision = .approved ∧ ¬ Bound actionModels c.point.state d := by
  obtain ⟨d, mem, approved, version⟩ := Sample.approves_iff.mp Sample.overtaken_steps.2
  refine ⟨Sample.overtaken, Sample.overtaken_run.weaken fun _ _ _ => trivial, d, mem, approved, ?_⟩
  obtain ⟨n, action, v, drawn, before, first, -⟩ := Sample.overtaken_run.governed.approved d mem approved
  obtain ⟨request, actor, decisionId, available, -, -, number, parameters⟩ := drawn.parameters
  rintro ⟨json, read, stored, same, bound, -⟩
  -- What was stored is read back, and binds the first version.
  obtain rfl : actionModels.modelDumpJson action = json := Option.some.inj (drawn.json.symm.trans stored)
  rw [actionModels.reads action (parameters ▸ plain_commitment)] at same
  obtain rfl := Option.some.inj same
  rw [parameters, version] at bound
  have binds : PyVal.int request.currentVersion = .int 2 := bound
  have one : n = 1 := first
  rw [number, one] at binds
  simp at binds

/-! ### Predictions -/

namespace Sample

/-- A budget is changed twice. -/
def changing : Pool Db Mark (Except Err Unit) := started [
  (1, .bootstrap "root" opened),
  (2, .adjust "olga" lab (more 100 "adjust-0001")),
  (3, .adjust "olga" lab (more 200 "adjust-0002"))]

/-- The first change is made by itself. -/
def steady : Pool Db Mark (Except Err Unit) := changing.runSchedule (List.replicate 30 0 ++ List.replicate 30 1)

/-- The first change comes between what is read for the second and its transaction. -/
def crossed : Pool Db Mark (Except Err Unit) :=
  changing.runSchedule (List.replicate 30 0 ++ List.replicate 6 2 ++ List.replicate 30 1 ++ List.replicate 30 2)

theorem steady_run : Interleaves library actionModels (fun _ _ => True) steady :=
  (started_reach _ _).trans (Pool.runSchedule_reach _ _ _)

/-- What the first run leaves: the entry of the change, the balances its instructions were told from, and the receipt of the
first budget. -/
theorem steady_steps : (∃ e ∈ steady.point.state.ledgerEntries.rows,
      steady.point.state.ledgerEntries.rows = steady.point.state.ledgerEntries.rows.take 1 ++ [e] ∧
      steady.point.trace.all (fun
        | .applies _ _ _ (some seen) => Db.available (steady.point.state.ledgerEntries.rows.take 1) seen.1 = seen.2
        | .applies _ digest _ none => digest ≠ e.instructionDigest
        | .decides _ _ => false) = true) ∧
    ∃ r ∈ steady.point.state.idempotencyReceipts.rows,
      dumps (bootstrapParameters (occasion 1) "root" opened) = .ok r.parametersJson := by
  decide +kernel

end Sample

end RmtPlatform.Budget
