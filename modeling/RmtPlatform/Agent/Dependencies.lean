import RmtPlatform.Agent.Preview
import RmtPlatform.Core.Demand

/-! Dependencies, and what escalates.

An operator declares edges in one string (`homelabDependencyEdges`), and the code has a
map of its own. A proposal to start or create what some component depends on is never
executed without an approval, and a proposal for anything else goes as it would without
the guard (`dependency_escalation`). -/
namespace RmtPlatform.Agent

open Core Ops

variable {W L : Type}

/-! ### The declaration -/

/-- `s.split(c)`. -/
def split (c : Char) (s : String) : List String := (s.toList.splitOn c).map String.ofList

/-- What one group declares. -/
def declareGroup (out : List (String × List String)) (group : String) : List (String × List String) :=
  let group := strip group
  if group = "" ∨ ':' ∉ group.toList then out
  else
    let component := strip (String.ofList (group.toList.takeWhile (· ≠ ':')))
    let depsRaw := String.ofList ((group.toList.dropWhile (· ≠ ':')).drop 1)
    let deps := ((split ',' depsRaw).map strip).filter (· ≠ "")
    if component = "" ∨ deps = [] then out else mergeEdge out (component, deps)

/-- `homelab_dependency_edges`, of what the environment has. -/
def homelabDependencyEdges (raw : String) : List (String × List String) :=
  if strip raw = "" then [] else (split ';' (strip raw)).foldl declareGroup []

/-- A group says that the component depends on `dep`: both are named, on the two sides of the first colon. -/
def GroupDeclares (group component dep : String) : Prop :=
  ∃ before after, (strip group).toList = before ++ ':' :: after ∧ ':' ∉ before ∧
    strip (String.ofList before) = component ∧ component ≠ "" ∧
    (∃ name ∈ split ',' (String.ofList after), strip name = dep) ∧ dep ≠ ""

/-- The string says that the component depends on `dep`. -/
def Declares (raw component dep : String) : Prop :=
  ∃ group ∈ split ';' (strip raw), GroupDeclares group component dep

/-- The map says so. -/
def Depends (map : List (String × List String)) (component dep : String) : Prop :=
  ∃ deps, (component, deps) ∈ map ∧ dep ∈ deps

section
variable {map : List (String × List String)} {component dep name : String} {bucket deps : List String}

theorem mem_addDeps : dep ∈ addDeps bucket deps ↔ dep ∈ bucket ∨ dep ∈ deps := by
  unfold addDeps
  induction deps generalizing bucket with
  | nil => simp
  | cons d rest ih =>
    rw [List.foldl_cons, ih, List.mem_cons]
    split
    · next known =>
      constructor
      · exact fun h => h.imp_right .inr
      · rintro (h | rfl | h)
        · exact .inl h
        · exact .inl known
        · exact .inr h
    · rw [List.mem_append, List.mem_singleton, or_assoc]

theorem depends_cons : Depends ((name, bucket) :: map) component dep ↔
    (name = component ∧ dep ∈ bucket) ∨ Depends map component dep := by
  unfold Depends
  constructor
  · rintro ⟨deps, hdeps, hd⟩
    rcases List.mem_cons.mp hdeps with same | later
    · cases same
      exact .inl ⟨rfl, hd⟩
    · exact .inr ⟨deps, later, hd⟩
  · rintro (⟨rfl, hd⟩ | ⟨deps, hdeps, hd⟩)
    · exact ⟨bucket, List.mem_cons_self, hd⟩
    · exact ⟨deps, List.mem_cons_of_mem _ hdeps, hd⟩

theorem depends_append (other : List (String × List String)) : Depends (map ++ other) component dep ↔
    Depends map component dep ∨ Depends other component dep := by
  induction map with
  | nil => simp [Depends]
  | cons edge rest ih => rw [List.cons_append, depends_cons, depends_cons, ih, or_assoc]

/-- Merging adds what is merged, and no more. -/
theorem depends_mergeEdge (map : List (String × List String)) : Depends (mergeEdge map (name, deps)) component dep ↔
    Depends map component dep ∨ (name = component ∧ dep ∈ deps) := by
  induction map with
  | nil =>
    rw [mergeEdge, depends_cons, mem_addDeps]
    simp [Depends]
  | cons edge rest ih =>
    obtain ⟨other, bucket⟩ := edge
    unfold mergeEdge
    split
    · next same =>
      subst same
      rw [depends_cons, depends_cons, mem_addDeps]
      tauto
    · rw [depends_cons, depends_cons, ih, or_assoc]

theorem depends_foldl (edges map : List (String × List String)) : Depends (edges.foldl mergeEdge map) component dep ↔
    Depends map component dep ∨ Depends edges component dep := by
  induction edges generalizing map with
  | nil => simp [Depends]
  | cons edge rest ih => rw [List.foldl_cons, ih, depends_mergeEdge, depends_cons, or_assoc]

/-- What a text before and after its first colon is. -/
theorem first_colon {text before after : List Char} (h : text = before ++ ':' :: after) (none : ':' ∉ before) :
    text.takeWhile (· ≠ ':') = before ∧ (text.dropWhile (· ≠ ':')).drop 1 = after := by
  have plain : ∀ c ∈ before, decide (c ≠ ':') = true := by
    intro c hc
    apply decide_eq_true
    rintro rfl
    exact none hc
  rw [h, List.takeWhile_append_of_pos plain, List.dropWhile_append_of_pos plain]
  simp

/-- **A group declares what it says.** -/
theorem depends_declareGroup (group : String) : Depends (declareGroup map group) component dep ↔
    Depends map component dep ∨ GroupDeclares group component dep := by
  unfold declareGroup GroupDeclares
  generalize strip group = text
  dsimp only
  split
  · next nothing =>
    refine ⟨.inl, fun h => h.resolve_right ?_⟩
    rintro ⟨before, after, written, -⟩
    rcases nothing with rfl | colonless
    · simp at written
    · exact colonless (by rw [written]; simp)
  · next something =>
    obtain ⟨-, colon⟩ := not_or.mp something
    obtain ⟨before, after, written, none⟩ := List.eq_append_cons_of_mem (not_not.mp colon)
    obtain ⟨parted, rest⟩ := first_colon written none
    rw [parted, rest]
    -- Any way to part the group at its first colon is this one.
    have only : ∀ {R : List Char → List Char → Prop},
        (∃ b a, text.toList = b ++ ':' :: a ∧ ':' ∉ b ∧ R b a) ↔ R before after := by
      intro R
      constructor
      · rintro ⟨b, a, written', none', holds⟩
        obtain ⟨parted', rest'⟩ := first_colon written' none'
        rwa [← parted, ← rest, parted', rest']
      · exact fun holds => ⟨before, after, written, none, holds⟩
    rw [only]
    have names : ∀ dep, dep ∈ ((split ',' (String.ofList after)).map strip).filter (· ≠ "") ↔
        (∃ name ∈ split ',' (String.ofList after), strip name = dep) ∧ dep ≠ "" := by
      intro dep
      rw [List.mem_filter, List.mem_map, decide_eq_true_iff]
    split
    · next skipped =>
      refine ⟨.inl, fun h => h.resolve_right ?_⟩
      rintro ⟨rfl, named, declared⟩
      rcases skipped with unnamed | empty
      · exact named unnamed
      · have declared' := (names dep).mpr declared
        rw [empty] at declared'
        cases declared'
    · next kept =>
      rw [depends_mergeEdge, names]
      have named := (not_or.mp kept).1
      constructor
      · rintro (h | ⟨rfl, h⟩)
        · exact .inl h
        · exact .inr ⟨rfl, named, h⟩
      · rintro (h | ⟨rfl, -, h⟩)
        · exact .inl h
        · exact .inr ⟨rfl, h⟩

/-- **The parsed edges are what the string says**, for any string. -/
theorem depends_edges (raw : String) : Depends (homelabDependencyEdges raw) component dep ↔ Declares raw component dep := by
  have groups : ∀ (gs : List String) (map : List (String × List String)), Depends (gs.foldl declareGroup map) component dep ↔
      Depends map component dep ∨ ∃ group ∈ gs, GroupDeclares group component dep := by
    intro gs
    induction gs with
    | nil => simp
    | cons group rest ih =>
      intro map
      rw [List.foldl_cons, ih, depends_declareGroup, or_assoc]
      simp
  unfold homelabDependencyEdges Declares
  split
  · next blank =>
    rw [blank]
    constructor
    · rintro ⟨deps, hdeps, -⟩
      cases hdeps
    · rintro ⟨group, hgroup, before, after, written, -⟩
      obtain rfl : group = "" := by simpa [split] using hgroup
      have blank : strip "" = "" := rfl
      rw [blank] at written
      simp at written
  · rw [groups]
    simp [Depends]

end

/-! ### The guard -/

section
variable (D : Deployment W L) (raw : String)

/-- With this string declared, and escalation enabled. -/
def declaring : Deployment W L :=
  { D with dependencyEdges := homelabDependencyEdges raw, agentDependencyEscalation := true }

/-- The component depends on the target: by either map of the code, or by the operator's string. -/
def DependsOn (component target : String) : Prop :=
  Depends D.homelabDependencies component target ∨ Declares raw component target ∨
    Depends D.contextDependencies component target

variable {D raw}

theorem dependentsOf_eq_nil {target : String} :
    dependentsOf (declaring D raw) target = [] ↔ ∀ component, ¬DependsOn D raw component target := by
  have depends : ∀ component, Depends (mergedMap (declaring D raw) ++ D.contextDependencies) component target ↔
      DependsOn D raw component target := by
    intro component
    unfold mergedMap DependsOn
    rw [depends_append, depends_foldl, or_assoc]
    exact or_congr_right (or_congr_left (depends_edges raw))
  have none : dependentsOf (declaring D raw) target = [] ↔
      ∀ component, ¬Depends (mergedMap (declaring D raw) ++ D.contextDependencies) component target := by
    unfold dependentsOf
    simp only [List.eq_nil_iff_forall_not_mem, List.mem_eraseDups, List.mem_map, List.mem_filter]
    constructor
    · rintro none component ⟨deps, hdeps, hd⟩
      exact none component ⟨(component, deps), ⟨hdeps, by simpa using hd⟩, rfl⟩
    · rintro none component ⟨⟨name, deps⟩, ⟨hdeps, hd⟩, rfl⟩
      exact none name ⟨deps, hdeps, by simpa using hd⟩
  rw [none]
  simp only [depends]

theorem escalates_iff {target operation : String} (allowed : operation ∈ allowedEffectOperations) :
    (escalateForDependencyCascade (declaring D raw) target operation).1 = true ↔
      ∃ component, DependsOn D raw component target := by
  unfold escalateForDependencyCascade
  rw [if_neg (by simp [declaring]), if_neg (not_not.mpr allowed)]
  dsimp only
  split
  · next none =>
    simp [dependentsOf_eq_nil.mp none]
  · next some =>
    rw [dependentsOf_eq_nil] at some
    simpa using some

end

/-! ### What requires approval is not executed -/

/-- An adapter was called. -/
def AdapterCalled (ls : List (Notice L)) : Prop :=
  ∃ checkedAt authorization request adapterName,
    .core (.adapterExecute checkedAt authorization request adapterName) ∈ ls

theorem adapterCalled_core {ls : List (Event L)} : AdapterCalled (ls.map .core) ↔ Executes ls := by
  constructor
  · rintro ⟨t, a, r, n, hm⟩
    obtain ⟨l, hl, same⟩ := List.mem_map.mp hm
    cases same
    exact ⟨t, a, r, n, hl⟩
  · rintro ⟨t, a, r, n, hm⟩
    exact ⟨t, a, r, n, List.mem_map_of_mem hm⟩

/-- The approval policy lets nothing through that explicitly requires approval. -/
theorem evaluateApproval_required {action : ActionRequest} (required : action.requiresApproval = true)
    (policy : ActionPolicyResult) (risk : ActionSimulationResult) : (evaluateApproval action policy risk).1 ≠ .auto := by
  unfold evaluateApproval
  rw [if_pos required]
  split_ifs <;> simp

theorem required_unexecuted {P : Platform W L} {action : ActionRequest} {adapterName : String} {s : State W}
    (required : action.requiresApproval = true) : Script.Yields
    (fun r _ ls => r.execution? = none ∧ ¬Executes ls) (fun _ _ ls => ¬Executes ls)
    (executeGovernedAction P action adapterName) s := by
  have assessedOnly : ∀ (assessment : GovernanceAssessment) {ws : List (Event L)}, (∀ m ∈ ws, m.isWorld) →
      ¬Executes (.assessed action adapterName assessment :: ws) := by
    rintro assessment ws worlds ⟨t, a, r, n, hm⟩
    rcases List.mem_cons.mp hm with same | hm
    · cases same
    · exact worlds _ hm
  apply yields_executeGovernedAction
  · intro e s₁ ls answer only
    exact ⟨fun _ _ => not_executes only.labels, rfl, not_executes only.labels⟩
  · intro assessment s₁ ws answer assesses still worlds
    split
    · apply proceed_other (evaluateApproval_required required _ _)
      · exact fun _ _ _ => ⟨rfl, assessedOnly assessment worlds⟩
      · exact fun _ _ _ _ _ => ⟨rfl, assessedOnly assessment worlds⟩
    · exact ⟨rfl, assessedOnly assessment worlds⟩

section
variable {D : Deployment W L} {proposal : AgentProposal} {s : Site W}

/-- Nothing is observed after an answer that says of no execution. -/
theorem conclude_unexecuted {resolution : Resolution} {adapterName : String} {r : GovernedResult}
    (unexecuted : r.execution? = none) : Script.Yields
    (fun outcome _ (ls : List (Notice L)) => outcome.executionId = none ∧ outcome.decision ≠ "allow" ∧ ls = [])
    (fun _ _ _ => False) (conclude D proposal resolution adapterName (.ok r)) s := by
  have away : (turnedAway resolution r).decision ≠ "allow" := by
    unfold turnedAway
    dsimp only
    split <;> decide
  have turned : Script.Yields
      (fun outcome _ (ls : List (Notice L)) => outcome.executionId = none ∧ outcome.decision ≠ "allow" ∧ ls = [])
      (fun _ _ _ => False) (pure (turnedAway resolution r) : Above W L AgentOutcome) s := ⟨rfl, away, rfl⟩
  unfold conclude
  cases r with
  | manualApprovalRequired reason actionId approvalId =>
    apply Script.yields_bind.mpr
    refine consume_yields.mono ?_ fun _ _ _ h => h
    rintro _ s₁ ls ⟨-, rfl⟩
    apply Script.yields_bind.mpr
    apply Script.yields_read.mpr
    apply Script.yields_bind.mpr
    refine recordHoldProvenance_yields.mono ?_ fun _ _ _ h => h
    rintro _ s₂ ls ⟨-, rfl⟩
    refine ⟨rfl, ?_, rfl⟩
    unfold held
    dsimp only
    split <;> decide
  | executed e => cases unexecuted
  | approvedAndExecuted e approvalId actionId => cases unexecuted
  | _ => exact turned

/-- The answer to a proposal that escalates. -/
theorem escalated_unexecuted
    (escalates : (escalateForDependencyCascade D proposal.target proposal.mechanism.value).1 = true) : Script.Yields
    (fun outcome _ ls => outcome.executionId = none ∧ outcome.decision ≠ "allow" ∧ ¬AdapterCalled ls)
    (fun _ _ ls => ¬AdapterCalled ls) (proposeAndGovern D proposal) s := by
  have silent : ¬AdapterCalled ([] : List (Notice L)) := by rintro ⟨t, a, r, n, hm⟩; cases hm
  unfold proposeAndGovern
  split
  · exact ⟨rfl, by decide, silent⟩
  · apply Script.yields_bind.mpr
    refine resolveProposal_yields.mono ?_ fun _ _ _ h => h.elim
    rintro resolution s₁ ls ⟨resolved, rfl⟩
    obtain ⟨decisionId, actionId, proposed⟩ := resolved.action
    split
    · exact ⟨rfl, by simp [AgentOutcome.ungoverned], silent⟩
    · have required : resolution.action.requiresApproval = true := by
        rw [proposed]
        simp [proposedAction, escalates]
      apply Script.yields_bind.mpr
      apply Script.yields_caught.mpr
      apply yields_governed.mpr
      refine (required_unexecuted required).mono ?_ ?_
      · rintro r k ls ⟨unexecuted, none⟩
        refine (conclude_unexecuted unexecuted).mono ?_ fun _ _ _ h => h.elim
        rintro outcome s₂ ls' ⟨id, decision, rfl⟩
        refine ⟨id, decision, ?_⟩
        rintro ⟨t, a, r, n, hm⟩
        simp only [List.nil_append, List.append_nil, List.mem_cons, reduceCtorEq, false_or] at hm
        exact none (adapterCalled_core.mp ⟨t, a, r, n, hm⟩)
      · intro e k ls none
        refine ⟨rfl, by simp [AgentOutcome.ungoverned], ?_⟩
        simp only [List.append_nil]
        exact fun called => none (adapterCalled_core.mp called)

/-- A proposal that does not escalate goes as it does with escalation disabled. -/
theorem unescalated_same
    (unescalated : escalateForDependencyCascade D proposal.target proposal.mechanism.value = (false, "")) :
    proposeAndGovern D proposal = proposeAndGovern { D with agentDependencyEscalation := false } proposal := by
  have resolves : resolveProposal D proposal = resolveProposal { D with agentDependencyEscalation := false } proposal := by
    unfold resolveProposal proposedAction
    rw [unescalated]
    rfl
  unfold proposeAndGovern
  rw [resolves]
  rfl

end

/-- **Escalation is complete and exact**: what another component depends on is not started or created without an approval,
and the guard changes nothing where no component depends on the target. -/
theorem dependency_escalation (D : Deployment W L) (raw : String) (proposal : AgentProposal) (s : Site W) :
    (proposal.mechanism.value ∈ allowedEffectOperations →
      (∃ component, component ≠ proposal.target ∧ DependsOn D raw component proposal.target) →
      ¬AdapterCalled ((proposeAndGovern (declaring D raw) proposal).emitted s) ∧
        ∀ outcome s', (proposeAndGovern (declaring D raw) proposal).exec s = (.ok outcome, s') →
          outcome.executionId = none ∧ outcome.decision ≠ "allow") ∧
    ((∀ component, ¬DependsOn D raw component proposal.target) →
      proposeAndGovern (declaring D raw) proposal =
        proposeAndGovern { declaring D raw with agentDependencyEscalation := false } proposal) := by
  constructor
  · rintro allowed ⟨component, -, depends⟩
    have spec := escalated_unexecuted (s := s) ((escalates_iff allowed).mpr ⟨component, depends⟩)
    constructor
    · apply (Script.yields_labels (C := fun ls => ¬AdapterCalled ls)).mp
      exact spec.mono (fun _ _ _ h => h.2.2) fun _ _ _ h => h
    · intro outcome s' answer
      exact ⟨(spec.ok answer).1, (spec.ok answer).2.1⟩
  · intro none
    apply unescalated_same
    unfold escalateForDependencyCascade
    rw [if_neg (by simp [declaring]), if_pos (dependentsOf_eq_nil.mpr none)]
    simp

namespace Sample

def startDatabase : AgentProposal := { proposal with target := "db" }

end Sample

/-- Two services and their database. -/
theorem dependency_escalation_database :
    ¬AdapterCalled ((proposeAndGovern (declaring Ops.Sample.deployment " web:cache , db;; api: db") Sample.startDatabase).emitted
        (Sample.grantedUntil 5000000)) ∧
      ∀ outcome s', (proposeAndGovern (declaring Ops.Sample.deployment " web:cache , db;; api: db")
          Sample.startDatabase).exec (Sample.grantedUntil 5000000) = (.ok outcome, s') →
        outcome.executionId = none ∧ outcome.decision ≠ "allow" := by
  refine (dependency_escalation Ops.Sample.deployment " web:cache , db;; api: db" Sample.startDatabase _).1 (by decide)
    ⟨"web", by decide, .inr (.inl ⟨"web:cache , db", by decide, "web".toList, "cache , db".toList, ?_⟩)⟩
  decide

end RmtPlatform.Agent
