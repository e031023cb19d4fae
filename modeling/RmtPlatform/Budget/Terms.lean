import RmtPlatform.Budget.Approvals
import RmtPlatform.Budget.Calls
import RmtPlatform.Budget.Requests

/-! What a balance is predicted from.

Validation makes its prediction of a balance it reads and of what the instruction moves
(`Terms`), whether other calls come in between its reads or not (`safe_validateMutation`).
What an instruction moves stays what it is: the amount is the instruction's own, and a
request has one commitment. So a prediction and a later validation of the same
instruction differ exactly where the balances they start from do (`Foretells`). -/
namespace RmtPlatform.Budget

/-! ### Later states -/

/-- Nothing an instruction rests on is taken back. -/
structure Later (db db' : Db) : Prop where
  keeps : Keeps db db'
  entries : db.ledgerEntries.rows ⊆ db'.ledgerEntries.rows

theorem Persists.trans {rows rows' rows'' : List PurchaseRequest} (h : Persists rows rows') (h' : Persists rows' rows'') :
    Persists rows rows'' := by
  intro q mem
  obtain ⟨q', mem', id, budget, requester⟩ := h q mem
  obtain ⟨q'', mem'', id', budget', requester'⟩ := h' q' mem'
  exact ⟨q'', mem'', id'.trans id, budget'.trans budget, requester'.trans requester⟩

theorem Later.refl (db : Db) : Later db db := ⟨.refl db, List.Subset.refl _⟩

theorem Later.trans {a b c : Db} (h : Later a b) (h' : Later b c) : Later a c :=
  ⟨⟨h.keeps.requests.trans h'.keeps.requests, List.Subset.trans h.keeps.versions h'.keeps.versions,
    List.Subset.trans h.keeps.decisions h'.keeps.decisions, List.Subset.trans h.keeps.roles h'.keeps.roles⟩,
    List.Subset.trans h.entries h'.entries⟩

theorem Outcome.later {rt : Runtime} {db db' : Db} (h : Outcome rt db db') : Later db db' := by
  refine ⟨h.keeps, ?_⟩
  cases h with
  | unchanged same => exact same ▸ List.Subset.refl _
  | request ledger effect => exact ledger.ledger ▸ List.Subset.refl _
  | posted e r posted => exact posted.entries ▸ List.subset_append_left _ _

/-! ### Looking while others write -/

section
variable {L α : Type} {D : Discipline Db L} {p : Point Db L} {Q : α → Point Db L → Prop}

/-- The others take nothing back, and a look owes them nothing. -/
structure Quiet (D : Discipline Db L) : Prop where
  later : ∀ p q, D.rely p q → Later p.state q.state
  looks : ∀ p, D.inv p → D.guarantee p p

theorem quiet_alone : Quiet (.alone (fun _ => True) fun _ _ => True : Discipline Db L) :=
  ⟨fun p _ same => same ▸ .refl p.state, fun _ _ => trivial⟩

/-- Whatever it raises, the call has done nothing. -/
abbrev Sees (D : Discipline Db L) (Q : α → Point Db L → Prop) (x : Sql L α) (p : Point Db L) : Prop :=
  Script.Safe D Q (fun _ _ => True) x p

theorem sees_bind {β : Type} {R : β → Point Db L → Prop} {x : Sql L α} {f : α → Sql L β}
    (h : Sees D (fun a q => Sees D R (f a) q) x p) : Sees D R (x >>= f) p := Script.safe_bind h

theorem sees_select (quiet : Quiet D) {f : Db → α} (h : ∀ q, D.rely p q → D.inv q → Q (f q.state) q) :
    Sees D Q (select f) p :=
  Script.safe_read fun q rely inv => ⟨quiet.looks q inv, h q rely inv⟩

theorem sees_orRaise {e : Err} {o : Option α} (h : ∀ a, o = some a → Q a p) : Sees D Q (orRaise e o) p := by
  cases o with
  | none => trivial
  | some a => exact h a rfl

theorem sees_found {code message : String} {o : Option α} (h : ∀ a, o = some a → Q a p) :
    Sees D Q (found code message o) p := sees_orRaise h

theorem sees_raiseIf {Q : Unit → Point Db L → Prop} {c : Prop} [Decidable c] {e : Err} (h : ¬c → Q () p) :
    Sees D Q (Script.raiseIf c e) p := Script.safe_raiseIf (fun _ => trivial) h

theorem sees_ofExcept {r : Except Err α} (h : ∀ a, r = .ok a → Q a p) : Sees D Q (Script.ofExcept r) p :=
  Script.safe_ofExcept h fun _ _ => trivial

theorem sees_selectSums (quiet : Quiet D) {f : Db → α} {terms : Db → List (List Int)}
    (h : ∀ q, D.rely p q → D.inv q → Q (f q.state) q) : Sees D Q (selectSums f terms) p := by
  apply sees_bind
  apply sees_select quiet
  intro q rely inv
  apply sees_bind
  apply sees_raiseIf
  intro _
  exact h q rely inv

theorem sees_availableOf (quiet : Quiet D) {f : Db → List LedgerEntry} {b : String} {Q : Int → Point Db L → Prop}
    (h : ∀ q q', D.rely p q → D.rely q q' → ∀ available, Q available q') : Sees D Q (availableOf f b) p := by
  apply sees_bind
  apply sees_selectSums quiet
  intro q rely _
  apply sees_bind
  apply sees_selectSums quiet
  intro q' rely' _
  exact h q q' rely rely' _

theorem sees_request (quiet : Quiet D) {id : String} {Q : PurchaseRequest → Point Db L → Prop}
    (h : ∀ q row, D.rely p q → D.inv q → row ∈ q.state.purchaseRequests.rows → row.id.text = id → Q row q) :
    Sees D Q (request id) p := by
  apply sees_bind
  apply sees_select quiet
  intro q rely inv
  apply sees_found
  intro row there
  obtain ⟨mem, same⟩ := q.state.purchaseRequests.find?_eq_some.mp there
  exact h q row rely inv mem same

theorem sees_openCommitment (quiet : Quiet D) {id : String} {n : Int} {Q : LedgerEntry → Point Db L → Prop}
    (h : ∀ q c, D.rely p q → D.inv q → c ∈ commitments q.state.ledgerEntries.rows id → Q c q) :
    Sees D Q (openCommitment id n) p := by
  apply sees_bind
  apply sees_select quiet
  intro q rely inv
  apply sees_found
  intro c there
  obtain ⟨mem, request, -, type, -⟩ := openCommitment?_some there
  exact h q c rely inv (mem_commitments.mpr ⟨mem, type, request⟩)

theorem sees_requireRole (quiet : Quiet D) {rt : Runtime} {principal : String} {role : BudgetRole} {b : Option String}
    {Q : Unit → Point Db L → Prop} (h : ∀ q, D.rely p q → D.inv q → Q () q) : Sees D Q (requireRole rt principal role b) p := by
  apply sees_bind
  apply sees_select quiet
  intro q rely inv
  exact sees_raiseIf fun _ => h q rely inv

end

/-! ### Terms -/

/-- How validation comes to the balance it expects. -/
inductive Terms (db : Db) (parameters : Dict) (ev : Evidence) : Prop where
  | bootstrap (type : mutation parameters = .ok .bootstrap) (after : parameters.get "allocation_minor" = .int ev.availableAfter)
  | change (type : mutation parameters = .ok .adjustment ∨ mutation parameters = .ok .correction) (amount : Int)
      (hamount : parameters.get "amount_minor" = .int amount) (after : ev.availableAfter = ev.availableBefore + amount)
  /-- A decision has the balance as evidence. -/
  | commitment (type : mutation parameters = .ok .commitment) (amount : Int) (d : DomainDecision)
      (hamount : parameters.get "amount_minor" = .int amount) (id : text parameters "domain_approval_id" = .ok d.id)
      (row : d ∈ db.domainDecisions.rows) (evidence : d.balanceEvidenceMinor = some ev.availableBefore)
      (after : ev.availableAfter = ev.availableBefore - amount)
  | settlement (type : mutation parameters = .ok .settlement) (amount : Int) (requestId : String) (c : LedgerEntry)
      (hamount : parameters.get "amount_minor" = .int amount) (id : text parameters "request_id" = .ok requestId)
      (row : c ∈ commitments db.ledgerEntries.rows requestId)
      (after : ev.availableAfter = ev.availableBefore + c.amountMinor - amount)
  | cancellation (type : mutation parameters = .ok .cancellation) (amount : Int)
      (hamount : parameters.get "amount_minor" = .int amount) (after : ev.availableAfter = ev.availableBefore + amount)

section
variable {L : Type} {D : Discipline Db L} {p : Point Db L} {rt : Runtime} {env : Env} {parameters : Dict}
  {digest : Option String}

theorem sees_validateBootstrap (quiet : Quiet D) {actor currency : String} (type : mutation parameters = .ok .bootstrap) :
    Sees D (fun ev q => Terms q.state parameters ev ∧ ev.mutationType = .bootstrap)
      (validateBootstrap env parameters actor currency) p := by
  apply sees_bind
  apply sees_select quiet
  intro q _ _
  apply sees_bind
  apply sees_raiseIf
  intro _
  apply sees_bind
  apply sees_raiseIf
  intro _
  apply sees_bind
  apply sees_ofExcept
  intro amount hamount
  apply sees_bind
  apply sees_ofExcept
  intro _ _
  apply sees_bind
  apply sees_ofExcept
  intro _ _
  apply sees_bind
  apply sees_raiseIf
  intro _
  apply sees_bind
  apply sees_ofExcept
  intro _ _
  apply sees_bind
  apply sees_ofExcept
  intro _ _
  exact ⟨.bootstrap type (positiveInt_ok hamount).1, rfl⟩

/-- The amount and the balance after, as `validate_mutation` computes them. -/
def Computed (db : Db) (parameters : Dict) (before after : Int) : Prop :=
  ∀ ev : Evidence, ev.availableBefore = before → ev.availableAfter = after → Terms db parameters ev

theorem sees_validateChange (quiet : Quiet D) {m : MutationType} {budgetId : String} {before : Int}
    (type : mutation parameters = .ok m) (change : m = .adjustment ∨ m = .correction) :
    Sees D (fun r q => Computed q.state parameters before r.2) (validateChange parameters m budgetId before) p := by
  have computed : ∀ (db : Db) (amount : Int), parameters.get "amount_minor" = .int amount →
      Computed db parameters before (before + amount) := by
    intro db amount hamount ev hbefore hafter
    refine .change ?_ amount hamount (by rw [hbefore, hafter])
    rwa [type, Except.ok.injEq, Except.ok.injEq]
  unfold validateChange
  apply sees_bind
  apply sees_ofExcept
  intro amount hamount
  apply sees_bind
  apply sees_raiseIf
  intro _
  split
  · apply sees_bind
    apply sees_ofExcept
    intro _ _
    apply sees_bind
    apply sees_select quiet
    intro _ _ _
    apply sees_bind
    apply sees_found
    intro _ _
    apply sees_bind
    apply sees_raiseIf
    intro _
    apply sees_bind
    apply sees_select quiet
    intro _ _ _
    apply sees_bind
    apply sees_raiseIf
    intro _
    apply sees_bind
    apply sees_raiseIf
    intro _
    exact computed _ amount (integer_ok hamount)
  · apply sees_bind
    apply sees_raiseIf
    intro _
    exact computed _ amount (integer_ok hamount)

theorem sees_validateTransition (quiet : Quiet D) {m : MutationType} {actor : String} {q : PurchaseRequest}
    {v : RequestVersion} {amount before : Int} (type : mutation parameters = .ok m)
    (hamount : parameters.get "amount_minor" = .int amount) (id : text parameters "request_id" = .ok q.id.text) :
    Sees D (fun after s => Computed s.state parameters before after)
      (validateTransition parameters m actor digest q v amount before) p := by
  cases m with
  | commitment =>
    apply sees_bind
    apply sees_raiseIf
    intro _
    apply sees_bind
    apply sees_raiseIf
    intro _
    apply sees_bind
    apply sees_ofExcept
    intro decisionId hid
    apply sees_bind
    apply sees_select quiet
    intro s _ _
    apply sees_bind
    apply sees_found
    intro d there
    obtain ⟨row, rfl⟩ := s.state.domainDecisions.find?_eq_some.mp there
    apply sees_bind
    apply sees_raiseIf
    intro _
    apply sees_bind
    apply sees_orRaise
    intro evidence hevidence
    apply sees_bind
    apply sees_raiseIf
    intro same
    apply sees_bind
    apply sees_raiseIf
    intro _ ev hbefore hafter
    refine .commitment type amount d hamount hid row ?_ (by rw [hbefore, hafter])
    rw [hevidence, hbefore, not_not.mp same]
  | settlement =>
    apply sees_bind
    apply sees_raiseIf
    intro _
    apply sees_bind
    apply sees_openCommitment quiet
    intro s c _ _ row
    apply sees_bind
    apply sees_raiseIf
    intro _ ev hbefore hafter
    exact .settlement type amount q.id.text c hamount id row (by rw [hbefore, hafter])
  | cancellation =>
    apply sees_bind
    apply sees_raiseIf
    intro _
    apply sees_bind
    apply sees_openCommitment quiet
    intro s c _ _ row
    apply sees_bind
    apply sees_raiseIf
    intro _ ev hbefore hafter
    exact .cancellation type amount hamount (by rw [hbefore, hafter])
  | bootstrap => trivial
  | adjustment => trivial
  | correction => trivial

theorem sees_validateEffect (quiet : Quiet D) {m : MutationType} {actor budgetId : String} {before : Int}
    (type : mutation parameters = .ok m) :
    Sees D (fun r q => Computed q.state parameters before r.2)
      (validateEffect parameters m actor digest budgetId before) p := by
  unfold validateEffect
  split
  · exact sees_validateChange quiet type ‹_›
  · apply sees_bind
    apply sees_ofExcept
    intro requestId hid
    apply sees_bind
    apply sees_request quiet
    intro s row _ _ _ same
    apply sees_bind
    apply sees_raiseIf
    intro _
    apply sees_bind
    apply sees_ofExcept
    intro n _
    apply sees_bind
    apply sees_raiseIf
    intro _
    apply sees_bind
    apply sees_bind
    apply sees_select quiet
    intro s' _ _
    apply sees_found
    intro v _
    apply sees_bind
    apply sees_ofExcept
    intro amount hamount
    apply sees_bind
    apply (sees_validateTransition quiet type (positiveInt_ok hamount).1 (by rw [hid, same])).mono
    · exact fun after q computed => computed
    · exact fun _ _ _ => trivial

/-- An instruction names its mutation and, unless that is a bootstrap, its budget. -/
def Names (parameters : Dict) (ev : Evidence) : Prop :=
  mutation parameters = .ok ev.mutationType ∧
    (ev.mutationType ≠ .bootstrap → ∃ budgetId, ev.budgetId = some budgetId ∧ text parameters "budget_id" = .ok budgetId)

/-- **What validation comes to**, whatever the others do between its reads. -/
theorem sees_validateMutation (quiet : Quiet D)
    (new : ∀ q, D.rely p q → ∀ d ∈ digest, d ≠ "" → q.state.idempotencyReceipts.find? d = none) :
    Sees D (fun ev q => Terms q.state parameters ev ∧ Names parameters ev) (validateMutation rt env parameters digest) p := by
  apply sees_bind
  apply sees_ofExcept
  intro m type
  apply sees_bind
  apply sees_ofExcept
  intro actor _
  apply sees_bind
  apply sees_ofExcept
  intro currency _
  apply sees_bind
  have unknown : Sees D (fun receipt _ => receipt = none) (existingReceipt digest : Sql L (Option MutationReceipt)) p := by
    unfold existingReceipt
    cases digest with
    | none => rfl
    | some d =>
      dsimp only
      split
      · rfl
      · exact sees_select quiet fun q rely _ => new q rely d rfl ‹_›
  apply unknown.mono
  · rintro receipt q rfl
    dsimp only
    split
    · next h =>
      apply (sees_validateBootstrap quiet (h ▸ type)).mono
      · rintro ev q ⟨terms, initial⟩
        exact ⟨terms, by rw [type, h, initial], fun other => absurd initial other⟩
      · exact fun _ _ _ => trivial
    · apply sees_bind
      apply sees_ofExcept
      intro budgetId hbudget
      apply sees_bind
      apply sees_bind
      apply sees_select quiet
      intro _ _ _
      apply sees_found
      intro b _
      apply sees_bind
      apply sees_raiseIf
      intro _
      apply sees_bind
      apply sees_raiseIf
      intro _
      apply sees_bind
      apply sees_requireRole quiet
      intro _ _ _
      apply sees_bind
      apply sees_availableOf quiet
      intro _ _ _ _ before
      apply sees_bind
      apply (sees_validateEffect quiet type).mono
      · rintro ⟨amount, after⟩ q computed
        exact ⟨computed _ rfl rfl, type, fun _ => ⟨budgetId, rfl, hbudget⟩⟩
      · exact fun _ _ _ => trivial
  · exact fun _ _ _ => trivial

end

/-! ### Two validations of one instruction -/

section
variable {rt : Runtime} {env : Env} {parameters : Dict} {digest : String} {db db' : Db}

/-- The balance validation starts from is the budget's. -/
theorem validateMutation_before {ev : Evidence} (new : db.idempotencyReceipts.find? digest = none)
    (h : (validateMutation rt env parameters (some digest) : Sql Empty Evidence).exec db = (.ok ev, db')) :
    ∀ budgetId ∈ ev.budgetId, ev.availableBefore = db.availableMinor budgetId := by
  have unknown : (existingReceipt (some digest) : Sql Empty (Option MutationReceipt)).exec db = (.ok none, db) := by
    by_cases hd : digest = ""
    · simp [existingReceipt, hd]
    · simp [existingReceipt, hd, new]
  simp only [validateMutation, Script.exec_bind_ok, Script.exec_ofExcept, Prod.mk.injEq] at h
  obtain ⟨m, _, ⟨-, rfl⟩, actor, _, ⟨-, rfl⟩, cur, _, ⟨-, rfl⟩, receipt, _, hreceipt, h⟩ := h
  rw [unknown] at hreceipt
  cases hreceipt
  simp only at h
  split at h
  · simp [validateBootstrap, Script.exec_bind_ok] at h
    obtain ⟨-, -, amount, -, -, -, -, -, -, -, ⟨-, rfl⟩, rfl⟩ := h
    simp
  · simp [validateOnBudget, Script.exec_bind_ok] at h
    obtain ⟨b, -, row, -, -, -, role, -, amount, after, -, rfl⟩ := h
    simp

/-- What a validation by itself comes to. -/
theorem validateMutation_terms {ev : Evidence} (new : db.idempotencyReceipts.find? digest = none)
    (h : (validateMutation rt env parameters (some digest) : Sql Empty Evidence).exec db = (.ok ev, db)) :
    Terms db parameters ev ∧ Names parameters ev := by
  have seen : Sees (.alone (fun _ => True) fun _ _ => True) (fun ev q => Terms q.state parameters ev ∧ Names parameters ev)
      (validateMutation rt env parameters (some digest) : Sql Empty Evidence) ⟨db, []⟩ := by
    apply sees_validateMutation quiet_alone
    rintro q rfl d mem -
    cases mem
    exact new
  obtain ⟨q, rfl, terms⟩ := Script.Safe.exec seen h
  exact terms

/-- A request has one commitment. -/
theorem Consistent.commitment_unique (consistent : Consistent db) {id : String} {c c' : LedgerEntry}
    (row : c ∈ commitments db.ledgerEntries.rows id) (row' : c' ∈ commitments db.ledgerEntries.rows id) : c = c' := by
  obtain ⟨mem, -, request⟩ := mem_commitments.mp row
  obtain ⟨q, hq, rfl⟩ := List.mem_map.mp (db.entry_request c mem id request)
  have coupled := consistent.coupled q hq
  have single : ∀ x, commitments db.ledgerEntries.rows q.id.text = [x] → c = c' := by
    intro x one
    rw [one] at row row'
    rw [List.mem_singleton.mp row, List.mem_singleton.mp row']
  have some : commitments db.ledgerEntries.rows q.id.text ≠ [] := List.ne_nil_of_mem row
  cases status : q.status <;> rw [status] at coupled
  · exact absurd coupled some
  · exact absurd coupled some
  · exact absurd coupled some
  · exact absurd coupled some
  · obtain ⟨x, one, -⟩ := coupled
    exact single x one
  · obtain ⟨x, -, one, -⟩ := coupled
    exact single x one
  · obtain ⟨x, -, one, -⟩ := coupled
    exact single x one

/-- Whenever the instruction is applied, it leaves the balance it is to leave if and only if the balance it starts from
is the one seen. -/
def Foretells (rt : Runtime) (db : Db) (parameters : Dict) (seen : Option (String × Int)) : Prop :=
  ∀ db', Later db db' → Consistent db' → ∀ (env : Env) (digest : String) (ev : Evidence),
    db'.idempotencyReceipts.find? digest = none →
    (validateMutation rt env parameters (some digest) : Sql Empty Evidence).exec db' = (.ok ev, db') →
    (parameters.get "expected_available_minor" = .int ev.availableAfter ↔ ∀ s ∈ seen, db'.availableMinor s.1 = s.2)

theorem Foretells.later {seen : Option (String × Int)} (h : Foretells rt db parameters seen) (later : Later db db') :
    Foretells rt db' parameters seen := fun db'' later' => h db'' (later.trans later')

/-- The prediction of what an instruction leaves is a parameter that validation does not read. -/
structure Predicts (parameters predicted : Dict) (after : Int) : Prop where
  rest : ∀ key, key ≠ "expected_available_minor" → predicted.get key = parameters.get key
  expected : predicted.get "expected_available_minor" = .int after

theorem Predicts.text {predicted : Dict} {after : Int} (h : Predicts parameters predicted after) {key : String}
    (other : key ≠ "expected_available_minor") : Budget.text predicted key = Budget.text parameters key := by
  unfold Budget.text
  rw [h.rest key other]

theorem Predicts.mutation {predicted : Dict} {after : Int} (h : Predicts parameters predicted after) :
    Budget.mutation predicted = Budget.mutation parameters := by
  unfold Budget.mutation
  rw [h.rest _ (by decide)]

theorem predicts_predicted {after : Int} (new : PyKey.str "expected_available_minor" ∉ parameters.map Prod.fst) :
    Predicts parameters (predicted parameters after) after := by
  have none : List.lookup (PyKey.str "expected_available_minor") parameters = none := by
    rw [List.lookup_eq_none_iff]
    intro e mem
    simp only [bne_iff_ne, ne_eq]
    rintro same
    exact new (same ▸ List.mem_map_of_mem mem)
  refine ⟨fun key other => ?_, ?_⟩
  · simp only [Dict.get, predicted, List.lookup_append, List.lookup_cons, List.lookup_nil]
    cases List.lookup (PyKey.str key) parameters with
    | some v => rfl
    | none =>
      have differs : (PyKey.str key == PyKey.str "expected_available_minor") = false := by simpa using other
      rw [differs]
      rfl
  · simp [Dict.get, predicted, List.lookup_append, none]

/-- **A prediction is right if and only if its balance still is.** -/
theorem foretells {predicted : Dict} {ev : Evidence} (terms : Terms db parameters ev)
    (names : Names parameters ev) (predicts : Predicts parameters predicted ev.availableAfter)
    (direct : mutation parameters ≠ .ok .bootstrap ∧ mutation parameters ≠ .ok .commitment) :
    Foretells rt db predicted (ev.budgetId.map fun budgetId => (budgetId, ev.availableBefore)) := by
  intro db' later consistent env digest ev' new valid
  obtain ⟨terms', names'⟩ := validateMutation_terms new valid
  have types : mutation predicted = mutation parameters := predicts.mutation
  obtain ⟨b, hb, named⟩ := names.2 fun initial => direct.1 (initial ▸ names.1)
  obtain ⟨b', hb', named'⟩ := names'.2 fun initial => direct.1 (types ▸ initial ▸ names'.1)
  obtain rfl : b = b' := by
    rw [predicts.text (by decide), named] at named'
    exact Except.ok.inj named'
  have before := validateMutation_before new valid b hb'
  have seen : (∀ s ∈ ev.budgetId.map fun budgetId => (budgetId, ev.availableBefore), db'.availableMinor s.1 = s.2) ↔
      ev'.availableBefore = ev.availableBefore := by
    simp [hb, before]
  rw [predicts.expected, PyVal.int.injEq, seen]
  have amounts : ∀ {i j : Int}, parameters.get "amount_minor" = .int i → predicted.get "amount_minor" = .int j → i = j := by
    intro i j hi hj
    rw [predicts.rest _ (by decide), hi] at hj
    exact PyVal.int.inj hj
  cases terms with
  | bootstrap type => exact absurd type direct.1
  | commitment type => exact absurd type direct.2
  | change type amount hamount after =>
    cases terms' with
    | change type' amount' hamount' after' =>
      have := amounts hamount hamount'
      omega
    | bootstrap type' => rcases type with type | type <;> simp [types, type] at type'
    | commitment type' => rcases type with type | type <;> simp [types, type] at type'
    | settlement type' => rcases type with type | type <;> simp [types, type] at type'
    | cancellation type' => rcases type with type | type <;> simp [types, type] at type'
  | settlement type amount id c hamount hid row after =>
    cases terms' with
    | settlement type' amount' id' c' hamount' hid' row' after' =>
      -- The request has one commitment, so both have read the same one.
      obtain rfl : id = id' := by
        rw [predicts.text (by decide), hid] at hid'
        exact Except.ok.inj hid'
      obtain ⟨mem, commits⟩ := mem_commitments.mp row
      have same := consistent.commitment_unique (mem_commitments.mpr ⟨later.entries mem, commits⟩) row'
      have := amounts hamount hamount'
      subst same
      omega
    | bootstrap type' => simp [types, type] at type'
    | change type' => simp [types, type] at type'
    | commitment type' => simp [types, type] at type'
    | cancellation type' => simp [types, type] at type'
  | cancellation type amount hamount after =>
    cases terms' with
    | cancellation type' amount' hamount' after' =>
      have := amounts hamount hamount'
      omega
    | bootstrap type' => simp [types, type] at type'
    | change type' => simp [types, type] at type'
    | commitment type' => simp [types, type] at type'
    | settlement type' => simp [types, type] at type'

theorem mutation_of_type {m : MutationType} (h : parameters.get "mutation_type" = .str m.value) :
    mutation parameters = .ok m := by
  have parsed : MutationType.ofValue (.str m.value) = some m := by cases m <;> decide
  rw [mutation, h, parsed]

theorem text_of_uuid {id : Uuid} {key : String} (h : parameters.get key = .str id.text) :
    text parameters key = .ok id.text := by
  rw [text, h]
  simp [id.text_ne]

/-- An approved instruction is predicted from the evidence of its decision, which validation compares. -/
theorem foretells_commitment {d : DomainDecision} {request : PurchaseRequest} {requestId actor : String}
    {current : RequestVersion} {decisionId : Uuid} {available : Int} (row : d ∈ db.domainDecisions.rows)
    (id : d.id = decisionId.text) (evidence : d.balanceEvidenceMinor = some available) :
    Foretells rt db (commitmentParameters request requestId current actor decisionId available) none := by
  intro db' later consistent env digest ev new valid
  have seen : ∀ s ∈ (none : Option (String × Int)), db'.availableMinor s.1 = s.2 := by simp
  refine iff_of_true ?_ seen
  obtain ⟨terms, -⟩ := validateMutation_terms new valid
  have kind : mutation (commitmentParameters request requestId current actor decisionId available) = .ok .commitment :=
    mutation_of_type rfl
  have approval : text (commitmentParameters request requestId current actor decisionId available) "domain_approval_id" =
      .ok decisionId.text := text_of_uuid rfl
  cases terms with
  | commitment type amount d' hamount hid row' evidence' after =>
    have same : d' = d := by
      rw [approval] at hid
      exact db'.domainDecisions.row_unique row' (later.keeps.decisions row) ((Except.ok.inj hid).symm.trans id.symm)
    have moved : current.amountMinor = amount := PyVal.int.inj hamount
    rw [same, evidence] at evidence'
    rw [after, ← Option.some.inj evidence', ← moved]
    rfl
  | bootstrap type => simp [kind] at type
  | change type => simp [kind] at type
  | settlement type => simp [kind] at type
  | cancellation type => simp [kind] at type

theorem foretells_bootstrap {o : Occasion} {actor : String} {input : BootstrapInput} :
    Foretells rt db (bootstrapParameters o actor input) none := by
  intro db' later consistent env digest ev new valid
  have seen : ∀ s ∈ (none : Option (String × Int)), db'.availableMinor s.1 = s.2 := by simp
  refine iff_of_true ?_ seen
  obtain ⟨terms, -⟩ := validateMutation_terms new valid
  have kind : mutation (bootstrapParameters o actor input) = .ok .bootstrap := mutation_of_type rfl
  cases terms with
  | bootstrap type after =>
    have allocated : input.allocationMinor = ev.availableAfter := PyVal.int.inj after
    rw [← allocated]
    rfl
  | change type => simp [kind] at type
  | commitment type => simp [kind] at type
  | settlement type => simp [kind] at type
  | cancellation type => simp [kind] at type

end

end RmtPlatform.Budget
