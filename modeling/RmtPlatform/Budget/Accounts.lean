import Mathlib.Algebra.Order.Group.Int
import RmtPlatform.Budget.Promises
import RmtPlatform.Process.Account

/-! What the budget is for.

The ledger of a budget is an account (`Process.Account`): its purposes are the requests,
whose commitments hold amounts back, to be spent by a settlement or released by a
cancellation. Whatever calls interleave, every step is a step of each account or none of
its business (`ledger_refines`), and every request goes through its statuses in order
(`requests_progress`). -/
namespace RmtPlatform.Budget

open Holding (Phase Account)

/-! ### Accounts -/

/-- What has become of what a request asked for, on a budget. -/
def phaseOf (rows : List LedgerEntry) (budgetId requestId : String) : Phase Int :=
  match (commitments rows requestId).head? with
  | none => .untouched
  | some c =>
    if c.budgetId = budgetId then
      match (terminals rows c).head? with
      | none => .held c.amountMinor
      | some t => if t.entryType = .settlement then .spent t.amountMinor else .released
    else .untouched

/-- A budget as an account. -/
def account (db : Db) (budgetId : String) : Account String Int where
  free := db.availableMinor budgetId
  funded := total db budgetId .allocation + total db budgetId .adjustment + total db budgetId .correction
  phase := phaseOf db.ledgerEntries.rows budgetId

section
variable {rows : List LedgerEntry} {e c t : LedgerEntry} {b requestId : String}

theorem phaseOf_none (none : commitments rows requestId = []) : phaseOf rows b requestId = .untouched := by
  unfold phaseOf
  rw [none]
  rfl

theorem phaseOf_open (one : commitments rows requestId = [c]) (open_ : terminals rows c = []) :
    phaseOf rows b requestId = if c.budgetId = b then .held c.amountMinor else .untouched := by
  unfold phaseOf
  rw [one]
  dsimp only [List.head?_cons]
  rw [open_]
  rfl

theorem phaseOf_closed (one : commitments rows requestId = [c]) (closed : terminals rows c = [t]) :
    phaseOf rows b requestId = if c.budgetId = b then
      if t.entryType = .settlement then .spent t.amountMinor else .released else .untouched := by
  unfold phaseOf
  rw [one]
  dsimp only [List.head?_cons]
  rw [closed]
  rfl

/-- An entry that is neither a commitment of the request nor closes one. -/
theorem phaseOf_append_other (commits : ¬(e.entryType = .commitment ∧ e.requestId = some requestId))
    (closes : ∀ c ∈ commitments rows requestId, ¬(e.entryType.terminal ∧ e.relatedEntryId = some c.id)) :
    phaseOf (rows ++ [e]) b requestId = phaseOf rows b requestId := by
  unfold phaseOf
  rw [commitments_append_other commits]
  cases first : (commitments rows requestId).head? with
  | none => rfl
  | some c =>
    dsimp only
    rw [terminals_append_other (closes c (List.mem_of_mem_head? first))]

/-- What one more entry adds to the entries of a kind. -/
theorem total_append {db db' : Db} (entries : db'.ledgerEntries.rows = db.ledgerEntries.rows ++ [e]) (b : String)
    (type : EntryType) :
    total db' b type = total db b type + if e.budgetId = b ∧ e.entryType = type then e.amountMinor else 0 := by
  unfold total
  rw [entries, List.filter_append, List.map_append, List.sum_append]
  by_cases own : e.budgetId = b ∧ e.entryType = type
  · simp [own]
  · simp [own]

end

section
variable {rt : Runtime} {db db' : Db} {e : LedgerEntry} {r : MutationReceipt}

theorem mem_openCommitment {q : PurchaseRequest} {c : LedgerEntry} {n : Int}
    (closed : db.openCommitment? q.id.text n = some c) : c ∈ commitments db.ledgerEntries.rows q.id.text := by
  obtain ⟨mem, request, -, type, -⟩ := openCommitment?_some closed
  exact mem_commitments.mpr ⟨mem, type, request⟩

/-- An entry that neither commits nor closes leaves every phase. -/
theorem Posted.phases (posted : Posted rt db db' e r) (type : e.entryType ≠ .commitment ∧ e.entryType.terminal = false)
    (b : String) : phaseOf db'.ledgerEntries.rows b = phaseOf db.ledgerEntries.rows b := by
  funext requestId
  rw [posted.entries]
  apply phaseOf_append_other
  · exact fun h => type.1 h.1
  · intro c _ h
    simp [type.2] at h

theorem Posted.funds (posted : Posted rt db db' e r) (b : String)
    (none : e.entryType ≠ .allocation ∧ e.entryType ≠ .adjustment ∧ e.entryType ≠ .correction) :
    (account db' b).funded = (account db b).funded := by
  unfold account
  simp [total_append posted.entries, none]

/-- Money is put in or taken out. -/
theorem Posted.fund (posted : Posted rt db db' e r) (type : e.entryType = .allocation ∨ e.entryType.signed = true)
    (covered : 0 ≤ db.availableMinor e.budgetId + e.amountMinor) (b : String) :
    Holding.Run (account db b) (account db' b) := by
  have kind : e.entryType ≠ .commitment ∧ e.entryType.terminal = false := by
    cases h : e.entryType <;> simp_all [EntryType.signed, EntryType.terminal]
  have free : db'.availableMinor b = db.availableMinor b + if e.budgetId = b then e.amountMinor else 0 := by
    rw [Db.availableMinor, posted.entries]
    exact available_change b type
  have funded : (account db' b).funded = (account db b).funded + if e.budgetId = b then e.amountMinor else 0 := by
    unfold account
    simp only [total_append posted.entries]
    by_cases own : e.budgetId = b
    · cases h : e.entryType <;> simp_all [EntryType.signed] <;> omega
    · simp [own]
  have result : account db' b = { account db b with
      free := (account db b).free + if e.budgetId = b then e.amountMinor else 0,
      funded := (account db b).funded + if e.budgetId = b then e.amountMinor else 0 } := by
    rw [← funded]
    unfold account
    rw [posted.phases kind b, free]
  rw [result]
  by_cases own : e.budgetId = b
  · subst own
    simp only [if_true]
    exact .single (.fund e.amountMinor covered)
  · simp only [if_neg own, add_zero]
    exact .refl

/-- A request's purpose moves from one phase to the next, and no other does. -/
theorem Posted.purpose (posted : Posted rt db db' e r) {requestId : String} {b : String}
    (others : ∀ id, id ≠ requestId → phaseOf db'.ledgerEntries.rows b id = phaseOf db.ledgerEntries.rows b id)
    (none : e.entryType ≠ .allocation ∧ e.entryType ≠ .adjustment ∧ e.entryType ≠ .correction) :
    account db' b = { account db b with
      free := db'.availableMinor b,
      phase := Function.update (account db b).phase requestId (phaseOf db'.ledgerEntries.rows b requestId) } := by
  have phases : phaseOf db'.ledgerEntries.rows b =
      Function.update (phaseOf db.ledgerEntries.rows b) requestId (phaseOf db'.ledgerEntries.rows b requestId) := by
    funext id
    by_cases same : id = requestId
    · rw [same, Function.update_self]
    · rw [Function.update_of_ne same, others id same]
  have funded := posted.funds b none
  unfold account at funded ⊢
  rw [phases]
  simp only at funded ⊢
  rw [funded, Function.update_self]

/-- A commitment holds its amount back. -/
theorem Posted.hold (posted : Posted rt db db' e r) (consistent : Consistent db) {q : PurchaseRequest}
    (type : e.entryType = .commitment) (row : q ∈ db.purchaseRequests.rows) (status : q.status = .approved)
    (request : e.requestId = some q.id.text) (funds : e.amountMinor ≤ db.availableMinor e.budgetId) (b : String) :
    Holding.Run (account db b) (account db' b) := by
  have none := consistent.coupled q row
  rw [status] at none
  replace none : commitments db.ledgerEntries.rows q.id.text = [] := none
  have open_ : e.entryType.terminal = false := by rw [type]; rfl
  have others : ∀ id, id ≠ q.id.text → phaseOf db'.ledgerEntries.rows b id = phaseOf db.ledgerEntries.rows b id := by
    intro id other
    rw [posted.entries]
    apply phaseOf_append_other
    · exact fun h => other (Option.some.inj (h.2.symm.trans request))
    · intro c _ h
      simp [open_] at h
  have own : phaseOf db'.ledgerEntries.rows b q.id.text = if e.budgetId = b then .held e.amountMinor else .untouched := by
    rw [posted.entries]
    apply phaseOf_open
    · rw [commitments_append type request, none, List.nil_append]
    · rw [terminals_append_other (fun h => by simp [open_] at h), posted.unrelated]
  have before : (account db b).phase q.id.text = .untouched := phaseOf_none none
  have free : db'.availableMinor b = db.availableMinor b - if e.budgetId = b then e.amountMinor else 0 := by
    rw [Db.availableMinor, posted.entries]
    exact available_commit b type (isOpen_fresh posted.fresh)
  have positive : 0 < e.amountMinor := by
    have amount := db'.entry_amount e (posted.entries ▸ List.mem_append_right _ (List.mem_singleton_self e))
    simpa [type, EntryType.signed] using amount
  rw [posted.purpose others (by simp [type]), own, free]
  by_cases same : e.budgetId = b
  · subst same
    simp only [if_true]
    exact .single (.hold q.id.text e.amountMinor before positive.le funds)
  · simp only [if_neg same, sub_zero]
    rw [← before, Function.update_eq_self]
    exact .refl

/-- What a request's settlement or cancellation does to the account of its budget. -/
theorem Posted.close (posted : Posted rt db db' e r) (coherent : Coherent db) (consistent : Consistent db)
    {q : PurchaseRequest} {c : LedgerEntry} (row : q ∈ db.purchaseRequests.rows) (status : q.status = .committed)
    (budget : e.budgetId = q.budgetId)
    (closed : db.openCommitment? q.id.text q.currentVersion = some c) (related : e.relatedEntryId = some c.id)
    (terminal : e.entryType.terminal = true) (b : String) :
    (e.budgetId = b → (account db b).phase q.id.text = .held c.amountMinor) ∧
      account db' b = if e.budgetId = b then { account db b with
        free := (account db b).free + (c.amountMinor + e.direct),
        phase := Function.update (account db b).phase q.id.text
          (if e.entryType = .settlement then .spent e.amountMinor else .released) } else account db b := by
  have committed := consistent.coupled q row
  rw [status] at committed
  have mem := mem_openCommitment closed
  obtain ⟨one, ended⟩ := committed.close mem terminal related
  obtain ⟨c', single, unended⟩ := committed
  obtain rfl : c = c' := by simpa [single] using mem
  have its : c.budgetId = e.budgetId := (budget_of_open coherent row closed).trans budget.symm
  obtain ⟨there, -, -, commitment, open_⟩ := openCommitment?_some closed
  have others : ∀ id, id ≠ q.id.text → phaseOf db'.ledgerEntries.rows b id = phaseOf db.ledgerEntries.rows b id := by
    intro id other
    rw [posted.entries]
    apply phaseOf_append_other
    · exact fun h => by simp [h.1, EntryType.terminal] at terminal
    · exact closes_own closed related other
  have before : (account db b).phase q.id.text = if e.budgetId = b then .held c.amountMinor else .untouched := by
    show phaseOf _ b _ = _
    rw [phaseOf_open single unended, its]
  have after : phaseOf db'.ledgerEntries.rows b q.id.text = if e.budgetId = b then
      if e.entryType = .settlement then .spent e.amountMinor else .released else .untouched := by
    rw [posted.entries, phaseOf_closed one ended, its]
  have free : db'.availableMinor b = db.availableMinor b + if e.budgetId = b then c.amountMinor + e.direct else 0 := by
    rw [Db.availableMinor, posted.entries]
    exact available_close b db.ledgerEntries.unique there commitment open_ its related terminal
  have kind : e.entryType ≠ .allocation ∧ e.entryType ≠ .adjustment ∧ e.entryType ≠ .correction := by
    cases h : e.entryType <;> simp_all [EntryType.terminal]
  rw [posted.purpose others kind, after, free]
  by_cases same : e.budgetId = b
  · rw [if_pos same] at before ⊢
    simp only [if_pos same]
    exact ⟨fun _ => before, rfl⟩
  · rw [if_neg same] at before
    simp only [if_neg same, add_zero]
    refine ⟨fun own => absurd own same, ?_⟩
    rw [← before, Function.update_eq_self]
    rfl

/-- **A posting is a step of its own budget's account**, and nothing to the others. -/
theorem Posted.refines (posted : Posted rt db db' e r) (sound : Sound db) (consistent : Consistent db) (b : String) :
    Holding.Run (account db b) (account db' b) := by
  cases posted.cause with
  | bootstrap type uninitialized positive same =>
    have solvent := sound.solvent e.budgetId
    exact posted.fund (.inl type) (by omega) b
  | change type funds same => exact posted.fund (.inr type) funds b
  | commitment q v d now type row status request _ _ _ _ _ _ _ _ _ _ _ _ _ funds moved =>
    exact posted.hold consistent type row status request funds b
  | settlement q c now type row status budget closed related covered moved =>
    have terminal : e.entryType.terminal = true := by rw [type]; rfl
    obtain ⟨held, result⟩ := posted.close sound.coherent consistent row status budget closed related terminal b
    have positive : 0 < e.amountMinor := by
      have amount := db'.entry_amount e (posted.entries ▸ List.mem_append_right _ (List.mem_singleton_self e))
      simpa [type, EntryType.signed] using amount
    rw [result]
    by_cases own : e.budgetId = b
    · rw [if_pos own, if_pos type, LedgerEntry.direct, type]
      exact .single (.spend q.id.text c.amountMinor e.amountMinor (held own) positive.le covered)
    · rw [if_neg own]
  | cancellation q c now type row status budget closed related whole moved =>
    have terminal : e.entryType.terminal = true := by rw [type]; rfl
    obtain ⟨held, result⟩ := posted.close sound.coherent consistent row status budget closed related terminal b
    rw [result]
    by_cases own : e.budgetId = b
    · rw [if_pos own, if_neg (by rw [type]; decide), LedgerEntry.direct, type]
      simp only [add_zero]
      exact .single (.release q.id.text c.amountMinor (held own))
    · rw [if_neg own]

end

/-! ### Requests -/

/-- What a request may go through, with the version it is at. -/
inductive Transition : Int × RequestStatus → Int × RequestStatus → Prop where
  | revise (n : Int) (status : RequestStatus) (uncommitted : status ∉ [.committed, .settled, .cancelled]) :
      Transition (n, status) (n + 1, .draft)
  | submit (n : Int) : Transition (n, .draft) (n, .submitted)
  | decide (n : Int) (verdict : Verdict) : Transition (n, .submitted) (n, verdict.status)
  | commit (n : Int) : Transition (n, .approved) (n, .committed)
  | settle (n : Int) : Transition (n, .committed) (n, .settled)
  | cancel (n : Int) : Transition (n, .committed) (n, .cancelled)

abbrev Goes : Int × RequestStatus → Int × RequestStatus → Prop := Relation.ReflTransGen Transition

/-- Where a request is. -/
def PurchaseRequest.at_ (q : PurchaseRequest) : Int × RequestStatus := (q.currentVersion, q.status)

/-- Every request is still there, and has gone on. -/
def Progress (rows rows' : List PurchaseRequest) : Prop :=
  ∀ q ∈ rows, ∃ q' ∈ rows', q'.id = q.id ∧ q'.budgetId = q.budgetId ∧ q'.requester = q.requester ∧
    Goes q.at_ q'.at_

theorem Progress.refl (rows : List PurchaseRequest) : Progress rows rows := fun q row => ⟨q, row, rfl, rfl, rfl, .refl⟩

theorem Progress.trans {rows rows' rows'' : List PurchaseRequest} (h : Progress rows rows') (h' : Progress rows' rows'') :
    Progress rows rows'' := by
  intro q row
  obtain ⟨q', row', id, budget, requester, goes⟩ := h q row
  obtain ⟨q'', row'', id', budget', requester', goes'⟩ := h' q' row'
  exact ⟨q'', row'', id'.trans id, budget'.trans budget, requester'.trans requester, goes.trans goes'⟩

section
variable {rt : Runtime} {db db' : Db} {e : LedgerEntry} {requests : List PurchaseRequest}

/-- One request moves. -/
theorem progress_withStatus {r : PurchaseRequest} {status : RequestStatus} {version : Option Int} {now : String}
    (row : r ∈ db.purchaseRequests.rows) (step : Transition r.at_ (version.getD r.currentVersion, status)) :
    Progress db.purchaseRequests.rows (withStatus db.purchaseRequests.rows r.id.text status version now) := by
  intro q mem
  refine ⟨_, List.mem_map_of_mem mem, ?_⟩
  by_cases same : q.id.text = r.id.text
  · obtain rfl := db.purchaseRequests.row_unique mem row same
    rw [if_pos rfl]
    exact ⟨rfl, rfl, rfl, .single step⟩
  · rw [if_neg same]
    exact ⟨rfl, rfl, rfl, .refl⟩

theorem RequestEffect.progress (effect : RequestEffect db db') :
    Progress db.purchaseRequests.rows db'.purchaseRequests.rows := by
  cases effect with
  | create r v _ _ _ _ same =>
    rw [same]
    exact fun q row => ⟨q, List.mem_append_left _ row, rfl, rfl, rfl, .refl⟩
  | revise r v now row status _ _ same =>
    rw [same]
    exact progress_withStatus row (.revise r.currentVersion r.status status)
  | submit r now row status same =>
    rw [same]
    refine progress_withStatus row ?_
    rw [PurchaseRequest.at_, status]
    exact .submit r.currentVersion
  | decide r d now row status _ _ _ _ same =>
    rw [same]
    refine progress_withStatus row ?_
    rw [PurchaseRequest.at_, status]
    exact .decide r.currentVersion d.decision

theorem Cause.progress (cause : Cause db requests e) : Progress db.purchaseRequests.rows requests := by
  cases cause with
  | bootstrap _ _ _ same => exact same ▸ .refl _
  | change _ _ same => exact same ▸ .refl _
  | commitment q v d now _ row status _ _ _ _ _ _ _ _ _ _ _ _ _ _ _ moved =>
    rw [moved]
    refine progress_withStatus row ?_
    rw [PurchaseRequest.at_, status]
    exact .commit q.currentVersion
  | settlement q c now _ row status _ _ _ _ moved =>
    rw [moved]
    refine progress_withStatus row ?_
    rw [PurchaseRequest.at_, status]
    exact .settle q.currentVersion
  | cancellation q c now _ row status _ _ _ _ moved =>
    rw [moved]
    refine progress_withStatus row ?_
    rw [PurchaseRequest.at_, status]
    exact .cancel q.currentVersion

end

/-- How far a version of a request is. -/
def RequestStatus.rank : RequestStatus → Nat
  | .draft => 0
  | .submitted => 1
  | .approved | .rejected => 2
  | .committed => 3
  | .settled | .cancelled => 4

theorem Transition.forward {a b : Int × RequestStatus} (step : Transition a b) :
    a.1 < b.1 ∨ a.1 = b.1 ∧ a.2.rank < b.2.rank := by
  cases step with
  | revise n status uncommitted => exact .inl (Int.lt_succ n)
  | submit n => exact .inr ⟨rfl, Nat.zero_lt_one⟩
  | decide n verdict => exact .inr ⟨rfl, by cases verdict <;> exact Nat.one_lt_two⟩
  | commit n => exact .inr ⟨rfl, Nat.lt_succ_self 2⟩
  | settle n => exact .inr ⟨rfl, Nat.lt_succ_self 3⟩
  | cancel n => exact .inr ⟨rfl, Nat.lt_succ_self 3⟩

/-- Versions only grow, and within a version a request only moves on. -/
theorem Goes.forward {a b : Int × RequestStatus} (goes : Goes a b) :
    a.1 < b.1 ∨ a.1 = b.1 ∧ (a.2 = b.2 ∨ a.2.rank < b.2.rank) := by
  induction goes with
  | refl => exact .inr ⟨rfl, .inl rfl⟩
  | tail _ step ih =>
    rcases step.forward with later | ⟨same, further⟩
    · rcases ih with before | ⟨same', -⟩ <;> exact .inl (by omega)
    · rcases ih with before | ⟨same', equal | before⟩
      · exact .inl (by omega)
      · exact .inr ⟨same'.trans same, .inr (equal ▸ further)⟩
      · exact .inr ⟨same'.trans same, .inr (before.trans further)⟩

/-- A request that has been committed keeps its version, and is settled or cancelled once. -/
theorem Goes.committed {n : Int} {b : Int × RequestStatus} (goes : Goes (n, .committed) b) :
    b = (n, .committed) ∨ b = (n, .settled) ∨ b = (n, .cancelled) := by
  induction goes with
  | refl => exact .inl rfl
  | tail _ step ih =>
    rcases ih with rfl | rfl | rfl
    · cases step with
      | revise _ _ uncommitted => simp at uncommitted
      | settle => exact .inr (.inl rfl)
      | cancel => exact .inr (.inr rfl)
    · cases step with
      | revise _ _ uncommitted => simp at uncommitted
    · cases step with
      | revise _ _ uncommitted => simp at uncommitted

/-- A request that is settled or cancelled stays as it is. -/
theorem Goes.ended {n : Int} {status : RequestStatus} {b : Int × RequestStatus}
    (ended : status = .settled ∨ status = .cancelled) (goes : Goes (n, status) b) : b = (n, status) := by
  induction goes with
  | refl => rfl
  | tail _ step ih =>
    subst ih
    rcases ended with rfl | rfl
    · cases step with
      | revise _ _ uncommitted => simp at uncommitted
    · cases step with
      | revise _ _ uncommitted => simp at uncommitted

/-! ### Runs -/

section
variable {rt : Runtime} {models : Models} {admits : Mark → Point Db Mark → Prop} {p : Point Db Mark} {db : Db}

/-- What the accounts and the requests may do between two points of a run. -/
structure Grows (p q : Point Db Mark) : Prop where
  later : Later p.state q.state
  accounts : ∀ b, Holding.Run (account p.state b) (account q.state b)
  requests : Progress p.state.purchaseRequests.rows q.state.purchaseRequests.rows

theorem Grows.refl (p : Point Db Mark) : Grows p p := ⟨.refl _, fun _ => .refl, .refl _⟩

theorem Grows.trans {p q r : Point Db Mark} (h : Grows p q) (h' : Grows q r) : Grows p r :=
  ⟨h.later.trans h'.later, fun b => (h.accounts b).trans (h'.accounts b), h.requests.trans h'.requests⟩

theorem account_same {db db' : Db} (entries : db'.ledgerEntries = db.ledgerEntries) (b : String) :
    Holding.Run (account db b) (account db' b) := by
  have same : account db' b = account db b := by
    unfold account Db.availableMinor total
    rw [entries]
  rw [same]

/-- **Every step moves the accounts and the requests on.** -/
theorem Does.grows {label : Option Mark} (does : Does rt models p label db) (governed : Governed models admits p)
    (l : List Mark) : Grows p ⟨db, l⟩ := by
  refine ⟨does.later governed, ?_, ?_⟩
  · intro b
    cases does with
    | nothing => exact .refl
    | request ledger effect decisions => exact account_same ledger.ledger b
    | decision label env input stored drawn => exact account_same (saveDecisionBody_ok stored).1.ledger b
    | verified v stored =>
      obtain ⟨-, rfl⟩ := Db.guarded_ok.mp (Db.binding_ok.mp stored).2
      exact account_same rfl b
    | applied env action digest executionId key encoded instructs hkey hencoded ran =>
      rcases applyMutationBody_posts governed.sound.coherent ran with rfl | ⟨ev, e, -, -, -, posted, -⟩
      · exact .refl
      · exact posted.refines governed.sound governed.consistent b
  · cases does with
    | nothing => exact .refl _
    | request ledger effect decisions => exact effect.progress
    | decision label env input stored drawn => exact (saveDecisionBody_ok stored).2.progress
    | verified v stored =>
      obtain ⟨-, rfl⟩ := Db.guarded_ok.mp (Db.binding_ok.mp stored).2
      exact .refl _
    | applied env action digest executionId key encoded instructs hkey hencoded ran =>
      rcases applyMutationBody_posts governed.sound.coherent ran with rfl | ⟨ev, e, -, -, -, posted, -⟩
      · exact .refl _
      · exact posted.cause.progress

def growing (models : Models) (admits : Mark → Point Db Mark → Prop) : Discipline Db Mark :=
  .shared Grows (Governed models admits) admits

theorem hosts_growing : Hosts rt models admits (growing models admits) where
  quiet := ⟨fun _ _ grows => grows.later, fun p _ => .refl p⟩
  governed _ inv := inv
  does _ _ _ inv admitted does := ⟨does.governed inv admitted, does.grows inv _⟩

/-- The calls that may start at any time. -/
abbrev Calls (rt : Runtime) (models : Models) (x : Program Db Mark (Except Err Unit)) (_ : Point Db Mark) : Prop :=
  ∃ o call, x = ServiceCall.script rt models o call

/-- Between any two points of a run, the accounts and the requests only move on. -/
theorem Interleaves.grows {c c' : Pool Db Mark (Except Err Unit)} (run : Interleaves rt models admits c)
    (on : Pool.Reach (Calls rt models) admits c c') :
    Governed models admits c'.point ∧ Grows opening.point c.point ∧ Grows c.point c'.point := by
  have calls : ∀ x q, Calls rt models x q → (growing models admits).inv q →
      Program.Safe (growing models admits) (fun _ _ => True) x q := by
    rintro x q ⟨o, call, rfl⟩ _
    exact Program.Safe.mono (sees_call hosts_growing o call) fun _ _ _ => trivial
  have governed : Governed models admits opening.point :=
    ⟨sound_empty, consistent_empty, fun d mem => absurd mem List.not_mem_nil,
      fun before e after split => absurd split.symm (by simp [opening, Db.empty])⟩
  obtain ⟨there, safe, first⟩ := Pool.reach_sound (D := growing models admits) (fun _ _ _ => Grows.trans) Grows.refl
    (fun _ _ grows => grows) calls run governed (by simp [Pool.AllSafe, opening])
  obtain ⟨held, -, second⟩ := Pool.reach_sound (D := growing models admits) (fun _ _ _ => Grows.trans) Grows.refl
    (fun _ _ grows => grows) calls on there safe
  exact ⟨held, first, second⟩

end

theorem account_empty (b : String) : account Db.empty b = Holding.empty := by
  have free : Db.empty.availableMinor b = 0 := by
    simp [Db.availableMinor, Db.empty, Db.available, Db.balances, Db.openCommitments]
  have none : ∀ type, total .empty b type = 0 := fun type => by simp [total, Db.empty]
  unfold account Holding.empty
  rw [free, none, none, none]
  rfl

/-- **The ledger refines an account.** Whatever calls interleave, what a budget's ledger goes through between any two
points of a run is a run of its account, from an empty one. So nothing is overdrawn, what is free, held and spent is what
was put in, less what was taken out, and what was held for a request is spent, at most that much, or released, once and
for good. -/
theorem ledger_refines (rt : Runtime) (models : Models) (c c' : Pool Db Mark (Except Err Unit))
    (run : Interleaves rt models (fun _ _ => True) c) (on : Pool.Reach (Calls rt models) (fun _ _ => True) c c')
    (b : String) :
    Holding.Run Holding.empty (account c.point.state b) ∧
    Holding.Run (account c.point.state b) (account c'.point.state b) ∧
    Holding.Sound (account c'.point.state b) ∧
    (∀ requestId, ((account c.point.state b).phase requestId).Settled →
      (account c'.point.state b).phase requestId = (account c.point.state b).phase requestId) ∧
    ∀ requestId amount, (account c.point.state b).phase requestId = .held amount →
      (account c'.point.state b).phase requestId = .held amount ∨
      (∃ spent, spent ≤ amount ∧ (account c'.point.state b).phase requestId = .spent spent) ∨
      (account c'.point.state b).phase requestId = .released := by
  obtain ⟨-, first, second⟩ := run.grows on
  have before : Holding.Run Holding.empty (account c.point.state b) := account_empty b ▸ first.accounts b
  have after := second.accounts b
  have sound : Holding.Sound (account c'.point.state b) := Holding.Run.sound (before.trans after) Holding.sound_empty
  exact ⟨before, after, sound, fun requestId => after.settled requestId, fun requestId => after.held requestId⟩

/-- An approval that is stored holds the instruction that was drawn up of what was read. -/
theorem decide_ok {o : Occasion} {actor requestId reason : String} {x : RequestDetail}
    (h : (decide rt models o actor requestId .approved reason).exec db = (.ok x, db')) :
    ∃ detail current digest u, ((requestDetail actor requestId : Sql Mark RequestDetail).exec db).1 = .ok detail ∧
      detail.versions.find? (·.version = detail.request.currentVersion) = some current ∧
      (saveDecisionBody rt o.writing ⟨o.decisionId.text, actor, requestId, "approved", reason, some digest,
        some (models.modelDumpJson (budgetAction (commitmentParameters detail.request requestId current actor o.decisionId
          (db.availableMinor detail.request.budgetId)) o.actionId.text o.decisionId.text detail.request.budgetId
          ("Commit approved purchase request " ++ requestId))), some (db.availableMinor detail.request.budgetId)⟩).exec db =
        (.ok u, db') := by
  simp only [decide, currentVersion, Script.exec_bind_ok, exec_found, exec_availableMinor, Script.exec_ofExcept] at h
  obtain ⟨detail, _, read, current, _, ⟨version, rfl⟩, _, db₁, ⟨-, rfl, rfl⟩, digest, db₂, digested, stored⟩ := h
  obtain rfl : db₁ = db := by simpa [read] using readOnly_requestDetail (L := Mark) actor requestId db
  obtain rfl : db₁ = db₂ := (Prod.mk.inj digested).2
  obtain ⟨u, db₃, written, shown⟩ := Script.exec_bind_ok.mp stored
  obtain rfl : db' = db₃ := by simpa [shown] using readOnly_requestDetail (L := Mark) actor requestId db₃
  exact ⟨detail, current, digest, u, by rw [read], version, Transaction.run_ok written⟩

/-- A commitment executes what was approved, as it is read back. -/
theorem commit_held {o : Occasion} {actor requestId : String} {action : Core.ActionRequest}
    (held : (approvedAction rt actor requestId : Sql Mark String).exec db = (.ok (models.modelDumpJson action), db))
    (plain : Plain action.parameters) :
    (Program.run (ServiceCall.script rt models o (.commit actor requestId)) db).2 =
      ((executeAction rt o action none).exec db).2 := by
  have read : models.modelValidateJson (models.modelDumpJson action) = some action := models.reads action plain
  have runs : (Program.run (ServiceCall.script rt models o (.commit actor requestId)) db).2 =
      ((commit rt models o actor requestId).exec db).2 :=
    Script.exec_bind_readOnly (fun _ => Script.readOnly_pure ()) db
  rw [runs, commit, Script.exec_bind, held]
  dsimp only
  rw [read]
  rfl

theorem run_decide {o : Occasion} {actor requestId reason : String} {decision : Verdict} :
    (Program.run (ServiceCall.script rt models o (.decide actor requestId decision reason)) db).2 =
      ((decide rt models o actor requestId decision reason).exec db).2 :=
  Script.exec_bind_readOnly (fun _ => Script.readOnly_pure ()) db

namespace Sample

/-- A request is submitted, -/
def awaiting : Pool Db Mark (Except Err Unit) :=
  ((Pool.served ⟨[], .empty, []⟩ (thread 1 (.bootstrap "root" opened))).served
    (thread 2 (.createRequest "ravi" lab ⟨300, "usd", "disks", ""⟩))).served (thread 3 (.submitRequest "ravi" request))

/-- and approved. -/
def granted : Pool Db Mark (Except Err Unit) := awaiting.served (thread 6 (.decide "olga" request .approved "ok"))

/-- It is committed, -/
def engaged : Pool Db Mark (Except Err Unit) := granted.served (thread 7 (.commit "olga" request))

/-- and settled for less. -/
def paid : Pool Db Mark (Except Err Unit) := engaged.served (thread 8 (.settle "olga" request 250 "settle-0001"))

theorem served_on {c : Pool Db Mark (Except Err Unit)} {n : Nat} {call : ServiceCall} :
    Pool.Reach (Calls library actionModels) (fun _ _ => True) c (c.served (thread n call)) :=
  Pool.served_reach ⟨occasion n, call, rfl⟩

theorem granted_run : Interleaves library actionModels (fun _ _ => True) granted :=
  ((served_on.trans served_on).trans served_on).trans served_on

/-- The instruction that was approved. -/
def grantedAction : Core.ActionRequest :=
  budgetAction (commitmentParameters ⟨uuid 2 0, (uuid 1 8).text, lab, "ravi", .submitted, 1, "", ""⟩ request
    ⟨request, 1, 300, "USD", "disks", "", "ravi", ""⟩ "olga" (uuid 6 6) 1000) (uuid 6 7).text (uuid 6 6).text lab
    ("Commit approved purchase request " ++ request)

/-- What executing it and settling leave. -/
def paying (db : Db) : Db := (Program.run (thread 8 (.settle "olga" request 250 "settle-0001"))
  ((executeAction library (occasion 7) grantedAction none).exec db).2).2

/-- What the decision reads, that it is stored, and what it is then. -/
theorem paid_steps : (awaiting.point.state.domainDecisions.rows.length = 0 ∧
      awaiting.point.state.availableMinor lab = 1000 ∧
      ((requestDetail "olga" request : Sql Mark RequestDetail).exec awaiting.point.state).1.toOption.all (fun detail =>
        detail.request.organizationId = (uuid 1 8).text ∧ detail.request.budgetId = lab ∧ detail.request.currentVersion = 1 ∧
        (detail.versions.find? (·.version = 1)).all fun v => v.currency = "USD" ∧ v.amountMinor = 300) = true ∧
      ((decide library actionModels (occasion 6) "olga" request .approved "ok").exec
        awaiting.point.state).1.toOption.isSome = true) ∧
    ((granted.point.state.purchaseRequests.find? request).any (fun q => q.at_ = (1, .approved) ∧
      granted.point.state.hasRole "olga" .budgetOwner (some q.budgetId) = true ∧
      (granted.point.state.approval? request q.currentVersion).any (fun d => d.decidedBy = "olga") = true) = true) ∧
    (∀ q ∈ (paying granted.point.state).purchaseRequests.rows, q.at_ = (1, .settled)) ∧
    (account (paying granted.point.state) lab).phase request = .spent 250 ∧
    (account (paying granted.point.state) lab).free = 750 := by
  decide +kernel

theorem granted_held : (approvedAction library "olga" request : Sql Mark String).exec granted.point.state =
    (.ok (actionModels.modelDumpJson grantedAction), granted.point.state) := by
  obtain ⟨⟨undecided, free, drawn, stores⟩, there, -⟩ := paid_steps
  have state : granted.point.state =
      ((decide library actionModels (occasion 6) "olga" request .approved "ok").exec awaiting.point.state).2 := by
    rw [granted, Pool.served_state, thread]
    exact run_decide
  generalize awaiting.point.state = before at undecided free drawn stores state
  generalize granted.point.state = after at there state ⊢
  rcases decided : (decide library actionModels (occasion 6) "olga" request .approved "ok").exec before with ⟨e | x, db⟩
  · rw [decided] at stores
    cases stores
  obtain rfl : after = db := by rw [state, decided]
  obtain ⟨detail, current, digest, u, read, version, written⟩ := decide_ok decided
  obtain ⟨submitted, -, v, -, -, -, rows⟩ := saveDecisionBody_row written
  rw [List.length_eq_zero_iff.mp undecided] at rows
  -- The decision is the only one, so it is the one that is read.
  obtain ⟨q, found, holds⟩ := (Option.any_eq_true _ _).mp there
  obtain ⟨-, role, approved⟩ := of_decide_eq_true holds
  obtain ⟨d, latest, decider⟩ := (Option.any_eq_true _ _).mp approved
  have mem := (List.mem_filter.mp ((List.perm_insertionSort _ _).mem_iff.mp (List.mem_of_head? latest))).1
  rw [rows] at mem
  obtain rfl := List.mem_singleton.mp mem
  -- The instruction is drawn up of what was read, so it is this one.
  obtain ⟨organization, budget, number, terms⟩ : detail.request.organizationId = (uuid 1 8).text ∧
      detail.request.budgetId = lab ∧ detail.request.currentVersion = 1 ∧
      ((detail.versions.find? (·.version = 1)).all fun v => v.currency = "USD" ∧ v.amountMinor = 300) = true := by
    rw [read] at drawn
    exact of_decide_eq_true drawn
  rw [number] at version
  rw [version] at terms
  obtain ⟨currency, amount⟩ : current.currency = "USD" ∧ current.amountMinor = 300 := of_decide_eq_true terms
  have same : budgetAction (commitmentParameters detail.request request current "olga" (occasion 6).decisionId
      (before.availableMinor detail.request.budgetId)) (occasion 6).actionId.text (occasion 6).decisionId.text
      detail.request.budgetId ("Commit approved purchase request " ++ request) = grantedAction := by
    unfold commitmentParameters
    rw [organization, budget, number, currency, amount, free]
    rfl
  have text : actionModels.modelDumpJson grantedAction ≠ "" := modelDumpJson_ne grantedAction
  rw [approvedAction_exec found role latest (congrArg (fun a => some (actionModels.modelDumpJson a)) same) text]

theorem paid_state : paid.point.state = paying granted.point.state := by
  have engages : engaged.point.state =
      ((executeAction library (occasion 7) grantedAction none).exec granted.point.state).2 := by
    rw [engaged, Pool.served_state, thread]
    exact commit_held granted_held plain_commitment
  rw [paid, Pool.served_state, engages, paying]

end Sample

/-- What a request is granted is held and spent between two points of a run, and the rest of it is free. -/
theorem ledger_refines_paid : (account Sample.paid.point.state Sample.lab).phase Sample.request = .spent 250 ∧
    (account Sample.paid.point.state Sample.lab).free = 750 ∧
    Holding.Run (account Sample.granted.point.state Sample.lab) (account Sample.paid.point.state Sample.lab) ∧
    Holding.Sound (account Sample.paid.point.state Sample.lab) := by
  obtain ⟨-, -, -, spent, free⟩ := Sample.paid_steps
  have on : Pool.Reach (Calls Sample.library actionModels) (fun _ _ => True) Sample.granted Sample.paid :=
    Sample.served_on.trans Sample.served_on
  obtain ⟨-, run, sound, -⟩ :=
    ledger_refines Sample.library actionModels Sample.granted Sample.paid Sample.granted_run on Sample.lab
  refine ⟨?_, ?_, run, sound⟩
  · rw [Sample.paid_state]
    exact spent
  · rw [Sample.paid_state]
    exact free

/-- **Requests go through their statuses in order.** Between any two points of a run every request is still there, of the
same budget and requester, and has gone on by transitions of the service: its version never falls, within a version it
never moves back, and once it is committed its version stays and it is settled or cancelled at most once. -/
theorem requests_progress (rt : Runtime) (models : Models) (c c' : Pool Db Mark (Except Err Unit))
    (run : Interleaves rt models (fun _ _ => True) c) (on : Pool.Reach (Calls rt models) (fun _ _ => True) c c')
    (q : PurchaseRequest) (row : q ∈ c.point.state.purchaseRequests.rows) :
    ∃ q' ∈ c'.point.state.purchaseRequests.rows, q'.id = q.id ∧ q'.budgetId = q.budgetId ∧ q'.requester = q.requester ∧
      Goes q.at_ q'.at_ ∧
      (q.currentVersion < q'.currentVersion ∨
        q.currentVersion = q'.currentVersion ∧ (q.status = q'.status ∨ q.status.rank < q'.status.rank)) ∧
      (q.status = .committed → q'.currentVersion = q.currentVersion ∧ q'.status ∈ [.committed, .settled, .cancelled]) ∧
      (q.status = .settled ∨ q.status = .cancelled → q'.at_ = q.at_) := by
  obtain ⟨-, -, grows⟩ := run.grows on
  obtain ⟨q', row', id, budget, requester, goes⟩ := grows.requests q row
  refine ⟨q', row', id, budget, requester, goes, goes.forward, fun committed => ?_, fun ended => goes.ended ended⟩
  rw [PurchaseRequest.at_, committed] at goes
  rcases goes.committed with same | same | same
  · obtain ⟨version, status⟩ := Prod.mk.inj same
    exact ⟨version, by simp [status]⟩
  · obtain ⟨version, status⟩ := Prod.mk.inj same
    exact ⟨version, by simp [status]⟩
  · obtain ⟨version, status⟩ := Prod.mk.inj same
    exact ⟨version, by simp [status]⟩

/-- An approved request that is committed and settled between two points of a run. -/
theorem requests_progress_paid : ∃ q ∈ Sample.granted.point.state.purchaseRequests.rows,
    ∃ q' ∈ Sample.paid.point.state.purchaseRequests.rows, q'.id = q.id ∧ q.at_ = (1, .approved) ∧ q'.at_ = (1, .settled) ∧
      Goes q.at_ q'.at_ := by
  obtain ⟨-, there, settled, -⟩ := Sample.paid_steps
  obtain ⟨q, found, holds⟩ := (Option.any_eq_true _ _).mp there
  obtain ⟨row, -⟩ := Sample.granted.point.state.purchaseRequests.find?_eq_some.mp found
  have on : Pool.Reach (Calls Sample.library actionModels) (fun _ _ => True) Sample.granted Sample.paid :=
    Sample.served_on.trans Sample.served_on
  obtain ⟨q', row', id, -, -, goes, -⟩ :=
    requests_progress Sample.library actionModels Sample.granted Sample.paid Sample.granted_run on q row
  exact ⟨q, row, q', row', id, (of_decide_eq_true holds).1, settled q' (Sample.paid_state ▸ row'), goes⟩

end RmtPlatform.Budget
