import RmtPlatform.Budget.Calls
import RmtPlatform.Budget.Service
import RmtPlatform.Data.Clock

/-! What the balance was.

`available_minor_at` cuts the ledger by the text of a time. Where the clock has moved on
from one committed transaction to the next, the cut at a receipt is the ledger as that
receipt's entry left it, whatever is posted later (`history_stable`). -/
namespace RmtPlatform.Budget

/-! ### The cut -/

/-- Of entries made one after another, a query up to the time of one sees those before it and itself. -/
theorem entriesUpTo_made {db : Db} {before after : List LedgerEntry} {e : LedgerEntry}
    (split : db.ledgerEntries.rows = before ++ e :: after)
    (clock : db.ledgerEntries.rows.Pairwise fun a b => a.createdAt < b.createdAt) :
    db.entriesUpTo e.createdAt = before ++ [e] := by
  rw [split, List.pairwise_append, List.pairwise_cons] at clock
  obtain ⟨-, ⟨later, -⟩, earlier⟩ := clock
  unfold Db.entriesUpTo
  rw [split, List.filter_append, List.filter_cons]
  have first : before.filter (fun x => Decidable.decide (x.createdAt ≤ e.createdAt)) = before := by
    apply List.filter_eq_self.mpr
    intro x mem
    exact decide_eq_true (String.not_lt.mp (String.lt_asymm (earlier x mem e List.mem_cons_self)))
  have last : after.filter (fun x => Decidable.decide (x.createdAt ≤ e.createdAt)) = [] := by
    apply List.filter_eq_nil_iff.mpr
    intro x mem
    exact fun h => String.not_le.mpr (later x mem) (of_decide_eq_true h)
  rw [first, last]
  simp

/-! ### Dated runs -/

/-- A database, and the last time that a committed transaction has written. -/
structure Dated where
  db : Db
  last : Option Instant

/-- One call. Either it commits nothing, or the time it writes is later than any before it. -/
def Tick (rt : Runtime) (p q : Dated) : Prop :=
  ∃ (env : Env) (clock : Nat → Instant) (call : Call), (∀ k, env.now k = (clock k).isoformat) ∧
    q.db = ((call.script rt env).exec p.db).2 ∧
    (q.db = p.db ∧ q.last = p.last ∨ (∀ t ∈ p.last, t.Earlier (clock 0)) ∧ q.last = some (clock 0))

abbrev Ticks (rt : Runtime) : Dated → Dated → Prop := Relation.ReflTransGen (Tick rt)

/-- What a receipt says of the balance is what the ledger came to up to its entry. -/
def Recorded (db : Db) (r : MutationReceipt) : Prop :=
  ∃ before e after, db.ledgerEntries.rows = before ++ e :: after ∧ e.id = r.ledgerEntryId ∧ e.createdAt = r.createdAt ∧
    r.availableMinor = Db.available (before ++ [e]) e.budgetId ∧ Summable (before ++ [e]) e.budgetId

/-- The entries stand in the order of their times. -/
structure Ordered (p : Dated) : Prop where
  sound : Sound p.db
  increasing : p.db.ledgerEntries.rows.Pairwise fun a b => a.createdAt < b.createdAt
  past : ∀ e ∈ p.db.ledgerEntries.rows, ∃ t ∈ p.last, e.createdAt = t.isoformat ∨ e.createdAt < t.isoformat
  recorded : ∀ r ∈ p.db.idempotencyReceipts.rows, Recorded p.db r

section
variable {rt : Runtime} {env : Env} {db db' : Db}

/-- A call leaves the ledger and its receipts, or posts an entry at the time it reads. -/
def Posts (rt : Runtime) (env : Env) (db db' : Db) : Prop :=
  SameBooks db db' ∨ ∃ e r, Posted rt db db' e r ∧ e.createdAt = env.now 0

theorem call_posts (coherent : Coherent db) (call : Call) : Posts rt env db ((call.script rt env).exec db).2 := by
  by_cases other : ∀ parameters digest executionId, call ≠ .applyMutation parameters digest executionId
  · exact .inl (requests_same call other)
  · simp only [not_forall, not_not] at other
    obtain ⟨parameters, digest, executionId, rfl⟩ := other
    have here : Posts rt env db db := .inl (.refl db)
    apply keeps_before (I := Posts rt env db) fun _ => Script.readOnly_pure ()
    apply keeps_after (I := Posts rt env db) (Script.readOnly_ofExcept _) here
    intro key
    apply keeps_after (I := Posts rt env db) (Script.readOnly_ofExcept _) here
    intro encoded
    apply Transaction.run_keeps (I := Posts rt env db) here
    intro r db' h
    rcases applyMutationBody_posts coherent h with rfl | ⟨ev, e, -, -, -, posted, -, -, created, -⟩
    · exact here
    · exact .inr ⟨e, r, posted, created⟩

theorem Recorded.append {r : MutationReceipt} (h : Recorded db r) (es : List LedgerEntry)
    (rows : db'.ledgerEntries.rows = db.ledgerEntries.rows ++ es) : Recorded db' r := by
  obtain ⟨before, e, after, split, recorded⟩ := h
  exact ⟨before, e, after ++ es, by rw [rows, split]; simp, recorded⟩

/-- **One call keeps the order**, and what receipts say. -/
theorem Ordered.tick {p q : Dated} (h : Ordered p) (step : Tick rt p q) : Ordered q := by
  obtain ⟨env, clock, call, timed, reached, time⟩ := step
  have sound : Sound q.db := reached ▸ (call_outcome h.sound.coherent call).sound h.sound
  rcases time with ⟨same, last⟩ | ⟨later, last⟩
  · exact ⟨sound, same ▸ h.increasing, by rw [same, last]; exact h.past, fun r mem => same ▸ h.recorded r (same ▸ mem)⟩
  have before : ∀ e ∈ p.db.ledgerEntries.rows, e.createdAt < (clock 0).isoformat := by
    intro e mem
    obtain ⟨t, ht, now | earlier⟩ := h.past e mem
    · rw [now]
      exact Instant.isoformat_lt (later t ht)
    · exact String.lt_trans earlier (Instant.isoformat_lt (later t ht))
  rcases call_posts h.sound.coherent call with books | ⟨e, r, posted, created⟩
  · rw [← reached] at books
    refine ⟨sound, books.entries ▸ h.increasing, fun e mem => ?_, fun r mem => ?_⟩
    · rw [books.entries] at mem
      exact ⟨clock 0, last ▸ rfl, .inr (before e mem)⟩
    · rw [books.receipts] at mem
      exact (h.recorded r mem).append [] (by rw [books.entries, List.append_nil])
  · rw [← reached] at posted
    rw [timed] at created
    refine ⟨sound, ?_, fun x mem => ?_, fun x mem => ?_⟩
    · rw [posted.entries, List.pairwise_append]
      refine ⟨h.increasing, List.pairwise_singleton _ _, fun x mem y hy => ?_⟩
      rw [List.mem_singleton.mp hy, created]
      exact before x mem
    · rw [posted.entries] at mem
      rcases List.mem_append.mp mem with mem | mem
      · exact ⟨clock 0, last ▸ rfl, .inr (before x mem)⟩
      · rw [List.mem_singleton.mp mem]
        exact ⟨clock 0, last ▸ rfl, .inl created⟩
    · rw [posted.receipts] at mem
      rcases List.mem_append.mp mem with mem | mem
      · exact (h.recorded x mem).append [e] posted.entries
      · rw [List.mem_singleton.mp mem]
        refine ⟨p.db.ledgerEntries.rows, e, [], posted.entries, posted.entryId.symm, posted.created.symm, ?_, ?_⟩
        · rw [posted.observed, Db.availableMinor, posted.entries]
        · exact posted.entries ▸ posted.summable

theorem ordered_empty : Ordered ⟨.empty, none⟩ :=
  ⟨sound_empty, List.Pairwise.nil, fun _ mem => absurd mem List.not_mem_nil, fun _ mem => absurd mem List.not_mem_nil⟩

theorem Ordered.ticks {p q : Dated} (h : Ordered p) (run : Ticks rt p q) : Ordered q := by
  induction run with
  | refl => exact h
  | tail _ step ih => exact ih.tick step

/-- Nothing is taken out of the books. -/
theorem ticks_grow {p q : Dated} (h : Ordered p) (run : Ticks rt p q) :
    p.db.ledgerEntries.rows ⊆ q.db.ledgerEntries.rows ∧ p.db.idempotencyReceipts.rows ⊆ q.db.idempotencyReceipts.rows := by
  induction run with
  | refl => exact ⟨List.Subset.refl _, List.Subset.refl _⟩
  | tail run step ih =>
    have here := h.ticks run
    obtain ⟨env, clock, call, -, reached, -⟩ := step
    rw [reached]
    rcases (call_posts here.sound.coherent call : Posts rt env _ _) with books | ⟨e, r, posted, -⟩
    · rw [books.entries, books.receipts]
      exact ih
    · rw [posted.entries, posted.receipts]
      exact ⟨List.Subset.trans ih.1 (List.subset_append_left _ _), List.Subset.trans ih.2 (List.subset_append_left _ _)⟩

/-- The observer finds the receipt, and the balance that it tells. -/
theorem verify_recorded {r : MutationReceipt} {budgetId executionId : String} {expected : Dict}
    (row : r ∈ db.idempotencyReceipts.rows) (budget : expected.get "budget_id" = .str budgetId)
    (observed : (availableMinorAt budgetId r.createdAt : Sql Empty Int).exec db = (.ok r.availableMinor, db)) :
    (verify env executionId r.instructionDigest expected : Sql Empty FinancialOutcome).exec db =
      (judge env executionId r.instructionDigest expected r r.availableMinor : Sql Empty FinancialOutcome).exec db := by
  unfold verify
  rw [Script.exec_bind, exec_select]
  simp only [db.idempotencyReceipts.find?_of_mem row, budget]
  rw [Script.exec_bind, Script.exec_caught, observed]

end

/-- **The historical balance is stable.** In every run in which the clock has moved on between committed transactions, and
for every receipt, the balance at the time of the receipt is the one stored in it, now and ever after; and the observer judges
the receipt by that balance. -/
theorem history_stable (rt : Runtime) (p q : Dated) (run : Ticks rt ⟨.empty, none⟩ p) (later : Ticks rt p q) :
    ∀ r ∈ p.db.idempotencyReceipts.rows, ∃ e ∈ p.db.ledgerEntries.rows, e.id = r.ledgerEntryId ∧
      (availableMinorAt e.budgetId r.createdAt : Sql Empty Int).exec q.db = (.ok r.availableMinor, q.db) ∧
      ∀ (env : Env) (executionId : String) (expected : Dict), expected.get "budget_id" = .str e.budgetId →
        (verify env executionId r.instructionDigest expected : Sql Empty FinancialOutcome).exec q.db =
          (judge env executionId r.instructionDigest expected r r.availableMinor : Sql Empty FinancialOutcome).exec q.db := by
  intro r mem
  have ordered := ordered_empty.ticks run
  have ordered' := ordered.ticks later
  obtain ⟨entries, receipts⟩ := ticks_grow ordered later
  obtain ⟨before, e, after, split, id, created, observed, summable⟩ := ordered'.recorded r (receipts mem)
  obtain ⟨_, e', _, split', id', -⟩ := ordered.recorded r mem
  have row : e ∈ q.db.ledgerEntries.rows := split ▸ List.mem_append_right _ List.mem_cons_self
  have row' : e' ∈ p.db.ledgerEntries.rows := split' ▸ List.mem_append_right _ List.mem_cons_self
  obtain rfl := q.db.ledgerEntries.row_unique row (entries row') (id.trans id'.symm)
  have cut := entriesUpTo_made split ordered'.increasing
  have balance : (availableMinorAt e.budgetId r.createdAt : Sql Empty Int).exec q.db = (.ok r.availableMinor, q.db) := by
    apply exec_availableOf.mpr
    rw [← created, cut]
    exact ⟨summable, observed, rfl⟩
  exact ⟨e, row', id, balance, fun env executionId expected budget => verify_recorded (receipts mem) budget balance⟩

/-! #### A run -/

namespace Sample

/-- The `k`-th time the `n`-th call reads; every call starts on a whole second. -/
def clock (n k : Nat) : Instant where
  year := 2026
  month := 1
  day := 15
  hour := 9
  minute := n % 60
  second := 0
  microsecond := k % 1000000
  bounds := ⟨by decide, by decide, by decide, by decide, Nat.mod_lt _ (by decide), by decide, Nat.mod_lt _ (by decide)⟩

def timed (n : Nat) : Env := { env n with now := fun k => (clock n k).isoformat }

/-- The database after the calls, the first of them being call `n`. -/
def after (n : Nat) : List Call → Dated → Dated
  | [], p => p
  | call :: rest, p => after (n + 1) rest ⟨((call.script runtime (timed n)).exec p.db).2, some (clock n 0)⟩

theorem clock_earlier {n : Nat} (h : n + 1 < 60) : (clock n 0).Earlier (clock (n + 1) 0) := by
  have minutes : n % 60 < (n + 1) % 60 := by omega
  exact .cons (.cons (.cons (.cons (.rel minutes))))

theorem after_ticks (calls : List Call) (n : Nat) (bound : n + calls.length < 60) (p : Dated)
    (last : ∀ t ∈ p.last, t.Earlier (clock n 0)) : Ticks runtime p (after n calls p) := by
  induction calls generalizing n p with
  | nil => exact .refl
  | cons call rest ih =>
    rw [List.length_cons] at bound
    refine .head ⟨timed n, clock n, call, fun _ => rfl, rfl, .inr ⟨last, rfl⟩⟩ (ih (n + 1) (by omega) _ ?_)
    rintro t ⟨⟩
    exact clock_earlier (by omega)

/-- The budget is opened, and a request on it is committed. -/
def initialized : Dated := after 1 (calls.take 1) ⟨.empty, none⟩

def committed : Dated := after 2 (calls.drop 1) initialized

end Sample

/-- The balance when the budget was opened, after the commitment. -/
theorem history_stable_committed : ∃ r ∈ Sample.initialized.db.idempotencyReceipts.rows,
    ∃ e ∈ Sample.initialized.db.ledgerEntries.rows, r.availableMinor = 1000 ∧
      Sample.committed.db.availableMinor e.budgetId = 700 ∧
      (availableMinorAt e.budgetId r.createdAt : Sql Empty Int).exec Sample.committed.db =
        (.ok r.availableMinor, Sample.committed.db) := by
  have opened : Sample.initialized.db.idempotencyReceipts.rows.map (·.availableMinor) = [1000] ∧
      ∀ e ∈ Sample.initialized.db.ledgerEntries.rows, Sample.committed.db.availableMinor e.budgetId = 700 := by
    decide +kernel
  have mem : 1000 ∈ Sample.initialized.db.idempotencyReceipts.rows.map (·.availableMinor) := by simp [opened.1]
  obtain ⟨r, row, balance⟩ := List.mem_map.mp mem
  have run : Ticks Sample.runtime ⟨.empty, none⟩ Sample.initialized :=
    Sample.after_ticks _ 1 (by decide) _ fun t none => by cases none
  have later : Ticks Sample.runtime Sample.initialized Sample.committed := by
    refine Sample.after_ticks _ 2 (by decide) _ ?_
    rintro t ⟨⟩
    exact Sample.clock_earlier (by decide)
  obtain ⟨e, row', -, then_, -⟩ := history_stable Sample.runtime Sample.initialized Sample.committed run later r row
  exact ⟨r, row, e, row', balance, opened.2 e row', then_⟩

end RmtPlatform.Budget
