import Mathlib.Algebra.BigOperators.Group.List.Basic
import RmtPlatform.Budget.Repository

/-! What one more entry does to the balance.

`Db.available` is what the two queries of `available_minor` add up to. An entry
that closes nothing moves the balance of its own budget by its own amount; an
entry that closes a commitment also gives back what the commitment held. -/
namespace RmtPlatform.Budget

open Db

/-! ### Sums -/

@[simp] theorem sumCase_nil (p : LedgerEntry → Bool) : sumCase [] p = 0 := rfl

/-- What the entry itself adds, commitments apart. -/
def LedgerEntry.direct (e : LedgerEntry) : Int :=
  match e.entryType with
  | .allocation | .adjustment | .correction => e.amountMinor
  | .settlement => -e.amountMinor
  | .commitment | .cancellation => 0

/-- The entry refers to `c` and closes it. -/
def LedgerEntry.closes (e c : LedgerEntry) : Bool := e.relatedEntryId = some c.id ∧ e.entryType.terminal

theorem isOpen_append (rows : List LedgerEntry) (e c : LedgerEntry) :
    isOpen (rows ++ [e]) c = (isOpen rows c && !e.closes c) := by
  simp [isOpen, LedgerEntry.closes]

/-- The commitments of a budget that nothing has closed. -/
def unclosed (rows : List LedgerEntry) (budgetId : String) : List LedgerEntry :=
  rows.filter fun c => c.budgetId = budgetId ∧ c.entryType = .commitment ∧ isOpen rows c

theorem openCommitments_eq (rows : List LedgerEntry) (budgetId : String) :
    openCommitments rows budgetId = ((unclosed rows budgetId).map (·.amountMinor)).sum := rfl

theorem available_eq (rows : List LedgerEntry) (budgetId : String) :
    available rows budgetId =
      ((rows.filter (·.budgetId = budgetId)).map LedgerEntry.direct).sum - openCommitments rows budgetId := by
  have direct : ∀ es : List LedgerEntry, sumCase es (·.entryType = .allocation) +
      sumCase es (·.entryType.signed) - sumCase es (·.entryType = .settlement) =
        (es.map LedgerEntry.direct).sum := by
    intro es
    induction es with
    | nil => rfl
    | cons e es ih =>
      have one : (if e.entryType = .allocation then e.amountMinor else 0) +
          (if e.entryType.signed then e.amountMinor else 0) -
            (if e.entryType = .settlement then e.amountMinor else 0) = e.direct := by
        unfold LedgerEntry.direct
        cases e.entryType <;> simp [EntryType.signed]
      simp only [sumCase, List.map_cons, List.sum_cons, decide_eq_true_eq] at ih ⊢
      omega
  unfold available balances
  simp only [direct]

/-- **The balance, term by term**: allocations, adjustments and corrections, less
settlements and the commitments nothing has closed. -/
theorem available_terms (rows : List LedgerEntry) (budgetId : String) :
    available rows budgetId =
      let total := fun t : EntryType =>
        ((rows.filter fun e => e.budgetId = budgetId ∧ e.entryType = t).map (·.amountMinor)).sum
      total .allocation + total .adjustment + total .correction - total .settlement -
        ((unclosed rows budgetId).map (·.amountMinor)).sum := by
  have split : ∀ es : List LedgerEntry, ((es.filter (·.budgetId = budgetId)).map LedgerEntry.direct).sum =
      (let total := fun t : EntryType =>
        ((es.filter fun e => e.budgetId = budgetId ∧ e.entryType = t).map (·.amountMinor)).sum
      total .allocation + total .adjustment + total .correction - total .settlement) := by
    intro es
    induction es with
    | nil => rfl
    | cons e es ih =>
      simp only at ih ⊢
      by_cases hb : e.budgetId = budgetId
      · cases h : e.entryType <;> simp [hb, h, LedgerEntry.direct, ih] <;> omega
      · simp [hb, ih]
  rw [available_eq, split, openCommitments_eq]

/-! ### One more entry -/

theorem direct_append (rows : List LedgerEntry) (e : LedgerEntry) (budgetId : String) :
    (((rows ++ [e]).filter (·.budgetId = budgetId)).map LedgerEntry.direct).sum =
      ((rows.filter (·.budgetId = budgetId)).map LedgerEntry.direct).sum +
        if e.budgetId = budgetId then e.direct else 0 := by
  by_cases h : e.budgetId = budgetId <;> simp [List.filter_append, h]

/-- An entry that closes nothing leaves every other commitment as it is. -/
theorem openCommitments_append {rows : List LedgerEntry} {e : LedgerEntry} (budgetId : String)
    (h : e.entryType.terminal = false) :
    openCommitments (rows ++ [e]) budgetId = openCommitments rows budgetId +
      if e.budgetId = budgetId ∧ e.entryType = .commitment ∧ isOpen rows e then e.amountMinor else 0 := by
  have closesNone : ∀ c, e.closes c = false := fun c => by simp [LedgerEntry.closes, h]
  simp only [openCommitments_eq, unclosed, isOpen_append, closesNone, Bool.not_false, Bool.and_true,
    List.filter_append, List.map_append, List.sum_append]
  by_cases hp : e.budgetId = budgetId ∧ e.entryType = .commitment ∧ isOpen rows e
  · simp [hp]
  · simp [hp]

/-- An entry that closes `c` takes exactly `c` out of the open commitments. -/
theorem openCommitments_close {rows : List LedgerEntry} {e c : LedgerEntry} (budgetId : String)
    (unique : (rows.map (·.id)).Nodup) (hc : c ∈ rows) (commitment : c.entryType = .commitment)
    (open_ : isOpen rows c = true) (budget : c.budgetId = e.budgetId)
    (related : e.relatedEntryId = some c.id) (terminal : e.entryType.terminal = true) :
    openCommitments (rows ++ [e]) budgetId =
      openCommitments rows budgetId - if e.budgetId = budgetId then c.amountMinor else 0 := by
  have notCommitment : e.entryType ≠ .commitment := by
    rintro h; simp [h, EntryType.terminal] at terminal
  -- What stays open is what was open, less the rows with `c`'s id: `c` alone.
  have remaining : unclosed (rows ++ [e]) budgetId = (unclosed rows budgetId).filter (· ≠ c) := by
    simp only [unclosed, List.filter_append, isOpen_append, List.filter_filter]
    have : List.filter (fun d => decide (d.budgetId = budgetId ∧ d.entryType = .commitment ∧
        (isOpen rows d && !e.closes d) = true)) [e] = [] := by simp [notCommitment]
    rw [this, List.append_nil]
    refine List.filter_congr fun d hd => ?_
    have same : e.closes d = true ↔ d = c := by
      simp only [LedgerEntry.closes, related, Option.some.injEq, terminal, and_true, decide_eq_true_eq]
      exact ⟨fun h => (List.inj_on_of_nodup_map unique hc hd h).symm, fun h => by rw [h]⟩
    by_cases hdc : d = c
    · subst hdc
      simp [same.mpr rfl]
    · have : e.closes d = false := by simpa using mt same.mp hdc
      simp [this, hdc]
  have nodup : (unclosed rows budgetId).Nodup := (List.Nodup.of_map _ unique).filter _
  rw [openCommitments_eq, remaining, openCommitments_eq]
  by_cases hb : e.budgetId = budgetId
  · have mem : c ∈ unclosed rows budgetId := by
      simp [unclosed, hc, commitment, open_, budget, hb]
    have erase : (unclosed rows budgetId).filter (· ≠ c) = (unclosed rows budgetId).erase c := by
      rw [nodup.erase_eq_filter]
      congr
      funext d
      by_cases h : d = c <;> simp [h]
    have := List.sum_map_erase (·.amountMinor) mem
    simp only [hb, if_true, erase]
    omega
  · have notMem : c ∉ unclosed rows budgetId := by
      simp [unclosed, budget, hb]
    have keep : (unclosed rows budgetId).filter (· ≠ c) = unclosed rows budgetId := by
      rw [List.filter_eq_self]
      intro d hd
      simpa using fun h : d = c => notMem (h ▸ hd)
    simp only [keep, hb, if_false, sub_zero]

/-- Money put in or taken out. -/
theorem available_change {rows : List LedgerEntry} {e : LedgerEntry} (budgetId : String)
    (h : e.entryType = .allocation ∨ e.entryType.signed = true) :
    available (rows ++ [e]) budgetId =
      available rows budgetId + if e.budgetId = budgetId then e.amountMinor else 0 := by
  have kind : e.entryType.terminal = false ∧ e.entryType ≠ .commitment ∧ e.direct = e.amountMinor := by
    cases ht : e.entryType <;> simp_all [EntryType.terminal, EntryType.signed, LedgerEntry.direct]
  rw [available_eq, available_eq, direct_append, openCommitments_append budgetId kind.1, kind.2.2]
  simp only [kind.2.1, false_and, and_false, if_false]
  omega

/-- A commitment holds its amount back. -/
theorem available_commit {rows : List LedgerEntry} {e : LedgerEntry} (budgetId : String)
    (h : e.entryType = .commitment) (fresh : isOpen rows e = true) :
    available (rows ++ [e]) budgetId =
      available rows budgetId - if e.budgetId = budgetId then e.amountMinor else 0 := by
  rw [available_eq, available_eq, direct_append,
    openCommitments_append budgetId (by simp [h, EntryType.terminal])]
  have : e.direct = 0 := by simp [LedgerEntry.direct, h]
  by_cases hb : e.budgetId = budgetId
  · simp only [this, hb, h, fresh, and_self, if_true]
    omega
  · simp [hb]

/-- Closing a commitment gives back what it held; a settlement spends its own amount. -/
theorem available_close {rows : List LedgerEntry} {e c : LedgerEntry} (budgetId : String)
    (unique : (rows.map (·.id)).Nodup) (hc : c ∈ rows) (commitment : c.entryType = .commitment)
    (open_ : isOpen rows c = true) (budget : c.budgetId = e.budgetId)
    (related : e.relatedEntryId = some c.id) (terminal : e.entryType.terminal = true) :
    available (rows ++ [e]) budgetId = available rows budgetId +
      if e.budgetId = budgetId then c.amountMinor + e.direct else 0 := by
  rw [available_eq, available_eq, direct_append,
    openCommitments_close budgetId unique hc commitment open_ budget related terminal]
  by_cases hb : e.budgetId = budgetId
  · simp only [hb, if_true]
    omega
  · simp [hb]

end RmtPlatform.Budget
