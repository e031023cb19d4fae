import RmtPlatform.Budget.Promises
import RmtPlatform.Budget.Replay

/-! Amounts and the range of integers.

The columns and the sums of SQLite are 64-bit, the service's integers are not. What is
stored is in range and exact, and so is every balance, as long as the clock does not go
back. An amount that is out of range raises in the transaction: the adapter reports that,
but the calls that write requests do not. An integer that is too long to be written raises
before there is an instruction. -/
namespace RmtPlatform.Budget

/-- A `BudgetError`. -/
def Answered : Err → Prop
  | .budget _ _ => True
  | _ => False

/-- The call returns or raises a `BudgetError`. -/
structure Answers {L α : Type} (x : Sql L α) (db : Db) : Prop where
  ends : Script.Ends (fun _ _ => True) Answered x db

theorem answered_integer {parameters : Dict} {key : String} {e : Err} (h : integer parameters key = .error e) :
    Answered e := by
  unfold integer at h
  split at h
  · cases h
  · cases h
    trivial

theorem answered_positiveInt {parameters : Dict} {key : String} {e : Err} (h : positiveInt parameters key = .error e) :
    Answered e := by
  unfold positiveInt at h
  cases hi : integer parameters key with
  | error e' =>
    simp only [hi, bind, Except.bind, Except.error.injEq] at h
    exact h ▸ answered_integer hi
  | ok i =>
    simp only [hi, bind, Except.bind] at h
    split at h
    · cases h
      trivial
    · cases h

section
variable {L α : Type} {Q : α → Db → Prop} {db : Db} {parameters : Dict}

theorem answers_check {x : Except Err α} (h : ∀ e, x = .error e → Answered e) :
    Script.Ends Q Answered (Script.ofExcept x : Sql L α) db ↔ ∀ a, x = .ok a → Q a db := by
  rw [Script.ends_ofExcept]
  exact and_iff_left h

@[simp] theorem answers_integer {Q : Int → Db → Prop} {key : String} :
    Script.Ends Q Answered (Script.ofExcept (integer parameters key) : Sql L Int) db ↔
      ∀ i, integer parameters key = .ok i → Q i db := answers_check fun _ => answered_integer

@[simp] theorem answers_positiveInt {Q : Int → Db → Prop} {key : String} :
    Script.Ends Q Answered (Script.ofExcept (positiveInt parameters key) : Sql L Int) db ↔
      ∀ i, positiveInt parameters key = .ok i → Q i db := answers_check fun _ => answered_positiveInt

end

/-! ### What can be written -/

section
variable {rt : Runtime} {parameters : Dict} {actionId decisionId component reason : String}

end

/-! ### Calls about requests -/

/-- The database refuses a statement only for a time, and identifiers are new. -/
structure Undisturbed (env : Env) (db : Db) : Prop where
  faults : ∀ n e, env.faults n = some e → ∃ message, e = .operational message
  fresh : (env.uuid4 0).text ∉ db.purchaseRequests.rows.map (·.id.text)

section
variable {L α : Type} {Q : α → Db → Prop} {rt : Runtime} {env : Env} {db : Db}

end

/-! ### Calls that move money -/
section
variable {L : Type} {rt : Runtime} {env : Env} {parameters : Dict} {m : MutationType} {amount : Int} {db db' : Db}
  {ev : Evidence}

theorem Adds.total {terms : List Int} (adds : Adds terms) : Storable terms.sum := adds terms (by simp)

/-- Fewer digits than `json.dumps` writes. -/
@[irreducible] def FewDigits (i : Int) : Prop := i.natAbs < 10 ^ 4299

end


section
variable {rt : Runtime} {models : Models} {db : Db} {o : Occasion} {p : Point Db Mark} {parameters : Dict}

end

/-! ### Runs -/

/-- The amount a call enters fits: in a column where the call writes it there itself, and in a JSON text otherwise. What a
decision takes from the database is not looked at. -/
def ServiceCall.Fits : ServiceCall → Prop
  | bootstrap _ input => FewDigits input.allocationMinor
  | createRequest _ _ input => input.amountMinor < 2 ^ 63
  | addRequestVersion _ _ input => input.amountMinor < 2 ^ 63
  | adjust _ _ input => FewDigits input.amountMinor
  | correct _ _ _ input => FewDigits input.amountMinor
  | submitRequest _ _ => True
  | settle _ _ _ _ => True
  | cancel _ _ _ => True
  | decide _ _ _ _ => False
  | commit _ _ => False

/-- As every entry was made, it and all sums were in range. -/
def Exact (p : Point Db Mark) : Prop :=
  ∀ before e after, p.state.ledgerEntries.rows = before ++ e :: after →
    Storable e.amountMinor ∧ ∀ b, Summable (before ++ [e]) b

section
variable {rt : Runtime} {models : Models} {admits : Mark → Point Db Mark → Prop} {p : Point Db Mark} {db : Db}

theorem Exact.same (exact : Exact p) (entries : db.ledgerEntries = p.state.ledgerEntries) (l : List Mark) :
    Exact ⟨db, l⟩ := by
  unfold Exact
  rw [entries]
  exact exact

theorem Does.exact {label : Option Mark} (does : Does rt models p label db) (governed : Governed models admits p)
    (exact : Exact p) (l : List Mark) : Exact ⟨db, l⟩ := by
  cases does with
  | nothing => exact exact.same rfl l
  | request ledger effect decisions => exact exact.same ledger.ledger l
  | decision label env input stored drawn => exact exact.same (saveDecisionBody_ok stored).1.ledger l
  | verified v stored =>
    obtain ⟨-, rfl⟩ := Db.guarded_ok.mp (Db.binding_ok.mp stored).2
    exact exact.same rfl l
  | applied env action digest executionId key encoded instructs hkey hencoded ran =>
    rcases applyMutationBody_posts governed.sound.coherent ran with rfl | ⟨ev, e, -, -, -, posted, -⟩
    · exact exact.same rfl l
    have outcome : Outcome rt p.state db := .posted e _ posted
    intro before e' after split
    replace split : db.ledgerEntries.rows = before ++ e' :: after := split
    rw [posted.entries] at split
    rcases List.eq_nil_or_concat after with rfl | ⟨after', last, rfl⟩
    · -- The entry that was made just now.
      obtain ⟨rfl, same⟩ := List.append_inj' split rfl
      obtain rfl : e = e' := by simpa using same
      refine ⟨posted.storable.1, fun b => ?_⟩
      rw [← posted.entries]
      exact (outcome.sound governed.sound).summable b
    · rw [List.concat_eq_append, ← List.cons_append, ← List.append_assoc] at split
      exact exact before e' after' (List.append_inj' split rfl).1

theorem Interleaves.exact {c : Pool Db Mark (Except Err Unit)} (run : Interleaves rt models admits c) : Exact c.point := by
  refine (run.keeps Exact ?_ fun p label db governed exact does => does.exact governed exact _).2
  intro before e after split
  simp [opening, Db.empty] at split

/-- Every balance there has been is of sums in range. -/
theorem Exact.summable (exact : Exact p) {rows : List LedgerEntry} (up_to : rows <+: p.state.ledgerEntries.rows)
    (b : String) : Summable rows b := by
  rcases List.eq_nil_or_concat rows with rfl | ⟨before, e, rfl⟩
  · exact sound_empty.summable b
  · obtain ⟨after, split⟩ := up_to
    rw [List.concat_eq_append, List.append_assoc] at split
    rw [List.concat_eq_append]
    exact (exact before e after split.symm).2 b

end

end RmtPlatform.Budget
