import RmtPlatform.Process.Safety

/-! Transactions over statements that may fail.

The body of a transaction is a script over the tables, one step a statement.
`faults` says which statement the database refuses, counted from `BEGIN`: the
statement then raises instead of running. A transaction runs its body on a copy
and keeps the result only if the body and the final `COMMIT` return, so whatever
raises, the tables are those it started from (`run_error`), and what it keeps is
what the body computes when nothing is refused (`run_ok`). -/
namespace RmtPlatform.Transaction

variable {S L M E α β : Type}

/-- Which statement of a transaction the database refuses, and how. -/
abbrev Faults (E : Type) := Nat → Option E

/-- The script's statements, refused from number `n` on as `faults` says. -/
def attempt (faults : Faults E) : Nat → Script S L E α → S → Except E α × S
  | _, .done r, s => (r, s)
  | n, .act _ e k, s => match faults n with
    | some error => (.error error, s)
    | none => attempt faults (n + 1) (k s) (e s)

theorem attempt_ok {faults : Faults E} {n : Nat} {x : Script S L E α} {s s' : S} {a : α}
    (h : attempt faults n x s = (.ok a, s')) : x.exec s = (.ok a, s') := by
  induction x using Program.rec generalizing n s with
  | done r => exact h
  | act l e k ih =>
    unfold attempt at h
    split at h
    · simp at h
    · exact ih s h

theorem attempt_none (n : Nat) (x : Script S L E α) (s : S) :
    attempt (fun _ => none) n x s = x.exec s := by
  induction x using Program.rec generalizing n s with
  | done r => rfl
  | act l e k ih => exact ih s (n + 1) (e s)

/-- How many statements the script takes when none is refused. -/
def statements : Script S L E α → S → Nat
  | .done _, _ => 0
  | .act _ e k, s => statements (k s) (e s) + 1

/-- None of the script's statements is refused. -/
def Clean (faults : Faults E) (x : Script S L E α) (s : S) : Prop := ∀ n < statements x s, faults n = none

theorem attempt_clean {faults : Faults E} {n : Nat} {x : Script S L E α} {s : S}
    (clean : ∀ k < statements x s, faults (n + k) = none) : attempt faults n x s = x.exec s := by
  induction x using Program.rec generalizing n s with
  | done r => rfl
  | act l e k ih =>
    have first : faults n = none := clean 0 (Nat.succ_pos _)
    simp only [attempt, first]
    apply ih
    intro j hj
    rw [Nat.add_right_comm]
    exact clean (j + 1) (Nat.succ_lt_succ hj)

/-- A refused statement is one that raises. -/
theorem attempt_refused {faults : Faults E} {n : Nat} {x : Script S L E α} {s : S}
    (refused : ¬∀ k < statements x s, faults (n + k) = none) : ∃ e s', attempt faults n x s = (.error e, s') := by
  induction x using Program.rec generalizing n s with
  | done r => exact absurd (fun k hk => absurd hk (Nat.not_lt_zero k)) refused
  | act l e k ih =>
    cases first : faults n with
    | some error => exact ⟨error, s, by simp only [attempt, first]⟩
    | none =>
      simp only [attempt, first]
      apply ih
      intro clean
      apply refused
      intro j hj
      cases j with
      | zero => exact first
      | succ j =>
        rw [← Nat.add_assoc, Nat.add_right_comm]
        exact clean j (Nat.lt_of_succ_lt_succ hj)

/-- One statement that reads and changes nothing. -/
def mark : Script S L E Unit := Script.modify none id

/-- `BEGIN`, the body, `COMMIT`. -/
def bracket (body : Script S L E α) : Script S L E α := do
  mark
  let a ← body
  mark
  pure a

theorem exec_bracket {body : Script S L E α} {s s' : S} {a : α} :
    (bracket body).exec s = (.ok a, s') ↔ body.exec s = (.ok a, s') := by
  simp [bracket, mark, Script.exec_bind_ok]

/-- Run the body on a copy; keep it if everything returned. `handle` is what the
caller of the transaction sees of an error. -/
def run (faults : Faults E) (handle : E → E) (body : Script S L E α) (s : S) : Except E α × S :=
  match attempt faults 0 (bracket body) s with
  | (.ok a, s') => (.ok a, s')
  | (.error e, _) => (.error (handle e), s)

/-- **A transaction that raises changes nothing.** -/
theorem run_error {faults : Faults E} {handle : E → E} {body : Script S L E α} {s s' : S} {e : E}
    (h : run faults handle body s = (.error e, s')) : s' = s := by
  unfold run at h
  split at h
  · simp at h
  · exact (Prod.mk.inj h).2.symm

/-- What a transaction keeps is what its body computes. -/
theorem run_ok {faults : Faults E} {handle : E → E} {body : Script S L E α} {s s' : S} {a : α}
    (h : run faults handle body s = (.ok a, s')) : body.exec s = (.ok a, s') := by
  unfold run at h
  split at h
  · next heq =>
    obtain ⟨ha, hs⟩ := Prod.mk.inj h
    cases ha
    subst hs
    exact exec_bracket.mp (attempt_ok heq)
  · simp at h

/-- With no statement refused, a transaction returns what its body returns. -/
theorem run_none {handle : E → E} {body : Script S L E α} {s s' : S} {a : α}
    (h : body.exec s = (.ok a, s')) : run (fun _ => none) handle body s = (.ok a, s') := by
  unfold run
  rw [attempt_none, exec_bracket.mpr h]

/-- A transaction none of whose statements is refused returns what its body returns. -/
theorem run_clean {faults : Faults E} {handle : E → E} {body : Script S L E α} {s s' : S} {a : α}
    (clean : Clean faults (bracket body) s) (h : body.exec s = (.ok a, s')) :
    run faults handle body s = (.ok a, s') := by
  unfold run
  rw [attempt_clean fun k hk => by rw [Nat.zero_add]; exact clean k hk, exec_bracket.mpr h]

/-- One of whose statements is refused changes nothing. -/
theorem run_unclean {faults : Faults E} {handle : E → E} {body : Script S L E α} {s : S}
    (refused : ¬Clean faults (bracket body) s) : ∃ e, run faults handle body s = (.error e, s) := by
  have ⟨e, s', h⟩ : ∃ e s', attempt faults 0 (bracket body) s = (.error e, s') := by
    apply attempt_refused
    simpa only [Nat.zero_add, Clean] using refused
  exact ⟨handle e, by rw [run, h]⟩

/-- An error of an attempt is a refused statement or the script's own. -/
theorem attempt_error {faults : Faults E} {n : Nat} {x : Script S L E α} {s s' : S} {e : E}
    (h : attempt faults n x s = (.error e, s')) :
    (∃ k, faults k = some e) ∨ ∃ s'', x.exec s = (.error e, s'') := by
  induction x using Program.rec generalizing n s with
  | done r => exact .inr ⟨s', h⟩
  | act l f k ih =>
    unfold attempt at h
    split at h
    · next heq =>
      obtain ⟨h, -⟩ := Prod.mk.inj h
      cases h
      exact .inl ⟨n, heq⟩
    · exact ih s h

/-- What a transaction ends in: the body's result on its state, or an error as
`handle` reports it on the state it started from. -/
theorem run_ends (faults : Faults E) (handle : E → E) {body : Script S L E α} {s : S} {Q : α → S → Prop}
    {X : E → Prop} (h : Script.Ends Q X body s) (hfaults : ∀ k e, faults k = some e → X e) :
    match run faults handle body s with
    | (.ok a, s') => Q a s'
    | (.error e, s') => s' = s ∧ ∃ e', X e' ∧ e = handle e' := by
  have hbracket : Script.Ends Q X (bracket body) s := by
    refine Script.ends_bind.mpr (Script.ends_bind.mpr ?_)
    exact h
  unfold run
  rcases ha : attempt faults 0 (bracket body) s with ⟨e | a, s'⟩
  · refine ⟨rfl, e, ?_, rfl⟩
    rcases attempt_error ha with ⟨k, hk⟩ | ⟨s'', hx⟩
    · exact hfaults k e hk
    · exact hbracket.error hx
  · exact hbracket.ok (attempt_ok ha)

/-- An invariant kept by every transaction that commits is kept by every transaction. -/
theorem run_keeps {faults : Faults E} {handle : E → E} {body : Script S L E α} {s : S} {I : S → Prop}
    (hs : I s) (h : ∀ a s', body.exec s = (.ok a, s') → I s') : I (run faults handle body s).2 := by
  rcases hrun : run faults handle body s with ⟨e | a, s'⟩
  · rwa [run_error hrun]
  · exact h a s' (run_ok hrun)

/-- The whole transaction as one step of a larger program. -/
def script (label : Option M) (faults : S → Faults E) (handle : E → E) (body : S → Script S L E α) :
    Script S M E α :=
  .act label (fun s => (run (faults s) handle (body s) s).2) fun s => .done (run (faults s) handle (body s) s).1

/-- Beside other programs a transaction is one step that does what its body does, or nothing. -/
theorem safe_script {D : Discipline S M} {p : Point S M} {Q : α → Point S M → Prop} {X : E → Point S M → Prop}
    {N : Type} {label : Option M} {faults : S → Faults E} {handle : E → E} {body : S → Script S N E α}
    (h : ∀ q, D.rely p q → D.inv q → (∀ m ∈ label, D.admits m q) →
      (∀ a s, (body q.state).exec q.state = (.ok a, s) → D.inv (q.step label fun _ => s) ∧
        D.guarantee q (q.step label fun _ => s) ∧ Q a (q.step label fun _ => s)) ∧
      D.inv (q.step label id) ∧ D.guarantee q (q.step label id) ∧ ∀ e, X e (q.step label id)) :
    Script.Safe D Q X (script label faults handle body) p := by
  intro q rely inv admitted
  obtain ⟨returned, raised⟩ := h q rely inv admitted
  rcases hrun : run (faults q.state) handle (body q.state) q.state with ⟨e | a, s⟩
  · obtain rfl := run_error hrun
    simp only [Point.step, id, hrun, Program.Safe] at raised ⊢
    exact ⟨raised.1, raised.2.1, raised.2.2 e⟩
  · have := returned a s (run_ok hrun)
    simp only [Point.step, hrun, Program.Safe] at this ⊢
    exact this

end RmtPlatform.Transaction
