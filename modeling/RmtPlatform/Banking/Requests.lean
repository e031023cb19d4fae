import RmtPlatform.Banking.Measurement

/-! What a request leaves.

However a request ends, the answer tells what has been recorded for it (`handle_safe`): an
audit row that rejects it, an audit row with its release, or nothing, for a reason. So a
worker that serves its requests keeps its part of the journal in order (`serve_safe`). -/
namespace RmtPlatform.Banking

variable {ι : Type} [DecidableEq ι]

/-- What an exception is answered with in the end. -/
def Raised.answer : Raised → Response
  | http status auditId reasons => .rejected status auditId reasons
  | integrity _ | database => .auditUnavailable
  | typeError | recursionError | invalidOperation => .internalError

/-! ### Amounts -/

theorem ofDigitChars_lt (cs : List Char) (digits : ∀ c ∈ cs, c.isDigit = true) (start : Nat) :
    Nat.ofDigitChars 10 cs start < (start + 1) * 10 ^ cs.length := by
  induction cs generalizing start with
  | nil => simp
  | cons c rest ih =>
    have small : c.toNat - '0'.toNat ≤ 9 := by
      have := digits c List.mem_cons_self
      simp only [Char.isDigit, Bool.and_eq_true, decide_eq_true_eq, ge_iff_le, UInt32.le_iff_toNat_le] at this
      have nine : '9'.val.toNat = 57 := rfl
      have zero : '0'.val.toNat = 48 := rfl
      simp only [Char.toNat]
      omega
    rw [Nat.ofDigitChars_cons, List.length_cons, pow_succ]
    refine (ih (fun d mem => digits d (List.mem_cons_of_mem c mem)) _).trans_le ?_
    rw [mul_comm (10 ^ rest.length) 10, ← mul_assoc]
    apply Nat.mul_le_mul_right
    omega

/-- An amount of a proposal fits into its column. -/
theorem amount_fits {s : String} (amount : isAmount s = true) :
    ∃ cents, decimalOf s = ⟨cents, -2⟩ ∧ Deployment.numeric (decimalOf s) = some cents := by
  simp only [isAmount, Bool.and_eq_true, decide_eq_true_eq, List.all_eq_true] at amount
  obtain ⟨⟨⟨⟨-, whole⟩, fraction⟩, -, short, two⟩, -⟩ := amount
  have bound := ofDigitChars_lt (wholeDigits s ++ fractionDigits s) (fun c mem => by
    rcases List.mem_append.mp mem with mem | mem
    · exact whole c mem
    · exact fraction c mem) 0
  have small : Nat.ofDigitChars 10 (wholeDigits s ++ fractionDigits s) 0 < 10 ^ 14 := by
    refine bound.trans_le ?_
    rw [List.length_append, two, zero_add, one_mul]
    exact Nat.pow_le_pow_right (by decide) (by omega)
  have cents : decimalOf s = ⟨Nat.ofDigitChars 10 (wholeDigits s ++ fractionDigits s) 0, -2⟩ := by
    rw [decimalOf, two]
    rfl
  refine ⟨_, cents, ?_⟩
  rw [cents, Deployment.numeric, Decimal.rescale_self]
  exact if_pos small

namespace Deployment

/-- A request can be answered with this. -/
def Concludes (D : Deployment) (i : ι) (calls : List Call) (call : Call) (response : Response) (q : Point (Site ι) Empty) :
    Prop :=
  ∃ pending, D.Orderly (own i q.state.journal) calls pending ∧ D.Fits call response pending

/-- An exception that is no constraint's ends the request. -/
def Fails (D : Deployment) (i : ι) (calls : List Call) (call : Call) (e : Raised) (q : Point (Site ι) Empty) : Prop :=
  (∀ constraint, e ≠ .integrity constraint) ∧ D.Concludes i calls call e.answer q

section
variable {D : Deployment} {i : ι} {t : List (Event ι)} {k : Nat} {p : Point (Site ι) Empty} {call : Call}
  {proposal : ActionProposal} {calls : List Call}

/-- Nothing has been recorded, for a reason. -/
theorem fails_cause {e : Raised} {q : Point (Site ι) Empty} (orderly : D.Orderly t calls none) (h : Holds i t k q)
    (cause : D.Causes call e) : D.Fails i calls call e q := by
  have own_ : D.Orderly (own i q.state.journal) calls none := by
    rw [h.own]
    exact orderly
  cases e with
  | http status auditId reasons => exact cause.elim
  | integrity constraint => exact cause.elim
  | database => exact ⟨nofun, none, own_, .inl ⟨rfl, cause⟩⟩
  | typeError => exact ⟨nofun, none, own_, .inr (.inl ⟨rfl, .inl cause⟩)⟩
  | recursionError => exact ⟨nofun, none, own_, .inr (.inl ⟨rfl, .inr (.inl cause)⟩)⟩
  | invalidOperation => exact ⟨nofun, none, own_, .inr (.inl ⟨rfl, .inr (.inr cause)⟩)⟩

theorem refused_cause {s : Statement} (refused : call.refuses s = true) : D.Causes call .database :=
  .inl ⟨s, .inl refused⟩

/-! ### Rejections -/

/-- A row that rejects the request has been recorded. -/
structure Rejects (D : Deployment) (call : Call) (row : AuditRow) (reasons : List String) : Prop where
  decision : row.finalDecision = .rejected
  describes : D.Describes call row
  reason : row.violationReason = some (",".intercalate reasons)

theorem Rejects.fits {row : AuditRow} {reasons : List String} (h : Rejects D call row reasons) (status : Nat) :
    D.Fits call (.rejected status row.id reasons) (some (row, none)) :=
  ⟨h.decision, h.describes, .inl ⟨status, reasons, rfl, h.reason⟩⟩

theorem recordRejection_safe {reason : String} {vector : Evaluation} {channel : Option Channel} (h : Holds i t k p)
    (orderly : D.Orderly t calls none) : Script.Safe ((D.duties).of i)
      (fun id q => ∃ row, row.id = id ∧ Rejects D call row [reason] ∧ D.Orderly (own i q.state.journal) calls (some (row, none)))
      (fun e q => D.Fails i calls call e q ∧ e.answer ∈ [.auditUnavailable, .internalError]) (D.recordRejection i call reason vector channel) p := by
  unfold recordRejection
  apply Script.safe_bind
  refine Script.safe_ofExcept (fun valid _ => ?_) fun e raised => ?_
  · apply Script.safe_bind
    refine Script.safe_raiseIf (fun out => ⟨fails_cause orderly h (refused_cause out), by decide⟩) fun _ => ?_
    apply Script.safe_bind
    refine (nextval_safe h).mono ?_ fun _ _ raised => raised
    rintro id q ⟨holds, new⟩
    apply Script.safe_bind
    have rejects : Rejects D call
        { id
          agentId := if valid then D.agentId else "unidentified"
          channel
          payloadHash := D.hexdigest call.request.body
          riskEvaluationResult := vector
          finalDecision := .rejected
          requestPath := call.request.path
          violationReason := some reason } [reason] := ⟨rfl, ⟨rfl, rfl⟩, rfl⟩
    refine (commit_safe (X := fun e q => D.Fails i calls call e q ∧ e.answer ∈ [.auditUnavailable, .internalError]) holds (.draw i id orderly) List.mem_cons_self ?_
      ⟨rfl, fun _ mem => by cases mem⟩ (fun _ mem => by cases mem) ?_ ?_ (fun _ some_ => by cases some_)).mono ?_ fun _ _ raised => raised
    · intro row' e' mem
      rcases List.mem_cons.mp mem with same | mem
      · cases same
      · exact new row' e' mem
    · exact fun q out holds => ⟨fails_cause (.draw i id orderly) holds (refused_cause out), by decide⟩
    · intro q out holds
      refine ⟨⟨nofun, some (_, none), by rw [holds.own]; exact .record i _ none (.draw i id orderly), ?_⟩, by decide⟩
      exact ⟨rejects.decision, rejects.describes, .inr ⟨rfl, _, out⟩⟩
    · intro _ q holds
      exact Script.safe_pure ⟨_, rfl, rejects, by rw [holds.own]; exact .record i _ none (.draw i id orderly)⟩
  · have type : e = .typeError := by
      unfold tokenIsValid at raised
      split at raised <;> cases raised
      rfl
    subst type
    exact ⟨fails_cause orderly h raised, by decide⟩

theorem refuse_safe {α : Type} {Q : α → Point (Site ι) Empty → Prop} {status : Nat} {reason : String}
    {schemaValid : Option (Option Bool)} {validationError : Option String} {channel : Option Channel} (h : Holds i t k p)
    (orderly : D.Orderly t calls none) : Script.Safe ((D.duties).of i) Q (fun e q => D.Fails i calls call e q)
      (D.refuse i call status reason schemaValid validationError channel) p := by
  unfold refuse
  apply Script.safe_bind
  refine (recordRejection_safe h orderly).mono ?_ fun _ _ raised => raised.1
  rintro _ q ⟨row, rfl, rejects, recorded⟩
  exact Script.safe_throw ⟨nofun, _, recorded, rejects.fits status⟩

/-! ### Proposals -/

theorem authenticatedProposal_safe (h : Holds i t k p) (orderly : D.Orderly t calls none) : Script.Safe ((D.duties).of i)
    (fun proposal q => D.submitted call = some proposal ∧ Holds i t k q) (fun e q => D.Fails i calls call e q)
    (D.authenticatedProposal i call) p := by
  unfold authenticatedProposal
  apply Script.safe_bind
  refine Script.safe_ofExcept (fun valid token => ?_) fun e raised => ?_
  · by_cases bad : valid = false
    · rw [if_pos bad]
      exact refuse_safe h orderly
    · rw [if_neg bad]
      obtain rfl : valid = true := Bool.eq_true_of_not_eq_false bad
      by_cases format : maxBodyBytes < call.request.body.length ∨ isJson call.request.contentType = false
      · rw [if_pos format]
        exact refuse_safe h orderly
      · rw [if_neg format]
        cases parsed : D.parseJson call.request.body with
        | error e =>
          cases e with
          | value => exact refuse_safe h orderly
          | recursion => exact Script.safe_throw (fails_cause orderly h parsed)
        | ok json =>
          cases valid : ActionProposal.validate json with
          | none =>
            simp only [valid]
            exact refuse_safe h orderly
          | some proposal =>
            simp only [valid]
            by_cases other : proposal.agentId ≠ D.agentId
            · rw [if_pos other]
              exact refuse_safe h orderly
            · rw [if_neg other]
              refine Script.safe_pure ⟨?_, h⟩
              rw [submitted, token]
              simp only [format, if_false, parsed, valid]
              simp [not_not.mp other]
  · have type : e = .typeError := by
      unfold tokenIsValid at raised
      split at raised <;> cases raised
      rfl
    subst type
    exact fails_cause orderly h raised

theorem submitted_agent (submitted : D.submitted call = some proposal) : proposal.agentId = D.agentId := by
  unfold Deployment.submitted at submitted
  split at submitted
  · split at submitted
    · cases submitted
    · split at submitted
      · obtain ⟨-, same⟩ := Option.filter_eq_some_iff.mp submitted
        exact of_decide_eq_true same
      · cases submitted
  · cases submitted

/-! ### Measuring -/

/-- A commit of a release, at the end of a transaction. -/
theorem authorize_safe {row : AuditRow} {e : Released} (h : Holds i t k p) (orderly : D.Orderly t calls none)
    (drawn : .drew i row.id ∈ t) (new : ∀ row' e', .recorded i row' e' ∈ t → row'.id ≠ row.id)
    (authorizes : row.finalDecision = .authorized ∧ D.Describes call row) (audit : e.release.auditId = row.id)
    (executes : D.Executes call e.release) (admitted : D.Steady → D.Screened e ∧ D.HasRoom e (rows (released t))) :
    Script.Safe ((D.duties).of i) (D.Concludes i calls call)
      (fun e q => (e = .integrity .uqReleaseAgentTransaction ∧ ∃ t k, Holds i t k q ∧ D.Orderly t calls none) ∨
        D.Fails i calls call e q)
      (do
        commit i call .commit row (some e)
        pure (.authorized row.id (D.hexdigest call.request.body))) p := by
  have concludes : ∀ q, Holds i (.recorded i row (some e) :: t) k q → ∀ response,
      (response = .authorized row.id (D.hexdigest call.request.body) ∨
        (response = .auditUnavailable ∧ ∃ s, call.forgets s = true)) → D.Concludes i calls call response q := by
    intro q holds response answer
    refine ⟨some (row, some e), by rw [holds.own]; exact .record i row (some e) orderly, ?_⟩
    exact ⟨authorizes.1, authorizes.2, audit, executes, answer⟩
  apply Script.safe_bind
  have decided : Decided row (some e) := by
    refine ⟨authorizes.1, fun x mem => ?_⟩
    obtain rfl : e = x := Option.some.inj mem
    exact audit
  refine (commit_safe h orderly drawn new decided ?_ ?_ ?_ ?_).mono ?_ fun _ _ raised => raised
  · intro x mem
    obtain rfl : e = x := Option.some.inj mem
    exact admitted
  · exact fun q out holds => .inr (fails_cause orderly holds (refused_cause out))
  · exact fun q forgot holds => .inr ⟨nofun, concludes q holds _ (.inr ⟨rfl, _, forgot⟩)⟩
  · exact fun q _ holds => .inl ⟨rfl, t, k, holds, orderly⟩
  · exact fun _ q holds => Script.safe_pure (concludes q holds _ (.inl rfl))

theorem measure_safe (h : Holds i t k p) (orderly : D.Orderly t calls none)
    (submitted : D.submitted call = some proposal) (path : call.request.path = proposePath) :
    Script.Safe ((D.duties).of i) (D.Concludes i calls call)
      (fun e q => (e = .integrity .uqReleaseAgentTransaction ∧ ∃ t k, Holds i t k q ∧ D.Orderly t calls none) ∨
        D.Fails i calls call e q) (D.measure i call proposal) p := by
  unfold measure
  apply Script.safe_bind
  refine Script.safe_raiseIf (fun out => .inr (fails_cause orderly h (refused_cause out))) fun _ => ?_
  apply Script.safe_bind
  refine (evaluateRisk_safe (X := fun e q => D.Fails i calls call e q) h ?_ ?_).mono ?_
    fun _ _ raised => .inr raised
  · exact fun s k' q out holds => fails_cause orderly holds (refused_cause out)
  · exact fun k' q digits holds => fails_cause (e := .invalidOperation) orderly holds ⟨proposal, submitted, digits⟩
  rintro vector q ⟨n, -, evaluated, holds, converted, cleared⟩
  apply Script.safe_bind
  refine Script.safe_raiseIf (fun out => .inr (fails_cause orderly holds (refused_cause out))) fun _ => ?_
  apply Script.safe_bind
  refine (nextval_safe holds).mono ?_ fun _ _ raised => raised
  rintro id q ⟨holds, new⟩
  replace orderly : D.Orderly (.drew i id :: t) calls none := .draw i id orderly
  replace new : ∀ row e, .recorded i row e ∈ Event.drew i id :: t → row.id ≠ id := by
    intro row e mem
    rcases List.mem_cons.mp mem with same | mem
    · cases same
    · exact new row e mem
  have out : ∀ s q, call.refuses s = true → Holds i (.drew i id :: t) n q → D.Fails i calls call .database q :=
    fun s q out holds => fails_cause orderly holds (refused_cause out)
  dsimp only
  by_cases reasons : vector.reasons ≠ []
  · rw [if_pos reasons]
    apply Script.safe_bind
    refine (commit_safe (X := fun e q => D.Fails i calls call e q) holds orderly List.mem_cons_self new
      ⟨rfl, fun _ mem => by cases mem⟩ (fun _ mem => by cases mem) (out _) ?_ (fun _ some_ => by cases some_)).mono ?_ fun _ _ raised => .inr raised
    · intro q forgot holds
      refine ⟨nofun, some (_, none), by rw [holds.own]; exact .record i _ none orderly, ?_⟩
      exact ⟨rfl, ⟨rfl, path.symm⟩, .inr ⟨rfl, _, forgot⟩⟩
    · intro _ q holds
      refine ⟨some (_, none), by rw [holds.own]; exact .record i _ none orderly, ?_⟩
      exact ⟨rfl, ⟨rfl, path.symm⟩, .inl ⟨200, vector.reasons, rfl, rfl⟩⟩
  · rw [if_neg reasons]
    obtain ⟨usdCents, usdEquivalent, clears⟩ := cleared (not_not.mp reasons)
    obtain ⟨cents, exact_, fits⟩ := amount_fits proposal.payload.amounts
    rw [usdEquivalent] at converted
    simp only [usdEquivalent]
    apply Script.safe_bind
    refine Script.safe_raiseIf (fun refused => .inr (out _ _ refused holds)) fun _ => ?_
    simp only [columns, fits, Script.pure_bind]
    cases column : numeric ⟨usdCents, -2⟩ with
    | none =>
      apply Script.safe_throw
      exact .inr (fails_cause orderly holds (.inr ⟨proposal, _, submitted, converted, column⟩))
    | some amountUsdEquivalent =>
      obtain rfl : usdCents = amountUsdEquivalent := by
        rw [numeric, Decimal.rescale_self] at column
        split at column
        · exact Option.some.inj column
        · cases column
      simp only [Script.pure_bind]
      apply Script.safe_bind
      refine (now_safe holds).mono ?_ fun _ _ raised => raised
      rintro _ q ⟨m, le, rfl, holds⟩
      have proposes : Proposes proposal
          { auditId := id
            agentId := proposal.agentId
            transactionId := proposal.payload.transactionId
            counterpartyId := proposal.payload.counterpartyId
            currency := proposal.payload.currency
            amount := cents
            amountUsdEquivalent := usdCents
            correspondentBankId := proposal.payload.correspondentBankId
            payloadHash := D.hexdigest call.request.body
            createdAt := D.clock m } := ⟨rfl, rfl, rfl, rfl, rfl, exact_⟩
      have same : released (.drew i id :: t) = released t := by
        rw [released_cons]
        exact List.append_nil _
      have admitted := fun steady : D.Steady =>
        clears _ steady (submitted_agent submitted) proposes rfl (evaluated ▸ steady.clock le)
      rw [← same] at admitted
      apply authorize_safe holds orderly
      · exact List.mem_cons_self
      · exact new
      · exact ⟨rfl, rfl, path.symm⟩
      · rfl
      · exact ⟨⟨proposal, submitted, proposes⟩, rfl⟩
      · exact admitted

theorem proposeAction_safe (h : Holds i t k p) (orderly : D.Orderly t calls none)
    (submitted : D.submitted call = some proposal) (path : call.request.path = proposePath) :
    Script.Safe ((D.duties).of i) (D.Concludes i calls call) (fun e q => D.Fails i calls call e q)
      (D.proposeAction i call proposal) p := by
  unfold proposeAction
  apply Script.safe_bind
  apply Script.Safe.caught
  refine (measure_safe h orderly submitted path).mono (fun response q concludes => ?_) fun e q raised => ?_
  · exact Script.safe_pure concludes
  · rcases raised with ⟨rfl, t', k', holds, orderly⟩ | raised
    · apply Script.safe_bind
      refine (recordRejection_safe holds orderly).mono ?_ fun _ _ raised => raised.1
      rintro _ q ⟨row, rfl, rejects, recorded⟩
      exact Script.safe_pure ⟨_, recorded, rejects.fits 200⟩
    · split
      · next returned => cases returned
      · next returned => exact absurd (Except.error.inj returned) (raised.1 _)
      · next e' returned =>
        obtain rfl := Except.error.inj returned
        exact Script.safe_throw raised

theorem route_safe (h : Holds i t k p) (orderly : D.Orderly t calls none)
    (known : call.request.path ∈ [proposePath, "/health"]) : Script.Safe ((D.duties).of i) (D.Concludes i calls call)
      (fun e q => D.Fails i calls call e q) (D.route i call) p := by
  have idle : ¬Attempt call.request → ∀ response ∈ [Response.healthy, .unknownEndpoint, .methodNotAllowed],
      D.Concludes i calls call response p := fun none_ response mem =>
    ⟨none, by rw [h.own]; exact orderly, .inr (.inr ⟨mem, none_⟩)⟩
  unfold Attempt at idle
  rw [if_pos known] at idle
  unfold route
  split
  · next path =>
    split
    · apply Script.safe_bind
      refine (authenticatedProposal_safe h orderly).mono ?_ fun _ _ raised => raised
      rintro proposal q ⟨submitted, holds⟩
      exact proposeAction_safe holds orderly submitted path
    · next method => exact Script.safe_pure (idle (fun attempt => method attempt.2) _ (by decide))
  · next other =>
    split
    · exact Script.safe_pure (idle (fun attempt => other attempt.1) _ (by decide))
    · exact Script.safe_pure (idle (fun attempt => other attempt.1) _ (by decide))

/-- What the middleware makes of an exception. -/
theorem fails_middleware {e : Raised} {q : Point (Site ι) Empty} (fails : D.Fails i calls call e q)
    (answer : e.answer ∈ [Response.auditUnavailable, .internalError]) : Script.Safe ((D.duties).of i) (D.Concludes i calls call)
      (fun _ q => D.Concludes i calls call .internalError q)
      (if e.isSqlalchemy = true then pure .auditUnavailable else throw e : Handling ι Response) q := by
  cases e with
  | http status auditId reasons => simp [Raised.answer] at answer
  | integrity constraint => exact absurd rfl (fails.1 constraint)
  | database => exact Script.safe_pure fails.2
  | typeError => exact Script.safe_throw fails.2
  | recursionError => exact Script.safe_throw fails.2
  | invalidOperation => exact Script.safe_throw fails.2

/-- **The answer to a request tells what has been recorded for it.** -/
theorem handle_safe (h : Holds i t k p) (orderly : D.Orderly t calls none) :
    Script.Safe ((D.duties).of i) (D.Concludes i calls call) (fun _ q => D.Concludes i calls call .internalError q)
      (D.handle i call) p := by
  unfold handle
  split
  · next other =>
    split
    · apply Script.safe_bind
      apply Script.Safe.caught
      refine (recordRejection_safe h orderly).mono ?_ fun e q raised => fails_middleware raised.1 raised.2
      rintro _ q ⟨row, rfl, rejects, recorded⟩
      exact Script.safe_pure ⟨_, recorded, rejects.fits 404⟩
    · next reads =>
      refine Script.safe_pure ⟨none, by rw [h.own]; exact orderly, .inr (.inr ⟨by decide, ?_⟩)⟩
      rw [Attempt, if_neg other]
      exact reads
  · next known =>
    apply Script.safe_bind
    apply Script.Safe.caught
    refine (route_safe h orderly (Decidable.not_not.mp known)).mono (fun _ _ concludes => Script.safe_pure concludes) ?_
    intro e q fails
    cases e with
    | http status auditId reasons => exact Script.safe_pure fails.2
    | integrity constraint => exact absurd rfl (fails.1 constraint)
    | database => exact Script.safe_pure fails.2
    | typeError => exact Script.safe_throw fails.2
    | recursionError => exact Script.safe_throw fails.2
    | invalidOperation => exact Script.safe_throw fails.2

/-! ### Workers -/

theorem Kept.answer {s : Site ι} {pending : Option (AuditRow × Option Released)} {response : Response} (kept : D.Kept s)
    (orderly : D.Orderly (own i s.journal) calls pending) (fits : D.Fits call response pending) :
    D.Kept (s.answer i call response) where
  audits := by
    rw [Site.answer, audited_cons, kept.audits]
    exact (List.append_nil _).symm
  releases := by
    rw [Site.answer, released_cons, kept.releases]
    exact congrArg rows (List.append_nil _).symm
  drawn j n mem := by
    rcases List.mem_cons.mp mem with same | mem
    · cases same
    · exact kept.drawn j n mem
  once j l n mem mem' := by
    rcases List.mem_cons.mp mem with same | mem
    · cases same
    · rcases List.mem_cons.mp mem' with same | mem'
      · cases same
      · exact kept.once j l n mem mem'
  numbered j row e mem := by
    rcases List.mem_cons.mp mem with same | mem
    · cases same
    · exact List.mem_cons_of_mem _ (kept.numbered j row e mem)
  decided j row e mem := by
    rcases List.mem_cons.mp mem with same | mem
    · cases same
    · exact kept.decided j row e mem
  lawful steady before e after split := by
    rw [Site.answer, released_cons] at split
    exact kept.lawful steady before e after ((List.append_nil _).symm.trans split)
  orderly j := by
    rw [Site.answer, own_cons]
    split
    · next mine =>
      obtain rfl : i = j := mine
      exact ⟨_, none, .answer i call response orderly fits⟩
    · exact kept.orderly j

/-- Between two requests, when these have been answered. -/
def Idle (D : Deployment) (i : ι) (calls : List Call) (q : Point (Site ι) Empty) : Prop :=
  D.Orderly (own i q.state.journal) calls none

theorem reply_safe {response : Response} (concludes : D.Concludes i calls call response p) :
    Program.Safe ((D.duties).of i) (fun (_ : Unit) q => D.Idle i (calls ++ [call]) q)
      (.act none (·.answer i call response) fun _ => .done ()) p := by
  obtain ⟨pending, orderly, fits⟩ := concludes
  intro q moved kept _
  have mine : own i q.state.journal = own i p.state.journal := moved.1
  rw [← mine] at orderly
  refine ⟨Kept.answer kept orderly fits, owes rfl rfl rfl, ?_⟩
  show D.Orderly (own i (.answered i call response :: q.state.journal)) (calls ++ [call]) none
  rw [own_cons, if_pos (show (Event.answered i call response).worker = i from rfl)]
  exact .answer i call response orderly fits

theorem answer_safe (idle : D.Idle i calls p) :
    (D.answer i call).Safe ((D.duties).of i) (fun _ q => D.Idle i (calls ++ [call]) q) p := by
  have handled : Script.Safe ((D.duties).of i) (D.Concludes i calls call) _ (D.handle i call) p :=
    handle_safe ⟨rfl, le_rfl⟩ idle
  unfold answer
  refine Program.Safe.bind handled fun outcome q ends => ?_
  cases outcome with
  | ok response => exact reply_safe ends
  | error e => exact reply_safe ends

theorem serve_safe (requests : List Call) (idle : D.Idle i calls p) :
    (D.serve i requests).Safe ((D.duties).of i) (fun _ q => D.Idle i (calls ++ requests) q) p := by
  induction requests generalizing p calls with
  | nil =>
    show D.Idle i (calls ++ []) p
    rw [List.append_nil]
    exact idle
  | cons call rest ih =>
    refine Program.Safe.bind (answer_safe idle) fun _ q idle => ?_
    have served := ih idle
    rw [List.append_assoc] at served
    exact served

theorem kept_fresh : D.Kept (.fresh ι) where
  audits := rfl
  releases := rfl
  drawn _ _ mem := absurd mem List.not_mem_nil
  once _ _ _ mem _ := absurd mem List.not_mem_nil
  numbered _ _ _ mem := absurd mem List.not_mem_nil
  decided _ _ _ mem := absurd mem List.not_mem_nil
  lawful _ before e after split := absurd split.symm (List.append_ne_nil_of_right_ne_nil before (List.cons_ne_nil e after))
  orderly _ := ⟨[], none, .start⟩

/-- **What the workers keep**, at any point of any run; and a worker that is through has answered its requests. -/
theorem reach_kept {requests : ι → List Call} {c : Crew ι (Site ι) Empty Unit}
    (reach : Crew.Reach (fun _ _ => True) (D.crew requests) c) :
    D.Kept c.point.state ∧ ∀ i, c.thread i = .done () → D.Idle i (requests i) c.point := by
  have safe : Crew.AllSafe (D.duties (ι := ι)) (fun i _ q => D.Idle i (requests i) q) (D.crew requests) := fun i =>
    serve_safe (requests i) (show D.Idle i [] ⟨.fresh ι, []⟩ from .start)
  have stays : ∀ i (_ : Unit) p q, (D.duties (ι := ι)).rely i p q → D.Idle i (requests i) p → D.Idle i (requests i) q := by
    intro i _ p q moved idle
    have mine : own i q.state.journal = own i p.state.journal := moved.1
    unfold Idle
    rw [mine]
    exact idle
  obtain ⟨kept, safe⟩ := Crew.reach_sound (D := D.duties) stays reach kept_fresh safe
  refine ⟨kept, fun i through => ?_⟩
  have ended := safe i
  rw [through] at ended
  exact ended

end

end Deployment

end RmtPlatform.Banking
