import RmtPlatform.Banking.Limits

/-! What the workers of the supervisor keep.

A worker relies on the others for one thing: what it has done itself stays in the journal
as it is. So what it was shown of its own releases is still so when it commits, and no
other worker uses a number it has drawn. What all keep is `Kept`: the tables hold what the
journal says, each release was let in beside the releases of its own worker, and each
worker's part of the journal is a sequence of requests, with what was recorded for each
(`Orderly`). -/
namespace RmtPlatform.Banking

variable {ι : Type} [DecidableEq ι]

/-- What a transaction comes to whose number is new. -/
theorem Ledger.commit_cases {l : Ledger} {row : AuditRow} {release : Option Release}
    (fresh : row.id ∉ l.auditLog.map (·.id)) (refers : ∀ r ∈ release, r.auditId = row.id) :
    (∃ l', l.commit row release = .ok l' ∧ l'.sequence = l.sequence ∧ l'.auditLog = l.auditLog ++ [row] ∧
      l'.releases = l.releases ++ release.toList) ∨
    (l.commit row release = .error .uqReleaseAgentTransaction ∧ release.isSome = true) := by
  unfold Ledger.commit Ledger.insertAudit
  rw [dif_neg fresh]
  cases release with
  | none => exact .inl ⟨_, rfl, rfl, rfl, (List.append_nil _).symm⟩
  | some r =>
    have same := refers r rfl
    have unused : r.auditId ∉ l.releases.map (·.auditId) := by
      intro mem
      obtain ⟨x, there, id⟩ := List.mem_map.mp mem
      apply fresh
      rw [← same, ← id]
      exact l.refers x there
    have there : r.auditId ∈ (l.auditLog ++ [row]).map (·.id) := by
      rw [same]
      exact List.mem_map_of_mem (List.mem_append_right _ (List.mem_singleton_self row))
    show (∃ l', Ledger.insertRelease _ r = _ ∧ _) ∨ (Ledger.insertRelease _ r = _ ∧ _)
    unfold Ledger.insertRelease
    rw [dif_neg unused]
    by_cases key : r.key ∈ l.releases.map (·.key)
    · rw [dif_pos key]
      exact .inr ⟨rfl, rfl⟩
    · rw [dif_neg key, dif_pos there]
      exact .inl ⟨_, rfl, rfl, rfl, rfl⟩

namespace Deployment
variable (D : Deployment)

/-! ### Answers -/

/-- Is a record due of the request? -/
def Attempt (request : Request) : Prop :=
  if request.path ∈ [proposePath, "/health"] then request.path = proposePath ∧ request.method = "POST"
  else request.method ∉ ["GET", "HEAD", "OPTIONS"]

/-- The proposal of a request that gets as far as being measured. -/
def submitted (call : Call) : Option ActionProposal :=
  match D.tokenIsValid call.request with
  | .ok true =>
    if maxBodyBytes < call.request.body.length ∨ isJson call.request.contentType = false then none
    else match D.parseJson call.request.body with
      | .ok json => (ActionProposal.validate json).filter fun proposal => proposal.agentId = D.agentId
      | .error _ => none
  | _ => none

def ActionProposal.isCrossBorder (proposal : ActionProposal) : Bool := decide (proposal.channel = crossBorderChannel)

def usdOf (proposal : ActionProposal) : Option (Option Decimal) :=
  D.usdEquivalentOf (ActionProposal.isCrossBorder proposal) proposal.payload.currency (decimalOf proposal.payload.amount)

/-- An amount or a limit of the proposal has too many digits. -/
def Unquantizable (proposal : ActionProposal) : Prop :=
  D.usdOf proposal = none ∨ D.nearLimitFloorOf (ActionProposal.isCrossBorder proposal) proposal.payload.counterpartyId = none

/-- Where an exception that ends a request comes from. -/
def Causes (call : Call) : Raised → Prop
  | .database => (∃ s, call.refuses s = true ∨ call.forgets s = true) ∨
      ∃ proposal usd, D.submitted call = some proposal ∧ D.usdOf proposal = some (some usd) ∧ numeric usd = none
  | .typeError => D.tokenIsValid call.request = .error .typeError
  | .recursionError => D.parseJson call.request.body = .error .recursion
  | .invalidOperation => ∃ proposal, D.submitted call = some proposal ∧ D.Unquantizable proposal
  | .http _ _ _ => False
  | .integrity _ => False

/-- The release is what the proposal says. -/
structure Proposes (proposal : ActionProposal) (r : Release) : Prop where
  agent : r.agentId = proposal.agentId
  transaction : r.transactionId = proposal.payload.transactionId
  counterparty : r.counterpartyId = proposal.payload.counterpartyId
  currency : r.currency = proposal.payload.currency
  correspondent : r.correspondentBankId = proposal.payload.correspondentBankId
  amount : decimalOf proposal.payload.amount = ⟨r.amount, -2⟩

/-- The release is the one the request proposes. -/
structure Executes (call : Call) (r : Release) : Prop where
  proposed : ∃ proposal, D.submitted call = some proposal ∧ Proposes proposal r
  hash : r.payloadHash = D.hexdigest call.request.body

/-- The row is about the request. -/
structure Describes (call : Call) (row : AuditRow) : Prop where
  hash : row.payloadHash = D.hexdigest call.request.body
  path : row.requestPath = call.request.path

/-- The answer to a request tells what has been recorded for it. -/
def Fits (call : Call) (response : Response) : Option (AuditRow × Option Released) → Prop
  | none => (response = .auditUnavailable ∧ D.Causes call .database) ∨
      (response = .internalError ∧ (D.Causes call .typeError ∨ D.Causes call .recursionError ∨ D.Causes call .invalidOperation)) ∨
      (response ∈ [.healthy, .unknownEndpoint, .methodNotAllowed] ∧ ¬Attempt call.request)
  | some (row, none) => row.finalDecision = .rejected ∧ D.Describes call row ∧
      ((∃ status reasons, response = .rejected status row.id reasons ∧ row.violationReason = some (",".intercalate reasons)) ∨
        (response = .auditUnavailable ∧ ∃ s, call.forgets s = true))
  | some (row, some e) => row.finalDecision = .authorized ∧ D.Describes call row ∧ e.release.auditId = row.id ∧
      D.Executes call e.release ∧
      (response = .authorized row.id (D.hexdigest call.request.body) ∨
        (response = .auditUnavailable ∧ ∃ s, call.forgets s = true))

/-- A worker's part of the journal, the latest first, the calls it has answered, and what it has recorded since. -/
inductive Orderly : List (Event ι) → List Call → Option (AuditRow × Option Released) → Prop where
  | start : Orderly [] [] none
  | draw {t calls pending} (i : ι) (n : Nat) : Orderly t calls pending → Orderly (.drew i n :: t) calls pending
  | record {t calls} (i : ι) (row : AuditRow) (e : Option Released) :
      Orderly t calls none → Orderly (.recorded i row e :: t) calls (some (row, e))
  | answer {t calls pending} (i : ι) (call : Call) (response : Response) :
      Orderly t calls pending → D.Fits call response pending → Orderly (.answered i call response :: t) (calls ++ [call]) none

/-- What a release was let in beside: the earlier ones of its worker. -/
structure Admitted (before : List (ι × Released)) (e : ι × Released) : Prop where
  screened : D.Screened e.2
  room : D.HasRoom e.2 (rows (before.filter fun x => x.1 = e.1))

/-- A row authorizes if, and only if, it is committed with its release. -/
def Decided (row : AuditRow) (e : Option Released) : Prop :=
  row.finalDecision = (if e.isSome then .authorized else .rejected) ∧ ∀ x ∈ e, x.release.auditId = row.id

structure Kept (s : Site ι) : Prop where
  audits : s.ledger.auditLog = audited s.journal
  releases : s.ledger.releases = rows (released s.journal)
  drawn : ∀ i n, .drew i n ∈ s.journal → n < s.ledger.sequence
  once : ∀ i j n, .drew i n ∈ s.journal → .drew j n ∈ s.journal → i = j
  numbered : ∀ i row e, .recorded i row e ∈ s.journal → .drew i row.id ∈ s.journal
  decided : ∀ i row e, .recorded i row e ∈ s.journal → Decided row e
  lawful : D.Steady → ∀ before e after, released s.journal = before ++ e :: after → D.Admitted before e
  orderly : ∀ i, ∃ calls pending, D.Orderly (own i s.journal) calls pending

/-- What a worker relies on, and what it owes. -/
def duties : Crew.Duties ι (Site ι) Empty where
  rely j p q := own j q.state.journal = own j p.state.journal ∧ p.state.ticks ≤ q.state.ticks
  guarantee i p q := (∀ j, j ≠ i → own j q.state.journal = own j p.state.journal) ∧ p.state.ticks ≤ q.state.ticks
  inv p := D.Kept p.state
  admits _ _ := True
  rely_refl _ _ := ⟨rfl, le_rfl⟩
  rely_trans _ _ _ _ h h' := ⟨h'.1.trans h.1, h.2.trans h'.2⟩
  owed _ j _ _ other h := ⟨h.1 j other.symm, h.2⟩

/-- A worker's part of the journal, and readings of the clock that are over. -/
structure Holds (i : ι) (t : List (Event ι)) (k : Nat) (q : Point (Site ι) Empty) : Prop where
  own : own i q.state.journal = t
  ticks : k ≤ q.state.ticks

section
variable {D} {i : ι} {t : List (Event ι)} {k : Nat} {p q : Point (Site ι) Empty} {call : Call} {calls : List Call}

theorem Holds.rely (h : Holds i t k p) (moved : ((D.duties).of i).rely p q) : Holds i t k q :=
  ⟨moved.1.trans h.own, h.ticks.trans moved.2⟩

/-- A step that only reads. -/
theorem idle (q : Point (Site ι) Empty) : ((D.duties).of i).guarantee q q := ⟨fun _ _ => rfl, le_rfl⟩

/-! ### Steps -/

variable {X : Raised → Point (Site ι) Empty → Prop}

theorem now_safe (h : Holds i t k p) : Script.Safe ((D.duties).of i)
    (fun now q => ∃ n, k ≤ n ∧ now = D.clock n ∧ Holds i t n q) X (D.now : Handling ι Int) p := by
  apply Script.safe_step
  intro q moved kept _
  have holds := h.rely moved
  refine ⟨?_, ⟨fun _ _ => rfl, Nat.le_succ _⟩, q.state.ticks, holds.ticks, rfl, holds.own, Nat.le_succ _⟩
  exact ⟨kept.audits, kept.releases, kept.drawn, kept.once, kept.numbered, kept.decided, kept.lawful, kept.orderly⟩

theorem select_safe {α : Type} {F : α → Prop} {statement : Statement} {query : Ledger → α} (h : Holds i t k p)
    (refused : ∀ q, call.refuses statement = true → Holds i t k q → X .database q)
    (shows : ∀ s : Site ι, D.Kept s → own i s.journal = t → F (query s.ledger)) :
    Script.Safe ((D.duties).of i) (fun a q => F a ∧ Holds i t k q) X (select call statement query) p := by
  apply Script.safe_bind
  apply Script.safe_raiseIf
  · exact fun out => refused p out h
  · intro _
    apply Script.safe_read
    intro q moved kept
    have holds := h.rely moved
    exact ⟨idle q, shows q.state kept holds.own, holds⟩

/-- What a worker does leaves the others' parts of the journal alone. -/
theorem owes {e : Event ι} {s' : Site ι} (mine : e.worker = i) (logged : s'.journal = e :: q.state.journal)
    (ticks : s'.ticks = q.state.ticks) : ((D.duties).of i).guarantee q (q.step none fun _ => s') := by
  refine ⟨fun j other => ?_, ticks.ge⟩
  show own j s'.journal = _
  rw [logged, own_cons, if_neg fun same => other (same.symm.trans mine)]

theorem Kept.draw {s : Site ι} (kept : D.Kept s) (i : ι) : D.Kept (s.draw i) where
  audits := by
    rw [Site.draw, audited_cons, kept.audits]
    exact (List.append_nil _).symm
  releases := by
    rw [Site.draw, released_cons, kept.releases]
    exact congrArg rows (List.append_nil _).symm
  drawn j n mem := by
    rcases List.mem_cons.mp mem with same | mem
    · cases same
      exact Nat.lt_succ_self _
    · exact Nat.lt_succ_of_lt (kept.drawn j n mem)
  once j l n mem mem' := by
    rcases List.mem_cons.mp mem with same | mem <;> rcases List.mem_cons.mp mem' with same' | mem'
    · cases same
      cases same'
      rfl
    · cases same
      exact absurd (kept.drawn l _ mem') (Nat.lt_irrefl _)
    · cases same'
      exact absurd (kept.drawn j _ mem) (Nat.lt_irrefl _)
    · exact kept.once j l n mem mem'
  numbered j row e mem := by
    rcases List.mem_cons.mp mem with same | mem
    · cases same
    · exact List.mem_cons_of_mem _ (kept.numbered j row e mem)
  decided j row e mem := by
    rcases List.mem_cons.mp mem with same | mem
    · cases same
    · exact kept.decided j row e mem
  lawful steady before e after split := by
    rw [Site.draw, released_cons] at split
    exact kept.lawful steady before e after ((List.append_nil _).symm.trans split)
  orderly j := by
    obtain ⟨calls, pending, orderly⟩ := kept.orderly j
    refine ⟨calls, pending, ?_⟩
    rw [Site.draw, own_cons]
    split
    · exact .draw i _ orderly
    · exact orderly

theorem nextval_safe (h : Holds i t k p) : Script.Safe ((D.duties).of i)
    (fun n q => Holds i (.drew i n :: t) k q ∧ ∀ row e, .recorded i row e ∈ t → row.id ≠ n) X (nextval i) p := by
  apply Script.safe_step
  intro q moved kept _
  have holds := h.rely moved
  refine ⟨Kept.draw kept i, owes rfl rfl rfl, ⟨?_, holds.ticks⟩, ?_⟩
  · exact (own_cons i _ _).trans ((if_pos rfl).trans (congrArg _ holds.own))
  · intro row e mem same
    rw [← holds.own] at mem
    have there := kept.drawn i row.id (kept.numbered i row e (own_mem mem))
    rw [same] at there
    exact Nat.lt_irrefl _ there

/-- A transaction is recorded as what its worker has drawn a number for. -/
theorem Kept.record {s : Site ι} {ledger : Ledger} {row : AuditRow} {e : Option Released} (kept : D.Kept s)
    (sequence : ledger.sequence = s.ledger.sequence) (audits : ledger.auditLog = s.ledger.auditLog ++ [row])
    (releases : ledger.releases = s.ledger.releases ++ (e.map (·.release)).toList)
    (drawn : .drew i row.id ∈ s.journal) (decided : Decided row e) (orderly : D.Orderly (own i s.journal) calls none)
    (admitted : ∀ x ∈ e, D.Steady → D.Screened x ∧ D.HasRoom x (rows (released (own i s.journal)))) :
    D.Kept (s.record i row e ledger) where
  audits := by
    rw [Site.record, audits, kept.audits, audited_cons]
    rfl
  releases := by
    rw [Site.record, releases, kept.releases, released_cons, rows_append]
    cases e <;> rfl
  drawn j n mem := by
    rcases List.mem_cons.mp mem with same | mem
    · cases same
    · exact sequence ▸ kept.drawn j n mem
  once j l n mem mem' := by
    rcases List.mem_cons.mp mem with same | mem
    · cases same
    · rcases List.mem_cons.mp mem' with same | mem'
      · cases same
      · exact kept.once j l n mem mem'
  numbered j row' e' mem := by
    rcases List.mem_cons.mp mem with same | mem
    · cases same
      exact List.mem_cons_of_mem _ drawn
    · exact List.mem_cons_of_mem _ (kept.numbered j row' e' mem)
  decided j row' e' mem := by
    rcases List.mem_cons.mp mem with same | mem
    · cases same
      exact decided
    · exact kept.decided j row' e' mem
  lawful steady before x after split := by
    rw [Site.record, released_cons] at split
    cases e with
    | none => exact kept.lawful steady before x after ((List.append_nil _).symm.trans split)
    | some last =>
      -- It is the last release, or one of those before.
      rcases after.eq_nil_or_concat with rfl | ⟨rest, y, rfl⟩
      · obtain ⟨rfl, same⟩ := List.append_inj' split rfl
        obtain rfl : (i, last) = x := (List.cons.inj same).1
        obtain ⟨screened, room⟩ := admitted last rfl steady
        refine ⟨screened, ?_⟩
        rw [← released_own]
        exact room
      · apply kept.lawful steady before x rest
        rw [List.concat_eq_append, ← List.cons_append, ← List.append_assoc] at split
        exact (List.append_inj' split rfl).1
  orderly j := by
    rw [Site.record, own_cons]
    split
    · next mine =>
      obtain rfl : i = j := mine
      exact ⟨calls, _, .record i row e orderly⟩
    · exact kept.orderly j

/-- A number that a worker has drawn and not used is not in the table. -/
theorem Kept.unused {s : Site ι} {n : Nat} (kept : D.Kept s) (drawn : .drew i n ∈ own i s.journal)
    (new : ∀ row e, .recorded i row e ∈ own i s.journal → row.id ≠ n) : n ∉ s.ledger.auditLog.map (·.id) := by
  intro mem
  obtain ⟨row, there, id⟩ := List.mem_map.mp mem
  rw [kept.audits, audited, List.mem_filterMap] at there
  obtain ⟨event, there, is⟩ := there
  rw [List.mem_reverse] at there
  cases event with
  | drew j m => cases is
  | answered j call response => cases is
  | recorded j row' e =>
    obtain rfl : row' = row := Option.some.inj is
    obtain rfl : j = i := by
      apply kept.once j i row'.id (kept.numbered j row' e there)
      rw [id]
      exact own_mem drawn
    exact new row' e (List.mem_filter.mpr ⟨there, decide_eq_true rfl⟩) id

theorem commit_safe {statement : Statement} {row : AuditRow} {e : Option Released} (h : Holds i t k p)
    (orderly : D.Orderly t calls none) (drawn : .drew i row.id ∈ t) (new : ∀ row' e', .recorded i row' e' ∈ t → row'.id ≠ row.id)
    (decided : Decided row e) (admitted : ∀ x ∈ e, D.Steady → D.Screened x ∧ D.HasRoom x (rows (released t)))
    (refused : ∀ q, call.refuses statement = true → Holds i t k q → X .database q)
    (forgotten : ∀ q, call.forgets statement = true → Holds i (.recorded i row e :: t) k q → X .database q)
    (replayed : ∀ q, e.isSome = true → Holds i t k q → X (.integrity .uqReleaseAgentTransaction) q) :
    Script.Safe ((D.duties).of i) (fun _ q => Holds i (.recorded i row e :: t) k q) X (commit i call statement row e) p := by
  apply Script.safe_bind
  apply Script.safe_raiseIf fun out => refused p out h
  intro _
  apply Script.safe_bind
  apply Script.safe_step
  intro q moved kept _
  have holds := h.rely moved
  have fresh := kept.unused (i := i) (n := row.id) (by rw [holds.own]; exact drawn) (by rw [holds.own]; exact new)
  have refers : ∀ r ∈ e.map (·.release), r.auditId = row.id := by
    intro r mem
    obtain ⟨x, there, rfl⟩ := Option.mem_map.mp mem
    exact decided.2 x there
  rcases Ledger.commit_cases fresh refers with ⟨l', done, sequence, audits, releases⟩ | ⟨failed, some_⟩
  · simp only [done]
    have recorded := kept.record (i := i) sequence audits releases
      (own_mem (by rw [holds.own]; exact drawn)) decided (by rw [holds.own]; exact orderly)
      (by rw [holds.own]; exact admitted)
    have holds' : Holds i (.recorded i row e :: t) k (q.step none fun _ => q.state.record i row e l') :=
      ⟨(own_cons i _ _).trans ((if_pos rfl).trans (congrArg _ holds.own)), holds.ticks⟩
    refine ⟨recorded, owes rfl rfl rfl, ?_⟩
    exact Script.safe_raiseIf (fun out => forgotten _ out holds') fun _ => holds'
  · simp only [failed]
    refine ⟨kept, idle q, replayed q ?_ holds⟩
    rwa [Option.isSome_map] at some_

end

end Deployment

end RmtPlatform.Banking
