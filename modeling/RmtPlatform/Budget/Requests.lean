import RmtPlatform.Budget.Ledger

/-! Requests and the ledger stay in step.

A request's status says which entries it has (`Coupled`): none before its
commitment, an open commitment while it is committed, and a closed one after. The
operations on requests leave the ledger alone and never touch a request that has
been committed; a posting moves exactly the request its entry is for. -/
namespace RmtPlatform.Budget

/-- The commitments of a request. -/
def commitments (rows : List LedgerEntry) (requestId : String) : List LedgerEntry :=
  rows.filter fun e => e.entryType = .commitment ∧ e.requestId = some requestId

/-- The settlements and cancellations of an entry. -/
def terminals (rows : List LedgerEntry) (c : LedgerEntry) : List LedgerEntry :=
  rows.filter fun t => t.entryType.terminal ∧ t.relatedEntryId = some c.id

/-- The entries a request of each status has. -/
def Coupled (rows : List LedgerEntry) (requestId : String) : RequestStatus → Prop
  | .draft | .submitted | .approved | .rejected => commitments rows requestId = []
  | .committed => ∃ c, commitments rows requestId = [c] ∧ terminals rows c = []
  | .settled => ∃ c t, commitments rows requestId = [c] ∧ terminals rows c = [t] ∧
      t.entryType = .settlement ∧ t.amountMinor ≤ c.amountMinor
  | .cancelled => ∃ c t, commitments rows requestId = [c] ∧ terminals rows c = [t] ∧ t.entryType = .cancellation

/-! ### One more entry -/

section
variable {rows : List LedgerEntry} {e c : LedgerEntry} {requestId : String} {status : RequestStatus}

theorem mem_commitments : c ∈ commitments rows requestId ↔
    c ∈ rows ∧ c.entryType = .commitment ∧ c.requestId = some requestId := by
  simp [commitments]

theorem commitments_append_other (h : ¬(e.entryType = .commitment ∧ e.requestId = some requestId)) :
    commitments (rows ++ [e]) requestId = commitments rows requestId := by
  rw [commitments, List.filter_append]
  simp [commitments, h]

theorem commitments_append (type : e.entryType = .commitment) (request : e.requestId = some requestId) :
    commitments (rows ++ [e]) requestId = commitments rows requestId ++ [e] := by
  rw [commitments, List.filter_append]
  simp [commitments, type, request]

theorem terminals_append_other (h : ¬(e.entryType.terminal ∧ e.relatedEntryId = some c.id)) :
    terminals (rows ++ [e]) c = terminals rows c := by
  rw [terminals, List.filter_append, List.filter_singleton, decide_eq_false h]
  exact List.append_nil _

theorem terminals_append (terminal : e.entryType.terminal) (related : e.relatedEntryId = some c.id) :
    terminals (rows ++ [e]) c = terminals rows c ++ [e] := by
  rw [terminals, List.filter_append]
  simp [terminals, terminal, related]

/-- An entry that is neither a commitment of the request nor closes one. -/
theorem Coupled.append_other (h : Coupled rows requestId status)
    (commits : ¬(e.entryType = .commitment ∧ e.requestId = some requestId))
    (closes : ∀ c ∈ commitments rows requestId, ¬(e.entryType.terminal ∧ e.relatedEntryId = some c.id)) :
    Coupled (rows ++ [e]) requestId status := by
  have same : commitments (rows ++ [e]) requestId = commitments rows requestId := commitments_append_other commits
  have still : ∀ c, commitments rows requestId = [c] → terminals (rows ++ [e]) c = terminals rows c := fun c hc =>
    terminals_append_other (closes c (by rw [hc]; exact List.mem_singleton_self c))
  cases status with
  | draft | submitted | approved | rejected => exact same.trans h
  | committed =>
    obtain ⟨c, hc, open_⟩ := h
    exact ⟨c, same.trans hc, (still c hc).trans open_⟩
  | settled =>
    obtain ⟨c, t, hc, ht, settles⟩ := h
    exact ⟨c, t, same.trans hc, (still c hc).trans ht, settles⟩
  | cancelled =>
    obtain ⟨c, t, hc, ht, cancels⟩ := h
    exact ⟨c, t, same.trans hc, (still c hc).trans ht, cancels⟩

/-- The commitment of a request that had none. -/
theorem Coupled.commit (h : commitments rows requestId = []) (type : e.entryType = .commitment)
    (request : e.requestId = some requestId) (unrelated : terminals rows e = []) :
    Coupled (rows ++ [e]) requestId .committed := by
  refine ⟨e, by rw [commitments_append type request, h, List.nil_append], ?_⟩
  rw [terminals_append_other (by simp [type, EntryType.terminal]), unrelated]

/-- The entry that closes the request's open commitment. -/
theorem Coupled.close (h : Coupled rows requestId .committed) (row : c ∈ commitments rows requestId)
    (terminal : e.entryType.terminal) (related : e.relatedEntryId = some c.id) :
    commitments (rows ++ [e]) requestId = [c] ∧ terminals (rows ++ [e]) c = [e] := by
  obtain ⟨c', hc, open_⟩ := h
  obtain rfl : c = c' := by simpa [hc] using row
  constructor
  · rw [commitments_append_other (fun h => by simp [h.1, EntryType.terminal] at terminal), hc]
  · rw [terminals_append terminal related, open_, List.nil_append]

end

/-! ### The invariant -/

/-- What the tables say of every request. -/
structure Consistent (db : Db) : Prop where
  coupled : ∀ q ∈ db.purchaseRequests.rows, Coupled db.ledgerEntries.rows q.id.text q.status
  numbered : ∀ q ∈ db.purchaseRequests.rows, ∀ n : Int,
    (∃ v ∈ db.purchaseRequestVersions.rows, v.requestId = q.id.text ∧ v.version = n) ↔ 1 ≤ n ∧ n ≤ q.currentVersion
  undecided : ∀ q ∈ db.purchaseRequests.rows, q.status = .draft ∨ q.status = .submitted →
    ∀ d ∈ db.domainDecisions.rows, d.requestId = q.id.text → d.requestVersion ≠ q.currentVersion
  once : (db.domainDecisions.rows.map fun d => (d.requestId, d.requestVersion)).Nodup

theorem consistent_empty : Consistent .empty :=
  ⟨by simp [Db.empty], by simp [Db.empty], by simp [Db.empty], by simp [Db.empty]⟩

/-- A row after `withStatus` is a row before, unchanged unless it is the request's. -/
theorem mem_withStatus {rows : List PurchaseRequest} {id : String} {status : RequestStatus}
    {version : Option Int} {now : String} {q : PurchaseRequest} (h : q ∈ withStatus rows id status version now) :
    ∃ p ∈ rows, q.id = p.id ∧ ((p.id.text ≠ id ∧ q = p) ∨
      (p.id.text = id ∧ q.status = status ∧ q.currentVersion = version.getD p.currentVersion)) := by
  obtain ⟨p, hp, rfl⟩ := List.mem_map.mp h
  refine ⟨p, hp, ?_⟩
  by_cases hid : p.id.text = id
  · rw [if_pos hid]
    exact ⟨rfl, .inr ⟨hid, rfl, rfl⟩⟩
  · rw [if_neg hid]
    exact ⟨rfl, .inl ⟨hid, rfl⟩⟩

section
variable {rt : Runtime} {db db' : Db}

/-- A decision is on a version its request has. -/
theorem Consistent.decided (h : Consistent db) {q : PurchaseRequest} (row : q ∈ db.purchaseRequests.rows)
    {d : DomainDecision} (hd : d ∈ db.domainDecisions.rows) (of : d.requestId = q.id.text) :
    d.requestVersion ≤ q.currentVersion := by
  obtain ⟨v, hv, key⟩ := List.mem_map.mp (db.decision_version d hd)
  obtain ⟨request, number⟩ := Prod.mk.inj key
  exact ((h.numbered q row _).mp ⟨v, hv, request.trans of, number⟩).2

/-- A request the tables do not have yet has no entry, no version and no decision. -/
theorem unknown_request {id : String} (new : id ∉ db.purchaseRequests.rows.map (·.id.text)) :
    commitments db.ledgerEntries.rows id = [] ∧ (∀ v ∈ db.purchaseRequestVersions.rows, v.requestId ≠ id) ∧
      ∀ d ∈ db.domainDecisions.rows, d.requestId ≠ id := by
  have version : ∀ v ∈ db.purchaseRequestVersions.rows, v.requestId ≠ id := fun v hv h =>
    new (h ▸ db.version_request v hv)
  refine ⟨List.eq_nil_iff_forall_not_mem.mpr fun e he => ?_, version, fun d hd h => ?_⟩
  · obtain ⟨he, -, request⟩ := mem_commitments.mp he
    exact new (db.entry_request e he id request)
  · obtain ⟨v, hv, key⟩ := List.mem_map.mp (db.decision_version d hd)
    exact version v hv ((Prod.mk.inj key).1.trans h)

theorem RequestEffect.consistent (effect : RequestEffect db db') (ledger : SameLedger db db')
    (h : Consistent db) : Consistent db' := by
  cases effect with
  | create r v status first of number requests versions decisions =>
    have unique := db'.purchaseRequests.unique
    rw [requests, List.map_append, List.nodup_append] at unique
    have new : r.id.text ∉ db.purchaseRequests.rows.map (·.id.text) := fun hr => unique.2.2 _ hr r.id.text (by simp) rfl
    obtain ⟨entries, noVersion, noDecision⟩ := unknown_request new
    have other : ∀ q ∈ db.purchaseRequests.rows, q.id.text ≠ r.id.text := fun q hq heq =>
      new (heq ▸ List.mem_map_of_mem hq)
    refine ⟨fun q hq => ?_, fun q hq n => ?_, fun q hq hs d hd => ?_, decisions ▸ h.once⟩
    · rw [ledger.ledger]
      rcases List.mem_append.mp (requests ▸ hq) with hq | hq
      · exact h.coupled q hq
      · obtain rfl := List.mem_singleton.mp hq
        rw [status]
        exact entries
    · rw [versions]
      rcases List.mem_append.mp (requests ▸ hq) with hq | hq
      · rw [← h.numbered q hq n]
        simp [of, (other q hq).symm, or_and_right, exists_or]
      · obtain rfl := List.mem_singleton.mp hq
        rw [first]
        constructor
        · rintro ⟨w, hw, hrequest, rfl⟩
          rcases List.mem_append.mp hw with hw | hw
          · exact absurd hrequest (noVersion w hw)
          · rw [List.mem_singleton.mp hw, number]
            omega
        · intro hn
          exact ⟨v, by simp, of, by omega⟩
    · rw [decisions] at hd
      rcases List.mem_append.mp (requests ▸ hq) with hq | hq
      · exact h.undecided q hq hs d hd
      · obtain rfl := List.mem_singleton.mp hq
        exact fun hof => absurd hof (noDecision d hd)
  | revise r v now row status of number requests versions decisions =>
    simp only [List.mem_cons, List.not_mem_nil, or_false, not_or] at status
    refine ⟨fun q hq => ?_, fun q hq n => ?_, fun q hq hs d hd hof => ?_, decisions ▸ h.once⟩
    · rw [ledger.ledger]
      obtain ⟨p, hp, hid, ⟨-, rfl⟩ | ⟨hr, hstatus, -⟩⟩ := mem_withStatus (requests ▸ hq)
      · exact h.coupled q hp
      · obtain rfl := db.purchaseRequests.row_unique hp row hr
        have coupled := h.coupled p hp
        rw [hstatus, hid]
        cases hp : p.status <;> simp_all [Coupled]
    · rw [versions]
      obtain ⟨p, hp, hid, ⟨hr, rfl⟩ | ⟨hr, -, hversion⟩⟩ := mem_withStatus (requests ▸ hq)
      · rw [← h.numbered q hp n]
        simp [of, Ne.symm hr, or_and_right, exists_or]
      · obtain rfl := db.purchaseRequests.row_unique hp row hr
        have before := h.numbered p hp n
        have positive := db.request_version_pos p hp
        rw [hversion, hid]
        simp only [List.mem_append, List.mem_singleton, or_and_right, exists_or, exists_eq_left, before, of,
          number, true_and, Option.getD_some]
        omega
    · rw [decisions] at hd
      obtain ⟨p, hp, hid, ⟨-, rfl⟩ | ⟨hr, -, hversion⟩⟩ := mem_withStatus (requests ▸ hq)
      · exact h.undecided q hp hs d hd hof
      · obtain rfl := db.purchaseRequests.row_unique hp row hr
        have := h.decided hp hd (hid ▸ hof)
        rw [hversion, Option.getD_some]
        omega
  | submit r now row status requests versions decisions =>
    refine ⟨fun q hq => ?_, fun q hq n => ?_, fun q hq hs d hd hof => ?_, decisions ▸ h.once⟩
    · rw [ledger.ledger]
      obtain ⟨p, hp, hid, ⟨-, rfl⟩ | ⟨hr, hstatus, -⟩⟩ := mem_withStatus (requests ▸ hq)
      · exact h.coupled q hp
      · obtain rfl := db.purchaseRequests.row_unique hp row hr
        have coupled := h.coupled p hp
        rw [status] at coupled
        rw [hstatus, hid]
        exact coupled
    · rw [versions]
      obtain ⟨p, hp, hid, ⟨-, rfl⟩ | ⟨hr, -, hversion⟩⟩ := mem_withStatus (requests ▸ hq)
      · exact h.numbered q hp n
      · rw [hversion, hid, Option.getD_none]
        exact h.numbered p hp n
    · rw [decisions] at hd
      obtain ⟨p, hp, hid, ⟨-, rfl⟩ | ⟨hr, -, hversion⟩⟩ := mem_withStatus (requests ▸ hq)
      · exact h.undecided q hp hs d hd hof
      · obtain rfl := db.purchaseRequests.row_unique hp row hr
        rw [hversion, Option.getD_none]
        exact h.undecided p hp (.inl status) d hd (hid ▸ hof)
  | decide r d now row status of number independent role requests versions decisions =>
    have decided : d.decision.status = .approved ∨ d.decision.status = .rejected := by
      cases d.decision
      · exact .inl rfl
      · exact .inr rfl
    refine ⟨fun q hq => ?_, fun q hq n => ?_, fun q hq hs x hx hof => ?_, ?_⟩
    · rw [ledger.ledger]
      obtain ⟨p, hp, hid, ⟨-, rfl⟩ | ⟨hr, hstatus, -⟩⟩ := mem_withStatus (requests ▸ hq)
      · exact h.coupled q hp
      · obtain rfl := db.purchaseRequests.row_unique hp row hr
        have coupled := h.coupled p hp
        rw [status] at coupled
        rw [hstatus, hid]
        rcases decided with hd | hd <;> rw [hd] <;> exact coupled
    · rw [versions]
      obtain ⟨p, hp, hid, ⟨-, rfl⟩ | ⟨hr, -, hversion⟩⟩ := mem_withStatus (requests ▸ hq)
      · exact h.numbered q hp n
      · rw [hversion, hid, Option.getD_none]
        exact h.numbered p hp n
    · obtain ⟨p, hp, hid, ⟨hr, rfl⟩ | ⟨hr, hstatus, -⟩⟩ := mem_withStatus (requests ▸ hq)
      · rcases List.mem_append.mp (decisions ▸ hx) with hx | hx
        · exact h.undecided q hp hs x hx hof
        · rw [List.mem_singleton.mp hx, of] at hof
          exact absurd hof.symm hr
      · rw [hstatus] at hs
        rcases decided with hd | hd <;> simp [hd] at hs
    · rw [decisions, List.map_append, List.map_singleton]
      refine h.once.append (List.nodup_singleton _) fun key hmem hd => ?_
      obtain ⟨x, hx, rfl⟩ := List.mem_map.mp hmem
      obtain ⟨hreq, hver⟩ := Prod.mk.inj (List.mem_singleton.mp hd)
      exact h.undecided r row (.inr status) x hx (hreq.trans of) (hver.trans number)

/-! ### Postings -/

/-- Closing entries refer to commitments; a commitment has one request. -/
theorem closes_own {c : LedgerEntry} {id n : _} {e : LedgerEntry} {q : PurchaseRequest}
    (closed : db.openCommitment? q.id.text n = some c) (related : e.relatedEntryId = some c.id)
    (other : id ≠ q.id.text) :
    ∀ c' ∈ commitments db.ledgerEntries.rows id, ¬(e.entryType.terminal ∧ e.relatedEntryId = some c'.id) := by
  intro c' hc' hclose
  obtain ⟨hc', -, request⟩ := mem_commitments.mp hc'
  obtain ⟨hc, request', -⟩ := openCommitment?_some closed
  obtain rfl : c = c' := db.ledgerEntries.row_unique hc hc' (by simpa [related] using hclose.2)
  exact other (by simpa [request'] using request.symm)

/-- A posting that moves the request `q` from one status to another. -/
theorem Posted.moves {e : LedgerEntry} {r : MutationReceipt} (posted : Posted rt db db' e r) (h : Consistent db)
    {q : PurchaseRequest} {now : String} {target : RequestStatus}
    (moved : db'.purchaseRequests.rows = withStatus db.purchaseRequests.rows q.id.text target none now)
    (settled : target ≠ .draft ∧ target ≠ .submitted)
    (own : Coupled (db.ledgerEntries.rows ++ [e]) q.id.text target)
    (others : ∀ p ∈ db.purchaseRequests.rows, p.id.text ≠ q.id.text →
      Coupled (db.ledgerEntries.rows ++ [e]) p.id.text p.status) : Consistent db' := by
  refine ⟨fun p' hp' => ?_, fun p' hp' n => ?_, fun p' hp' hs d hd hof => ?_, posted.decisions ▸ h.once⟩
  · rw [posted.entries]
    obtain ⟨p, hp, hid, ⟨hq, rfl⟩ | ⟨hq, hstatus, -⟩⟩ := mem_withStatus (moved ▸ hp')
    · exact others p' hp hq
    · rw [hstatus, hid, hq]
      exact own
  · rw [posted.versions]
    obtain ⟨p, hp, hid, ⟨-, rfl⟩ | ⟨-, -, hversion⟩⟩ := mem_withStatus (moved ▸ hp')
    · exact h.numbered p' hp n
    · rw [hversion, hid, Option.getD_none]
      exact h.numbered p hp n
  · rw [posted.decisions] at hd
    obtain ⟨p, hp, hid, ⟨-, rfl⟩ | ⟨-, hstatus, -⟩⟩ := mem_withStatus (moved ▸ hp')
    · exact h.undecided p' hp hs d hd hof
    · rw [hstatus] at hs
      exact (hs.elim settled.1 settled.2).elim

/-- A posting that moves no request. -/
theorem Posted.still {e : LedgerEntry} {r : MutationReceipt} (posted : Posted rt db db' e r) (h : Consistent db)
    (same : db'.purchaseRequests.rows = db.purchaseRequests.rows)
    (type : e.entryType ≠ .commitment ∧ e.entryType.terminal = false) : Consistent db' := by
  refine ⟨fun q hq => ?_, ?_, ?_, posted.decisions ▸ h.once⟩
  · rw [posted.entries]
    refine (h.coupled q (same ▸ hq)).append_other (fun h => type.1 h.1) fun c _ h => ?_
    simp [type.2] at h
  · rw [same, posted.versions]
    exact h.numbered
  · rw [same, posted.decisions]
    exact h.undecided

/-- No entry refers to the new one. -/
theorem Posted.unrelated {e : LedgerEntry} {r : MutationReceipt} (posted : Posted rt db db' e r) :
    terminals db.ledgerEntries.rows e = [] := by
  refine List.eq_nil_iff_forall_not_mem.mpr fun t ht => ?_
  obtain ⟨ht, hrelated⟩ := List.mem_filter.mp ht
  simp only [decide_eq_true_eq] at hrelated
  exact posted.fresh (db.entry_related t ht e.id hrelated.2)

theorem Posted.consistent {e : LedgerEntry} {r : MutationReceipt} (posted : Posted rt db db' e r)
    (h : Consistent db) : Consistent db' := by
  have closed_row : ∀ {q : PurchaseRequest} {c : LedgerEntry},
      db.openCommitment? q.id.text q.currentVersion = some c → c ∈ commitments db.ledgerEntries.rows q.id.text := by
    intro q c closed
    obtain ⟨hc, request, -, type, -⟩ := openCommitment?_some closed
    exact mem_commitments.mpr ⟨hc, type, request⟩
  cases posted.cause with
  | bootstrap type _ _ same => exact posted.still h same (by simp [type, EntryType.terminal])
  | change type _ same =>
    refine posted.still h same ?_
    cases htype : e.entryType <;> simp_all [EntryType.signed, EntryType.terminal]
  | commitment q v d now type row status request _ _ _ _ _ _ _ _ _ _ _ _ _ _ moved =>
    have none := h.coupled q row
    rw [status] at none
    refine posted.moves h moved ⟨by simp, by simp⟩ (.commit none type request posted.unrelated)
      fun p hp other => (h.coupled p hp).append_other (fun hc => ?_) fun c _ hc => ?_
    · rw [request] at hc
      exact other (by simpa using hc.2.symm)
    · simp [type, EntryType.terminal] at hc
  | settlement q c now type row status _ closed related covered moved =>
    have terminal : e.entryType.terminal = true := by rw [type]; rfl
    have coupled := h.coupled q row
    rw [status] at coupled
    obtain ⟨one, ended⟩ := coupled.close (closed_row closed) terminal related
    refine posted.moves h moved ⟨by simp, by simp⟩ ⟨c, e, one, ended, type, covered⟩ fun p hp other =>
      (h.coupled p hp).append_other (fun hc => by simp [type] at hc) (closes_own closed related other)
  | cancellation q c now type row status _ closed related whole moved =>
    have terminal : e.entryType.terminal = true := by rw [type]; rfl
    have coupled := h.coupled q row
    rw [status] at coupled
    obtain ⟨one, ended⟩ := coupled.close (closed_row closed) terminal related
    refine posted.moves h moved ⟨by simp, by simp⟩ ⟨c, e, one, ended, type⟩ fun p hp other =>
      (h.coupled p hp).append_other (fun hc => by simp [type] at hc) (closes_own closed related other)

theorem Outcome.consistent (h : Outcome rt db db') (consistent : Consistent db) : Consistent db' := by
  cases h with
  | unchanged same => exact same ▸ consistent
  | request ledger effect => exact effect.consistent ledger consistent
  | posted e r posted => exact posted.consistent consistent

theorem Reachable.consistent (h : Reachable rt db) : Consistent db := by
  induction h with
  | refl => exact consistent_empty
  | tail hrun hstep ih =>
    obtain ⟨env, call, rfl⟩ := hstep
    exact (call_outcome (Reachable.sound hrun).coherent call).consistent ih

end

/-- **Requests and the ledger stay in step.** In every reachable state the status of
every request and the entries it has determine each other, its versions are
`1 .. currentVersion`, and no version has two decisions. -/
theorem requests_coupled (rt : Runtime) (db : Db) (h : Reachable rt db) :
    (∀ q ∈ db.purchaseRequests.rows,
      (q.status = .committed ↔ ∃ c, commitments db.ledgerEntries.rows q.id.text = [c] ∧
        terminals db.ledgerEntries.rows c = []) ∧
      (q.status = .settled ↔ ∃ c t, commitments db.ledgerEntries.rows q.id.text = [c] ∧
        terminals db.ledgerEntries.rows c = [t] ∧ t.entryType = .settlement ∧ t.amountMinor ≤ c.amountMinor) ∧
      (q.status = .cancelled ↔ ∃ c t, commitments db.ledgerEntries.rows q.id.text = [c] ∧
        terminals db.ledgerEntries.rows c = [t] ∧ t.entryType = .cancellation) ∧
      (q.status ∈ [.draft, .submitted, .approved, .rejected] → commitments db.ledgerEntries.rows q.id.text = []) ∧
      ∀ n : Int, (∃ v ∈ db.purchaseRequestVersions.rows, v.requestId = q.id.text ∧ v.version = n) ↔
        1 ≤ n ∧ n ≤ q.currentVersion) ∧
    (db.purchaseRequestVersions.rows.map fun v => (v.requestId, v.version)).Nodup ∧
    (db.domainDecisions.rows.map fun d => (d.requestId, d.requestVersion)).Nodup := by
  have consistent := h.consistent
  refine ⟨fun q hq => ?_, db.purchaseRequestVersions.unique, consistent.once⟩
  have coupled := consistent.coupled q hq
  refine ⟨⟨fun hs => ?_, ?_⟩, ⟨fun hs => ?_, ?_⟩, ⟨fun hs => ?_, ?_⟩, fun hs => ?_, consistent.numbered q hq⟩
  · exact (hs ▸ coupled :)
  · rintro ⟨c, one, open_⟩
    cases hs : q.status <;> rw [hs] at coupled <;> simp_all [Coupled]
  · exact (hs ▸ coupled :)
  · rintro ⟨c, t, one, ended, type, -⟩
    cases hs : q.status <;> rw [hs] at coupled <;> simp_all [Coupled]
  · exact (hs ▸ coupled :)
  · rintro ⟨c, t, one, ended, type⟩
    cases hs : q.status <;> rw [hs] at coupled <;> simp_all [Coupled]
  · cases hs' : q.status <;> rw [hs'] at coupled hs <;> simp_all [Coupled]

/-- The approved and committed request of the run. -/
theorem requests_coupled_committed :
    ∃ q ∈ Sample.db.purchaseRequests.rows, q.status = .committed ∧
      ∃ c, commitments Sample.db.ledgerEntries.rows q.id.text = [c] ∧
        terminals Sample.db.ledgerEntries.rows c = [] := by
  obtain ⟨q, hq, status⟩ : ∃ q ∈ Sample.db.purchaseRequests.rows, q.status = .committed := by decide +kernel
  exact ⟨q, hq, status, (((requests_coupled Sample.runtime Sample.db Sample.reachable).1 q hq).1).mp status⟩

end RmtPlatform.Budget
