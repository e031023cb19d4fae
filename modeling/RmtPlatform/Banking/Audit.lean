import RmtPlatform.Banking.Exposure

/-! Every attempt is audited.

The releases are those of the audit rows that authorize, one for one and in the same order.
An answer with a number is about the row with that number, and no other answer has it. An
attempt that is answered without a number has met one of four things: a statement that was
refused or whose commit was not confirmed, an amount its column cannot hold, a token or a
body that makes the code itself raise, or a number with too many digits (`audited_runs`). -/
namespace RmtPlatform.Banking

/-- The row an answer reports. -/
def Response.auditId : Response → Option Nat
  | authorized id _ => some id
  | rejected _ id _ => some id
  | _ => none

variable {ι : Type}

def Event.reported : Event ι → Option Nat
  | .answered _ _ response => response.auditId
  | _ => none

def Event.rowId (e : Event ι) : Option Nat := e.row.map (·.id)

def Event.request : Event ι → Option Call
  | .answered _ call _ => some call
  | _ => none

/-- The requests a worker has answered, the earliest first. -/
def answered [DecidableEq ι] (i : ι) (journal : List (Event ι)) : List Call := (own i journal).reverse.filterMap Event.request

/-- The numbers that have been reported, the latest first. -/
def reported (journal : List (Event ι)) : List Nat := journal.filterMap Event.reported

namespace Deployment
variable (D : Deployment)

/-- Nothing is in the way of a record. -/
structure Unhindered (call : Call) : Prop where
  uncaused : ∀ e, ¬D.Causes call e
  confirmed : ∀ s, call.forgets s = false

/-- What the tables and the answers tell of each other. -/
structure Audited (s : Site ι) : Prop where
  released : s.ledger.releases.map (·.auditId) =
    (s.ledger.auditLog.filter fun row => row.finalDecision = .authorized).map (·.id)
  authorized : ∀ i call id hash, .answered i call (.authorized id hash) ∈ s.journal → ∃ row ∈ s.ledger.auditLog,
    row.id = id ∧ D.Describes call row ∧ ∃ r ∈ s.ledger.releases, r.auditId = id ∧ D.Executes call r
  rejected : ∀ i call status id reasons, .answered i call (.rejected status id reasons) ∈ s.journal →
    ∃ row ∈ s.ledger.auditLog, row.id = id ∧ D.Describes call row ∧ row.violationReason = some (",".intercalate reasons) ∧
      ∀ r ∈ s.ledger.releases, r.auditId ≠ id
  recorded : ∀ i call response, .answered i call response ∈ s.journal → Attempt call.request → D.Unhindered call →
    response.auditId.isSome = true
  once : (reported s.journal).Nodup

section
variable {D : Deployment} [DecidableEq ι] {s : Site ι}

theorem Fits.auditId {call : Call} {response : Response} {pending : Option (AuditRow × Option Released)} {id : Nat}
    (fits : D.Fits call response pending) (reports : response.auditId = some id) : ∃ row e, pending = some (row, e) ∧ row.id = id := by
  match pending, fits with
  | none, fits =>
    rcases fits with ⟨rfl, -⟩ | ⟨rfl, -⟩ | ⟨mem, -⟩
    · cases reports
    · cases reports
    · simp only [List.mem_cons, List.not_mem_nil, or_false] at mem
      rcases mem with rfl | rfl | rfl <;> cases reports
  | some (row, none), ⟨_, _, answer⟩ =>
    rcases answer with ⟨status, reasons, rfl, -⟩ | ⟨rfl, -⟩
    · exact ⟨row, none, rfl, Option.some.inj reports⟩
    · cases reports
  | some (row, some e), ⟨_, _, _, _, answer⟩ =>
    rcases answer with rfl | ⟨rfl, -⟩
    · exact ⟨row, some e, rfl, Option.some.inj reports⟩
    · cases reports

omit [DecidableEq ι] in
/-- What is reported has been recorded, each row for one answer. -/
theorem Orderly.reported {t : List (Event ι)} {calls : List Call} {pending : Option (AuditRow × Option Released)}
    (orderly : D.Orderly t calls pending) :
    List.Sublist ((pending.map (·.1.id)).toList ++ Banking.reported t) (t.filterMap Event.rowId) := by
  induction orderly with
  | start => exact .slnil
  | draw i n orderly ih => exact ih
  | record i row e orderly ih => exact ih.cons_cons row.id
  | @answer t calls pending i call response orderly fits ih =>
    show List.Sublist (Banking.reported (.answered i call response :: t)) (t.filterMap Event.rowId)
    unfold Banking.reported
    cases reports : response.auditId with
    | none =>
      rw [List.filterMap_cons_none (by exact reports)]
      exact (List.sublist_append_right _ _).trans ih
    | some id =>
      obtain ⟨row, e, rfl, rfl⟩ := fits.auditId reports
      rw [List.filterMap_cons_some (by exact reports)]
      exact ih

omit [DecidableEq ι] in
theorem Orderly.requests {t : List (Event ι)} {calls : List Call} {pending : Option (AuditRow × Option Released)}
    (orderly : D.Orderly t calls pending) : t.reverse.filterMap Event.request = calls := by
  induction orderly with
  | start => rfl
  | draw i n orderly ih =>
    rw [List.reverse_cons, List.filterMap_append, ih]
    exact List.append_nil _
  | record i row e orderly ih =>
    rw [List.reverse_cons, List.filterMap_append, ih]
    exact List.append_nil _
  | answer i call response orderly fits ih =>
    rw [List.reverse_cons, List.filterMap_append, ih]
    rfl

omit [DecidableEq ι] in
theorem Orderly.recorded {t : List (Event ι)} {calls : List Call} {pending : Option (AuditRow × Option Released)}
    (orderly : D.Orderly t calls pending) :
    ∀ x ∈ pending, ∃ j, .recorded j x.1 x.2 ∈ t := by
  induction orderly with
  | start => exact fun x mem => by cases mem
  | draw i n orderly ih => exact fun x mem => (ih x mem).imp fun _ => List.mem_cons_of_mem _
  | record i row e orderly ih =>
    intro x mem
    obtain rfl : (row, e) = x := Option.some.inj mem
    exact ⟨i, List.mem_cons_self⟩
  | answer i call response orderly fits ih => exact fun x mem => by cases mem

omit [DecidableEq ι] in
/-- An answer, and what was recorded for its request. -/
theorem Orderly.answered {t : List (Event ι)} {calls : List Call} {pending : Option (AuditRow × Option Released)}
    (orderly : D.Orderly t calls pending)
    {i : ι} {call : Call} {response : Response} (mem : .answered i call response ∈ t) :
    ∃ pending, D.Fits call response pending ∧ ∀ x ∈ pending, ∃ j, .recorded j x.1 x.2 ∈ t := by
  have earlier : ∀ {e : Event ι} {t : List (Event ι)},
      (∃ pending, D.Fits call response pending ∧ ∀ x ∈ pending, ∃ j, .recorded j x.1 x.2 ∈ t) →
      ∃ pending, D.Fits call response pending ∧ ∀ x ∈ pending, ∃ j, .recorded j x.1 x.2 ∈ e :: t := by
    rintro e t ⟨pending, fits, recorded⟩
    exact ⟨pending, fits, fun x there => (recorded x there).imp fun _ => List.mem_cons_of_mem _⟩
  induction orderly with
  | start => cases mem
  | draw j n orderly ih =>
    rcases List.mem_cons.mp mem with same | mem
    · cases same
    · exact earlier (ih mem)
  | record j row e orderly ih =>
    rcases List.mem_cons.mp mem with same | mem
    · cases same
    · exact earlier (ih mem)
  | answer j call' response' orderly fits ih =>
    rcases List.mem_cons.mp mem with same | mem
    · cases same
      exact earlier ⟨_, fits, orderly.recorded⟩
    · exact earlier (ih mem)

/-! ### The tables -/

theorem Kept.answered (kept : D.Kept s) {i : ι} {call : Call} {response : Response}
    (mem : .answered i call response ∈ s.journal) :
    ∃ pending, D.Fits call response pending ∧ ∀ x ∈ pending, ∃ j, .recorded j x.1 x.2 ∈ s.journal := by
  obtain ⟨_, _, orderly⟩ := kept.orderly i
  obtain ⟨pending, fits, recorded⟩ := orderly.answered (List.mem_filter.mpr ⟨mem, decide_eq_true rfl⟩)
  exact ⟨pending, fits, fun x there => (recorded x there).imp fun _ => own_mem⟩

theorem Kept.row (kept : D.Kept s) {i : ι} {row : AuditRow} {e : Option Released} (mem : .recorded i row e ∈ s.journal) :
    row ∈ s.ledger.auditLog := by
  rw [kept.audits]
  exact List.mem_filterMap.mpr ⟨_, List.mem_reverse.mpr mem, rfl⟩

theorem Kept.release (kept : D.Kept s) {i : ι} {row : AuditRow} {e : Released} (mem : .recorded i row (some e) ∈ s.journal) :
    e.release ∈ s.ledger.releases := by
  rw [kept.releases]
  exact List.mem_map.mpr ⟨(i, e), List.mem_filterMap.mpr ⟨_, List.mem_reverse.mpr mem, rfl⟩, rfl⟩

/-- The releases are those of the rows that authorize. -/
theorem Kept.matched (kept : D.Kept s) : s.ledger.releases.map (·.auditId) =
    (s.ledger.auditLog.filter fun row => row.finalDecision = .authorized).map (·.id) := by
  have decided := kept.decided
  rw [kept.releases, kept.audits]
  generalize s.journal = journal at decided
  induction journal with
  | nil => rfl
  | cons e rest ih =>
    have earlier := ih fun i row e mem => decided i row e (List.mem_cons_of_mem _ mem)
    rw [released_cons, audited_cons, rows_append, List.map_append, List.filter_append, List.map_append, earlier]
    congr 1
    cases e with
    | drew i n => rfl
    | answered i call response => rfl
    | recorded i row e =>
      obtain ⟨decision, audit⟩ := decided i row e List.mem_cons_self
      cases e with
      | none => simp [Event.released, Event.row, rows, decision]
      | some e => simp [Event.released, Event.row, rows, decision, audit e rfl]

theorem Kept.rows_nodup (kept : D.Kept s) : (s.journal.filterMap Event.rowId).Nodup := by
  have ids := s.ledger.auditIds
  rw [kept.audits, audited, List.map_filterMap, List.filterMap_reverse, List.nodup_reverse] at ids
  exact ids

/-- A number is reported by the worker that has drawn it. -/
theorem Kept.reporter (kept : D.Kept s) {e : Event ι} {n : Nat} (mem : e ∈ s.journal) (reports : e.reported = some n) :
    .drew e.worker n ∈ s.journal := by
  cases e with
  | drew i n => cases reports
  | recorded i row e => cases reports
  | answered i call response =>
    obtain ⟨_, _, orderly⟩ := kept.orderly i
    obtain ⟨pending, fits, recorded⟩ := orderly.answered (List.mem_filter.mpr ⟨mem, decide_eq_true rfl⟩)
    obtain ⟨row, e, rfl, rfl⟩ := fits.auditId reports
    obtain ⟨j, there⟩ := recorded _ rfl
    obtain rfl : j = i := of_decide_eq_true (List.mem_filter.mp there).2
    exact kept.numbered j row e (own_mem there)

/-- No number is reported twice. -/
theorem Kept.once_reported (kept : D.Kept s) : (reported s.journal).Nodup := by
  rw [List.nodup_iff_count_le_one]
  intro n
  by_cases mem : n ∈ reported s.journal
  · obtain ⟨e, there, reports⟩ := List.mem_filterMap.mp mem
    -- Whoever reports this number is the worker of `e`, whose part of the journal is in order.
    have part : (s.journal.filter fun x => x.reported = some n).Sublist (own e.worker s.journal) := by
      have : s.journal.filter (fun x => x.reported = some n) =
          (own e.worker s.journal).filter fun x => x.reported = some n := by
        rw [own, List.filter_filter]
        apply List.filter_congr
        intro x mem
        by_cases same : x.reported = some n
        · have := kept.once _ _ n (kept.reporter mem same) (kept.reporter there reports)
          simp [same, this]
        · simp [same]
      rw [this]
      exact List.filter_sublist
    obtain ⟨_, pending, orderly⟩ := kept.orderly e.worker
    have once : (reported (own e.worker s.journal)).Nodup := by
      apply List.Nodup.sublist ((List.sublist_append_right _ _).trans orderly.reported)
      exact kept.rows_nodup.sublist (List.filter_sublist.filterMap _)
    have counted : (reported s.journal).count n = (reported (s.journal.filter fun x => x.reported = some n)).count n := by
      rw [reported, reported, List.count_filterMap, List.count_filterMap, List.countP_filter]
      apply List.countP_congr
      intro x _
      simp
    rw [counted]
    exact (List.Sublist.count_le n (part.filterMap _)).trans (List.nodup_iff_count_le_one.mp once n)
  · rw [List.count_eq_zero_of_not_mem mem]
    exact Nat.zero_le 1

theorem Kept.audited (kept : D.Kept s) : D.Audited s := by
  refine ⟨kept.matched, ?_, ?_, ?_, kept.once_reported⟩
  · intro i call id hash mem
    obtain ⟨pending, fits, recorded⟩ := kept.answered mem
    obtain ⟨row, e, rfl, rfl⟩ := fits.auditId rfl
    obtain ⟨j, there⟩ := recorded _ rfl
    refine ⟨row, kept.row there, rfl, ?_⟩
    cases e with
    | none =>
      obtain ⟨-, -, answer⟩ := fits
      rcases answer with ⟨_, _, answer, -⟩ | ⟨answer, -⟩ <;> cases answer
    | some e =>
      obtain ⟨-, describes, audit, executes, -⟩ := fits
      exact ⟨describes, e.release, kept.release there, audit, executes⟩
  · intro i call status id reasons mem
    obtain ⟨pending, fits, recorded⟩ := kept.answered mem
    obtain ⟨row, e, rfl, rfl⟩ := fits.auditId rfl
    obtain ⟨j, there⟩ := recorded _ rfl
    refine ⟨row, kept.row there, rfl, ?_⟩
    cases e with
    | none =>
      obtain ⟨rejects, describes, answer⟩ := fits
      refine ⟨describes, ?_, ?_⟩
      · rcases answer with ⟨_, _, answer, reason⟩ | ⟨answer, -⟩
        · cases answer
          exact reason
        · cases answer
      · intro r mem same
        have id := List.mem_map_of_mem (f := (·.auditId)) mem
        rw [kept.matched] at id
        obtain ⟨row', there', id⟩ := List.mem_map.mp id
        obtain ⟨there', authorizes⟩ := List.mem_filter.mp there'
        obtain rfl : row' = row :=
          List.inj_on_of_nodup_map s.ledger.auditIds there' (kept.row there) (id.trans same)
        rw [rejects] at authorizes
        cases of_decide_eq_true authorizes
    | some e =>
      obtain ⟨-, -, -, -, answer⟩ := fits
      rcases answer with answer | ⟨answer, -⟩ <;> cases answer
  · intro i call response mem attempt unhindered
    obtain ⟨pending, fits, -⟩ := kept.answered mem
    match pending, fits with
    | none, fits =>
      rcases fits with ⟨-, cause⟩ | ⟨-, cause⟩ | ⟨-, idle⟩
      · exact absurd cause (unhindered.uncaused _)
      · rcases cause with cause | cause | cause <;> exact absurd cause (unhindered.uncaused _)
      · exact absurd attempt idle
    | some (row, none), ⟨_, _, answer⟩ =>
      rcases answer with ⟨_, _, rfl, -⟩ | ⟨-, s, forgets⟩
      · rfl
      · rw [unhindered.confirmed s] at forgets
        cases forgets
    | some (row, some e), ⟨_, _, _, _, answer⟩ =>
      rcases answer with rfl | ⟨-, s, forgets⟩
      · rfl
      · rw [unhindered.confirmed s] at forgets
        cases forgets

end

end Deployment

end RmtPlatform.Banking
