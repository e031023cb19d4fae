import RmtPlatform.Core.Effects

/-! Holds, approval records and authorizations agree.

Between two calls a hold is approved exactly when its record is, and then exactly
one authorization carries its id (`Linked Agrees`). A process that has just
restarted knows less: a resolved hold may be pending again, which is all that
`reconcileHolds` has to repair (`Linked Lags`). -/
namespace RmtPlatform.Core

variable {W L : Type}

/-- What the record of a hold with this status says. -/
def Agrees : ApprovalStatus → String → Prop
  | .pending, decision => terminalStatus decision = none
  | .approved, decision => decision = "approved"
  | .rejected, decision => decision ≠ "approved"

/-- The same of a hold that may have fallen back to pending. -/
def Lags (status : ApprovalStatus) (decision : String) : Prop := status = .pending ∨ Agrees status decision

theorem Agrees.approved_iff {status : ApprovalStatus} {decision : String} (h : Agrees status decision) :
    status = .approved ↔ decision = "approved" := by
  cases status with
  | pending =>
    have : decision ≠ "approved" := fun e => by simp [Agrees, e, terminalStatus] at h
    simp [this]
  | approved => simpa [Agrees] using h
  | rejected => simpa [Agrees] using h

/-- A decision that is terminal is what its status says. -/
theorem agrees_terminal {status : ApprovalStatus} {decision : String} (h : terminalStatus decision = some status) :
    Agrees status decision := by
  unfold terminalStatus at h
  split at h <;> cases h <;> simp [Agrees]

/-- On disk a hold may be one decision behind. -/
structure Behind (d h : ApprovalHold) : Prop where
  id : d.approvalId = h.approvalId
  status : d.status = .pending ∨ d.status = h.status

theorem Behind.refl (h : ApprovalHold) : Behind h h := ⟨rfl, .inr rfl⟩

/-- The authorizations an approval gave. -/
def authorizationsOf (authorizations : DurableStore ExecutionAuthorization) (approvalId : String) :
    List ExecutionAuthorization :=
  authorizations.records.filter fun a => a.approvalId = some approvalId

/-- Exactly one authorization, a manual one. -/
def SoleManual (authorizations : DurableStore ExecutionAuthorization) (approvalId : String) : Prop :=
  ∃ a, authorizationsOf authorizations approvalId = [a] ∧ a.authorizationType = "manual"

/-- How the three stores hang together, `told` being what a record says of its hold. -/
structure Linked (told : ApprovalStatus → String → Prop) (drawn : String → Prop) (holds : DurableStore ApprovalHold)
    (records : DurableStore ApprovalRecord) (authorizations : DurableStore ExecutionAuthorization) : Prop where
  hold_drawn : ∀ h ∈ holds.records, drawn h.approvalId
  record_drawn : ∀ r ∈ records.records, drawn r.approvalId
  hold_unique : holds.Unique (·.approvalId)
  record_unique : records.Unique (·.approvalId)
  hold_behind : holds.Trails Behind
  record_mirrored : records.Mirrored
  authorization_mirrored : authorizations.Mirrored
  recorded : ∀ h ∈ holds.records, ∃ r ∈ records.records, r.approvalId = h.approvalId ∧ told h.status r.decision ∧
    (r.decision = "approved" → SoleManual authorizations h.approvalId)
  authorized : ∀ a ∈ authorizations.records, ∃ r ∈ records.records,
    a.approvalId = some r.approvalId ∧ r.decision = "approved"

namespace Linked

variable {told : ApprovalStatus → String → Prop} {drawn drawn' : String → Prop}
  {holds holds' : DurableStore ApprovalHold} {records records' : DurableStore ApprovalRecord}
  {authorizations authorizations' : DurableStore ExecutionAuthorization}

theorem empty (backend : Backend) : Linked told drawn (.empty backend) (.empty backend) (.empty backend) where
  hold_drawn _ hh := nomatch hh
  record_drawn _ hr := nomatch hr
  hold_unique := .nil
  record_unique := .nil
  hold_behind := .nil
  record_mirrored := .nil
  authorization_mirrored := .nil
  recorded _ hh := nomatch hh
  authorized _ ha := nomatch ha

section
variable (linked : Linked told drawn holds records authorizations)
include linked

theorem grow (grows : ∀ id, drawn id → drawn' id) : Linked told drawn' holds records authorizations :=
  { linked with
    hold_drawn := fun h hh => grows _ (linked.hold_drawn h hh)
    record_drawn := fun r hr => grows _ (linked.record_drawn r hr) }

theorem hold_eq {h h' : ApprovalHold} (hh : h ∈ holds.records) (hh' : h' ∈ holds.records)
    (id : h.approvalId = h'.approvalId) : h = h' :=
  List.inj_on_of_nodup_map linked.hold_unique hh hh' id

theorem record_eq {r r' : ApprovalRecord} (hr : r ∈ records.records) (hr' : r' ∈ records.records)
    (id : r.approvalId = r'.approvalId) : r = r' :=
  List.inj_on_of_nodup_map linked.record_unique hr hr' id

/-- No authorization without an approved record. -/
theorem authorizationsOf_nil {approvalId : String}
    (unapproved : ∀ r ∈ records.records, r.approvalId = approvalId → r.decision ≠ "approved") :
    authorizationsOf authorizations approvalId = [] := by
  refine List.filter_eq_nil_iff.mpr fun a ha => ?_
  obtain ⟨r, hr, approval, approved⟩ := linked.authorized a ha
  have other : r.approvalId ≠ approvalId := fun id => unapproved r hr id approved
  simp [approval, other]

/-- A record with an identifier of its own. -/
theorem saveRecord {r : ApprovalRecord} (grows : ∀ id, drawn id → drawn' id) (known : drawn' r.approvalId)
    (new : ¬drawn r.approvalId) : Linked told drawn' holds (records.save r) authorizations :=
  { linked.grow grows with
    record_drawn := fun r' hr' => by
      rcases List.mem_append.mp hr' with hr' | hr'
      · exact grows _ (linked.record_drawn r' hr')
      · rwa [List.mem_singleton.mp hr']
    record_unique := linked.record_unique.save fun r' hr' id => new (id ▸ linked.record_drawn r' hr')
    record_mirrored := linked.record_mirrored.save (fun _ => rfl) r
    recorded := fun h hh => by
      obtain ⟨r', hr', rest⟩ := linked.recorded h hh
      exact ⟨r', List.mem_append_left _ hr', rest⟩
    authorized := fun a ha => by
      obtain ⟨r', hr', rest⟩ := linked.authorized a ha
      exact ⟨r', List.mem_append_left _ hr', rest⟩ }

/-- A hold with a record that is not resolved. -/
theorem saveHold {h : ApprovalHold} {r : ApprovalRecord} (known : drawn h.approvalId)
    (new : ∀ h' ∈ holds.records, h'.approvalId ≠ h.approvalId) (hr : r ∈ records.records)
    (id : r.approvalId = h.approvalId) (tells : told h.status r.decision) (unapproved : r.decision ≠ "approved") :
    Linked told drawn (holds.save h) records authorizations :=
  { linked with
    hold_drawn := fun h' hh' => by
      rcases List.mem_append.mp hh' with hh' | hh'
      · exact linked.hold_drawn h' hh'
      · rwa [List.mem_singleton.mp hh']
    hold_unique := linked.hold_unique.save new
    hold_behind := linked.hold_behind.save .refl h
    recorded := fun h' hh' => by
      rcases List.mem_append.mp hh' with hh' | hh'
      · exact linked.recorded h' hh'
      · rw [List.mem_singleton.mp hh']
        exact ⟨r, hr, id, tells, fun approved => absurd approved unapproved⟩ }

/-- An authorization of an approved record that belongs to no hold. -/
theorem saveAuthorization {r : ApprovalRecord} {a : ExecutionAuthorization} (hr : r ∈ records.records)
    (approval : a.approvalId = some r.approvalId) (approved : r.decision = "approved")
    (free : ∀ h ∈ holds.records, h.approvalId ≠ r.approvalId) :
    Linked told drawn holds records (authorizations.save a) :=
  { linked with
    authorization_mirrored := linked.authorization_mirrored.save (fun _ => rfl) a
    recorded := fun h hh => by
      obtain ⟨r', hr', id, tells, sole⟩ := linked.recorded h hh
      refine ⟨r', hr', id, tells, fun approved' => ?_⟩
      obtain ⟨b, only, manual⟩ := sole approved'
      have other : a.approvalId ≠ some h.approvalId := by
        rw [approval]
        exact fun e => free h hh (Option.some.inj e).symm
      refine ⟨b, ?_, manual⟩
      rw [← only, authorizationsOf, DurableStore.save, List.filter_append]
      simp [authorizationsOf, other]
    authorized := fun b hb => by
      rcases List.mem_append.mp hb with hb | hb
      · exact linked.authorized b hb
      · rw [List.mem_singleton.mp hb]
        exact ⟨r, hr, approval, approved⟩ }

/-- One hold set anew. -/
theorem updateHold {approvalId : String} {f : ApprovalHold → ApprovalHold}
    (keeps : ∀ h, (f h).approvalId = h.approvalId)
    (tells : ∀ h ∈ holds.records, ∀ r ∈ records.records, h.approvalId = approvalId → r.approvalId = approvalId →
      told h.status r.decision → told (f h).status r.decision) :
    Linked told drawn (holds.update (·.approvalId) approvalId f) records authorizations :=
  { linked with
    hold_drawn := fun h hh => by
      rcases (DurableStore.mem_update linked.hold_unique).mp hh with ⟨old, hold, -, rfl⟩ | ⟨hh, -⟩
      · rw [keeps]
        exact linked.hold_drawn old hold
      · exact linked.hold_drawn h hh
    hold_unique := linked.hold_unique.update keeps
    hold_behind := linked.hold_behind.update linked.hold_unique .refl fun _ _ h => h.id
    recorded := fun h hh => by
      rcases (DurableStore.mem_update linked.hold_unique).mp hh with ⟨old, hold, id, rfl⟩ | ⟨hh, -⟩
      · obtain ⟨r, hr, same, told, sole⟩ := linked.recorded old hold
        rw [keeps]
        exact ⟨r, hr, same, tells old hold r hr id (same.trans id) told, sole⟩
      · exact linked.recorded h hh }

end

/-- What a restart leaves. -/
theorem restart (linked : Linked Agrees drawn holds records authorizations) {load : ApprovalHold → ApprovalHold}
    (keeps : ∀ h, (load h).approvalId = h.approvalId) (status : ∀ h, (load h).status = h.status) :
    Linked Lags drawn (holds.restart load) (records.restart id) (authorizations.restart id) := by
  -- A hold that is read back is one that was there, its status perhaps pending.
  have back : ∀ h ∈ (holds.restart load).records, ∃ old ∈ holds.records, old.approvalId = h.approvalId ∧
      (h.status = .pending ∨ h.status = old.status) := fun h hh => by
    obtain ⟨d, hd, rfl⟩ := List.mem_map.mp hh
    obtain ⟨old, hold, behind⟩ := linked.hold_behind.exists_of_mem hd
    exact ⟨old, hold, by rw [keeps, behind.id], by rw [status]; exact behind.status⟩
  have same : (records.restart id).records = records.records := linked.record_mirrored.restart
  have given : (authorizations.restart id).records = authorizations.records := linked.authorization_mirrored.restart
  refine ⟨fun h hh => ?_, fun r hr => linked.record_drawn r (same ▸ hr), ?_, ?_,
    DurableStore.Trails.restart fun h => ⟨(keeps h).symm, .inr (status h).symm⟩,
    DurableStore.Trails.restart fun _ => rfl, DurableStore.Trails.restart fun _ => rfl, fun h hh => ?_, ?_⟩
  · obtain ⟨old, hold, id, -⟩ := back h hh
    exact id ▸ linked.hold_drawn old hold
  · have keys := linked.hold_behind.keys fun _ _ h => h.id
    have loaded : (holds.restart load).records.map (·.approvalId) = holds.durable.map (·.approvalId) := by
      rw [DurableStore.restart, List.map_map]
      exact List.map_congr_left fun h _ => keeps h
    rw [DurableStore.Unique, loaded, keys]
    exact linked.hold_unique
  · rw [DurableStore.Unique, same]
    exact linked.record_unique
  · obtain ⟨old, hold, id, fell⟩ := back h hh
    obtain ⟨r, hr, same', agrees, sole⟩ := linked.recorded old hold
    refine ⟨r, same ▸ hr, same'.trans id, fell.imp_right fun e => by rwa [e], fun approved => ?_⟩
    obtain ⟨a, only, manual⟩ := sole approved
    exact ⟨a, by rw [← only, ← id, authorizationsOf, given]; rfl, manual⟩
  · rw [given, same]
    exact linked.authorized

/-- A pending hold resolved, with its record and, where it is approved, an authorization. -/
theorem resolve (linked : Linked Agrees drawn holds records authorizations) {h : ApprovalHold}
    (hh : h ∈ holds.records) (pending : h.status = .pending) {f : ApprovalHold → ApprovalHold}
    {g : ApprovalRecord → ApprovalRecord}
    (set : holds'.records = DurableStore.setKey (·.approvalId) h.approvalId f holds.records)
    (set_record : records'.records = DurableStore.setKey (·.approvalId) h.approvalId g records.records)
    (keeps : ∀ h, (f h).approvalId = h.approvalId) (keeps_record : ∀ r, (g r).approvalId = r.approvalId)
    (tells : ∀ r ∈ records.records, r.decision ≠ "approved" → Agrees (f h).status (g r).decision)
    (behind : holds'.Trails Behind) (mirrored : records'.Mirrored) (mirrored' : authorizations'.Mirrored)
    (given : (authorizations'.records = authorizations.records ∧
        ∀ r ∈ records.records, r.decision ≠ "approved" → (g r).decision ≠ "approved") ∨
      ∃ a, authorizations'.records = authorizations.records ++ [a] ∧ a.approvalId = some h.approvalId ∧
        a.authorizationType = "manual" ∧ ∀ r, (g r).decision = "approved") :
    Linked Agrees drawn holds' records' authorizations' := by
  obtain ⟨own, hown, own_id, own_tells, -⟩ := linked.recorded h hh
  have unapproved : ∀ r ∈ records.records, r.approvalId = h.approvalId → r.decision ≠ "approved" := fun r hr id e => by
    rw [pending, ← linked.record_eq hr hown (id.trans own_id.symm), e] at own_tells
    simp [Agrees, terminalStatus] at own_tells
  have mem : ∀ {h'}, h' ∈ holds'.records ↔ (∃ old ∈ holds.records, old.approvalId = h.approvalId ∧ h' = f old) ∨
      (h' ∈ holds.records ∧ h'.approvalId ≠ h.approvalId) := by
    rw [set]
    exact DurableStore.mem_setKey
  have mem_record : ∀ {r}, r ∈ records'.records ↔
      (∃ old ∈ records.records, old.approvalId = h.approvalId ∧ r = g old) ∨
        (r ∈ records.records ∧ r.approvalId ≠ h.approvalId) := by
    rw [set_record]
    exact DurableStore.mem_setKey
  have none_before : authorizationsOf authorizations h.approvalId = [] := linked.authorizationsOf_nil unapproved
  refine ⟨fun h' hh' => ?_, fun r hr => ?_, ?_, ?_, behind, mirrored, mirrored', fun h' hh' => ?_, fun a ha => ?_⟩
  · rcases mem.mp hh' with ⟨old, hold, -, rfl⟩ | ⟨hh', -⟩
    · rw [keeps]
      exact linked.hold_drawn old hold
    · exact linked.hold_drawn h' hh'
  · rcases mem_record.mp hr with ⟨old, hold, -, rfl⟩ | ⟨hr, -⟩
    · rw [keeps_record]
      exact linked.record_drawn old hold
    · exact linked.record_drawn r hr
  · rw [DurableStore.Unique, set, DurableStore.setKey_keys keeps]
    exact linked.hold_unique
  · rw [DurableStore.Unique, set_record, DurableStore.setKey_keys keeps_record]
    exact linked.record_unique
  · rcases mem.mp hh' with ⟨old, hold, id, rfl⟩ | ⟨hh', other⟩
    · obtain rfl := linked.hold_eq hold hh id
      refine ⟨g own, mem_record.mpr (.inl ⟨own, hown, own_id, rfl⟩), by rw [keeps, keeps_record, own_id],
        tells own hown (unapproved own hown own_id), fun approved => ?_⟩
      rcases given with ⟨-, never⟩ | ⟨a, added, approval, manual, -⟩
      · exact absurd approved (never own hown (unapproved own hown own_id))
      · rw [keeps]
        refine ⟨a, ?_, manual⟩
        rw [authorizationsOf, added, List.filter_append, ← authorizationsOf, none_before]
        simp [approval]
    · obtain ⟨r, hr, id, tells', sole⟩ := linked.recorded h' hh'
      refine ⟨r, mem_record.mpr (.inr ⟨hr, id ▸ other⟩), id, tells', fun approved => ?_⟩
      obtain ⟨b, only, manual⟩ := sole approved
      refine ⟨b, ?_, manual⟩
      rcases given with ⟨same, -⟩ | ⟨a, added, approval, -⟩
      · rw [← only, authorizationsOf, same, ← authorizationsOf]
      · rw [← only, authorizationsOf, added, List.filter_append]
        simp [authorizationsOf, approval, other.symm]
  · rcases given with ⟨same, -⟩ | ⟨b, added, approval, -, approves⟩
    · obtain ⟨r, hr, rest⟩ := linked.authorized a (same ▸ ha)
      exact ⟨r, mem_record.mpr (.inr ⟨hr, fun id => unapproved r hr id rest.2⟩), rest⟩
    · rcases List.mem_append.mp (added ▸ ha) with ha | ha
      · obtain ⟨r, hr, rest⟩ := linked.authorized a ha
        exact ⟨r, mem_record.mpr (.inr ⟨hr, fun id => unapproved r hr id rest.2⟩), rest⟩
      · rw [List.mem_singleton.mp ha]
        exact ⟨g own, mem_record.mpr (.inl ⟨own, hown, own_id, rfl⟩), by rw [approval, keeps_record, own_id],
          approves own⟩

end Linked

/-! ### One call -/

/-- The identifier has been drawn. -/
def Drawn (uuid4 : Nat → Uuid) (s : State W) (id : String) : Prop := ∃ n < s.draws, id = (uuid4 n).text

/-- What a state between calls is like. -/
abbrev Agreed (uuid4 : Nat → Uuid) (s : State W) : Prop :=
  Linked Agrees (Drawn uuid4 s) s.holds s.records s.authorizations

section
variable {uuid4 : Nat → Uuid} {s s' : State W}

theorem Drawn.mono {id : String} (draws : s.draws ≤ s'.draws) (h : Drawn uuid4 s id) : Drawn uuid4 s' id := by
  obtain ⟨n, hn, rfl⟩ := h
  exact ⟨n, hn.trans_le draws, rfl⟩

theorem New.drawn {id : String} (h : New uuid4 s s' id) : Drawn uuid4 s' id := by
  obtain ⟨n, -, hn, rfl⟩ := h
  exact ⟨n, hn, rfl⟩

theorem New.draws {id : String} (h : New uuid4 s s' id) : s.draws ≤ s'.draws := by
  obtain ⟨n, lower, upper, -⟩ := h
  exact lower.trans upper.le

theorem New.fresh {id : String} (h : New uuid4 s s' id)
    (fresh : ∀ m n, (uuid4 m).text = (uuid4 n).text → m = n) : ¬Drawn uuid4 s id := by
  rintro ⟨m, hm, rfl⟩
  obtain ⟨n, lower, -, same⟩ := h
  exact absurd (fresh m n same) (by omega)

/-- Whatever is made of a pending hold in memory, the disk is one decision behind. -/
theorem behind_mutate (agreed : Agreed uuid4 s) {h : ApprovalHold} (hh : h ∈ s.holds.records)
    (status : h.status = .pending) {f : ApprovalHold → ApprovalHold} (keeps : ∀ h, (f h).approvalId = h.approvalId) :
    (s.holds.mutate (·.approvalId) h.approvalId f).Trails Behind := by
  refine agreed.hold_behind.mutate agreed.hold_unique fun d old hold behind id =>
    ⟨behind.id.trans (keeps old).symm, .inl ?_⟩
  rw [agreed.hold_eq hold hh id] at behind
  exact behind.status.elim (·) (·.trans status)

theorem mirrored_update (agreed : Agreed uuid4 s) {approvalId : String} {f : ApprovalRecord → ApprovalRecord} :
    (s.records.update (·.approvalId) approvalId f).Mirrored :=
  agreed.record_mirrored.update agreed.record_unique (fun _ => rfl) fun _ _ h => h ▸ rfl

/-- **What a call does keeps the stores in agreement.** -/
theorem Effect.agreed (fresh : ∀ m n, (uuid4 m).text = (uuid4 n).text → m = n) (effect : Effect uuid4 s s')
    (agreed : Agreed uuid4 s) : Agreed uuid4 s' := by
  unfold Agreed at *
  cases effect with
  | quiet quiet =>
    rw [quiet.holds, quiet.records, quiet.authorizations]
    exact agreed.grow fun _ => Drawn.mono quiet.draws
  | recorded r id decision holds records authorizations =>
    rw [holds, records, authorizations]
    exact agreed.saveRecord (fun _ => Drawn.mono id.draws) id.drawn (id.fresh fresh)
  | held h r id status same decision holds records authorizations =>
    rw [holds, records, authorizations]
    have new := id.fresh fresh
    have saved := agreed.saveRecord (r := r) (fun _ => Drawn.mono id.draws) (same ▸ id.drawn) (same ▸ new)
    refine saved.saveHold id.drawn (fun h' hh' e => new (e ▸ agreed.hold_drawn h' hh'))
      (List.mem_append_right _ (List.mem_singleton_self r)) same ?_ (by simp [decision])
    simp [status, decision, Agrees, terminalStatus]
  | authorized r a id _ decision approval type holds records authorizations =>
    rw [holds, records, authorizations]
    have new := id.fresh fresh
    have saved := agreed.saveRecord (r := r) (fun _ => Drawn.mono id.draws) id.drawn new
    exact saved.saveAuthorization (List.mem_append_right _ (List.mem_singleton_self r)) approval decision
      fun h hh e => new (e ▸ agreed.hold_drawn h hh)
  | expired h row status draws holds records authorizations =>
    obtain ⟨hh, -⟩ := DurableStore.mem_of_get? row
    have set := (congrArg DurableStore.records holds).trans (DurableStore.mutate_records agreed.hold_unique)
    refine (agreed.grow fun _ => Drawn.mono draws).resolve hh status set
      ((congrArg DurableStore.records records).trans (DurableStore.setKey_id _).symm) (fun _ => rfl) (fun _ => rfl)
      (fun r _ unapproved => unapproved) (holds ▸ behind_mutate agreed hh status fun _ => rfl)
      (records ▸ agreed.record_mirrored) (authorizations ▸ agreed.authorization_mirrored)
      (.inl ⟨by rw [authorizations], fun _ _ unapproved => unapproved⟩)
  | rejected h approver row status draws holds records authorizations =>
    obtain ⟨hh, -⟩ := DurableStore.mem_of_get? row
    have set := (congrArg DurableStore.records holds).trans (DurableStore.mutate_records agreed.hold_unique)
    have set_record := (congrArg DurableStore.records records).trans (DurableStore.update_records agreed.record_unique)
    refine (agreed.grow fun _ => Drawn.mono draws).resolve hh status set set_record (fun _ => rfl) (fun _ => rfl)
      (fun r _ _ => ?_) (holds ▸ behind_mutate agreed hh status fun _ => rfl)
      (records ▸ mirrored_update agreed) (authorizations ▸ agreed.authorization_mirrored)
      (.inl ⟨by rw [authorizations], fun _ _ _ => by simp⟩)
    simp [Agrees]
  | approved h approver a row status authorizationId approval type holds records authorizations =>
    obtain ⟨hh, -⟩ := DurableStore.mem_of_get? row
    let approve (h : ApprovalHold) : ApprovalHold := { h with status := .approved }
    have unique : (s.holds.mutate (·.approvalId) h.approvalId approve).Unique (·.approvalId) :=
      agreed.hold_unique.mutate fun _ => rfl
    have behind : (s.holds.mutate (·.approvalId) h.approvalId approve).Trails Behind :=
      behind_mutate agreed hh status fun _ => rfl
    have set := (congrArg DurableStore.records holds).trans (DurableStore.mutate_records unique)
    rw [DurableStore.mutate_records agreed.hold_unique] at set
    replace set := set.trans (DurableStore.setKey_setKey (by exact fun _ => rfl) _ _)
    have set_record := (congrArg DurableStore.records records).trans (DurableStore.update_records agreed.record_unique)
    refine (agreed.grow fun _ => Drawn.mono authorizationId.draws).resolve hh status set set_record (fun _ => rfl)
      (fun _ => rfl) (fun r _ _ => rfl) ?_ (records ▸ mirrored_update agreed)
      (authorizations ▸ agreed.authorization_mirrored.save (fun _ => rfl) a)
      (.inr ⟨a, by rw [authorizations]; rfl, approval, type, fun _ => rfl⟩)
    rw [holds]
    exact behind.mutate unique fun _ _ _ behind _ => ⟨behind.id, behind.status⟩

/-! ### A restart -/

theorem correction_none {records : DurableStore ApprovalRecord} {hold : ApprovalHold}
    (h : correction records hold = none) (pending : hold.status = .pending) {r : ApprovalRecord}
    (found : records.get? (·.approvalId) hold.approvalId = some r) : terminalStatus r.decision = none := by
  refine Option.eq_none_iff_forall_ne_some.mpr fun status terminal => ?_
  simp [correction, pending, found, terminal] at h

theorem correction_some {records : DurableStore ApprovalRecord} {hold : ApprovalHold}
    {f : ApprovalHold → ApprovalHold} (h : correction records hold = some f) :
    hold.status = .pending ∧ ∃ r status, records.get? (·.approvalId) hold.approvalId = some r ∧
      terminalStatus r.decision = some status ∧ ∀ h, (f h).approvalId = h.approvalId ∧ (f h).status = status := by
  unfold correction at h
  split at h
  · cases h
  · next pending =>
    obtain ⟨r, found, h⟩ := Option.bind_eq_some_iff.mp h
    obtain ⟨status, terminal, h⟩ := Option.bind_eq_some_iff.mp h
    cases h
    exact ⟨not_not.mp pending, r, status, found, terminal, fun _ => ⟨rfl, rfl⟩⟩

/-- The hold number `i` corrected. -/
def reconcileAt (s : State W) (i : Nat) : State W :=
  match s.holds.records[i]? with
  | none => s
  | some hold => match correction s.records hold with
    | none => s
    | some f => { s with holds := s.holds.update (·.approvalId) hold.approvalId f }

theorem exec_reconcileFrom {L : Type} (left i : Nat) (s : State W) :
    (reconcileFrom left i : Governed W L Unit).exec s = (.ok (), (List.range' i left).foldl reconcileAt s) := by
  induction left generalizing i s with
  | zero => rfl
  | succ left ih =>
    rw [reconcileFrom, Script.exec_bind, Script.exec_read, List.range'_succ, List.foldl_cons, ← ih]
    cases found : s.holds.records[i]? with
    | none => simp [reconcileAt, found]
    | some hold =>
      cases corrected : correction s.records hold with
      | none => simp [reconcileAt, found, corrected]
      | some f => simp [reconcileAt, found, corrected, Script.exec_bind, updateHold]

/-- The first `i` of `n` holds are corrected. -/
structure Reconciled (uuid4 : Nat → Uuid) (n i : Nat) (s : State W) : Prop where
  linked : Linked Lags (Drawn uuid4 s) s.holds s.records s.authorizations
  count : s.holds.records.length = n
  done : ∀ j < i, ∀ h, s.holds.records[j]? = some h → ∀ r ∈ s.records.records, r.approvalId = h.approvalId →
    Agrees h.status r.decision

/-- Nothing to correct: the hold agrees already. -/
theorem Reconciled.skip {n i : Nat} (h : Reconciled uuid4 n i s)
    (last : ∀ hold, s.holds.records[i]? = some hold → ∀ r ∈ s.records.records, r.approvalId = hold.approvalId →
      Agrees hold.status r.decision) : Reconciled uuid4 n (i + 1) s where
  linked := h.linked
  count := h.count
  done j hj hold found := by
    rcases Nat.lt_succ_iff_lt_or_eq.mp hj with hj | rfl
    · exact h.done j hj hold found
    · exact last hold found

theorem Reconciled.step {n i : Nat} (h : Reconciled uuid4 n i s) : Reconciled uuid4 n (i + 1) (reconcileAt s i) := by
  unfold reconcileAt
  split
  · next none => exact h.skip fun hold found => by simp [none] at found
  · next hold found =>
    obtain ⟨own, hown, own_id, lags, -⟩ := h.linked.recorded hold (List.mem_of_getElem? found)
    have stored : s.records.get? (·.approvalId) hold.approvalId = some own := h.linked.record_unique.get? hown own_id
    have only : ∀ r ∈ s.records.records, r.approvalId = hold.approvalId → r = own := fun r hr id =>
      h.linked.record_eq hr hown (id.trans own_id.symm)
    split
    · next corrected =>
      refine h.skip fun hold' found' r hr id => ?_
      obtain rfl : hold = hold' := Option.some.inj (found.symm.trans found')
      rw [only r hr id]
      rcases lags with pending | agrees
      · rw [pending]
        exact correction_none corrected pending stored
      · exact agrees
    · next f corrected =>
      obtain ⟨pending, r, status, stored', terminal, result⟩ := correction_some corrected
      obtain rfl : own = r := Option.some.inj (stored.symm.trans stored')
      have resolves : ∀ r ∈ s.records.records, r.approvalId = hold.approvalId → ∀ h, Agrees (f h).status r.decision :=
        fun r hr id h => by
          rw [only r hr id, (result h).2]
          exact agrees_terminal terminal
      have set : (s.holds.update (·.approvalId) hold.approvalId f).records =
          DurableStore.setKey (·.approvalId) hold.approvalId f s.holds.records :=
        DurableStore.update_records h.linked.hold_unique
      refine ⟨h.linked.updateHold (fun h => (result h).1) fun h _ r hr _ id _ => .inr (resolves r hr id h), ?_,
        fun j hj hold' found' r hr id => ?_⟩
      · rw [set, DurableStore.setKey, List.length_map, h.count]
      · -- The hold at `j` is the corrected one, or it is as it was.
        rw [set, DurableStore.setKey, List.getElem?_map] at found'
        obtain ⟨old, at_j, rfl⟩ := Option.map_eq_some_iff.mp found'
        by_cases same : old.approvalId = hold.approvalId
        · rw [if_pos same] at id ⊢
          exact resolves r hr (id.trans ((result old).1.trans same)) old
        · rw [if_neg same] at id ⊢
          refine h.done j (lt_of_le_of_ne (Nat.le_of_lt_succ hj) fun e => same ?_) old at_j r hr id
          rw [e, found] at at_j
          rw [Option.some.inj at_j]

theorem Reconciled.run {n i : Nat} (left : Nat) (h : Reconciled uuid4 n i s) :
    Reconciled uuid4 n (i + left) ((List.range' i left).foldl reconcileAt s) := by
  induction left generalizing i s with
  | zero => exact h
  | succ left ih =>
    rw [List.range'_succ, List.foldl_cons, show i + (left + 1) = i + 1 + left by omega]
    exact ih h.step

theorem Reconciled.agreed {n : Nat} (h : Reconciled uuid4 n n s) : Agreed uuid4 s :=
  { h.linked with
    recorded := fun hold mem => by
      obtain ⟨r, hr, id, -, sole⟩ := h.linked.recorded hold mem
      obtain ⟨j, hj, found⟩ := List.mem_iff_getElem.mp mem
      refine ⟨r, hr, id, h.done j (h.count ▸ hj) hold ?_ r hr id, sole⟩
      rw [List.getElem?_eq_getElem hj, found] }

/-- **A restart keeps the stores in agreement.** -/
theorem restart_agreed (P : Platform W L) (agreed : Agreed uuid4 s) :
    Agreed uuid4 ((reconcileHolds : Governed W L Unit).exec (s.restart P)).2 := by
  have start : Reconciled uuid4 (s.restart P).holds.records.length 0 (s.restart P) :=
    ⟨agreed.restart (fun _ => rfl) fun _ => rfl, rfl, fun j hj => absurd hj (Nat.not_lt_zero j)⟩
  rw [reconcileHolds, Script.exec_bind, Script.exec_read]
  dsimp only
  rw [exec_reconcileFrom]
  have done := start.run (s.restart P).holds.records.length
  rw [Nat.zero_add] at done
  exact done.agreed

end

/-! ### Runs -/

/-- A call of one of the two entry points, whatever is registered by then, or a restart. -/
inductive Served (P : Platform W L) (s : State W) : State W → Prop where
  | governed (registry : Registry W L) (action : ActionRequest) (adapterName : String) :
      Served P s ((executeGovernedAction (P.registering registry) action adapterName).exec s).2
  | approve (registry : Registry W L) (approvalId approvedBy : String) (approved : Bool) :
      Served P s ((approveHeldAction (P.registering registry) approvalId approvedBy approved).exec s).2
  | restart : Served P s ((reconcileHolds : Governed W L Unit).exec (s.restart P)).2

theorem Served.agreed {P : Platform W L} {s s' : State W} (h : Served P s s') (agreed : Agreed P.uuid4 s) :
    Agreed P.uuid4 s' := by
  cases h with
  | governed registry action adapterName =>
    exact (executeGovernedAction_effect (P := P.registering registry) action adapterName).agreed P.uuid4_fresh agreed
  | approve registry approvalId approvedBy approved =>
    exact (approveHeldAction_effect (P := P.registering registry) approvalId approvedBy approved).agreed P.uuid4_fresh
      agreed
  | restart => exact restart_agreed P agreed

theorem agreed_run {P : Platform W L} {backend : Backend} {world : W} {s : State W}
    (h : Relation.ReflTransGen (Served P) (State.initial backend world) s) : Agreed P.uuid4 s := by
  induction h with
  | refl => exact .empty backend
  | tail _ step ih => exact step.agreed ih

theorem auditAuthorizations_nil {uuid4 : Nat → Uuid} {s : State W} (agreed : Agreed uuid4 s) :
    auditAuthorizations s = [] := by
  refine List.filterMap_eq_nil_iff.mpr fun a ha => ?_
  obtain ⟨r, hr, approval, approved⟩ := agreed.authorized a ha
  have stored : s.record? r.approvalId = some r := agreed.record_unique.get? hr rfl
  have quiet : issue s r.approvalId = none := by
    unfold issue
    simp only [stored, approved, terminalStatus]
    cases found : s.hold? r.approvalId with
    | none => simp
    | some hold =>
      obtain ⟨mem, id⟩ := DurableStore.mem_of_get? found
      obtain ⟨r', hr', id', agrees, -⟩ := agreed.recorded hold mem
      rw [agreed.record_eq hr' hr (id'.trans id)] at agrees
      have := agrees.approved_iff.mpr approved
      simp [this]
  simp [approval, quiet]

/-- **Holds, records and authorizations agree** in every state between calls. -/
theorem stores_agree (P : Platform W L) (backend : Backend) (world : W) (s : State W)
    (h : Relation.ReflTransGen (Served P) (State.initial backend world) s) :
    (∀ hold ∈ s.holds.records,
      ((∃ a ∈ s.authorizations.records, a.approvalId = some hold.approvalId ∧ a.authorizationType = "manual") ↔
        hold.status = .approved) ∧
      (hold.status = .approved ↔
        ∃ r ∈ s.records.records, r.approvalId = hold.approvalId ∧ r.decision = "approved") ∧
      (hold.status = .approved →
        (∃ a, (s.authorizations.records.filter fun a => a.approvalId = some hold.approvalId) = [a] ∧
          a.authorizationType = "manual") ∧
        ∃ r, (s.records.records.filter fun r => r.approvalId = hold.approvalId) = [r]) ∧
      (hold.status ≠ .approved →
        (s.authorizations.records.filter fun a => a.approvalId = some hold.approvalId) = [])) ∧
    auditAuthorizations s = [] := by
  have agreed := agreed_run h
  refine ⟨fun hold mem => ?_, auditAuthorizations_nil agreed⟩
  obtain ⟨r, hr, id, agrees, sole⟩ := agreed.recorded hold mem
  have iff := agrees.approved_iff
  have only : ∀ r' ∈ s.records.records, r'.approvalId = hold.approvalId → r' = r := fun r' hr' id' =>
    agreed.record_eq hr' hr (id'.trans id.symm)
  have absent : hold.status ≠ .approved → authorizationsOf s.authorizations hold.approvalId = [] := fun unapproved =>
    agreed.authorizationsOf_nil fun r' hr' id' => only r' hr' id' ▸ fun approved => unapproved (iff.mpr approved)
  refine ⟨⟨fun ⟨a, ha, approval, _⟩ => ?_, fun approved => ?_⟩, ⟨fun approved => ⟨r, hr, id, iff.mp approved⟩, ?_⟩,
    fun approved => ⟨sole (iff.mp approved), r, agreed.record_unique.filter hr id⟩, absent⟩
  · by_contra unapproved
    exact List.filter_eq_nil_iff.mp (absent unapproved) a ha (by simpa using approval)
  · obtain ⟨a, single, manual⟩ := sole (iff.mp approved)
    obtain ⟨ha, approval⟩ := List.mem_filter.mp (single ▸ List.mem_singleton_self a : a ∈ authorizationsOf _ _)
    exact ⟨a, ha, by simpa using approval, manual⟩
  · rintro ⟨r', hr', id', approved⟩
    exact iff.mpr (only r' hr' id' ▸ approved)

namespace Sample

/-- The sample action with a request for approval. -/
def guarded : ActionRequest := { action with requiresApproval := true }

/-- The guarded action held, approved, executed, and the process restarted. -/
def resumed : State Unit :=
  let held := ((executeGovernedAction platform guarded "simulation").exec (State.initial .json ())).2
  let executed := ((approveHeldAction platform "2" "operator" true).exec held).2
  ((reconcileHolds : Governed Unit Empty Unit).exec (executed.restart platform)).2

theorem resumed_run : Relation.ReflTransGen (Served platform) (State.initial .json ()) resumed :=
  .tail (.tail (.single (.governed platform.toRegistry guarded "simulation"))
    (.approve platform.toRegistry "2" "operator" true)) .restart

end Sample

theorem stores_agree_resumed : ∃ a ∈ Sample.resumed.authorizations.records,
    a.approvalId = some "2" ∧ a.authorizationType = "manual" := by
  obtain ⟨hold, mem, id, approved⟩ : ∃ hold ∈ Sample.resumed.holds.records,
      hold.approvalId = "2" ∧ hold.status = .approved := by
    decide +kernel
  obtain ⟨a, ha, approval, manual⟩ :=
    ((stores_agree Sample.platform .json () Sample.resumed Sample.resumed_run).1 hold mem).1.mpr approved
  exact ⟨a, ha, id ▸ approval, manual⟩

end RmtPlatform.Core
