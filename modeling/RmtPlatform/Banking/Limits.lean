import RmtPlatform.Banking.Supervisor
import RmtPlatform.Process.SlidingWindow

/-! The limits of the banking supervisor.

A limit bounds what the releases of a kind weigh in a window of time, whether that is an
amount of money or a number of releases. What a worker is shown of the ledger is at least
what it has released itself (`used_ge`, `count_ge`), so what it lets in keeps the limit
beside its own releases (`Admitted`). -/
namespace RmtPlatform.Banking

open SlidingWindow (weigh)

/-- What a release weighs in dollars. -/
def usd (r : Release) : ℚ := (⟨r.amountUsdEquivalent, -2⟩ : Decimal).value

def Release.isCrossBorder (r : Release) : Bool := r.correspondentBankId.isSome

/-- At most `bound` in any window of this length. -/
structure Limit where
  weight : Release → ℚ
  covers : Release → Bool
  length : Int
  bound : ℚ

/-- What the limit covers, in the window of this length that ends at `t`. -/
def Limit.weighed (L : Limit) (t : Int) (releases : List Release) : ℚ :=
  weigh L.weight (fun r => L.covers r && (t - L.length < r.createdAt ∧ r.createdAt ≤ t)) releases

namespace Deployment
variable (D : Deployment)

/-- The rate of a currency, by the kind of the channel. -/
def rateOf (isCrossBorder : Bool) (currency : String) : Option Decimal :=
  if currency = "USD" then some one else if isCrossBorder then D.references.fxRate currency else none

/-- What an amount comes to in dollars; raises where `quantize` does. -/
def usdEquivalentOf (isCrossBorder : Bool) (currency : String) (amount : Decimal) : Option (Option Decimal) :=
  match D.rateOf isCrossBorder currency with
  | some rate => ((amount * rate).quantize (-2)).map some
  | none => some none

def tierOf (counterpartyId : String) : RiskTier :=
  ((D.references.counterparty counterpartyId).map (·.riskTier)).getD .medium

def singleTxLimitOf (isCrossBorder : Bool) (counterpartyId : String) : Option Decimal :=
  (D.config.baseSingleTxLimit * D.config.tierMultiplier (D.tierOf counterpartyId) *
    if isCrossBorder then D.config.crossBorderLimitMult else one).quantize (-2)

def nearLimitFloorOf (isCrossBorder : Bool) (counterpartyId : String) : Option Decimal :=
  (D.singleTxLimitOf isCrossBorder counterpartyId).bind fun limit =>
    (limit * D.config.structuringNearLimitFraction).quantize (-2)

/-- The limits of a deployment. -/
inductive IsLimit : Limit → Prop where
  | agent (agentId : String) :
      IsLimit ⟨usd, fun r => r.agentId = agentId, D.config.exposureWindowHours * hour, D.config.agentExposureCap.value⟩
  | counterparty (agentId counterpartyId : String) :
      IsLimit ⟨usd, fun r => r.agentId = agentId && r.counterpartyId = counterpartyId,
        D.config.exposureWindowHours * hour, D.config.counterpartyExposureCap.value⟩
  | nostro (bank : String) (c : Correspondent) (there : D.references.correspondent bank = some c)
      (positive : 0 ≤ c.nostroExposureCap) :
      IsLimit ⟨usd, fun r => r.correspondentBankId = some bank, D.config.exposureWindowHours * hour,
        (⟨c.nostroExposureCap, -2⟩ : Decimal).value⟩
  | velocity (agentId : String) :
      IsLimit ⟨fun _ => 1, fun r => r.agentId = agentId, D.config.velocityWindowSeconds * second, D.config.velocityMaxTx⟩
  /-- Releases near the limit of the tier and the channel. -/
  | structuring (agentId counterpartyId : String) (isCrossBorder : Bool) (floor : Decimal)
      (near : D.nearLimitFloorOf isCrossBorder counterpartyId = some floor) :
      IsLimit ⟨fun _ => 1, fun r => r.agentId = agentId && r.counterpartyId = counterpartyId &&
          r.isCrossBorder = isCrossBorder && floor ≤ (⟨r.amountUsdEquivalent, -2⟩ : Decimal),
        D.config.structuringWindowSeconds * second, D.config.structuringCountThreshold - 1⟩

/-- What is checked of a release by itself. -/
structure Screened (e : Released) : Prop where
  agent : e.release.agentId = D.agentId
  ordered : e.evaluatedAt ≤ e.release.createdAt
  window : D.inWindow (e.evaluatedAt % day) = true
  amount : 0 ≤ e.release.amountUsdEquivalent
  converted : D.usdEquivalentOf e.release.isCrossBorder e.release.currency ⟨e.release.amount, -2⟩ =
    some (some ⟨e.release.amountUsdEquivalent, -2⟩)
  counterparty : ∀ c, D.references.counterparty e.release.counterpartyId = some c → c.sanctioned = false
  correspondent : ∀ bank, e.release.correspondentBankId = some bank →
    ∃ c, D.references.correspondent bank = some c ∧ c.approved = true ∧ c.sanctioned = false
  single : ∃ limit, D.singleTxLimitOf e.release.isCrossBorder e.release.counterpartyId = some limit ∧
    (⟨e.release.amountUsdEquivalent, -2⟩ : Decimal) ≤ limit

/-- A limit has room for a release, beside others. -/
def HasRoom (e : Released) (others : List Release) : Prop :=
  ∀ L, D.IsLimit L → L.covers e.release = true →
    weigh L.weight (fun r => L.covers r && e.evaluatedAt - L.length ≤ r.createdAt) others + L.weight e.release ≤ L.bound

/-- What the supervisor's figures are, for its limits to be kept. -/
structure Steady : Prop where
  clock : ∀ ⦃m n : Nat⦄, m ≤ n → D.clock m ≤ D.clock n
  rates : ∀ currency rate, D.references.fxRate currency = some rate → 0 ≤ rate.coefficient
  counterpartyCap : D.config.counterpartyExposureCap.value < 10 ^ 26
  agentCap : D.config.agentExposureCap.value < 10 ^ 26

end Deployment

/-! ### The journal -/

variable {ι : Type}

def Event.released : Event ι → Option (ι × Released)
  | .recorded i _ (some e) => some (i, e)
  | _ => none

def Event.row : Event ι → Option AuditRow
  | .recorded _ row _ => some row
  | _ => none

/-- What has been released, the earliest first, and by whom. -/
def released (journal : List (Event ι)) : List (ι × Released) := journal.reverse.filterMap Event.released

def audited (journal : List (Event ι)) : List AuditRow := journal.reverse.filterMap Event.row

/-- The rows of these releases. -/
def rows (released : List (ι × Released)) : List Release := released.map (·.2.release)

theorem released_cons (e : Event ι) (journal : List (Event ι)) :
    released (e :: journal) = released journal ++ e.released.toList := by
  cases h : e.released <;> simp [released, h]

theorem audited_cons (e : Event ι) (journal : List (Event ι)) :
    audited (e :: journal) = audited journal ++ e.row.toList := by
  cases h : e.row <;> simp [audited, h]

theorem rows_append (xs ys : List (ι × Released)) : rows (xs ++ ys) = rows xs ++ rows ys := List.map_append

section
variable [DecidableEq ι]

/-- What a worker has done itself. -/
def own (i : ι) (journal : List (Event ι)) : List (Event ι) := journal.filter fun e => e.worker = i

theorem own_cons (i : ι) (e : Event ι) (journal : List (Event ι)) :
    own i (e :: journal) = if e.worker = i then e :: own i journal else own i journal := by
  simp [own, List.filter_cons]

theorem own_mem {i : ι} {e : Event ι} {journal : List (Event ι)} (h : e ∈ own i journal) : e ∈ journal :=
  List.mem_of_mem_filter h

theorem released_own (i : ι) (journal : List (Event ι)) :
    released (own i journal) = (released journal).filter fun e => e.1 = i := by
  induction journal with
  | nil => rfl
  | cons e rest ih =>
    by_cases mine : e.worker = i
    · rw [own_cons, if_pos mine, released_cons, released_cons, ih, List.filter_append]
      congr 1
      cases e with
      | drew j n => rfl
      | recorded j row release =>
        obtain rfl : j = i := mine
        cases release <;> simp [Event.released]
      | answered j call response => rfl
    · have none_ : e.released.toList.filter (fun e => decide (e.1 = i)) = [] := by
        cases e with
        | drew j n => rfl
        | recorded j row release =>
          have other : j ≠ i := mine
          cases release <;> simp [Event.released, other]
        | answered j call response => rfl
      rw [own_cons, if_neg mine, released_cons, ih, List.filter_append, none_, List.append_nil]

end

/-! ### What is shown -/

section
variable {p : Release → Bool} {l : Ledger}

theorem value_sum (p : Release → Bool) (releases : List Release) :
    (⟨((releases.filter p).map (·.amountUsdEquivalent)).sum, -2⟩ : Decimal).value = weigh usd p releases := by
  unfold weigh usd Decimal.value
  induction releases.filter p with
  | nil => simp
  | cons r rest ih =>
    rw [List.map_cons, List.sum_cons, List.map_cons, List.sum_cons, ← ih]
    push_cast
    exact add_mul _ _ _

theorem value_count (p : Release → Bool) (releases : List Release) :
    (((releases.filter p).length : Int) : ℚ) = weigh (fun _ => 1) p releases := by
  simp [weigh]

theorem sum_nonneg (amounts : ∀ r ∈ l.releases, 0 ≤ r.amountUsdEquivalent) :
    0 ≤ ((l.releases.filter p).map (·.amountUsdEquivalent)).sum := by
  apply List.sum_nonneg
  intro n mem
  obtain ⟨r, there, rfl⟩ := List.mem_map.mp mem
  exact amounts r (List.mem_of_mem_filter there)

theorem usd_nonneg {r : Release} (h : 0 ≤ r.amountUsdEquivalent) : 0 ≤ usd r := Decimal.value_nonneg h

/-- Some of the releases weigh no more than all. -/
theorem weigh_rows_own [DecidableEq ι] {weight : Release → ℚ} (i : ι) (journal : List (Event ι))
    (weights : ∀ r ∈ rows (released journal), 0 ≤ weight r) :
    weigh weight p (rows (released (own i journal))) ≤ weigh weight p (rows (released journal)) := by
  have part : (rows (released (own i journal))).Sublist (rows (released journal)) := by
    rw [released_own]
    exact List.filter_sublist.map _
  unfold weigh
  apply List.Sublist.sum_le_sum ((part.filter p).map weight)
  intro w mem
  obtain ⟨r, there, rfl⟩ := List.mem_map.mp mem
  exact weights r (List.mem_of_mem_filter there)

end

end RmtPlatform.Banking
