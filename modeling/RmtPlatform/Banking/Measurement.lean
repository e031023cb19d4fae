import Mathlib.Tactic.NormNum
import RmtPlatform.Banking.Workers

/-! What a proposal that is measured without a reason against it may do.

Each sum and each count is read by itself, while others commit. None of them is less than
what the worker's own releases come to, which nobody else changes; so a proposal with no
reason against it has room beside them under every limit (`evaluateRisk_safe`). -/
namespace RmtPlatform.Banking

open SlidingWindow (weigh)

variable {ι : Type} [DecidableEq ι]

/-! ### What the ledger shows -/

namespace Deployment
variable {D : Deployment} {s : Site ι} {i : ι} {t : List (Event ι)} {p : Release → Bool}

theorem Kept.amounts (kept : D.Kept s) (steady : D.Steady) : ∀ r ∈ rows (released s.journal), 0 ≤ r.amountUsdEquivalent := by
  intro r mem
  obtain ⟨e, there, rfl⟩ := List.mem_map.mp mem
  obtain ⟨before, after, split⟩ := List.append_of_mem there
  exact (kept.lawful steady before e after split).screened.amount

/-- A sum that is read is at least that of the worker's own releases. -/
theorem sum_shown (kept : D.Kept s) (mine : own i s.journal = t) (p : Release → Bool) :
    ∃ n, sumUsd p s.ledger = ⟨n, -2⟩ ∧
      (D.Steady → 0 ≤ n ∧ weigh usd p (rows (released t)) ≤ (⟨n, -2⟩ : Decimal).value) := by
  refine ⟨_, rfl, fun steady => ⟨?_, ?_⟩⟩
  · apply sum_nonneg
    rw [kept.releases]
    exact kept.amounts steady
  · rw [value_sum, kept.releases, ← mine]
    exact weigh_rows_own i s.journal fun r mem => usd_nonneg (kept.amounts steady r mem)

theorem count_shown (kept : D.Kept s) (mine : own i s.journal = t) (p : Release → Bool) :
    weigh (fun _ => (1 : ℚ)) p (rows (released t)) ≤ countOf p s.ledger := by
  unfold countOf
  rw [value_count, kept.releases, ← mine]
  exact weigh_rows_own i s.journal fun _ _ => zero_le_one

end Deployment

/-- A sum has been shown to which these cents can be added. -/
def Affords (p : Release → Bool) (others : List Release) (cents : Int) (cap : Decimal) : Prop :=
  ∃ n, 0 ≤ n ∧ weigh usd p others ≤ (⟨n, -2⟩ : Decimal).value ∧ (⟨n, -2⟩ + ⟨cents, -2⟩ : Decimal) ≤ cap

/-- A cap that is small enough is kept. -/
theorem Affords.room {p : Release → Bool} {others : List Release} {cap : Decimal} {cents : Int} (affords : Affords p others cents cap)
    (nonneg : 0 ≤ cents) (small : cap.value < 10 ^ 26) :
    weigh usd p others + (⟨cents, -2⟩ : Decimal).value ≤ cap.value := by
  obtain ⟨n, hn, used, within_⟩ := affords
  have digits : cap.value < 10 ^ Decimal.precision * 10 ^ (-2 : Int) := lt_of_lt_of_eq small (by norm_num [Decimal.precision])
  have sum := (Decimal.add_le_iff hn nonneg digits).mp within_
  refine le_trans (add_le_add_left used _) (le_of_eq_of_le ?_ sum)
  unfold Decimal.value
  push_cast
  exact (add_mul _ _ _).symm

theorem cents_small {n : Int} (h : n.natAbs < 10 ^ 14) : (⟨n, -2⟩ : Decimal).value < 10 ^ 26 := by
  have bound : (n : ℚ) < 10 ^ 14 := by exact_mod_cast (show n < 10 ^ 14 by omega)
  unfold Decimal.value
  calc (n : ℚ) * 10 ^ (-2 : Int) < 10 ^ 14 * 10 ^ (-2 : Int) := mul_lt_mul_of_pos_right bound (by positivity)
    _ < 10 ^ 26 := by norm_num

namespace Deployment
variable (D : Deployment)

/-- A release of what is proposed, now or later, passes every check. -/
def Cleared (t : List (Event ι)) (proposal : ActionProposal) (v : RiskVector) : Prop :=
  ∃ cents : Int, v.usdEquivalentAmount = some ⟨cents, -2⟩ ∧ ∀ r : Release, D.Steady → proposal.agentId = D.agentId →
    Proposes proposal r → r.amountUsdEquivalent = cents → v.evaluatedAtUtc ≤ r.createdAt →
    D.Screened ⟨v.evaluatedAtUtc, r⟩ ∧ D.HasRoom ⟨v.evaluatedAtUtc, r⟩ (rows (released t))

/-- What is seen of a correspondent bank, by a worker with releases of its own. -/
def Views (t : List (Event ι)) (since : Int) (usdEquivalent : Option Decimal) (view : CorrespondentView) :
    Option String → Prop
  | none => view = ⟨none, none, none, none, true⟩
  | some bank => view.approved = some ((D.references.correspondent bank).any (·.approved)) ∧
      view.sanctioned = some ((D.references.correspondent bank).any (·.sanctioned)) ∧
      ∃ n, (D.Steady → 0 ≤ n ∧ weigh usd (fun r => r.correspondentBankId = some bank && since ≤ r.createdAt)
          (rows (released t)) ≤ (⟨n, -2⟩ : Decimal).value) ∧
        ∀ c, D.references.correspondent bank = some c →
          view.withinNostroCap = usdEquivalent.any fun usd => (⟨n, -2⟩ + usd : Decimal) ≤ ⟨c.nostroExposureCap, -2⟩

section
variable {D} {i : ι} {t : List (Event ι)} {k : Nat} {p : Point (Site ι) Empty} {call : Call} {proposal : ActionProposal}
  {X : Raised → Point (Site ι) Empty → Prop}

theorem rateFor_safe (h : Holds i t k p) (refused : ∀ s q, call.refuses s = true → Holds i t k q → X .database q)
    (isCrossBorder : Bool) (currency : String) : Script.Safe ((D.duties).of i)
      (fun rate q => rate = D.rateOf isCrossBorder currency ∧ Holds i t k q) X (D.rateFor call isCrossBorder currency) p := by
  unfold rateFor fxRate rateOf
  cases isCrossBorder with
  | false => exact Script.safe_pure ⟨rfl, h⟩
  | true =>
    simp only [if_true]
    split
    · exact Script.safe_pure ⟨rfl, h⟩
    · exact select_safe h (refused .fxRate) fun _ _ _ => rfl

theorem quantized_safe {x : Decimal} (h : Holds i t k p) (fails : x.quantize (-2) = none → X .invalidOperation p) :
    Script.Safe ((D.duties).of i) (fun y q => x.quantize (-2) = some y ∧ Holds i t k q) X (quantized x) p := by
  unfold quantized
  cases quantize : x.quantize (-2) with
  | none => exact Script.safe_throw (fails quantize)
  | some y => exact Script.safe_pure ⟨rfl, h⟩

theorem converted_safe {isCrossBorder : Bool} {currency : String} {amount : Decimal} (h : Holds i t k p)
    (fails : D.usdEquivalentOf isCrossBorder currency amount = none → X .invalidOperation p) :
    Script.Safe ((D.duties).of i)
      (fun usdEquivalent q => D.usdEquivalentOf isCrossBorder currency amount = some usdEquivalent ∧ Holds i t k q) X
      (converted amount (D.rateOf isCrossBorder currency)) p := by
  unfold converted
  unfold usdEquivalentOf at fails ⊢
  generalize D.rateOf isCrossBorder currency = rate at fails ⊢
  cases rate with
  | none => exact Script.safe_pure ⟨rfl, h⟩
  | some rate =>
    apply Script.safe_bind
    refine (quantized_safe h fun none_ => fails (by simp [none_])).mono ?_ fun _ _ raised => raised
    rintro y q ⟨quantize, holds⟩
    exact Script.safe_pure ⟨by simp [quantize], holds⟩

theorem sum_safe {statement : Statement} (h : Holds i t k p)
    (refused : ∀ s q, call.refuses s = true → Holds i t k q → X .database q) (r : Release → Bool) :
    Script.Safe ((D.duties).of i) (fun used q => (∃ n, used = ⟨n, -2⟩ ∧ (D.Steady → 0 ≤ n ∧
      weigh usd r (rows (released t)) ≤ (⟨n, -2⟩ : Decimal).value)) ∧ Holds i t k q) X
      (select call statement (sumUsd r)) p :=
  select_safe (F := fun used => ∃ n, used = (⟨n, -2⟩ : Decimal) ∧ (D.Steady → 0 ≤ n ∧
      weigh usd r (rows (released t)) ≤ (⟨n, -2⟩ : Decimal).value))
    h (refused statement) fun _ kept mine => sum_shown kept mine r

theorem count_safe {statement : Statement} (h : Holds i t k p)
    (refused : ∀ s q, call.refuses s = true → Holds i t k q → X .database q) (r : Release → Bool) :
    Script.Safe ((D.duties).of i) (fun (count : Int) q =>
      weigh (fun _ => (1 : ℚ)) r (rows (released t)) ≤ count ∧ Holds i t k q) X (select call statement (countOf r)) p :=
  select_safe (F := fun (count : Int) => weigh (fun _ => (1 : ℚ)) r (rows (released t)) ≤ count)
    h (refused statement) fun _ kept mine => count_shown kept mine r

theorem correspondentView_safe (h : Holds i t k p) (refused : ∀ s q, call.refuses s = true → Holds i t k q → X .database q)
    (since : Int) (usdEquivalent : Option Decimal) (bank : Option String) : Script.Safe ((D.duties).of i)
      (fun view q => D.Views t since usdEquivalent view bank ∧ Holds i t k q) X
      (D.correspondentView call since usdEquivalent bank) p := by
  unfold correspondentView
  cases bank with
  | none => exact Script.safe_pure ⟨rfl, h⟩
  | some bank =>
    apply Script.safe_bind
    refine (select_safe (F := fun c => c = D.references.correspondent bank) h (refused _) fun _ _ _ => rfl).mono ?_
      fun _ _ raised => raised
    rintro _ q ⟨rfl, holds⟩
    apply Script.safe_bind
    refine (sum_safe holds refused _).mono ?_ fun _ _ raised => raised
    rintro _ q' ⟨⟨n, rfl, shown⟩, holds'⟩
    apply Script.safe_pure
    refine ⟨⟨rfl, rfl, n, shown, fun c there => ?_⟩, holds'⟩
    simp only [there]

/-- What has been shown, one statement after another, to a proposal with no reason against it. -/
structure Readings (D : Deployment) (t : List (Event ι)) (proposal : ActionProposal) (now cents : Int) : Prop where
  converted : D.usdOf proposal = some (some ⟨cents, -2⟩)
  counterparty : ∀ c, D.references.counterparty proposal.payload.counterpartyId = some c → c.sanctioned = false
  window : D.inWindow (now % day) = true
  correspondent : ∀ bank, proposal.payload.correspondentBankId = some bank → ∃ c, D.references.correspondent bank = some c ∧
    c.approved = true ∧ c.sanctioned = false ∧
    Affords (fun r => r.correspondentBankId = some bank && now - D.config.exposureWindowHours * hour ≤ r.createdAt)
      (rows (released t)) cents ⟨c.nostroExposureCap, -2⟩
  single : ∃ limit, D.singleTxLimitOf (ActionProposal.isCrossBorder proposal) proposal.payload.counterpartyId = some limit ∧
    (⟨cents, -2⟩ : Decimal) ≤ limit
  counterpartyExposure : Affords (fun r => r.agentId = proposal.agentId && r.counterpartyId = proposal.payload.counterpartyId &&
    now - D.config.exposureWindowHours * hour ≤ r.createdAt) (rows (released t)) cents D.config.counterpartyExposureCap
  agentExposure : Affords (fun r => r.agentId = proposal.agentId && now - D.config.exposureWindowHours * hour ≤ r.createdAt)
    (rows (released t)) cents D.config.agentExposureCap
  velocity : ∃ n : Int, weigh (fun _ => (1 : ℚ)) (fun r => r.agentId = proposal.agentId &&
    now - D.config.velocityWindowSeconds * second ≤ r.createdAt) (rows (released t)) ≤ n ∧ n < D.config.velocityMaxTx
  structuring : ∃ (floor : Decimal) (n : Int),
    D.nearLimitFloorOf (ActionProposal.isCrossBorder proposal) proposal.payload.counterpartyId = some floor ∧
    weigh (fun _ => (1 : ℚ)) (fun r => r.agentId = proposal.agentId && r.counterpartyId = proposal.payload.counterpartyId &&
      now - D.config.structuringWindowSeconds * second ≤ r.createdAt && floor ≤ (⟨r.amountUsdEquivalent, -2⟩ : Decimal))
      (rows (released t)) ≤ n ∧ (floor ≤ (⟨cents, -2⟩ : Decimal) → n + 1 < D.config.structuringCountThreshold)

/-- A sum of money has two decimals, and it is not negative. -/
theorem usdOf_cents {usdEquivalent : Decimal} (converted : D.usdOf proposal = some (some usdEquivalent)) :
    ∃ cents, usdEquivalent = ⟨cents, -2⟩ ∧ (D.Steady → 0 ≤ cents) := by
  unfold usdOf usdEquivalentOf at converted
  have rates : D.Steady → ∀ rate, D.rateOf (ActionProposal.isCrossBorder proposal) proposal.payload.currency = some rate →
      0 ≤ rate.coefficient := by
    intro steady rate is
    unfold rateOf at is
    split at is
    · cases is
      decide
    · split at is
      · exact steady.rates _ rate is
      · cases is
  cases rate : D.rateOf (ActionProposal.isCrossBorder proposal) proposal.payload.currency with
  | none => simp [rate] at converted
  | some r =>
    simp only [rate, Option.map_eq_some_iff, Option.some.injEq, exists_eq_right] at converted
    refine ⟨_, Decimal.quantize_some converted, fun steady => ?_⟩
    exact Decimal.rescale_nonneg (Decimal.mul_nonneg' (Int.natCast_nonneg _) (rates steady r rate))

omit [DecidableEq ι] in
theorem Readings.room {now cents : Int} {r : Release} (steady : D.Steady) (readings : Readings D t proposal now cents)
    (nonneg : 0 ≤ cents) (proposes : Proposes proposal r) (amount : r.amountUsdEquivalent = cents) :
    D.HasRoom ⟨now, r⟩ (rows (released t)) := by
  have weight : usd r = (⟨cents, -2⟩ : Decimal).value := by rw [usd, amount]
  have crossBorder : r.isCrossBorder = ActionProposal.isCrossBorder proposal := by
    rw [Release.isCrossBorder, proposes.correspondent]
    exact proposal.corresponds
  intro L limit covers
  cases limit with
  | agent agentId =>
    obtain rfl : r.agentId = agentId := of_decide_eq_true covers
    show weigh usd _ _ + usd r ≤ _
    rw [weight, proposes.agent]
    exact readings.agentExposure.room nonneg steady.agentCap
  | counterparty agentId counterpartyId =>
    simp only [Bool.and_eq_true, decide_eq_true_eq] at covers
    obtain ⟨rfl, rfl⟩ := covers
    show weigh usd _ _ + usd r ≤ _
    rw [weight, proposes.agent, proposes.counterparty]
    exact readings.counterpartyExposure.room nonneg steady.counterpartyCap
  | nostro bank c there positive =>
    have through : r.correspondentBankId = some bank := of_decide_eq_true covers
    rw [proposes.correspondent] at through
    obtain ⟨c', there', -, -, affords⟩ := readings.correspondent bank through
    obtain rfl : c = c' := Option.some.inj (there.symm.trans there')
    show weigh usd _ _ + usd r ≤ _
    rw [weight]
    exact affords.room nonneg (cents_small c.fits)
  | velocity agentId =>
    obtain rfl : r.agentId = agentId := of_decide_eq_true covers
    obtain ⟨n, shown, less⟩ := readings.velocity
    rw [← proposes.agent] at shown
    have count : (n : ℚ) + 1 ≤ D.config.velocityMaxTx := by exact_mod_cast less
    exact (add_le_add_left shown 1).trans count
  | structuring agentId counterpartyId isCrossBorder floor near =>
    simp only [Bool.and_eq_true, decide_eq_true_eq] at covers
    obtain ⟨⟨⟨rfl, rfl⟩, rfl⟩, above⟩ := covers
    obtain ⟨floor', n, near', shown, fewer⟩ := readings.structuring
    rw [← proposes.agent, ← proposes.counterparty] at shown
    rw [crossBorder, proposes.counterparty, near'] at near
    obtain rfl : floor' = floor := Option.some.inj near
    rw [amount] at above
    have count : (n : ℚ) + 1 ≤ D.config.structuringCountThreshold - 1 := by
      have : n + 1 ≤ D.config.structuringCountThreshold - 1 := by
        have := fewer above
        omega
      exact_mod_cast this
    refine le_trans (add_le_add_left (le_trans ?_ shown) 1) count
    apply SlidingWindow.weigh_mono fun _ _ => zero_le_one
    intro x _ counts
    simp only [Bool.and_eq_true, decide_eq_true_eq] at counts ⊢
    exact ⟨⟨⟨counts.1.1.1.1, counts.1.1.1.2⟩, counts.2⟩, counts.1.2⟩

omit [DecidableEq ι] in
theorem Readings.cleared {v : RiskVector} {cents : Int} (steady : D.Steady)
    (readings : Readings D t proposal v.evaluatedAtUtc cents) (nonneg : 0 ≤ cents)
    {r : Release} (agent : proposal.agentId = D.agentId) (proposes : Proposes proposal r)
    (amount : r.amountUsdEquivalent = cents) (later : v.evaluatedAtUtc ≤ r.createdAt) :
    D.Screened ⟨v.evaluatedAtUtc, r⟩ ∧ D.HasRoom ⟨v.evaluatedAtUtc, r⟩ (rows (released t)) := by
  refine ⟨?_, readings.room steady nonneg proposes amount⟩
  have crossBorder : r.isCrossBorder = ActionProposal.isCrossBorder proposal := by
    rw [Release.isCrossBorder, proposes.correspondent]
    exact proposal.corresponds
  constructor
  · exact proposes.agent.trans agent
  · exact later
  · exact readings.window
  · rw [amount]
    exact nonneg
  · show D.usdEquivalentOf r.isCrossBorder r.currency ⟨r.amount, -2⟩ = _
    rw [crossBorder, proposes.currency, ← proposes.amount, amount]
    exact readings.converted
  · show ∀ c, D.references.counterparty r.counterpartyId = some c → _
    rw [proposes.counterparty]
    exact readings.counterparty
  · intro bank through
    obtain ⟨c, there, approved, sanctioned, -⟩ := readings.correspondent bank (proposes.correspondent.symm.trans through)
    exact ⟨c, there, approved, sanctioned⟩
  · show ∃ limit, D.singleTxLimitOf r.isCrossBorder r.counterpartyId = some limit ∧ _
    rw [crossBorder, proposes.counterparty, amount]
    exact readings.single

/-- **A proposal with no reason against it has room** beside the releases of its worker. -/
theorem evaluateRisk_safe (h : Holds i t k p)
    (refused : ∀ s k' q, call.refuses s = true → Holds i t k' q → X .database q)
    (fails : ∀ k' q, D.Unquantizable proposal → Holds i t k' q → X .invalidOperation q) :
    Script.Safe ((D.duties).of i) (fun v q => ∃ n, k ≤ n ∧ v.evaluatedAtUtc = D.clock n ∧ Holds i t n q ∧
      D.usdOf proposal = some v.usdEquivalentAmount ∧ (v.reasons = [] → D.Cleared t proposal v)) X
      (D.evaluateRisk call proposal) p := by
  unfold evaluateRisk
  apply Script.safe_bind
  refine (now_safe h).mono ?_ fun _ _ raised => raised
  rintro _ q ⟨n, le, rfl, holds⟩
  apply Script.safe_bind
  dsimp only
  refine (rateFor_safe holds (fun s => refused s n) _ _).mono ?_ fun _ _ raised => raised
  rintro _ q ⟨rfl, holds⟩
  apply Script.safe_bind
  refine (converted_safe holds fun none_ => fails n q (.inl none_) holds).mono ?_ fun _ _ raised => raised
  rintro usdEquivalent q ⟨usdOf, holds⟩
  apply Script.safe_bind
  refine (select_safe (F := fun c => c = D.references.counterparty proposal.payload.counterpartyId) holds
    (refused _ n) fun _ _ _ => rfl).mono ?_ fun _ _ raised => raised
  rintro _ q ⟨rfl, holds⟩
  apply Script.safe_bind
  refine (quantized_safe holds fun none_ => fails n q (.inr ?_) holds).mono ?_ fun _ _ raised => raised
  · unfold nearLimitFloorOf
    rw [show D.singleTxLimitOf (ActionProposal.isCrossBorder proposal) proposal.payload.counterpartyId = none from none_]
    rfl
  rintro singleTxLimit q ⟨limit, holds⟩
  replace limit : D.singleTxLimitOf (ActionProposal.isCrossBorder proposal) proposal.payload.counterpartyId =
    some singleTxLimit := limit
  apply Script.safe_bind
  refine (correspondentView_safe holds (fun s => refused s n) _ _ _).mono ?_ fun _ _ raised => raised
  rintro view q ⟨views, holds⟩
  apply Script.safe_bind
  refine (sum_safe holds (fun s => refused s n) _).mono ?_ fun _ _ raised => raised
  rintro _ q ⟨⟨counterpartyUsed, rfl, counterpartyShown⟩, holds⟩
  apply Script.safe_bind
  refine (sum_safe holds (fun s => refused s n) _).mono ?_ fun _ _ raised => raised
  rintro _ q ⟨⟨agentUsed, rfl, agentShown⟩, holds⟩
  apply Script.safe_bind
  refine (count_safe holds (fun s => refused s n) _).mono ?_ fun _ _ raised => raised
  rintro velocityCount q ⟨velocityShown, holds⟩
  apply Script.safe_bind
  refine (quantized_safe holds fun none_ => fails n q (.inr ?_) holds).mono ?_ fun _ _ raised => raised
  · rw [nearLimitFloorOf, limit]
    exact none_
  rintro nearLimitFloor q ⟨floor, holds⟩
  replace floor : D.nearLimitFloorOf (ActionProposal.isCrossBorder proposal) proposal.payload.counterpartyId =
      some nearLimitFloor := by
    rw [nearLimitFloorOf, limit]
    exact floor
  apply Script.safe_bind
  refine (count_safe holds (fun s => refused s n) _).mono ?_ fun _ _ raised => raised
  rintro structuringCount q ⟨structuringShown, holds⟩
  apply Script.safe_pure
  refine ⟨n, le, rfl, holds, usdOf, fun clear => ?_⟩
  dsimp only at clear ⊢
  simp only [List.append_eq_nil_iff, ite_eq_right_iff, ite_eq_left_iff, List.cons_ne_nil, imp_false,
    Bool.not_eq_true, and_assoc, Bool.not_eq_false] at clear
  obtain ⟨sanctioned, -, window, some_, screened, single, counterparty, agent, velocity, structuring⟩ := clear
  obtain ⟨usdEquivalent, rfl⟩ := Option.isSome_iff_exists.mp some_
  obtain ⟨cents, rfl, nonneg⟩ := usdOf_cents usdOf
  simp only [Option.any_some, decide_eq_true_eq, Bool.and_eq_false_iff, decide_eq_false_iff_not] at single counterparty agent velocity structuring
  refine ⟨cents, rfl, fun r steady => Readings.cleared steady ?_ (nonneg steady)⟩
  constructor
  · exact usdOf
  · intro c there
    simpa [there] using sanctioned
  · exact window
  · intro bank through
    rw [through] at views screened
    obtain ⟨approved, listed, used, shown, cap⟩ := views
    obtain ⟨clean, known, room⟩ := screened rfl
    rw [approved, Decidable.not_not, Option.some.injEq, Option.any_eq_true] at known
    obtain ⟨c, there, approved⟩ := known
    rw [listed, there, Option.some.injEq, Option.any_some] at clean
    refine ⟨c, there, approved, Bool.eq_false_of_not_eq_true clean, used, (shown steady).1, (shown steady).2, ?_⟩
    rw [cap c there] at room
    simpa using room
  · exact ⟨singleTxLimit, limit, single⟩
  · exact ⟨counterpartyUsed, (counterpartyShown steady).1, (counterpartyShown steady).2, counterparty⟩
  · exact ⟨agentUsed, (agentShown steady).1, (agentShown steady).2, agent⟩
  · exact ⟨velocityCount, velocityShown, velocity⟩
  · refine ⟨nearLimitFloor, structuringCount, floor, structuringShown, fun above => ?_⟩
    rcases structuring with below | few
    · exact absurd above below
    · omega

end

end Deployment

end RmtPlatform.Banking
