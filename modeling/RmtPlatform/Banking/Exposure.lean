import RmtPlatform.Banking.Requests

/-! Exposure, velocity and structuring, over whole runs.

A proposal is measured against the window that ends at its own reading of the clock, while
a limit is meant for every window. Served one after another the limits are kept exactly.
Served side by side, each worker keeps them for itself, so `k` workers together keep `k`
times the limit (`limits_kept`), and no less: two of them can release the cap each, as the
last of the examples does. -/
namespace RmtPlatform.Banking

open SlidingWindow (weigh)

namespace Deployment

section
variable {D : Deployment} {ι : Type} [DecidableEq ι]

theorem IsLimit.bound_nonneg {L : Limit} (h : D.IsLimit L) : 0 ≤ L.bound := by
  cases h with
  | agent => exact Decimal.value_nonneg D.config.agentCap.le
  | counterparty => exact Decimal.value_nonneg D.config.counterpartyCap.le
  | nostro bank c there positive => exact Decimal.value_nonneg positive
  | velocity =>
    have := D.config.velocity.le
    show (0 : ℚ) ≤ D.config.velocityMaxTx
    exact_mod_cast this
  | structuring =>
    have := D.config.structuring
    have count : (1 : ℚ) ≤ D.config.structuringCountThreshold := by exact_mod_cast this
    exact sub_nonneg.mpr count

theorem IsLimit.weight_nonneg {L : Limit} (h : D.IsLimit L) {r : Release} (amount : 0 ≤ r.amountUsdEquivalent) :
    0 ≤ L.weight r := by
  cases h with
  | agent => exact usd_nonneg amount
  | counterparty => exact usd_nonneg amount
  | nostro => exact usd_nonneg amount
  | velocity => exact zero_le_one
  | structuring => exact zero_le_one

/-- What is kept of the journal bounds what is released, in every window. -/
theorem Kept.weighed [Fintype ι] {s : Site ι} (kept : D.Kept s) (steady : D.Steady) {L : Limit} (limit : D.IsLimit L) (t : Int) :
    L.weighed t s.ledger.releases ≤ Fintype.card ι • L.bound := by
  have weights : ∀ e ∈ released s.journal, 0 ≤ L.weight e.2.release := fun e mem =>
    limit.weight_nonneg (kept.amounts steady _ (List.mem_map_of_mem mem))
  have admitted : ∀ before (e : ι × Released) after, released s.journal = before ++ e :: after →
      L.covers e.2.release = true → e.2.evaluatedAt ≤ e.2.release.createdAt ∧
        weigh (fun x : ι × Released => L.weight x.2.release)
          (fun x => (L.covers x.2.release && x.1 = e.1) && e.2.evaluatedAt - L.length ≤ x.2.release.createdAt) before +
            L.weight e.2.release ≤ L.bound := by
    intro before e after split covers
    obtain ⟨screened, room⟩ := kept.lawful steady before e after split
    refine ⟨screened.ordered, le_trans (add_le_add_left (le_of_eq ?_) _) (room L limit covers)⟩
    rw [rows, SlidingWindow.weigh_map]
    unfold weigh
    rw [List.filter_filter]
    congr 2
    apply List.filter_congr
    intro x _
    simp only [Function.comp_apply, Bool.and_right_comm]
  have bounded := SlidingWindow.within_limits Prod.fst limit.bound_nonneg weights admitted t
  rw [Limit.weighed, kept.releases, rows, SlidingWindow.weigh_map]
  exact bounded

/-- **The limits are kept in every window of every run**, and each release has passed every check. -/
theorem limits_kept [Fintype ι] (D : Deployment) (steady : D.Steady) (calls : ι → List Call)
    {c : Crew ι (Site ι) Empty Unit} (reach : Crew.Reach (fun _ _ => True) (D.crew calls) c) :
    (∀ L, D.IsLimit L → ∀ t, L.weighed t c.point.state.ledger.releases ≤ Fintype.card ι • L.bound) ∧
      (∀ r ∈ c.point.state.ledger.releases, ∃ evaluatedAt, D.Screened ⟨evaluatedAt, r⟩) ∧
      (c.point.state.ledger.releases.map (·.key)).Nodup := by
  have kept := (reach_kept reach).1
  refine ⟨fun L limit t => kept.weighed steady limit t, fun r mem => ?_, c.point.state.ledger.releaseKeys⟩
  rw [kept.releases] at mem
  obtain ⟨e, there, rfl⟩ := List.mem_map.mp mem
  obtain ⟨before, after, split⟩ := List.append_of_mem there
  exact ⟨e.2.evaluatedAt, (kept.lawful steady before e after split).screened⟩

end

/-! ### A deployment -/

def bytesOf (text : String) : List UInt8 := text.toByteArray.data.toList

/-- One rate, and no entries in the other tables. -/
def sample (s : Settings) (valid : (riskConfig s).isSome = true) : Deployment where
  config := (riskConfig s).get valid
  references := ⟨fun _ => none, fun _ => none, fun currency => if currency = "EUR" then some ⟨108000000, -8⟩ else none⟩
  agentToken := "demo"
  agentId := "treasury"
  hexdigest _ := ""
  loads hook body := match Json.parse (body.map fun b => Char.ofNat b.toNat) with
    | some (.object members) => match hook members with
      | some json => .ok json
      | none => .error .value
    | _ => .error .value
  explain _ := ""
  clock n := 12 * hour + n * second

/-- A request for 5000 dollars. -/
def transfer (transactionId : String) : Call where
  request := {
    method := "POST"
    path := proposePath
    authorization := "Bearer demo"
    contentType := "application/json"
    body := bytesOf "\x7b\"agent_id\":\"treasury\",\"channel\":\"internal_transfer\"," ++
      bytesOf "\"payload\":\x7b\"transaction_id\":\"" ++ bytesOf transactionId ++
      bytesOf "\",\"amount\":\"5000.00\",\"currency\":\"USD\",\"counterparty_id\":\"ACME-01\"\x7d\x7d" }
  refuses _ := false
  forgets _ := false

theorem sample_steady : (sample {} rfl).Steady where
  clock n m le := by
    show 12 * hour + n * second ≤ 12 * hour + m * second
    have : (n : Int) ≤ m := by exact_mod_cast le
    exact Int.add_le_add_left (Int.mul_le_mul_of_nonneg_right this (by decide)) _
  rates currency rate is := by
    have is : (if currency = "EUR" then some ⟨108000000, -8⟩ else none) = some rate := is
    split at is
    · cases is
      decide
    · cases is
  counterpartyCap := by
    show (⟨2500000, -2⟩ : Decimal).value < 10 ^ 26
    norm_num [Decimal.value]
  agentCap := by
    show (⟨6000000, -2⟩ : Decimal).value < 10 ^ 26
    norm_num [Decimal.value]

/-- One worker, two requests. -/
def sampleRun : Crew Unit (Site Unit) Empty Unit :=
  ((sample {} rfl).crew fun _ => [transfer "T1", transfer "T2"]).runSchedule (List.replicate 40 ())

theorem sampleRun_reach :
    Crew.Reach (fun _ _ => True) ((sample {} rfl).crew fun _ => [transfer "T1", transfer "T2"]) sampleRun :=
  Crew.runSchedule_reach _ _

theorem limits_kept_sample : sampleRun.point.state.ledger.releases.length = 2 ∧
    ∀ L, (sample {} rfl).IsLimit L → ∀ t, L.weighed t sampleRun.point.state.ledger.releases ≤ Fintype.card Unit • L.bound :=
  ⟨by decide +kernel, fun L limit t => (limits_kept (sample {} rfl) sample_steady _ sampleRun_reach).1 L limit t⟩

/-- Two workers that are shown the same ledger. -/
example : (((((sample { agentExposureCap := ⟨500000, -2⟩ } rfl).crew fun second : Bool =>
      [transfer (if second then "T2" else "T1")]).runSchedule
    ((List.replicate 20 [false, true]).flatten)).point.state.ledger.releases).map (·.amountUsdEquivalent)) =
      [500000, 500000] := by
  decide +kernel

end Deployment

end RmtPlatform.Banking
