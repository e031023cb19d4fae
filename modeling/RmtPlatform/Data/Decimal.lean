import Mathlib.Algebra.Order.Field.Power
import Mathlib.Algebra.Order.Ring.Rat
import Mathlib.Data.Int.Cast.Lemmas
import Mathlib.Tactic.Positivity

/-! Decimals.

A decimal is a coefficient and an exponent. Sums and products are rounded to 28 digits, to
the even neighbour when both are as near; `quantize` fails when its result has more digits.
Comparisons are exact, but what they compare is rounded already. A bound with fewer digits
than that is kept all the same (`fix_le_iff`). -/
namespace RmtPlatform

/-- `coefficient * 10 ^ exponent`. -/
structure Decimal where
  coefficient : Int
  exponent : Int
deriving DecidableEq

namespace Decimal

/-- The digits of a result. -/
def precision : Nat := 28

/-- An integer nearest to `n / d`; the even one, of two. -/
def roundHalfEven (n d : Int) : Int :=
  if 2 * (n % d) < d ∨ (2 * (n % d) = d ∧ n / d % 2 = 0) then n / d else n / d + 1

def digits (n : Int) : Nat := (Nat.toDigits 10 n.natAbs).length

/-- `_fix`: to at most `precision` digits. -/
def fix (x : Decimal) : Decimal :=
  let excess := digits x.coefficient - precision
  if excess = 0 then x
  else
    let rounded := roundHalfEven x.coefficient (10 ^ excess)
    if digits rounded ≤ precision then ⟨rounded, x.exponent + excess⟩ else ⟨rounded / 10, x.exponent + excess + 1⟩

/-- The coefficient at a smaller exponent. -/
def scaled (x : Decimal) (exponent : Int) : Int := x.coefficient * 10 ^ (x.exponent - exponent).toNat

/-- The coefficient at any exponent. -/
def rescale (x : Decimal) (exponent : Int) : Int :=
  if exponent ≤ x.exponent then x.scaled exponent else roundHalfEven x.coefficient (10 ^ (exponent - x.exponent).toNat)

instance : Add Decimal where
  add x y := fix ⟨x.scaled (min x.exponent y.exponent) + y.scaled (min x.exponent y.exponent), min x.exponent y.exponent⟩

instance : Mul Decimal where
  mul x y := fix ⟨x.coefficient * y.coefficient, x.exponent + y.exponent⟩

instance : LE Decimal where
  le x y := x.scaled (min x.exponent y.exponent) ≤ y.scaled (min x.exponent y.exponent)

instance (x y : Decimal) : Decidable (x ≤ y) := inferInstanceAs (Decidable (_ ≤ (_ : Int)))

/-- `quantize`, which raises where the result does not fit. -/
def quantize (x : Decimal) (exponent : Int) : Option Decimal :=
  if digits (x.rescale exponent) ≤ precision then some ⟨x.rescale exponent, exponent⟩ else none

def value (x : Decimal) : ℚ := x.coefficient * 10 ^ x.exponent

/-! ### Comparison -/

section
variable {x y : Decimal} {n d e : Int}

theorem value_scaled (le : e ≤ x.exponent) : x.value = x.scaled e * 10 ^ e := by
  have split : x.exponent = ((x.exponent - e).toNat : Int) + e := by omega
  have shifted : (10 : ℚ) ^ x.exponent = 10 ^ (x.exponent - e).toNat * 10 ^ e := by
    conv => lhs; rw [split]
    rw [zpow_add₀ (by decide), zpow_natCast]
  unfold value scaled
  rw [shifted, Int.cast_mul, Int.cast_pow, mul_assoc]
  rfl

theorem le_iff : x ≤ y ↔ x.value ≤ y.value := by
  have positive : (0 : ℚ) < 10 ^ min x.exponent y.exponent := by positivity
  rw [value_scaled (min_le_left x.exponent y.exponent), value_scaled (min_le_right x.exponent y.exponent),
    mul_le_mul_iff_left₀ positive, Int.cast_le]
  rfl

theorem value_nonneg (h : 0 ≤ x.coefficient) : 0 ≤ x.value := by
  have : (0 : ℚ) ≤ x.coefficient := by exact_mod_cast h
  exact mul_nonneg this (by positivity)

/-! ### Rounding -/

theorem le_roundHalfEven : n / d ≤ roundHalfEven n d := by
  unfold roundHalfEven
  split <;> omega

theorem roundHalfEven_nonneg (hn : 0 ≤ n) (hd : 0 ≤ d) : 0 ≤ roundHalfEven n d :=
  (Int.ediv_nonneg hn hd).trans le_roundHalfEven

theorem digits_le {n : Int} {k : Nat} (positive : 0 < k) (h : 0 ≤ n) : digits n ≤ k ↔ n < 10 ^ k := by
  unfold digits
  rw [Nat.length_toDigits_le_iff (by decide) positive]
  obtain ⟨m, rfl⟩ := Int.eq_ofNat_of_zero_le h
  rw [Int.natAbs_natCast]
  exact_mod_cast Iff.rfl

theorem fix_small (h : 0 ≤ x.coefficient) (small : x.coefficient < 10 ^ precision) : fix x = x := by
  unfold fix
  have fits : digits x.coefficient ≤ precision := (digits_le (by decide) h).mpr small
  rw [Nat.sub_eq_zero_of_le fits]
  rfl

theorem fix_nonneg (h : 0 ≤ x.coefficient) : 0 ≤ (fix x).coefficient := by
  unfold fix
  dsimp only
  have rounded := roundHalfEven_nonneg (d := 10 ^ (digits x.coefficient - precision)) h (by positivity)
  split
  · exact h
  · split
    · exact rounded
    · exact Int.ediv_nonneg rounded (by decide)

/-- What has too many digits is still large when it is rounded. -/
theorem fix_large (large : 10 ^ precision ≤ x.coefficient) : (10 : ℚ) ^ precision * 10 ^ x.exponent ≤ (fix x).value := by
  have nonneg : 0 ≤ x.coefficient := le_trans (by positivity) large
  obtain ⟨k, excess⟩ : ∃ k, digits x.coefficient - precision = k + 1 := by
    have : ¬digits x.coefficient ≤ precision := fun fits =>
      absurd ((digits_le (by decide) nonneg).mp fits) (not_lt.mpr large)
    exact ⟨digits x.coefficient - precision - 1, by omega⟩
  have exact_ : (10 : Int) ^ (precision - 1 + (k + 1)) ≤ x.coefficient := by
    have : ¬digits x.coefficient ≤ precision - 1 + (k + 1) := by
      have : 0 < precision := by decide
      omega
    exact not_lt.mp fun less => this ((digits_le (by omega) nonneg).mpr less)
  have rounded : (10 : Int) ^ (precision - 1) ≤ roundHalfEven x.coefficient (10 ^ (k + 1)) := by
    refine le_trans ?_ le_roundHalfEven
    rw [Int.le_ediv_iff_mul_le (by positivity), ← pow_add]
    exact exact_
  have scale : (10 : ℚ) ^ precision * 10 ^ x.exponent ≤ 10 ^ (precision - 1) * 10 ^ (x.exponent + ((k + 1 : Nat) : Int)) := by
    rw [zpow_add₀ (by decide), zpow_natCast, show precision = precision - 1 + 1 from rfl, pow_succ (10 : ℚ) (precision - 1),
      mul_assoc, Nat.add_sub_cancel]
    apply mul_le_mul_of_nonneg_left _ (by positivity)
    rw [mul_comm]
    apply mul_le_mul_of_nonneg_left _ (by positivity)
    rw [pow_succ]
    exact le_mul_of_one_le_left (by decide) (one_le_pow₀ (by decide))
  refine scale.trans ?_
  unfold fix value
  dsimp only
  rw [excess, if_neg (Nat.succ_ne_zero k)]
  split
  · apply mul_le_mul_of_nonneg_right _ (by positivity)
    exact_mod_cast rounded
  · next exceeds =>
    -- The coefficient is a power of ten, and one zero goes into the exponent.
    have more : (10 : Int) ^ precision ≤ roundHalfEven x.coefficient (10 ^ (k + 1)) := by
      apply not_lt.mp
      intro less
      exact exceeds ((digits_le (by decide) (le_trans (by positivity) rounded)).mpr less)
    have tenth : (10 : Int) ^ (precision - 1) ≤ roundHalfEven x.coefficient (10 ^ (k + 1)) / 10 := by
      rw [Int.le_ediv_iff_mul_le (by decide)]
      exact more
    rw [zpow_add_one₀ (by decide)]
    apply mul_le_mul
    · exact_mod_cast tenth
    · exact le_mul_of_one_le_right (by positivity) (by decide)
    · positivity
    · exact_mod_cast le_trans (by positivity) tenth

/-- **A bound that is small enough is kept exactly.** -/
theorem fix_le_iff (nonneg : 0 ≤ x.coefficient) (small : y.value < 10 ^ precision * 10 ^ x.exponent) :
    fix x ≤ y ↔ x.value ≤ y.value := by
  by_cases large : 10 ^ precision ≤ x.coefficient
  · rw [le_iff]
    have exceeds : (10 : ℚ) ^ precision * 10 ^ x.exponent ≤ x.value := by
      apply mul_le_mul_of_nonneg_right _ (by positivity)
      exact_mod_cast large
    exact iff_of_false (fun h => absurd ((fix_large large).trans h) (not_le.mpr small))
      fun h => absurd (exceeds.trans h) (not_le.mpr small)
  · rw [fix_small nonneg (not_le.mp large), le_iff]

/-! ### Operations -/

theorem mul_nonneg' (hx : 0 ≤ x.coefficient) (hy : 0 ≤ y.coefficient) : 0 ≤ (x * y).coefficient :=
  fix_nonneg (x := ⟨x.coefficient * y.coefficient, x.exponent + y.exponent⟩) (Int.mul_nonneg hx hy)

theorem rescale_nonneg (h : 0 ≤ x.coefficient) : 0 ≤ x.rescale e := by
  unfold rescale scaled
  split
  · exact Int.mul_nonneg h (by positivity)
  · exact roundHalfEven_nonneg h (by positivity)

theorem quantize_some (h : x.quantize e = some y) : y = ⟨x.rescale e, e⟩ := by
  unfold quantize at h
  split at h
  · exact (Option.some.inj h).symm
  · cases h

theorem rescale_self : (⟨n, e⟩ : Decimal).rescale e = n := by
  unfold rescale scaled
  simp

/-- A sum of two amounts in the same unit. -/
theorem add_le_iff {m : Int} (hn : 0 ≤ n) (hm : 0 ≤ m) (small : y.value < 10 ^ precision * 10 ^ e) :
    (⟨n, e⟩ + ⟨m, e⟩ : Decimal) ≤ y ↔ ((n + m : Int) : ℚ) * 10 ^ e ≤ y.value := by
  have sum : (⟨n, e⟩ + ⟨m, e⟩ : Decimal) = fix ⟨n + m, e⟩ := by
    show fix _ = _
    unfold scaled
    simp
  rw [sum, fix_le_iff (Int.add_nonneg hn hm) small]
  rfl

end

end Decimal

end RmtPlatform
