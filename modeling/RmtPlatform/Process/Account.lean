import Mathlib.Algebra.BigOperators.Group.Finset.Basic
import Mathlib.Algebra.Order.Group.Defs
import Mathlib.Algebra.Order.Sub.Basic
import Mathlib.Logic.Relation

/-! Accounts that hold amounts back.

An account is funded, and it holds amounts back for purposes: what is held for a purpose is
spent, in part or entirely, or released, once. What is free, held and spent is always what
the account was funded with (`Run.sound`), and what has become of a purpose stays
(`Run.settled`). -/
namespace RmtPlatform.Holding

/-- What has become of a purpose. -/
inductive Phase (M : Type) where
  | untouched
  | held (amount : M)
  | spent (amount : M)
  | released
deriving DecidableEq

/-- What is free, what there was altogether, and the purposes. -/
structure Account (K M : Type) where
  free : M
  funded : M
  phase : K → Phase M

variable {K M : Type}

/-- The purpose is done with. -/
def Phase.Settled (phase : Phase M) : Prop := (∃ amount, phase = .spent amount) ∨ phase = .released

theorem update_phase [DecidableEq K] {a : Account K M} {k j : K} {old new : Phase M} (same : a.phase j = old)
    (other : old ≠ a.phase k) : Function.update a.phase j new k = a.phase k := by
  apply Function.update_of_ne
  rintro rfl
  exact other same.symm

variable [AddCommGroup M]

/-- What a purpose takes out of the funds. -/
def Phase.claim : Phase M → M
  | held amount => amount
  | spent amount => amount
  | untouched => 0
  | released => 0

def empty : Account K M := ⟨0, 0, fun _ => .untouched⟩

variable [DecidableEq K] [LinearOrder M]

inductive Step (a : Account K M) : Account K M → Prop where
  /-- Funds are put in, or free ones taken out. -/
  | fund (amount : M) (covered : 0 ≤ a.free + amount) :
      Step a { a with free := a.free + amount, funded := a.funded + amount }
  | hold (k : K) (amount : M) (untouched : a.phase k = .untouched) (positive : 0 ≤ amount) (covered : amount ≤ a.free) :
      Step a { a with free := a.free - amount, phase := Function.update a.phase k (.held amount) }
  | spend (k : K) (held amount : M) (phase : a.phase k = .held held) (positive : 0 ≤ amount) (covered : amount ≤ held) :
      Step a { a with free := a.free + (held - amount), phase := Function.update a.phase k (.spent amount) }
  | release (k : K) (held : M) (phase : a.phase k = .held held) :
      Step a { a with free := a.free + held, phase := Function.update a.phase k .released }

abbrev Run : Account K M → Account K M → Prop := Relation.ReflTransGen Step

/-- Free, held and spent amounts are what the account was funded with, and none is negative. -/
structure Sound (a : Account K M) : Prop where
  solvent : 0 ≤ a.free
  claims : ∀ k, 0 ≤ (a.phase k).claim
  conserved : ∃ keys : Finset K, (∀ k, k ∉ keys → a.phase k = .untouched) ∧ a.free + ∑ k ∈ keys, (a.phase k).claim = a.funded

section
variable {a b : Account K M}

/-! ### What has become of a purpose -/

theorem Step.settled (step : Step a b) (k : K) (settled : (a.phase k).Settled) : b.phase k = a.phase k := by
  cases step with
  | fund amount covered => rfl
  | hold j amount untouched positive covered =>
    apply update_phase untouched
    intro same
    simp [← same, Phase.Settled] at settled
  | spend j held amount phase positive covered =>
    apply update_phase phase
    intro same
    simp [← same, Phase.Settled] at settled
  | release j held phase =>
    apply update_phase phase
    intro same
    simp [← same, Phase.Settled] at settled

/-- What is spent or released stays so. -/
theorem Run.settled (run : Run a b) (k : K) (settled : (a.phase k).Settled) : b.phase k = a.phase k := by
  induction run with
  | refl => rfl
  | tail _ step ih =>
    rw [← ih] at settled
    exact (step.settled k settled).trans ih

theorem Step.held (step : Step a b) (k : K) (amount : M) (held : a.phase k = .held amount) :
    b.phase k = .held amount ∨ (∃ spent, spent ≤ amount ∧ b.phase k = .spent spent) ∨ b.phase k = .released := by
  cases step with
  | fund funds covered => exact .inl held
  | hold j funds untouched positive covered =>
    refine .inl ((update_phase untouched ?_).trans held)
    rw [held]
    exact fun same => by cases same
  | spend j h funds phase positive covered =>
    by_cases same : k = j
    · subst same
      obtain rfl : amount = h := Phase.held.inj (held.symm.trans phase)
      exact .inr (.inl ⟨funds, covered, Function.update_self _ _ _⟩)
    · exact .inl ((Function.update_of_ne same _ _).trans held)
  | release j h phase =>
    by_cases same : k = j
    · subst same
      exact .inr (.inr (Function.update_self _ _ _))
    · exact .inl ((Function.update_of_ne same _ _).trans held)

/-- What is spent of a hold is at most what was held. -/
theorem Run.held (run : Run a b) (k : K) (amount : M) (held : a.phase k = .held amount) :
    b.phase k = .held amount ∨ (∃ spent, spent ≤ amount ∧ b.phase k = .spent spent) ∨ b.phase k = .released := by
  induction run with
  | refl => exact .inl held
  | tail _ step ih =>
    rcases ih with now | ⟨spent, within_, now⟩ | now
    · exact step.held k amount now
    · exact .inr (.inl ⟨spent, within_, (step.settled k (.inl ⟨spent, now⟩)).trans now⟩)
    · exact .inr (.inr ((step.settled k (.inr now)).trans now))

/-! ### What there is -/

omit [DecidableEq K] in
theorem sound_empty : Sound (empty : Account K M) := by
  refine ⟨le_rfl, fun _ => le_rfl, ∅, fun _ _ => rfl, ?_⟩
  rw [Finset.sum_empty]
  exact add_zero _

/-- What one purpose takes changes by `d`, and what is free by `-d`. -/
theorem Sound.moved (sound : Sound a) (k : K) (phase : Phase M) (free : M) (solvent : 0 ≤ free) (claim : 0 ≤ phase.claim)
    (balance : free + phase.claim = a.free + (a.phase k).claim) :
    Sound { a with free := free, phase := Function.update a.phase k phase } := by
  obtain ⟨keys, outside, conserved⟩ := sound.conserved
  refine ⟨solvent, fun j => ?_, insert k keys, fun j other => ?_, ?_⟩
  · by_cases same : j = k
    · subst same
      simpa using claim
    · simpa [same] using sound.claims j
  · rw [Finset.mem_insert, not_or] at other
    simpa [other.1] using outside j other.2
  · -- The sum over all purposes but this one is left.
    have whole : ∑ j ∈ insert k keys, (a.phase j).claim = ∑ j ∈ keys, (a.phase j).claim := by
      by_cases there : k ∈ keys
      · rw [Finset.insert_eq_of_mem there]
      · rw [Finset.sum_insert there, outside k there, Phase.claim, zero_add]
    have others : ∑ j ∈ (insert k keys).erase k, (Function.update a.phase k phase j).claim =
        ∑ j ∈ (insert k keys).erase k, (a.phase j).claim := by
      apply Finset.sum_congr rfl
      intro j mem
      rw [Function.update_of_ne (Finset.ne_of_mem_erase mem)]
    have there : k ∈ insert k keys := Finset.mem_insert_self k keys
    dsimp only
    rw [← Finset.add_sum_erase _ _ there, others, Function.update_self, ← add_assoc, balance, add_assoc,
      Finset.add_sum_erase _ (fun j => (a.phase j).claim) there, whole, conserved]

variable [IsOrderedAddMonoid M]

theorem Step.sound (step : Step a b) (sound : Sound a) : Sound b := by
  cases step with
  | fund amount covered =>
    obtain ⟨keys, outside, conserved⟩ := sound.conserved
    refine ⟨covered, sound.claims, keys, outside, ?_⟩
    rw [← conserved]
    exact add_right_comm _ _ _
  | hold k amount untouched positive covered =>
    apply sound.moved k (.held amount) (a.free - amount) (sub_nonneg.mpr covered) positive
    rw [untouched]
    simp [Phase.claim]
  | spend k held amount phase positive covered =>
    apply sound.moved k (.spent amount) _ (add_nonneg sound.solvent (sub_nonneg.mpr covered)) positive
    rw [phase]
    simp [Phase.claim, add_assoc]
  | release k held phase =>
    have claim : 0 ≤ held := by
      have := sound.claims k
      rwa [phase] at this
    apply sound.moved k .released _ (add_nonneg sound.solvent claim) le_rfl
    rw [phase]
    simp [Phase.claim]

/-- **Nothing is lost and nothing overdrawn**, in every run. -/
theorem Run.sound (run : Run a b) (sound : Sound a) : Sound b := by
  induction run with
  | refl => exact sound
  | tail _ step ih => exact step.sound ih

end

end RmtPlatform.Holding
