import Mathlib.Algebra.BigOperators.Group.Finset.Piecewise
import Mathlib.Algebra.Order.BigOperators.Group.Finset
import Mathlib.Algebra.Order.BigOperators.Group.List
import Mathlib.Algebra.Order.Group.Defs

/-! Sliding windows.

An event is let in when what is shown of the window behind it, and what it weighs itself,
come to at most a limit. The check is made some time before the event counts, and looks at
the window behind the check only; all the same no window anywhere weighs more than the limit
(`within_limit`). Where several lines of events are checked side by side, and a check is sure
to be shown the events of its own line only, each line keeps the limit (`within_limits`). -/
namespace RmtPlatform.SlidingWindow

variable {Event T W : Type} [AddCommMonoid W]

/-- What the events for which `p` holds weigh. -/
def weigh (weight : Event → W) (p : Event → Bool) (events : List Event) : W := ((events.filter p).map weight).sum

section
variable {weight : Event → W} {p q : Event → Bool} {events events' : List Event} {e : Event}

@[simp] theorem weigh_nil : weigh weight p [] = 0 := rfl

theorem weigh_append : weigh weight p (events ++ events') = weigh weight p events + weigh weight p events' := by
  simp [weigh]

theorem weigh_singleton : weigh weight p [e] = if p e then weight e else 0 := by
  by_cases h : p e <;> simp [weigh, h]

theorem weigh_congr (same : ∀ x ∈ events, p x = q x) : weigh weight p events = weigh weight q events := by
  unfold weigh
  rw [List.filter_congr same]

theorem weigh_map {Event' : Type} {f : Event' → Event} {events : List Event'} :
    weigh weight p (events.map f) = weigh (weight ∘ f) (p ∘ f) events := by
  simp [weigh, List.filter_map]

/-- The events of each line together. -/
theorem weigh_lines {ι : Type} [Fintype ι] [DecidableEq ι] (line : Event → ι) :
    weigh weight p events = ∑ i, weigh weight (fun x => p x && line x = i) events := by
  induction events with
  | nil => simp
  | cons e rest ih =>
    have head : ∀ q : Event → Bool, weigh weight q (e :: rest) = (if q e then weight e else 0) + weigh weight q rest := by
      intro q
      rw [← List.singleton_append, weigh_append, weigh_singleton]
    simp only [head, Finset.sum_add_distrib, ← ih]
    congr 1
    by_cases own : p e
    · simp only [own, Bool.true_and, decide_eq_true_eq, if_true, Finset.sum_ite_eq, Finset.mem_univ]
    · simp [own]

variable [PartialOrder W] [IsOrderedAddMonoid W]

theorem weigh_mono (weights : ∀ x ∈ events, 0 ≤ weight x) (more : ∀ x ∈ events, p x = true → q x = true) :
    weigh weight p events ≤ weigh weight q events := by
  induction events with
  | nil => exact le_rfl
  | cons e rest ih =>
    have rest_le := ih (fun x mem => weights x (List.mem_cons_of_mem e mem)) fun x mem => more x (List.mem_cons_of_mem e mem)
    have head : ∀ q : Event → Bool, weigh weight q (e :: rest) = (if q e then weight e else 0) + weigh weight q rest := by
      intro q
      rw [← List.singleton_append, weigh_append, weigh_singleton]
    rw [head, head]
    refine add_le_add ?_ rest_le
    by_cases own : p e
    · rw [if_pos own, if_pos (more e List.mem_cons_self own)]
    · rw [if_neg own]
      split
      · exact weights e List.mem_cons_self
      · exact le_rfl

end

section
variable [AddCommGroup T] [LinearOrder T] [IsOrderedAddMonoid T] [PartialOrder W] [IsOrderedAddMonoid W]
  {time checked : Event → T} {weight : Event → W} {length : T} {limit : W} {p : Event → Bool} {events : List Event}

/-- **No window weighs more than the limit**, wherever it ends. -/
theorem within_limit (positive : 0 ≤ limit) (weights : ∀ e ∈ events, 0 ≤ weight e)
    (admitted : ∀ before e after, events = before ++ e :: after → p e = true → checked e ≤ time e ∧
      weigh weight (fun x => p x && checked e - length ≤ time x) before + weight e ≤ limit) (t : T) :
    weigh weight (fun x => p x && (t - length < time x ∧ time x ≤ t)) events ≤ limit := by
  induction events using List.reverseRecOn with
  | nil => exact positive
  | append_singleton earlier e ih =>
    have earlier_le := ih (fun x mem => weights x (List.mem_append_left _ mem)) fun before x after split =>
      admitted before x (after ++ [e]) (by rw [split, List.append_assoc, List.cons_append])
    rw [weigh_append, weigh_singleton]
    by_cases counts : p e && (t - length < time e ∧ time e ≤ t)
    · -- The last event of the window was shown all the others.
      simp only [Bool.and_eq_true, decide_eq_true_eq] at counts
      obtain ⟨own, -, now⟩ := counts
      obtain ⟨before, within_⟩ := admitted earlier e [] rfl own
      refine le_trans ?_ within_
      refine add_le_add ?_ ?_
      · apply weigh_mono fun x mem => weights x (List.mem_append_left _ mem)
        intro x _ counts
        simp only [Bool.and_eq_true, decide_eq_true_eq] at counts ⊢
        exact ⟨counts.1, (sub_le_sub_right (before.trans now) length).trans counts.2.1.le⟩
      · split
        · exact le_rfl
        · exact weights e (List.mem_append_right _ (List.mem_singleton_self e))
    · rw [if_neg counts, add_zero]
      exact earlier_le

/-- **Lines that are checked side by side** weigh no more than a limit each. -/
theorem within_limits {ι : Type} [Fintype ι] [DecidableEq ι] (line : Event → ι) (positive : 0 ≤ limit)
    (weights : ∀ e ∈ events, 0 ≤ weight e)
    (admitted : ∀ before e after, events = before ++ e :: after → p e = true → checked e ≤ time e ∧
      weigh weight (fun x => (p x && line x = line e) && checked e - length ≤ time x) before + weight e ≤ limit) (t : T) :
    weigh weight (fun x => p x && (t - length < time x ∧ time x ≤ t)) events ≤ Fintype.card ι • limit := by
  rw [weigh_lines line]
  apply Finset.sum_le_card_nsmul
  intro i _
  have single := within_limit (p := fun x => p x && line x = i) positive weights (by
    intro before e after split own
    simp only [Bool.and_eq_true, decide_eq_true_eq] at own
    obtain ⟨own, rfl⟩ := own
    exact admitted before e after split own) t
  refine le_of_eq_of_le (weigh_congr fun x _ => ?_) single
  exact Bool.and_right_comm _ _ _

end

end RmtPlatform.SlidingWindow
