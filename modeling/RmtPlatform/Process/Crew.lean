import Mathlib.Logic.Function.Basic
import RmtPlatform.Process.Safety

/-! Threads with names.

The calls of a `Pool` are anonymous, and all keep one discipline. The threads of a `Crew`
each have a name and a discipline of their own, so a thread can rely on the others leaving
alone what is its own: what a thread may assume is what each of the others owes
(`Crew.reach_sound`). -/
namespace RmtPlatform

/-- The threads, by name, and where the run is. -/
structure Crew (ι S L α : Type) where
  thread : ι → Program S L α
  point : Point S L

namespace Crew
variable {ι S L α : Type} [DecidableEq ι]

/-- One of the threads takes a step. -/
inductive Step (admits : L → Point S L → Prop) : Crew ι S L α → Crew ι S L α → Prop where
  | act {thread : ι → Program S L α} {p : Point S L} (i : ι) {l e k} (next : thread i = .act l e k) :
      (∀ m ∈ l, admits m p) → Step admits ⟨thread, p⟩ ⟨Function.update thread i (k p.state), p.step l e⟩

abbrev Reach (admits : L → Point S L → Prop) : Crew ι S L α → Crew ι S L α → Prop := Relation.ReflTransGen (Step admits)

/-- What each thread relies on and owes. -/
structure Duties (ι S L : Type) where
  rely : ι → Point S L → Point S L → Prop
  guarantee : ι → Point S L → Point S L → Prop
  inv : Point S L → Prop
  admits : L → Point S L → Prop
  rely_refl : ∀ i p, rely i p p
  rely_trans : ∀ i p q r, rely i p q → rely i q r → rely i p r
  /-- What a thread owes is what the others rely on. -/
  owed : ∀ i j p q, i ≠ j → guarantee i p q → rely j p q

/-- A thread's own. -/
def Duties.of (D : Duties ι S L) (i : ι) : Discipline S L := ⟨D.rely i, D.guarantee i, D.inv, D.admits⟩

section
variable {D : Duties ι S L} {Q : ι → α → Point S L → Prop} {c c' : Crew ι S L α}

/-- Every thread keeps its duties from here on, and ends in its own `Q`. -/
def AllSafe (D : Duties ι S L) (Q : ι → α → Point S L → Prop) (c : Crew ι S L α) : Prop :=
  ∀ i, (c.thread i).Safe (D.of i) (Q i) c.point

theorem step_sound (stays : ∀ i a p q, D.rely i p q → Q i a p → Q i a q) (step : Step D.admits c c')
    (inv : D.inv c.point) (safe : AllSafe D Q c) :
    D.inv c'.point ∧ AllSafe D Q c' ∧ ∃ i, D.guarantee i c.point c'.point := by
  cases step with
  | @act thread p i l e k next admitted =>
    have own := safe i
    replace own : (thread i).Safe (D.of i) (Q i) p := own
    rw [next] at own
    obtain ⟨inv', owes, rest⟩ := own p (D.rely_refl i p) inv admitted
    refine ⟨inv', fun j => ?_, i, owes⟩
    by_cases same : j = i
    · subst same
      show (Function.update thread j (k p.state) j).Safe (D.of j) _ _
      rw [Function.update_self]
      exact rest
    · show (Function.update thread i (k p.state) j).Safe (D.of j) _ _
      rw [Function.update_of_ne same]
      have moved := D.owed i j _ _ (Ne.symm same) owes
      exact (safe j).later (D.rely_trans j) (fun a => stays j a _ _ moved) moved

/-- **Threads that keep their duties keep the invariant**, whatever the schedule. -/
theorem reach_sound (stays : ∀ i a p q, D.rely i p q → Q i a p → Q i a q) (reach : Reach D.admits c c')
    (inv : D.inv c.point) (safe : AllSafe D Q c) : D.inv c'.point ∧ AllSafe D Q c' := by
  induction reach with
  | refl => exact ⟨inv, safe⟩
  | tail _ step ih =>
    obtain ⟨inv', safe', -⟩ := step_sound stays step ih.1 ih.2
    exact ⟨inv', safe'⟩

end

/-- The next step of thread `i`, if it has one. -/
def tick (c : Crew ι S L α) (i : ι) : Crew ι S L α :=
  match c.thread i with
  | .act l e k => ⟨Function.update c.thread i (k c.point.state), c.point.step l e⟩
  | .done _ => c

/-- The run a schedule describes. -/
def runSchedule (c : Crew ι S L α) (schedule : List ι) : Crew ι S L α := schedule.foldl tick c

theorem runSchedule_reach (c : Crew ι S L α) (schedule : List ι) : Reach (fun _ _ => True) c (c.runSchedule schedule) := by
  induction schedule generalizing c with
  | nil => exact .refl
  | cons i rest ih =>
    have first : Reach (fun _ _ => True) c (c.tick i) := by
      unfold tick
      cases next : c.thread i with
      | act l e k => exact .single (.act i next fun _ _ => trivial)
      | done a => exact .refl
    exact first.trans (ih (c.tick i))

end Crew

end RmtPlatform
