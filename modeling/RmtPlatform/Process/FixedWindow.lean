import Mathlib.Algebra.Order.Group.Defs
import Mathlib.Algebra.Order.Group.Unbundled.Basic
import Mathlib.Data.List.Basic
import Mathlib.Order.Basic

/-! Fixed windows.

A limiter that keeps the start of one window and a count accepts a request while the
count is at most the limit, and begins a new window with the first request at or after
the old one's end. A window accepts at most the limit (`within_window`). An interval
of a window's length meets two windows at most, so it accepts at most twice the limit
(`within_interval`). -/
namespace RmtPlatform.FixedWindow

variable {T : Type} [AddCommGroup T] [LinearOrder T]

/-- A window's start, and the requests counted in it. -/
structure Window (T : Type) where
  start : T
  count : Nat
deriving DecidableEq

/-- The window that a request at `now` falls in, without that request. -/
def current (length : T) (w : Option (Window T)) (now : T) : Window T :=
  match w with
  | none => ⟨now, 0⟩
  | some w => if length ≤ now - w.start then ⟨now, 0⟩ else w

/-- The window after a request at `now`: every request counts. -/
def next (length : T) (w : Option (Window T)) (now : T) : Window T :=
  ⟨(current length w now).start, (current length w now).count + 1⟩

/-- The times of the requests that are accepted. -/
def accepted (length : T) (limit : Nat) : Option (Window T) → List T → List T
  | _, [] => []
  | w, now :: rest =>
    if (next length w now).count ≤ limit then now :: accepted length limit (some (next length w now)) rest
    else accepted length limit (some (next length w now)) rest

/-- The window after these requests. -/
def after (length : T) (w : Option (Window T)) (times : List T) : Option (Window T) :=
  times.foldl (fun w now => some (next length w now)) w

section
variable {length : T} {limit : Nat} {w : Option (Window T)} {times : List T}

theorem accepted_sublist : (accepted length limit w times).Sublist times := by
  induction times generalizing w with
  | nil => exact .slnil
  | cons now rest ih =>
    rw [accepted]
    split
    · exact ih.cons_cons now
    · exact ih.cons now

theorem next_rolled {window : Window T} {now : T} (ended : length ≤ now - window.start) :
    next length (some window) now = ⟨now, 1⟩ := by
  simp [next, current, ended]

theorem next_counted {window : Window T} {now : T} (within : ¬length ≤ now - window.start) :
    next length (some window) now = ⟨window.start, window.count + 1⟩ := by
  simp [next, current, within]

theorem next_count_pos {now : T} : 0 < (next length w now).count := Nat.succ_pos _

variable [IsOrderedAddMonoid T]

/-- A request falls in the window it is counted in. -/
theorem next_covers (positive : 0 < length) {now : T} : now < (next length w now).start + length := by
  cases w with
  | none => simpa [next, current] using positive
  | some window =>
    by_cases ended : length ≤ now - window.start
    · simpa [next_rolled ended] using positive
    · rw [next_counted ended]
      exact lt_add_of_sub_left_lt (not_le.mp ended)

variable (length limit) in
/-- **A window accepts at most the limit**, whatever it has counted so far. -/
theorem within_window (window : Window T) (sorted : times.Pairwise (· ≤ ·)) :
    (accepted length limit (some window) times).countP (· < window.start + length) ≤ limit - window.count := by
  induction times generalizing window with
  | nil => exact Nat.zero_le _
  | cons now rest ih =>
    obtain ⟨later, sorted⟩ := List.pairwise_cons.mp sorted
    by_cases ended : length ≤ now - window.start
    · -- The window is over, so nothing that follows falls in it.
      have beyond : ∀ t ∈ now :: rest, ¬t < window.start + length := by
        have now_beyond : window.start + length ≤ now := le_sub_iff_add_le'.mp ended
        intro t mem
        rcases List.mem_cons.mp mem with rfl | mem
        · exact not_lt.mpr now_beyond
        · exact not_lt.mpr (now_beyond.trans (later t mem))
      rw [List.countP_eq_zero.mpr fun t mem => by simpa using beyond t (accepted_sublist.subset mem)]
      exact Nat.zero_le _
    · have rest_bound := ih (next length (some window) now) sorted
      rw [next_counted ended] at rest_bound
      rw [accepted, next_counted ended]
      dsimp only at rest_bound ⊢
      split
      · next fits =>
        rw [List.countP_cons]
        split <;> omega
      · omega

variable (limit) in
/-- What a window that ends after `t` leaves to be accepted up to `t + length` comes from one window. -/
theorem after_window (window : Window T) {t : T} (sorted : times.Pairwise (· ≤ ·)) (ends : t < window.start + length) :
    (accepted length limit (some window) times).countP (fun a => window.start + length ≤ a ∧ a ≤ t + length) ≤ limit := by
  induction times generalizing window with
  | nil => exact Nat.zero_le _
  | cons now rest ih =>
    obtain ⟨later, sorted⟩ := List.pairwise_cons.mp sorted
    by_cases ended : length ≤ now - window.start
    · have now_beyond : window.start + length ≤ now := le_sub_iff_add_le'.mp ended
      have bound := within_window length limit ⟨now, 1⟩ sorted
      have fewer : (accepted length limit (some ⟨now, 1⟩) rest).countP
            (fun a => window.start + length ≤ a ∧ a ≤ t + length) ≤
          (accepted length limit (some ⟨now, 1⟩) rest).countP (· < now + length) := by
        apply List.countP_mono_left
        intro a _ inside
        have inside : _ ∧ a ≤ t + length := of_decide_eq_true inside
        apply decide_eq_true
        exact inside.2.trans_lt (add_lt_add_left (ends.trans_le now_beyond) length)
      rw [accepted, next_rolled ended]
      dsimp only at bound ⊢
      split
      · next fits =>
        rw [List.countP_cons]
        split <;> omega
      · omega
    · have within : now < window.start + length := lt_add_of_sub_left_lt (not_le.mp ended)
      have rest_bound := ih (next length (some window) now) sorted (by rw [next_counted ended]; exact ends)
      rw [next_counted ended] at rest_bound
      rw [accepted, next_counted ended]
      dsimp only at rest_bound ⊢
      split
      · rw [List.countP_cons_of_neg (by simpa using fun h => absurd within (not_lt.mpr h))]
        exact rest_bound
      · exact rest_bound

/-- **An interval of a window's length accepts at most twice the limit.** -/
theorem within_interval (positive : 0 < length) (sorted : times.Pairwise (· ≤ ·)) (t : T) :
    (accepted length limit w times).countP (fun a => t ≤ a ∧ a ≤ t + length) ≤ 2 * limit := by
  induction times generalizing w with
  | nil => exact Nat.zero_le _
  | cons now rest ih =>
    obtain ⟨later, sorted⟩ := List.pairwise_cons.mp sorted
    rw [accepted]
    by_cases early : now < t
    · split
      · rw [List.countP_cons_of_neg (by simpa using fun h => absurd early (not_lt.mpr h))]
        exact ih sorted
      · exact ih sorted
    · -- The first request of the interval: its window and the one after it are all there is.
      have covers : t < (next length w now).start + length := (not_lt.mp early).trans_lt (next_covers positive)
      generalize hwindow : next length w now = window at covers ⊢
      have counted : 0 < window.count := hwindow ▸ next_count_pos
      have first := within_window length limit window sorted
      have second := after_window limit window sorted covers
      have split_count : (accepted length limit (some window) rest).countP (fun a => t ≤ a ∧ a ≤ t + length) ≤
          (accepted length limit (some window) rest).countP (· < window.start + length) +
            (accepted length limit (some window) rest).countP
              (fun a => window.start + length ≤ a ∧ a ≤ t + length) := by
        generalize accepted length limit (some window) rest = taken
        induction taken with
        | nil => exact Nat.zero_le _
        | cons a taken ih =>
          simp only [List.countP_cons]
          by_cases inside : a < window.start + length
          · simp only [inside, decide_true, if_true]
            split <;> omega
          · simp only [inside, not_lt.mp inside, true_and, decide_false]
            by_cases early : a ≤ t + length
            · simp only [early, and_true, decide_true, if_true]
              split <;> omega
            · simp only [early, and_false, decide_false]
              omega
      split
      · next fits =>
        rw [List.countP_cons]
        split <;> omega
      · omega

/-- A later window begins when an earlier one is over. -/
theorem after_start (positive : 0 < length) (first : Window T) {last : Window T} (reached : after length (some first) times = some last) :
    last.start = first.start ∨ first.start + length ≤ last.start := by
  induction times generalizing first with
  | nil =>
    cases reached
    exact .inl rfl
  | cons now rest ih =>
    have later := ih (next length (some first) now) reached
    by_cases ended : length ≤ now - first.start
    · have beyond : first.start + length ≤ now := le_sub_iff_add_le'.mp ended
      rw [next_rolled ended] at later
      apply Or.inr
      rcases later with same | later
      · exact beyond.trans_eq same.symm
      · exact beyond.trans ((le_add_of_nonneg_right positive.le).trans later)
    · rw [next_counted ended] at later
      exact later

/-- **Each window accepts at most the limit**, of all the requests of a run. -/
theorem within_reached (positive : 0 < length) {before later : List T} {window : Window T}
    (sorted : (before ++ later).Pairwise (· ≤ ·)) (reached : after length w before = some window) :
    (accepted length limit w (before ++ later)).countP (fun a => window.start ≤ a ∧ a < window.start + length) ≤ limit := by
  have upper : ∀ taken : List T, taken.countP (fun a => window.start ≤ a ∧ a < window.start + length) ≤
      taken.countP (· < window.start + length) := by
    intro taken
    apply List.countP_mono_left
    intro a _ inside
    exact decide_eq_true (of_decide_eq_true inside).2
  induction before generalizing w with
  | nil =>
    cases reached
    exact (upper _).trans ((within_window _ _ _ sorted).trans (Nat.sub_le _ _))
  | cons now rest ih =>
    have sorted_rest : (rest ++ later).Pairwise (· ≤ ·) := (List.pairwise_cons.mp sorted).2
    rw [List.cons_append, accepted]
    rcases after_start positive (next length w now) reached with same | beyond
    · have bound := within_window length limit (next length w now) sorted_rest
      rw [← same] at bound
      have counted : 0 < (next length w now).count := next_count_pos
      split
      · next fits =>
        apply (upper _).trans
        rw [List.countP_cons]
        split <;> omega
      · exact (upper _).trans (bound.trans (Nat.sub_le _ _))
    · have early : ¬window.start ≤ now := not_le.mpr ((next_covers positive).trans_le beyond)
      split
      · rw [List.countP_cons_of_neg (by simpa using fun h => absurd h early)]
        exact ih sorted_rest reached
      · exact ih sorted_rest reached

/-- **Once the window is over, a request is accepted**, if any is. -/
theorem accepts_rolled {window : Window T} {now : T} (ended : window.start + length ≤ now) (some_limit : 1 ≤ limit) :
    (next length (some window) now).count ≤ limit := by
  rw [next_rolled (le_sub_iff_add_le'.mpr ended)]
  exact some_limit

end

end RmtPlatform.FixedWindow
