import Mathlib.Tactic.Common

/-! Regular expressions with anchors, as searches see them.

`Matches t r i j` says that `r` matches the text from `i` to `j`. Repetitions are of
single characters; whether they are greedy does not matter to whether there is a
match. Word boundaries look at the characters on both sides of the match, so a match
may be moved to another text when the two agree a little further than the match goes
(`matches_shift`), and `Sends` is the rule for where a match that starts in one part
of a text can end. -/
namespace RmtPlatform

inductive Regex where
  | empty
  | lit (cs : List Char)
  | one (p : Char → Bool)
  /-- Any number of characters of a class. -/
  | many (p : Char → Bool)
  | seq (r q : Regex)
  | alt (r q : Regex)
  /-- A word begins or ends here. -/
  | boundary
  /-- The beginning of the text. -/
  | start

namespace Regex

/-- At least one character of a class. -/
def many1 (p : Char → Bool) : Regex := seq (one p) (many p)

def opt (r : Regex) : Regex := alt r empty

/-- One after another. -/
def seqs : List Regex → Regex
  | [] => empty
  | r :: rs => seq r (seqs rs)

/-! ### Matches -/

/-- Whether a word character stands at `i`. -/
def wordAt (word : Char → Bool) (t : List Char) (i : Nat) : Bool := t[i]?.any word

/-- Whether one stands right before `i`. -/
def wordBefore (word : Char → Bool) (t : List Char) : Nat → Bool
  | 0 => false
  | i + 1 => wordAt word t i

def Matches (word : Char → Bool) (t : List Char) : Regex → Nat → Nat → Prop
  | empty, i, j => j = i
  | lit cs, i, j => j = i + cs.length ∧ ∀ k, k < cs.length → t[i + k]? = cs[k]?
  | one p, i, j => j = i + 1 ∧ t[i]?.any p = true
  | many p, i, j => i ≤ j ∧ ∀ k, k < j → i ≤ k → t[k]?.any p = true
  | seq r q, i, j => ∃ k, k ≤ j ∧ Matches word t r i k ∧ Matches word t q k j
  | alt r q, i, j => Matches word t r i j ∨ Matches word t q i j
  | boundary, i, j => j = i ∧ wordBefore word t i ≠ wordAt word t i
  | start, i, j => j = i ∧ i = 0

instance decidableMatches (word : Char → Bool) (t : List Char) : (r : Regex) → (i j : Nat) → Decidable (r.Matches word t i j)
  | empty, _, _ => inferInstanceAs (Decidable (_ = _))
  | lit cs, i, j => inferInstanceAs (Decidable (j = i + cs.length ∧ ∀ k, k < cs.length → t[i + k]? = cs[k]?))
  | one p, i, j => inferInstanceAs (Decidable (j = i + 1 ∧ t[i]?.any p = true))
  | many p, i, j => inferInstanceAs (Decidable (i ≤ j ∧ ∀ k, k < j → i ≤ k → t[k]?.any p = true))
  | seq r q, i, j =>
    have := decidableMatches word t r
    have := decidableMatches word t q
    inferInstanceAs (Decidable (∃ k, k ≤ j ∧ r.Matches word t i k ∧ q.Matches word t k j))
  | alt r q, i, j =>
    have := decidableMatches word t r i j
    have := decidableMatches word t q i j
    inferInstanceAs (Decidable (_ ∨ _))
  | boundary, i, j => inferInstanceAs (Decidable (j = i ∧ wordBefore word t i ≠ wordAt word t i))
  | start, i, j => inferInstanceAs (Decidable (j = i ∧ i = 0))

/-- There is a match somewhere in the text. -/
def Search (word : Char → Bool) (r : Regex) (t : List Char) : Prop :=
  ∃ i, i ≤ t.length ∧ ∃ j, j ≤ t.length ∧ r.Matches word t i j

instance (word : Char → Bool) (r : Regex) (t : List Char) : Decidable (r.Search word t) := by
  unfold Search
  infer_instance

section
variable {word : Char → Bool} {t t' : List Char} {r q : Regex} {i j k : Nat}

theorem Matches.le (h : r.Matches word t i j) : i ≤ j := by
  induction r generalizing i j with
  | empty => exact Nat.le_of_eq (Eq.symm h)
  | lit cs => exact h.1 ▸ Nat.le_add_right _ _
  | one p => exact h.1 ▸ Nat.le_succ i
  | many p => exact h.1
  | seq r q ihr ihq =>
    obtain ⟨k, _, hr, hq⟩ := h
    exact Nat.le_trans (ihr hr) (ihq hq)
  | alt r q ihr ihq => exact h.elim ihr ihq
  | boundary => exact Nat.le_of_eq h.1.symm
  | start => exact Nat.le_of_eq h.1.symm

theorem matches_seq : (seq r q).Matches word t i j ↔ ∃ k, r.Matches word t i k ∧ q.Matches word t k j :=
  ⟨fun ⟨k, _, h⟩ => ⟨k, h⟩, fun ⟨k, hr, hq⟩ => ⟨k, hq.le, hr, hq⟩⟩

/-- A match ends within the text. -/
theorem Matches.bound (h : r.Matches word t i j) (within : i ≤ t.length) : j ≤ t.length := by
  have here : ∀ {p : Char → Bool} {k}, t[k]?.any p = true → k < t.length := by
    intro p k found
    by_contra far
    rw [List.getElem?_eq_none (by omega)] at found
    cases found
  induction r generalizing i j with
  | empty => exact (show j = i from h) ▸ within
  | lit cs =>
    obtain ⟨rfl, same⟩ := h
    cases len : cs.length with
    | zero => exact within
    | succ n =>
      have last := same n (by omega)
      have : i + n < t.length := by
        by_contra far
        rw [List.getElem?_eq_none (by omega), eq_comm, List.getElem?_eq_none_iff] at last
        omega
      omega
  | one p => exact h.1 ▸ here h.2
  | many p =>
    by_contra far
    have := here (h.2 (j - 1) (by omega) (by omega))
    omega
  | seq r q ihr ihq =>
    obtain ⟨k, hr, hq⟩ := matches_seq.mp h
    exact ihq hq (ihr hr within)
  | alt r q ihr ihq => exact h.elim (fun h => ihr h within) fun h => ihq h within
  | boundary => exact h.1 ▸ within
  | start => exact h.1 ▸ within

/-! ### The same match in another text -/

/-- No `start` in it. -/
def StartFree : Regex → Prop
  | seq r q | alt r q => StartFree r ∧ StartFree q
  | start => False
  | _ => True

/-- The texts agree from `i` to `j`, and on whether words begin or end there. -/
structure Agree (word : Char → Bool) (t t' : List Char) (o i j : Nat) : Prop where
  chars : ∀ k, i ≤ k → k < j → t[k]? = t'[k + o]?
  before : wordBefore word t i = wordBefore word t' (i + o)
  after : wordAt word t j = wordAt word t' (j + o)

theorem Agree.inside {o : Nat} (h : Agree word t t' o i j) (lower : i ≤ k) (upper : k ≤ j) :
    wordBefore word t k = wordBefore word t' (k + o) ∧ wordAt word t k = wordAt word t' (k + o) := by
  constructor
  · rcases Nat.eq_or_lt_of_le lower with rfl | later
    · exact h.before
    · obtain ⟨k, rfl⟩ : ∃ n, k = n + 1 := ⟨k - 1, by omega⟩
      rw [show k + 1 + o = k + o + 1 by omega]
      show t[k]?.any word = t'[k + o]?.any word
      rw [h.chars k (by omega) (by omega)]
  · rcases Nat.eq_or_lt_of_le upper with rfl | earlier
    · exact h.after
    · unfold wordAt
      rw [h.chars k lower earlier]

/-- **A match can be moved** between texts that agree where it is. -/
theorem matches_shift {o lo hi : Nat} (agree : Agree word t t' o lo hi) (anchored : r.StartFree ∨ o = 0 ∨ 0 < lo)
    (lower : lo ≤ i) (upper : j ≤ hi) : r.Matches word t i j ↔ r.Matches word t' (i + o) (j + o) := by
  induction r generalizing i j with
  | empty => exact (Nat.add_right_cancel_iff (m := j)).symm
  | lit cs =>
    constructor
    · rintro ⟨rfl, same⟩
      refine ⟨by omega, fun k hk => ?_⟩
      rw [show i + o + k = i + k + o by omega, ← agree.chars (i + k) (by omega) (by omega)]
      exact same k hk
    · rintro ⟨end_, same⟩
      obtain rfl : j = i + cs.length := by omega
      refine ⟨rfl, fun k hk => ?_⟩
      rw [agree.chars (i + k) (by omega) (by omega), show i + k + o = i + o + k by omega]
      exact same k hk
  | one p =>
    constructor
    · rintro ⟨rfl, found⟩
      exact ⟨by omega, agree.chars i lower (by omega) ▸ found⟩
    · rintro ⟨end_, found⟩
      obtain rfl : j = i + 1 := by omega
      exact ⟨rfl, (agree.chars i lower (by omega)).symm ▸ found⟩
  | many p =>
    constructor
    · rintro ⟨le, found⟩
      refine ⟨by omega, fun k hk hik => ?_⟩
      obtain ⟨k, rfl⟩ : ∃ n, k = n + o := ⟨k - o, by omega⟩
      exact agree.chars k (by omega) (by omega) ▸ found k (by omega) (by omega)
    · rintro ⟨le, found⟩
      refine ⟨by omega, fun k hk hik => ?_⟩
      exact (agree.chars k (by omega) (by omega)).symm ▸ found (k + o) (by omega) (by omega)
  | seq r q ihr ihq =>
    have anchors : (r.StartFree ∨ o = 0 ∨ 0 < lo) ∧ (q.StartFree ∨ o = 0 ∨ 0 < lo) := by
      rcases anchored with ⟨hr, hq⟩ | rest
      · exact ⟨.inl hr, .inl hq⟩
      · exact ⟨.inr rest, .inr rest⟩
    rw [matches_seq, matches_seq]
    constructor
    · rintro ⟨k, hr, hq⟩
      have := hr.le
      have := hq.le
      exact ⟨k + o, (ihr anchors.1 lower (by omega)).mp hr, (ihq anchors.2 (by omega) upper).mp hq⟩
    · rintro ⟨k, hr, hq⟩
      have := hr.le
      have := hq.le
      obtain ⟨k, rfl⟩ : ∃ n, k = n + o := ⟨k - o, by omega⟩
      exact ⟨k, (ihr anchors.1 lower (by omega)).mpr hr, (ihq anchors.2 (by omega) upper).mpr hq⟩
  | alt r q ihr ihq =>
    have anchors : (r.StartFree ∨ o = 0 ∨ 0 < lo) ∧ (q.StartFree ∨ o = 0 ∨ 0 < lo) := by
      rcases anchored with ⟨hr, hq⟩ | rest
      · exact ⟨.inl hr, .inl hq⟩
      · exact ⟨.inr rest, .inr rest⟩
    exact or_congr (ihr anchors.1 lower upper) (ihq anchors.2 lower upper)
  | boundary =>
    constructor
    · rintro ⟨rfl, differ⟩
      obtain ⟨before, after⟩ := agree.inside lower upper
      exact ⟨rfl, before ▸ after ▸ differ⟩
    · rintro ⟨end_, differ⟩
      obtain rfl : j = i := by omega
      obtain ⟨before, after⟩ := agree.inside lower upper
      exact ⟨rfl, before.symm ▸ after.symm ▸ differ⟩
  | start =>
    constructor
    · rintro ⟨rfl, rfl⟩
      rcases anchored with h | rfl | h
      · exact h.elim
      · exact ⟨rfl, rfl⟩
      · omega
    · rintro ⟨end_, zero⟩
      exact ⟨by omega, by omega⟩

/-- A text agrees with what it begins, where no word goes on after it. -/
theorem agree_left (gap : t'.head?.any word = false) (within : i ≤ j) (bound : j ≤ t.length) :
    Agree word t (t ++ t') 0 i j := by
  have same : ∀ k, k < t.length → t[k]? = (t ++ t')[k]? := fun k hk => (List.getElem?_append_left hk).symm
  refine ⟨fun k _ hk => same k (by omega), ?_, ?_⟩
  · cases i with
    | zero => rfl
    | succ k =>
      show t[k]?.any word = (t ++ t')[k]?.any word
      rw [same k (by omega)]
  · show t[j]?.any word = (t ++ t')[j]?.any word
    rcases Nat.eq_or_lt_of_le bound with rfl | inside
    · rw [List.getElem?_eq_none (Nat.le_refl _), List.getElem?_append_right (Nat.le_refl _), Nat.sub_self,
        ← List.head?_eq_getElem?, gap]
      rfl
    · rw [same j inside]

/-- A text agrees with what it ends, where no word goes on before it. -/
theorem agree_right (gap : t'.getLast?.any word = false) : Agree word t (t' ++ t) t'.length i j := by
  have same : ∀ k, t[k]? = (t' ++ t)[k + t'.length]? := fun k => by
    rw [List.getElem?_append_right (by omega), Nat.add_sub_cancel]
  refine ⟨fun k _ _ => same k, ?_, congrArg (Option.any word) (same j)⟩
  cases i with
  | zero =>
    rw [Nat.zero_add]
    cases len : t'.length with
    | zero => rfl
    | succ n =>
      show false = (t' ++ t)[n]?.any word
      rw [List.getElem?_append_left (by omega), show n = t'.length - 1 by omega, ← List.getLast?_eq_getElem?, gap]
  | succ k =>
    rw [show k + 1 + t'.length = k + t'.length + 1 by omega]
    exact congrArg (Option.any word) (same k)

/-- Two texts that both agree with a third agree. -/
theorem Agree.across {u : List Char} {o o' : Nat} (h : Agree word t u o i j) (h' : Agree word t t' o' i j) (le : o' ≤ o) :
    Agree word t' u (o - o') (i + o') (j + o') := by
  refine ⟨fun k lower upper => ?_, ?_, ?_⟩
  · obtain ⟨k, rfl⟩ : ∃ n, k = n + o' := ⟨k - o', by omega⟩
    rw [← h'.chars k (by omega) (by omega), h.chars k (by omega) (by omega)]
    congr 1
    omega
  · rw [← h'.before, h.before]
    congr 1
    omega
  · rw [← h'.after, h.after]
    congr 1
    omega

theorem Search.left (h : r.Search word t) (gap : t'.head?.any word = false) : r.Search word (t ++ t') := by
  obtain ⟨i, hi, j, hj, found⟩ := h
  refine ⟨i, by simp; omega, j, by simp; omega, ?_⟩
  exact (matches_shift (agree_left gap found.le hj) (.inr (.inl rfl)) (Nat.le_refl _) (Nat.le_refl _)).mp found

theorem Search.right (h : r.Search word t) (free : r.StartFree) (gap : t'.getLast?.any word = false) :
    r.Search word (t' ++ t) := by
  obtain ⟨i, hi, j, hj, found⟩ := h
  refine ⟨i + t'.length, by simp; omega, j + t'.length, by simp; omega, ?_⟩
  exact (matches_shift (agree_right gap) (.inl free) (Nat.le_refl _) (Nat.le_refl _)).mp found

/-! ### Where a match can end -/

/-- A match of `r` that starts in `P` ends in `Q`. -/
def Sends (word : Char → Bool) (t : List Char) (P : Nat → Prop) (r : Regex) (Q : Nat → Prop) : Prop :=
  ∀ i j, P i → r.Matches word t i j → Q j

variable {P Q R : Nat → Prop}

theorem Sends.seq (hr : Sends word t P r Q) (hq : Sends word t Q q R) : Sends word t P (seq r q) R := by
  rintro i j hi ⟨k, _, mr, mq⟩
  exact hq k j (hr i k hi mr) mq

theorem Sends.alt (hr : Sends word t P r Q) (hq : Sends word t P q Q) : Sends word t P (alt r q) Q :=
  fun i j hi h => h.elim (hr i j hi) (hq i j hi)

theorem Sends.weaken (h : Sends word t P r Q) (weaker : ∀ j, Q j → R j) : Sends word t P r R :=
  fun i j hi hm => weaker j (h i j hi hm)

theorem Sends.starting {P' : Nat → Prop} (h : Sends word t P r Q) (stronger : ∀ i, P' i → P i) : Sends word t P' r Q :=
  fun i j hi hm => h i j (stronger i hi) hm

theorem Sends.never : Sends word t (fun _ => False) r Q := fun _ _ hi _ => hi.elim

theorem Sends.empty : Sends word t P empty P := fun _ _ hi h => (show _ = _ from h) ▸ hi

theorem Sends.boundary : Sends word t P boundary P := fun _ _ hi h => h.1 ▸ hi

end

end Regex

end RmtPlatform
