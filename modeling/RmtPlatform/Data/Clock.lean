import Mathlib.Algebra.Group.Nat.Defs
import Mathlib.Data.List.Lex

/-! Instants and their text.

`datetime.isoformat` leaves the microseconds out where they are zero, so the texts of
two instants may differ in length. Their order as strings is still the order of the
instants: a `+` comes before a `.` (`isoformat_lt`). -/
namespace RmtPlatform

/-! ### Numbers in fixed width -/

/-- The last `w` digits of a number. -/
def digits : Nat → Nat → List Char
  | 0, _ => []
  | w + 1, n => digits w (n / 10) ++ [Nat.digitChar (n % 10)]

@[simp] theorem length_digits (w n : Nat) : (digits w n).length = w := by
  induction w generalizing n with
  | zero => rfl
  | succ w ih => simp [digits, ih]

theorem digitChar_lt {a b : Nat} (h : a < b) (hb : b < 10) : Nat.digitChar a < Nat.digitChar b := by
  have all : ∀ b : Fin 10, ∀ a : Fin 10, a < b → Nat.digitChar a < Nat.digitChar b := by decide
  exact all ⟨b, hb⟩ ⟨a, by omega⟩ h

/-- The order in which strings are compared. -/
abbrev Before (a b : List Char) : Prop := List.Lex (· < ·) a b

theorem before_append (cs : List Char) {a b : List Char} (h : Before a b) : Before (cs ++ a) (cs ++ b) := by
  induction cs with
  | nil => exact h
  | cons c cs ih => exact .cons ih

/-- Of texts of one length, what follows the difference does not count. -/
theorem Before.extend {a b : List Char} (h : Before a b) (same : a.length = b.length) (cs ds : List Char) :
    Before (a ++ cs) (b ++ ds) := by
  induction h with
  | nil => simp at same
  | rel h => exact .rel h
  | cons _ ih => exact .cons (ih (by simpa using same))

theorem digits_before {w a b : Nat} (h : a < b) (hb : b < 10 ^ w) : Before (digits w a) (digits w b) := by
  induction w generalizing a b with
  | zero => omega
  | succ w ih =>
    have quotient : b / 10 < 10 ^ w := Nat.div_lt_of_lt_mul (by rw [Nat.pow_succ] at hb; omega)
    unfold digits
    by_cases same : a / 10 = b / 10
    · rw [same]
      apply before_append
      exact .rel (digitChar_lt (by omega) (Nat.mod_lt _ (by decide)))
    · exact (ih (by omega) quotient).extend (by simp) _ _

/-! ### Instants -/

/-- A `datetime` in UTC. -/
structure Instant where
  year : Nat
  month : Nat
  day : Nat
  hour : Nat
  minute : Nat
  second : Nat
  microsecond : Nat
  bounds : year < 10000 ∧ month ≤ 12 ∧ day ≤ 31 ∧ hour < 24 ∧ minute < 60 ∧ second < 60 ∧ microsecond < 1000000

namespace Instant

def fraction (t : Instant) : List Char := if t.microsecond = 0 then [] else '.' :: digits 6 t.microsecond

def isoformat (t : Instant) : String := String.ofList
  (digits 4 t.year ++ '-' :: (digits 2 t.month ++ '-' :: (digits 2 t.day ++ 'T' :: (digits 2 t.hour ++ ':' ::
    (digits 2 t.minute ++ ':' :: (digits 2 t.second ++ (t.fraction ++ "+00:00".toList)))))))

/-- The fields in the order in which they are compared. -/
def key (t : Instant) : List Nat := [t.year, t.month, t.day, t.hour, t.minute, t.second, t.microsecond]

/-- `a` is earlier than `b`. -/
def Earlier (a b : Instant) : Prop := List.Lex (· < ·) a.key b.key

theorem fraction_before {a b : Instant} (h : a.microsecond < b.microsecond) (cs : List Char) :
    Before (a.fraction ++ '+' :: cs) (b.fraction ++ '+' :: cs) := by
  have positive : b.microsecond ≠ 0 := by omega
  unfold fraction
  rw [if_neg positive]
  by_cases zero : a.microsecond = 0
  · rw [if_pos zero]
    exact .rel (by decide)
  · rw [if_neg zero]
    exact .cons ((digits_before h b.bounds.2.2.2.2.2.2).extend (by simp) _ _)

/-- One field further: a difference in it decides, and otherwise what comes after it does. -/
theorem field_before {w m n : Nat} {as bs : List Nat} {cs ds : List Char} (bound : n < 10 ^ w)
    (h : List.Lex (· < ·) (m :: as) (n :: bs)) (rest : List.Lex (· < ·) as bs → Before cs ds) :
    Before (digits w m ++ cs) (digits w n ++ ds) := by
  cases h with
  | rel lt => exact (digits_before lt bound).extend (by simp) _ _
  | cons later => exact before_append _ (rest later)

theorem lex_singleton {m n : Nat} (h : List.Lex (· < ·) [m] [n]) : m < n := by
  cases h with
  | rel lt => exact lt
  | cons nothing => cases nothing

/-- **The texts of instants are in the order of the instants.** -/
theorem isoformat_lt {a b : Instant} (h : a.Earlier b) : a.isoformat < b.isoformat := by
  have text : Before a.isoformat.toList b.isoformat.toList := by
    obtain ⟨year, month, day, hour, minute, second, -⟩ := b.bounds
    unfold Earlier key at h
    unfold isoformat
    simp only [String.toList_ofList]
    apply field_before (by omega) h
    intro h
    apply List.Lex.cons
    apply field_before (by omega) h
    intro h
    apply List.Lex.cons
    apply field_before (by omega) h
    intro h
    apply List.Lex.cons
    apply field_before (by omega) h
    intro h
    apply List.Lex.cons
    apply field_before (by omega) h
    intro h
    apply List.Lex.cons
    apply field_before (by omega) h
    intro h
    exact fraction_before (lex_singleton h) _
  exact text

end Instant

end RmtPlatform
