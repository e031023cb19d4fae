import RmtPlatform.Data.Value

/-! Python's JSON decoder on arbitrary text.

`Decoder.value` is `JSONDecoder.raw_decode` at the beginning of a text: the value that
stands there and what follows it. Besides malformed text there are two things it raises
for: an integer with too many digits, which is a plain `ValueError`, and nesting beyond
the interpreter's limit. Neither is a `JSONDecodeError`. The fuel the reader is given is
always enough (`decode_stuck`), and the limits only ever stop it (`decode_within`). -/
namespace RmtPlatform

inductive DecodeError where
  /-- `JSONDecodeError` -/
  | malformed
  /-- `ValueError`: more digits than an integer may have. -/
  | digits
  /-- `RecursionError` -/
  | depth
  /-- The reader's own fuel; never the answer of `decode`. -/
  | stuck
deriving DecidableEq

/-- What the decoder takes from the interpreter it runs in. -/
structure Decoder where
  /-- `float` of a number's text; an overflow is an infinity. -/
  float : List Char → Option FloatText
  /-- The character that stands for a lone surrogate, which no `Char` is. -/
  surrogate : Nat → Char
  /-- `sys.get_int_max_str_digits()` -/
  maxDigits : Option Nat
  /-- How many levels of nesting the stack has room for. -/
  levels : Option Nat
  /-- How a `JSONDecodeError` words its complaint about a text. -/
  complaint : String → String

/-- `repr` of a value; of what is not a string it is what `str` gives. -/
def Runtime.reprOf (rt : Runtime) : PyVal → String
  | .str s => rt.repr s
  | v => rt.strOf v

/-- `value in names`, for a set or a dictionary of names: which one it is, or the `TypeError`. -/
def hashedIn (names : List String) (v : PyVal) : Except String (Option String) :=
  match v.unhashable with
  | some type => .error ("unhashable type: '" ++ type ++ "'")
  | none => .ok (names.find? fun name => v.isStr name)

theorem PyVal.eq_of_isStr {v : PyVal} {s : String} (h : v.isStr s = true) : v = .str s := by
  unfold isStr at h
  split at h
  · rw [of_decide_eq_true h]
  · cases h

/-- What a membership test comes to. -/
theorem hashedIn_cases (names : List String) (v : PyVal) :
    (v.unhashable.isSome = true ∧ ∃ message, hashedIn names v = .error message) ∨
    (v.unhashable.isSome = false ∧ (∀ name ∈ names, v ≠ .str name) ∧ hashedIn names v = .ok none) ∨
    (v.unhashable.isSome = false ∧ ∃ name ∈ names, v = .str name ∧ hashedIn names v = .ok (some name)) := by
  unfold hashedIn
  cases v.unhashable with
  | some type => exact .inl ⟨rfl, _, rfl⟩
  | none =>
    cases found : names.find? fun name => v.isStr name with
    | none =>
      refine .inr (.inl ⟨rfl, ?_, rfl⟩)
      rintro name mem rfl
      have := List.find?_eq_none.mp found name mem
      simp [PyVal.isStr] at this
    | some name =>
      have is : v = .str name := PyVal.eq_of_isStr (List.find?_some found)
      exact .inr (.inr ⟨rfl, name, List.mem_of_find?_eq_some found, is, rfl⟩)

/-- An `int` from 0 to 100 that is no `bool`. -/
def PyVal.percentage : PyVal → Option Int
  | .int i => if 0 ≤ i ∧ i ≤ 100 then some i else Option.none
  | _ => Option.none

/-- `s[:n]` -/
def truncated (n : Nat) (s : String) : String := String.ofList (s.toList.take n)

namespace Decoder
variable (D : Decoder)

/-- The same interpreter without its limits. -/
def unlimited : Decoder := { D with maxDigits := none, levels := none }

/-! ### Strings -/

def fourHex (a b c d : Char) : Except DecodeError Nat :=
  match Json.hexValue a, Json.hexValue b, Json.hexValue c, Json.hexValue d with
  | some a, some b, some c, some d => .ok (a * 4096 + b * 256 + c * 16 + d)
  | _, _, _, _ => .error .malformed

/-- The characters that code points stand for, the surrogates of a pair together for one. -/
def joined (surrogate : Nat → Char) : List Nat → List Char
  | [] => []
  | [n] => [if 0xD800 ≤ n ∧ n < 0xE000 then surrogate n else Char.ofNat n]
  | n :: m :: rest =>
    if 0xD800 ≤ n ∧ n < 0xDC00 ∧ 0xDC00 ≤ m ∧ m < 0xE000 then
      Char.ofNat (0x10000 + (n - 0xD800) * 1024 + (m - 0xDC00)) :: joined surrogate rest
    else (if 0xD800 ≤ n ∧ n < 0xE000 then surrogate n else Char.ofNat n) :: joined surrogate (m :: rest)

/-- The code points of a string after its opening quote, and what follows it. -/
def body : List Char → Except DecodeError (List Nat × List Char)
  | [] => .error .malformed
  | '"' :: rest => .ok ([], rest)
  | '\\' :: 'u' :: a :: b :: c :: d :: rest => do
    let n ← fourHex a b c d
    let (ns, rest) ← body rest
    .ok (n :: ns, rest)
  | '\\' :: c :: rest => match Json.simpleEscape c with
    | none => .error .malformed
    | some c => do
      let (ns, rest) ← body rest
      .ok (c.toNat :: ns, rest)
  | c :: rest =>
    if c.toNat < 32 ∨ c = '\\' then .error .malformed
    else do
      let (ns, rest) ← body rest
      .ok (c.toNat :: ns, rest)

def string (text : List Char) : Except DecodeError (String × List Char) := do
  let (ns, rest) ← body text
  .ok (String.ofList (joined D.surrogate ns), rest)

/-! ### Numbers -/

/-- `.` and digits, if that is what comes next. -/
def fraction : List Char → List Char
  | '.' :: rest => match rest.takeWhile Char.isDigit with
    | [] => []
    | digits => '.' :: digits
  | _ => []

/-- The sign of an exponent. -/
def exponentSign : List Char → List Char
  | '+' :: _ => ['+']
  | '-' :: _ => ['-']
  | _ => []

/-- An exponent, if that is what comes next. -/
def exponent : List Char → List Char
  | [] => []
  | e :: rest =>
    if e = 'e' ∨ e = 'E' then
      let sign := exponentSign rest
      match (rest.drop sign.length).takeWhile Char.isDigit with
      | [] => []
      | digits => e :: sign ++ digits
    else []

/-- The digits before the point: no zero but a single one stands first. -/
def whole (text : List Char) : List Char :=
  match text with
  | '0' :: _ => ['0']
  | _ => text.takeWhile Char.isDigit

/-- The parts of a number at the beginning of a text, and what follows it. -/
structure NumberText where
  sign : List Char
  digits : List Char
  fraction : List Char
  exponent : List Char
  rest : List Char

def numberText (text : List Char) : NumberText :=
  let sign := if text.head? = some '-' then ['-'] else []
  let digits := whole (text.drop sign.length)
  let text := text.drop (sign.length + digits.length)
  let fraction := fraction text
  let exponent := exponent (text.drop fraction.length)
  ⟨sign, digits, fraction, exponent, text.drop (fraction.length + exponent.length)⟩

/-- `int` of a text of digits. -/
def integer (x : NumberText) : Except DecodeError PyVal :=
  if D.maxDigits.any (· < x.digits.length) then .error .digits
  else
    let n : Int := Nat.ofDigitChars 10 x.digits 0
    .ok (.int (if x.sign = [] then n else -n))

def floating (x : NumberText) : PyVal :=
  match D.float (x.sign ++ x.digits ++ x.fraction ++ x.exponent) with
  | some f => .float f
  | none => .nonfinite

def number (text : List Char) : Except DecodeError (PyVal × List Char) := do
  let x := numberText text
  if x.digits = [] then .error .malformed
  else if x.fraction = [] ∧ x.exponent = [] then
    let v ← D.integer x
    .ok (v, x.rest)
  else .ok (D.floating x, x.rest)

/-- The names the decoder knows. -/
def constant : List Char → Option (PyVal × List Char)
  | 'n' :: 'u' :: 'l' :: 'l' :: rest => some (.none, rest)
  | 't' :: 'r' :: 'u' :: 'e' :: rest => some (.bool true, rest)
  | 'f' :: 'a' :: 'l' :: 's' :: 'e' :: rest => some (.bool false, rest)
  | 'N' :: 'a' :: 'N' :: rest => some (.nonfinite, rest)
  | 'I' :: 'n' :: 'f' :: 'i' :: 'n' :: 'i' :: 't' :: 'y' :: rest => some (.nonfinite, rest)
  | '-' :: 'I' :: 'n' :: 'f' :: 'i' :: 'n' :: 'i' :: 't' :: 'y' :: rest => some (.nonfinite, rest)
  | _ => none

/-! ### Values -/

/-- One level deeper, if there is room. -/
def deeper : Option Nat → Except DecodeError (Option Nat)
  | none => .ok none
  | some 0 => .error .depth
  | some (n + 1) => .ok (some n)

/-- What follows a character, where that is the next one. -/
def after (c : Char) : List Char → Option (List Char)
  | [] => none
  | d :: rest => if d = c then some rest else none

mutual
def value : Nat → Option Nat → List Char → Except DecodeError (PyVal × List Char)
  | 0, _, _ => .error .stuck
  | n + 1, level, text =>
    match after '"' text, after '{' text, after '[' text, constant text with
    | some rest, _, _, _ => do
      let (s, rest) ← D.string rest
      .ok (.str s, rest)
    | none, some rest, _, _ => do
      let level ← deeper level
      match after '}' (Json.skip rest) with
      | some rest => .ok (.dict [], rest)
      | none =>
        let (entries, rest) ← members n level [] (Json.skip rest)
        .ok (.dict entries, rest)
    | none, none, some rest, _ => do
      let level ← deeper level
      match after ']' (Json.skip rest) with
      | some rest => .ok (.list [], rest)
      | none =>
        let (items, rest) ← items n level (Json.skip rest)
        .ok (.list items, rest)
    | none, none, none, some constant => .ok constant
    | none, none, none, none => D.number text

/-- At least one item, and the closing bracket. -/
def items : Nat → Option Nat → List Char → Except DecodeError (List PyVal × List Char)
  | 0, _, _ => .error .stuck
  | n + 1, level, text => do
    let (v, rest) ← value n level text
    match after ']' (Json.skip rest), after ',' (Json.skip rest) with
    | some rest, _ => .ok ([v], rest)
    | none, some rest =>
      let (vs, rest) ← items n level (Json.skip rest)
      .ok (v :: vs, rest)
    | none, none => .error .malformed

/-- At least one member, and the closing brace. -/
def members : Nat → Option Nat → Dict → List Char → Except DecodeError (Dict × List Char)
  | 0, _, _, _ => .error .stuck
  | n + 1, level, entries, text =>
    match after '"' text with
    | none => .error .malformed
    | some rest => do
      let (key, rest) ← D.string rest
      match after ':' (Json.skip rest) with
      | none => .error .malformed
      | some rest =>
        let (v, rest) ← value n level (Json.skip rest)
        let entries := PyVal.setEntry (.str key) v entries
        match after '}' (Json.skip rest), after ',' (Json.skip rest) with
        | some rest, _ => .ok (entries, rest)
        | none, some rest => members n level entries (Json.skip rest)
        | none, none => .error .malformed
end

/-- The value at the beginning of a text, and what follows it. -/
def decode (text : List Char) : Except DecodeError (PyVal × List Char) := D.value (2 * text.length + 1) D.levels text

/-- `json.loads` of a text that does not begin with a byte order mark. -/
def loads (text : List Char) : Except DecodeError PyVal := do
  let (v, rest) ← D.decode (Json.skip text)
  if Json.skip rest = [] then .ok v else .error .malformed

/-! ### The limits -/

section
variable {D} {α β : Type}

/-- The same answer, unless a limit is in the way. -/
def Limited (x y : Except DecodeError α) : Prop := x = y ∨ x = .error .digits ∨ x = .error .depth

theorem Limited.bind {x y : Except DecodeError α} {f g : α → Except DecodeError β} (h : Limited x y)
    (hf : ∀ a, Limited (f a) (g a)) : Limited (x >>= f) (y >>= g) := by
  rcases h with rfl | rfl | rfl
  · cases x with
    | error e => exact .inl rfl
    | ok a => exact hf a
  · exact .inr (.inl rfl)
  · exact .inr (.inr rfl)

theorem integer_limited (x : NumberText) : Limited (D.integer x) (D.unlimited.integer x) := by
  unfold integer
  split
  · exact .inr (.inl rfl)
  · exact .inl (by simp [unlimited])

theorem number_limited (text : List Char) : Limited (D.number text) (D.unlimited.number text) := by
  unfold number
  by_cases none_ : (numberText text).digits = []
  · simp only [none_, if_true]
    exact .inl rfl
  · by_cases plain : (numberText text).fraction = [] ∧ (numberText text).exponent = []
    · simp only [none_, if_false, plain, and_self, if_true]
      exact (integer_limited _).bind fun _ => .inl rfl
    · simp only [none_, if_false, plain]
      exact .inl rfl

theorem deeper_limited {level : Option Nat} {f g : Option Nat → Except DecodeError α}
    (h : ∀ level, Limited (f level) (g none)) : Limited (deeper level >>= f) (deeper none >>= g) := by
  cases level with
  | none => exact h none
  | some n =>
    cases n with
    | zero => exact .inr (.inr rfl)
    | succ n => exact h (some n)

theorem reads_limited (n : Nat) :
    (∀ level text, Limited (D.value n level text) (D.unlimited.value n none text)) ∧
    (∀ level text, Limited (D.items n level text) (D.unlimited.items n none text)) ∧
    (∀ level entries text, Limited (D.members n level entries text) (D.unlimited.members n none entries text)) := by
  induction n with
  | zero => exact ⟨fun _ _ => .inl rfl, fun _ _ => .inl rfl, fun _ _ _ => .inl rfl⟩
  | succ n ih =>
    obtain ⟨value, items, members⟩ := ih
    refine ⟨fun level text => ?_, fun level text => ?_, fun level entries text => ?_⟩
    · unfold Decoder.value
      cases after '"' text with
      | some rest => exact .inl rfl
      | none =>
        cases after '{' text with
        | some rest =>
          apply deeper_limited
          intro level
          cases after '}' (Json.skip rest) with
          | some rest => exact .inl rfl
          | none => exact (members level [] _).bind fun _ => .inl rfl
        | none =>
          cases after '[' text with
          | some rest =>
            apply deeper_limited
            intro level
            cases after ']' (Json.skip rest) with
            | some rest => exact .inl rfl
            | none => exact (items level _).bind fun _ => .inl rfl
          | none =>
            cases constant text with
            | some constant => exact .inl rfl
            | none => exact number_limited text
    · unfold Decoder.items
      apply (value level text).bind
      rintro ⟨v, rest⟩
      dsimp only
      cases after ']' (Json.skip rest) with
      | some rest => exact .inl rfl
      | none =>
        cases after ',' (Json.skip rest) with
        | none => exact .inl rfl
        | some rest => exact (items level _).bind fun _ => .inl rfl
    · unfold Decoder.members
      cases after '"' text with
      | none => exact .inl rfl
      | some rest =>
        apply Limited.bind (.inl rfl)
        rintro ⟨key, rest⟩
        dsimp only
        cases after ':' (Json.skip rest) with
        | none => exact .inl rfl
        | some rest =>
          apply (value level _).bind
          rintro ⟨v, rest⟩
          dsimp only
          cases after '}' (Json.skip rest) with
          | some rest => exact .inl rfl
          | none =>
            cases after ',' (Json.skip rest) with
            | none => exact .inl rfl
            | some rest => exact members level _ _

/-- **The limits only ever stop the decoder.** -/
theorem decode_within (text : List Char) : Limited (D.decode text) (D.unlimited.decode text) :=
  (reads_limited _).1 _ _

/-! ### The fuel -/

/-- What is left of a text after something of it has been read. -/
def Left (rest text : List Char) : Prop := rest <:+ text ∧ rest.length < text.length

theorem Left.trans {a b c : List Char} (h : Left a b) (h' : Left b c) : Left a c :=
  ⟨h.1.trans h'.1, Nat.lt_trans h.2 h'.2⟩

theorem skip_suffix (text : List Char) : Json.skip text <:+ text := List.dropWhile_suffix _

theorem Left.skip {a b : List Char} (h : Left a b) : Left (Json.skip a) b :=
  ⟨(skip_suffix a).trans h.1, Nat.lt_of_le_of_lt (skip_suffix a).length_le h.2⟩

theorem Left.skipped {a b : List Char} (h : Left a (Json.skip b)) : Left a b :=
  ⟨h.1.trans (skip_suffix b), Nat.lt_of_lt_of_le h.2 (skip_suffix b).length_le⟩

/-- Something has been read, and nothing has got stuck. -/
def Advances (text : List Char) (x : Except DecodeError (α × List Char)) : Prop :=
  match x with
  | .ok (_, rest) => Left rest text
  | .error e => e ≠ .stuck

theorem Advances.bind {text text' : List Char} {x : Except DecodeError (α × List Char)}
    {f : α × List Char → Except DecodeError (β × List Char)} (h : Advances text x)
    (hf : ∀ a rest, Left rest text → Advances text' (f (a, rest))) : Advances text' (x >>= f) := by
  rcases x with e | ⟨a, rest⟩
  · exact h
  · exact hf a rest h

theorem Advances.within {text text' : List Char} {x : Except DecodeError (α × List Char)} (h : Advances text x)
    (left : Left text text') : Advances text' x := by
  rcases x with e | ⟨a, rest⟩
  · exact h
  · exact Left.trans h left

theorem after_left {c : Char} {text rest : List Char} (h : after c text = some rest) : Left rest text := by
  unfold after at h
  split at h
  · cases h
  · split at h
    · cases h
      exact ⟨List.suffix_cons _ _, Nat.lt_succ_self _⟩
    · cases h

theorem constant_left {text rest : List Char} {v : PyVal} (h : constant text = some (v, rest)) : Left rest text := by
  have word : ∀ name : List Char, name ≠ [] → Left rest (name ++ rest) := fun name ne =>
    ⟨List.suffix_append _ _, by simpa using List.length_pos_iff.mpr ne⟩
  unfold constant at h
  split at h <;> cases h
  · exact word ['n', 'u', 'l', 'l'] (by decide)
  · exact word ['t', 'r', 'u', 'e'] (by decide)
  · exact word ['f', 'a', 'l', 's', 'e'] (by decide)
  · exact word ['N', 'a', 'N'] (by decide)
  · exact word ['I', 'n', 'f', 'i', 'n', 'i', 't', 'y'] (by decide)
  · exact word ['-', 'I', 'n', 'f', 'i', 'n', 'i', 't', 'y'] (by decide)

theorem numberText_left {text : List Char} (some_ : (numberText text).digits ≠ []) : Left (numberText text).rest text := by
  have digits : 0 < (numberText text).digits.length := List.length_pos_iff.mpr some_
  have nonempty : text ≠ [] := by
    rintro rfl
    exact some_ rfl
  have := List.length_pos_iff.mpr nonempty
  have rest : (numberText text).rest = (text.drop ((numberText text).sign.length + (numberText text).digits.length)).drop
    ((numberText text).fraction.length + (numberText text).exponent.length) := rfl
  rw [rest]
  refine ⟨(List.drop_suffix _ _).trans (List.drop_suffix _ _), ?_⟩
  rw [List.length_drop, List.length_drop]
  omega

theorem deeper_advances {text : List Char} {level : Option Nat} {f : Option Nat → Except DecodeError (α × List Char)}
    (h : ∀ level, Advances text (f level)) : Advances text (deeper level >>= f) := by
  cases level with
  | none => exact h none
  | some n =>
    cases n with
    | zero => exact DecodeError.noConfusion
    | succ n => exact h (some n)

theorem number_advances (text : List Char) : Advances text (D.number text) := by
  unfold number
  by_cases none_ : (numberText text).digits = []
  · simp only [none_, if_true]
    exact DecodeError.noConfusion
  · have left := numberText_left none_
    by_cases plain : (numberText text).fraction = [] ∧ (numberText text).exponent = []
    · simp only [none_, if_false, plain, and_self, if_true]
      unfold integer
      split
      · exact DecodeError.noConfusion
      · exact left
    · simp only [none_, if_false, plain]
      exact left

theorem fourHex_bind {a b c d : Char} {text : List Char} {f : Nat → Except DecodeError (α × List Char)}
    (h : ∀ n, Advances text (f n)) : Advances text (fourHex a b c d >>= f) := by
  unfold fourHex
  split
  · exact h _
  · exact DecodeError.noConfusion

theorem body_advances (text : List Char) : Advances text (body text) := by
  have more : ∀ (front rest : List Char) (f : List Nat → List Nat), front ≠ [] → Advances rest (body rest) →
      Advances (front ++ rest) (body rest >>= fun r => .ok (f r.1, r.2)) := by
    intro front rest f ne read
    apply read.bind
    intro ns left h
    have shorter : left.length < (front ++ rest).length := by
      rw [List.length_append]
      have := h.2
      omega
    exact ⟨h.1.trans (List.suffix_append _ _), shorter⟩
  fun_induction body text with
  | case1 => exact DecodeError.noConfusion
  | case2 rest => exact ⟨List.suffix_cons _ _, Nat.lt_succ_self _⟩
  | case3 a b c d rest ih => exact fourHex_bind fun n => more ['\\', 'u', a, b, c, d] rest (n :: ·) (by simp) ih
  | case4 => exact DecodeError.noConfusion
  | case5 c rest _ c' _ ih => exact more ['\\', c] rest (c'.toNat :: ·) (by simp) ih
  | case6 => exact DecodeError.noConfusion
  | case7 c rest _ _ _ _ ih => exact more [c] rest (c.toNat :: ·) (by simp) ih

theorem string_advances (text : List Char) : Advances text (D.string text) :=
  (body_advances text).bind fun _ _ left => left

theorem reads_advance (n : Nat) :
    (∀ level text, 2 * text.length + 1 ≤ n → Advances text (D.value n level text)) ∧
    (∀ level text, 2 * text.length + 2 ≤ n → Advances text (D.items n level text)) ∧
    (∀ level entries text, 2 * text.length + 2 ≤ n → Advances text (D.members n level entries text)) := by
  induction n with
  | zero => exact ⟨fun _ _ h => by omega, fun _ _ h => by omega, fun _ _ _ h => by omega⟩
  | succ n ih =>
    obtain ⟨value, items, members⟩ := ih
    refine ⟨fun level text fuel => ?_, fun level text fuel => ?_, fun level entries text fuel => ?_⟩
    · unfold Decoder.value
      cases quote : after '"' text with
      | some rest => exact (string_advances rest).bind fun _ _ left => left.trans (after_left quote)
      | none =>
        cases brace : after '{' text with
        | some rest =>
          have inside := (after_left brace).skip
          have shorter := inside.2
          apply deeper_advances
          intro level
          dsimp only
          cases close : after '}' (Json.skip rest) with
          | some left => exact (after_left close).trans inside
          | none => exact (members level [] _ (by omega)).bind fun _ _ left => left.trans inside
        | none =>
          cases bracket : after '[' text with
          | some rest =>
            have inside := (after_left bracket).skip
            have shorter := inside.2
            apply deeper_advances
            intro level
            dsimp only
            cases close : after ']' (Json.skip rest) with
            | some left => exact (after_left close).trans inside
            | none => exact (items level _ (by omega)).bind fun _ _ left => left.trans inside
          | none =>
            cases name : constant text with
            | some constant => exact constant_left name
            | none => exact number_advances text
    · unfold Decoder.items
      apply (value level text (by omega)).bind
      intro v rest read
      dsimp only
      cases close : after ']' (Json.skip rest) with
      | some left => exact (after_left close).trans read.skip
      | none =>
        cases comma : after ',' (Json.skip rest) with
        | none => exact DecodeError.noConfusion
        | some next =>
          have further := ((after_left comma).trans read.skip).skip
          have shorter := further.2
          exact (items level _ (by omega)).bind fun _ _ left => left.trans further
    · unfold Decoder.members
      cases quote : after '"' text with
      | none => exact DecodeError.noConfusion
      | some rest =>
        apply (string_advances rest).bind
        intro key rest read
        have named := (read.trans (after_left quote)).skip
        dsimp only
        cases colon : after ':' (Json.skip rest) with
        | none => exact DecodeError.noConfusion
        | some next =>
          have before := ((after_left colon).trans named).skip
          have shorter := before.2
          apply (value level _ (by omega)).bind
          intro v rest read
          have behind := (read.trans before).skip
          dsimp only
          cases close : after '}' (Json.skip rest) with
          | some left => exact (after_left close).trans behind
          | none =>
            cases comma : after ',' (Json.skip rest) with
            | none => exact DecodeError.noConfusion
            | some next =>
              have further := ((after_left comma).trans behind).skip
              have shorter := further.2
              exact (members level _ _ (by omega)).within further

theorem decode_advances (text : List Char) : Advances text (D.decode text) := (reads_advance _).1 _ _ (Nat.le_refl _)

/-- **The fuel is enough**, whatever the text. -/
theorem decode_stuck (text : List Char) : D.decode text ≠ .error .stuck := by
  intro h
  have := decode_advances (D := D) text
  rw [h] at this
  exact this rfl

theorem decode_suffix {text rest : List Char} {v : PyVal} (h : D.decode text = .ok (v, rest)) : rest <:+ text := by
  have := decode_advances (D := D) text
  rw [h] at this
  exact this.1

theorem loads_stuck (D : Decoder) (text : List Char) : D.loads text ≠ .error .stuck := by
  unfold loads
  cases h : D.decode (Json.skip text) with
  | error e =>
    intro stuck
    cases stuck
    exact decode_stuck _ h
  | ok r =>
    show (if Json.skip r.2 = [] then Except.ok r.1 else .error DecodeError.malformed) ≠ _
    split <;> simp

end

end Decoder

end RmtPlatform
