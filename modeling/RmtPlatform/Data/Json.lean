import Mathlib.Tactic.Common
import Mathlib.Data.List.Basic

/-! JSON text, written compactly and read back.

`render` writes a tree with no space between tokens and no escape that is not
needed; `parse` reads any JSON text, spaces and optional escapes included. What
is written is read back (`parse_render`), so two trees with one text are one tree
(`render_injective`). -/
namespace RmtPlatform

/-- The characters of a list are looked at one by one, not all that there are. -/
instance (priority := high) decidableChars {p : Char → Prop} [DecidablePred p] (cs : List Char) : Decidable (∀ c ∈ cs, p c) :=
  List.decidableBAll p cs

/-- A character that may stand in a number. -/
def isNumberChar (c : Char) : Bool := c.isDigit || ['-', '+', '.', 'e', 'E'].contains c

/-- The text of a number that is not an integer: it has a point or an exponent. -/
structure FloatText where
  text : List Char
  numeric : ∀ c ∈ text, isNumberChar c = true
  fractional : ∃ c ∈ text, c = '.' ∨ c = 'e' ∨ c = 'E'
deriving DecidableEq

inductive Json where
  | null
  | bool (b : Bool)
  | int (i : Int)
  | float (x : FloatText)
  | string (s : String)
  | array (items : List Json)
  | object (members : List (String × Json))

namespace Json

/-! ### Writing -/

def hexDigit (n : Nat) : Char := Nat.digitChar n

/-- How a string writes one character. -/
def escape (c : Char) : List Char :=
  if c = '"' then ['\\', '"']
  else if c = '\\' then ['\\', '\\']
  else if c = '\n' then ['\\', 'n']
  else if c = '\r' then ['\\', 'r']
  else if c = '\t' then ['\\', 't']
  else if c.toNat = 8 then ['\\', 'b']
  else if c.toNat = 12 then ['\\', 'f']
  else if c.toNat < 32 then ['\\', 'u', '0', '0', hexDigit (c.toNat / 16), hexDigit (c.toNat % 16)]
  else [c]

def renderString (s : String) : List Char := '"' :: (s.toList.flatMap escape ++ ['"'])

def renderInt : Int → List Char
  | .ofNat n => Nat.toDigits 10 n
  | .negSucc n => '-' :: Nat.toDigits 10 (n + 1)

mutual
def render : Json → List Char
  | null => ['n', 'u', 'l', 'l']
  | bool true => ['t', 'r', 'u', 'e']
  | bool false => ['f', 'a', 'l', 's', 'e']
  | int i => renderInt i
  | float x => x.text
  | string s => renderString s
  | array items => '[' :: renderItems items
  | object members => '{' :: renderMembers members

/-- The items and the closing bracket. -/
def renderItems : List Json → List Char
  | [] => [']']
  | [v] => render v ++ [']']
  | v :: w :: rest => render v ++ ',' :: renderItems (w :: rest)

/-- The members and the closing brace. -/
def renderMembers : List (String × Json) → List Char
  | [] => ['}']
  | [(k, v)] => renderString k ++ ':' :: (render v ++ ['}'])
  | (k, v) :: m :: rest => renderString k ++ ':' :: (render v ++ ',' :: renderMembers (m :: rest))
end

/-! ### Reading -/

def isSpace (c : Char) : Bool := [' ', '\n', '\r', '\t'].contains c

def skip (cs : List Char) : List Char := cs.dropWhile isSpace

def hexValue (c : Char) : Option Nat :=
  if c.isDigit then some (c.toNat - 48)
  else if 97 ≤ c.toNat ∧ c.toNat ≤ 102 then some (c.toNat - 87)
  else if 65 ≤ c.toNat ∧ c.toNat ≤ 70 then some (c.toNat - 55)
  else none

/-- The character four hex digits name; a lone surrogate names none. -/
def unicode (a b c d : Char) : Option Char := do
  let code := (← hexValue a) * 4096 + (← hexValue b) * 256 + (← hexValue c) * 16 + (← hexValue d)
  if h : code.isValidChar then some (Char.ofNatAux code h) else none

def simpleEscape (c : Char) : Option Char :=
  if c = 'n' then some '\n'
  else if c = 'r' then some '\r'
  else if c = 't' then some '\t'
  else if c = 'b' then some (Char.ofNat 8)
  else if c = 'f' then some (Char.ofNat 12)
  else if c = '"' ∨ c = '\\' ∨ c = '/' then some c
  else none

/-- A string's characters up to its closing quote, and what follows. -/
def stringBody : Nat → List Char → Option (List Char × List Char)
  | 0, _ => none
  | _ + 1, [] => none
  | n + 1, c :: rest =>
    if c = '"' then some ([], rest)
    else if c = '\\' then
      match rest with
      | 'u' :: a :: b :: d :: e :: rest => do
        let c ← unicode a b d e
        let (cs, rest) ← stringBody n rest
        some (c :: cs, rest)
      | c :: rest => do
        let c ← simpleEscape c
        let (cs, rest) ← stringBody n rest
        some (c :: cs, rest)
      | [] => none
    else if c.toNat < 32 then none
    else do
      let (cs, rest) ← stringBody n rest
      some (c :: cs, rest)

def readNat (cs : List Char) : Option Nat :=
  if cs ≠ [] ∧ cs.all Char.isDigit then some (Nat.ofDigitChars 10 cs 0) else none

def readInt : List Char → Option Int
  | '-' :: cs => (readNat cs).map fun n => -(n : Int)
  | cs => (readNat cs).map Int.ofNat

/-- A number token: an integer if it reads as one, else the text of a float. -/
def number (token : List Char) : Option Json :=
  match readInt token with
  | some i => some (int i)
  | none =>
    if h : token.all isNumberChar = true ∧ token.any (fun c => c = '.' ∨ c = 'e' ∨ c = 'E') = true then
      some (float ⟨token, List.all_eq_true.mp h.1, by simpa using h.2⟩)
    else none

def keyword : List Char → Option (Json × List Char)
  | 'n' :: 'u' :: 'l' :: 'l' :: rest => some (null, rest)
  | 't' :: 'r' :: 'u' :: 'e' :: rest => some (bool true, rest)
  | 'f' :: 'a' :: 'l' :: 's' :: 'e' :: rest => some (bool false, rest)
  | _ => none

mutual
/-- The value at the front of a text, and what follows it. -/
def value : Nat → List Char → Option (Json × List Char)
  | 0, _ => none
  | n + 1, cs =>
    match skip cs with
    | [] => none
    | c :: rest =>
      if c = '"' then (stringBody n rest).map fun (s, rest) => (string (String.ofList s), rest)
      else if c = '[' then
        match skip rest with
        | ']' :: rest => some (array [], rest)
        | rest => (items n rest).map fun (vs, rest) => (array vs, rest)
      else if c = '{' then
        match skip rest with
        | '}' :: rest => some (object [], rest)
        | rest => (members n rest).map fun (ms, rest) => (object ms, rest)
      else if isNumberChar c then
        (number ((c :: rest).takeWhile isNumberChar)).map fun v => (v, (c :: rest).dropWhile isNumberChar)
      else keyword (c :: rest)

/-- At least one item, up to the closing bracket. -/
def items : Nat → List Char → Option (List Json × List Char)
  | 0, _ => none
  | n + 1, cs => do
    let (v, rest) ← value n cs
    match skip rest with
    | ',' :: rest =>
      let (vs, rest) ← items n rest
      some (v :: vs, rest)
    | ']' :: rest => some ([v], rest)
    | _ => none

/-- At least one member, up to the closing brace. -/
def members : Nat → List Char → Option (List (String × Json) × List Char)
  | 0, _ => none
  | n + 1, cs =>
    match skip cs with
    | '"' :: rest => do
      let (k, rest) ← stringBody n rest
      match skip rest with
      | ':' :: rest =>
        let (v, rest) ← value n rest
        match skip rest with
        | ',' :: rest =>
          let (ms, rest) ← members n rest
          some ((String.ofList k, v) :: ms, rest)
        | '}' :: rest => some ([(String.ofList k, v)], rest)
        | _ => none
      | _ => none
    | _ => none
end

/-- The tree a whole text stands for. -/
def parse (text : List Char) : Option Json :=
  match value (text.length + 1) text with
  | some (v, rest) => if skip rest = [] then some v else none
  | none => none

/-! ### What is written is read back -/

private theorem unicode_control {n : Nat} (h : n < 32) :
    unicode '0' '0' (hexDigit (n / 16)) (hexDigit (n % 16)) = some (Char.ofNat n) := by
  have all : ∀ n : Fin 32, unicode '0' '0' (hexDigit (n / 16)) (hexDigit (n % 16)) = some (Char.ofNat n) := by
    decide
  exact all ⟨n, h⟩

/-- One written character, read back. -/
theorem stringBody_escape (c : Char) (n : Nat) (rest : List Char) :
    stringBody (n + 1) (escape c ++ rest) = (stringBody n rest).map fun p => (c :: p.1, p.2) := by
  have self : c = Char.ofNat c.toNat := (Char.ofNat_toNat c).symm
  unfold escape
  split_ifs with h1 h2 h3 h4 h5 h6 h7 h8
  · subst h1; cases h : stringBody n rest <;> simp [stringBody, simpleEscape, h]
  · subst h2; cases h : stringBody n rest <;> simp [stringBody, simpleEscape, h]
  · subst h3; cases h : stringBody n rest <;> simp [stringBody, simpleEscape, h]
  · subst h4; cases h : stringBody n rest <;> simp [stringBody, simpleEscape, h]
  · subst h5; cases h : stringBody n rest <;> simp [stringBody, simpleEscape, h]
  · rw [h6] at self; subst self
    cases h : stringBody n rest <;> simp [stringBody, simpleEscape, h]
  · rw [h7] at self; subst self
    cases h : stringBody n rest <;> simp [stringBody, simpleEscape, h]
  · have hu := unicode_control h8
    rw [← self] at hu
    cases h : stringBody n rest <;> simp [stringBody, hu, h]
  · cases h : stringBody n rest <;> simp [stringBody, h1, h2, h8, h]

theorem length_escape (c : Char) : 0 < (escape c).length := by
  unfold escape
  split_ifs <;> simp

/-- A written string's characters, read back. -/
theorem stringBody_written (cs : List Char) (n : Nat) (rest : List Char)
    (h : (cs.flatMap escape).length < n) :
    stringBody n (cs.flatMap escape ++ '"' :: rest) = some (cs, rest) := by
  induction cs generalizing n with
  | nil =>
    cases n with
    | zero => simp at h
    | succ n => simp [stringBody]
  | cons c cs ih =>
    cases n with
    | zero => simp at h
    | succ n =>
      have hc := length_escape c
      simp only [List.flatMap_cons, List.length_append] at h
      rw [List.flatMap_cons, List.append_assoc, stringBody_escape, ih n (by omega)]
      rfl

theorem readNat_toDigits (n : Nat) : readNat (Nat.toDigits 10 n) = some n := by
  have hd : (Nat.toDigits 10 n).all Char.isDigit = true :=
    List.all_eq_true.mpr fun c hc => Nat.isDigit_of_mem_toDigits (by decide) (by decide) hc
  simp [readNat, hd, Nat.toDigits_ne_nil, Nat.ofDigitChars_ten_toDigits]

theorem readInt_renderInt (i : Int) : readInt (renderInt i) = some i := by
  cases i with
  | negSucc n => simp [renderInt, readInt, readNat_toDigits, Int.negSucc_eq]
  | ofNat n =>
    simp only [renderInt]
    have hd : '-' ∉ Nat.toDigits 10 n := fun h =>
      absurd (Nat.isDigit_of_mem_toDigits (by decide) (by decide) h) (by decide)
    unfold readInt
    split
    · next cs h => exact absurd (h ▸ List.mem_cons_self) hd
    · simp [readNat_toDigits]

theorem renderInt_ne_nil (i : Int) : renderInt i ≠ [] := by
  cases i <;> simp [renderInt, Nat.toDigits_ne_nil]

theorem numeric_renderInt (i : Int) : ∀ c ∈ renderInt i, isNumberChar c = true := by
  have digits : ∀ n, ∀ c ∈ Nat.toDigits 10 n, isNumberChar c = true := fun n c hc => by
    simp [isNumberChar, Nat.isDigit_of_mem_toDigits (by decide) (by decide) hc]
  cases i with
  | ofNat n => exact digits n
  | negSucc n =>
    intro c hc
    rcases List.mem_cons.mp hc with rfl | hc
    · decide
    · exact digits _ c hc

/-- A float's text has a character no integer's has. -/
theorem readInt_float (x : FloatText) : readInt x.text = none := by
  obtain ⟨c, hc, hf⟩ := x.fractional
  have notDigit : c.isDigit = false := by rcases hf with rfl | rfl | rfl <;> decide
  have notMinus : c ≠ '-' := by rcases hf with rfl | rfl | rfl <;> decide
  have key : ∀ cs : List Char, c ∈ cs → readNat cs = none := fun cs hm => by
    have : cs.all Char.isDigit = false := by
      rw [List.all_eq_false]
      exact ⟨c, hm, by simp [notDigit]⟩
    simp [readNat, this]
  unfold readInt
  split
  · next cs h =>
    rw [h] at hc
    rcases List.mem_cons.mp hc with rfl | hc
    · exact absurd rfl notMinus
    · simp [key cs hc]
  · simp [key _ hc]

theorem number_renderInt (i : Int) : number (renderInt i) = some (int i) := by
  simp [number, readInt_renderInt]

theorem number_float (x : FloatText) : number x.text = some (float x) := by
  unfold number
  rw [readInt_float]
  exact dif_pos ⟨List.all_eq_true.mpr x.numeric, by simpa using x.fractional⟩

/-- What follows a number must not read on as part of it. -/
def Stops (rest : List Char) : Prop := ∀ c ∈ rest.head?, isNumberChar c = false

theorem takeWhile_token {token rest : List Char} (ht : ∀ c ∈ token, isNumberChar c = true) (hr : Stops rest) :
    (token ++ rest).takeWhile isNumberChar = token ∧ (token ++ rest).dropWhile isNumberChar = rest := by
  rw [List.takeWhile_append_of_pos ht, List.dropWhile_append_of_pos ht]
  cases rest with
  | nil => simp
  | cons c rest =>
    have := hr c rfl
    simp [this]

/-- A value's first character: no space, and no closing bracket. -/
theorem render_head (v : Json) :
    ∃ c rest, render v = c :: rest ∧ isSpace c = false ∧ c ≠ ']' ∧ c ≠ '}' := by
  have token : ∀ cs : List Char, cs ≠ [] → (∀ c ∈ cs, isNumberChar c = true) →
      ∃ c rest, cs = c :: rest ∧ isSpace c = false ∧ c ≠ ']' ∧ c ≠ '}' := by
    intro cs hne hall
    obtain ⟨c, rest, rfl⟩ := List.exists_cons_of_ne_nil hne
    have hc := hall c List.mem_cons_self
    refine ⟨c, rest, rfl, ?_, ?_, ?_⟩
    · rw [Bool.eq_false_iff]
      intro hs
      have : c ∈ [' ', '\n', '\r', '\t'] := List.contains_iff_mem.mp hs
      simp only [List.mem_cons, List.not_mem_nil, or_false] at this
      rcases this with rfl | rfl | rfl | rfl <;> exact absurd hc (by decide)
    · rintro rfl; exact absurd hc (by decide)
    · rintro rfl; exact absurd hc (by decide)
  cases v with
  | null => exact ⟨_, _, rfl, by decide, by decide, by decide⟩
  | bool b => cases b <;> exact ⟨_, _, rfl, by decide, by decide, by decide⟩
  | int i =>
    exact token (renderInt i) (renderInt_ne_nil i) (numeric_renderInt i)
  | float x =>
    refine token _ ?_ x.numeric
    obtain ⟨c, hc, -⟩ := x.fractional
    exact List.ne_nil_of_mem hc
  | string s => exact ⟨_, _, rfl, by decide, by decide, by decide⟩
  | array items => exact ⟨_, _, rfl, by decide, by decide, by decide⟩
  | object members => exact ⟨_, _, rfl, by decide, by decide, by decide⟩

theorem skip_render (v : Json) (rest : List Char) : skip (render v ++ rest) = render v ++ rest := by
  obtain ⟨c, cs, h, hs, -⟩ := render_head v
  simp [h, skip, hs]

private theorem stops_of {c : Char} {rest : List Char} (h : isNumberChar c = false) : Stops (c :: rest) := by
  intro d hd
  cases hd
  exact h

theorem skip_cons {c : Char} (rest : List Char) (h : isSpace c = false) : skip (c :: rest) = c :: rest := by
  simp [skip, h]

/-- A number's text reads as `number` says. -/
private theorem value_number {token rest : List Char} {v : Json} (n : Nat)
    (ht : ∀ c ∈ token, isNumberChar c = true) (hv : number token = some v) (hr : Stops rest)
    (hskip : skip (token ++ rest) = token ++ rest) (hne : token ≠ []) :
    value (n + 1) (token ++ rest) = some (v, rest) := by
  obtain ⟨c, cs, rfl⟩ := List.exists_cons_of_ne_nil hne
  have hc := ht c List.mem_cons_self
  have notQuote : c ≠ '"' := by rintro rfl; exact absurd hc (by decide)
  have notBracket : c ≠ '[' := by rintro rfl; exact absurd hc (by decide)
  have notBrace : c ≠ '{' := by rintro rfl; exact absurd hc (by decide)
  obtain ⟨htake, hdrop⟩ := takeWhile_token ht hr
  simp only [List.cons_append] at hskip htake hdrop ⊢
  simp only [value, hskip, notQuote, notBracket, notBrace, hc, if_true, if_false, htake, hdrop, hv,
    Option.map_some]

/-- A written string, read back where a value is expected. -/
private theorem value_string (s : String) (n : Nat) (rest : List Char)
    (h : (s.toList.flatMap escape).length < n) :
    value (n + 1) (renderString s ++ rest) = some (string s, rest) := by
  have hbody := stringBody_written s.toList n rest h
  simp only [renderString, List.cons_append, List.append_assoc, List.nil_append] at hbody ⊢
  rw [value, skip_cons _ (by decide)]
  simp [hbody]

/-- The three readers on what is written, for texts shorter than the fuel. -/
private theorem written (n : Nat) :
    (∀ v rest, (render v).length < n → Stops rest → value n (render v ++ rest) = some (v, rest)) ∧
    (∀ v vs rest, (renderItems (v :: vs)).length < n →
      items n (renderItems (v :: vs) ++ rest) = some (v :: vs, rest)) ∧
    (∀ m ms rest, (renderMembers (m :: ms)).length < n →
      members n (renderMembers (m :: ms) ++ rest) = some (m :: ms, rest)) := by
  -- On the fuel: every reader hands less text than it got to the readers it calls.
  induction n with
  | zero => exact ⟨fun _ _ h => by simp at h, fun _ _ _ h => by simp at h, fun _ _ _ h => by simp at h⟩
  | succ n ih =>
    obtain ⟨ihValue, ihItems, ihMembers⟩ := ih
    refine ⟨fun v rest h hr => ?_, fun v vs rest h => ?_, fun m ms rest h => ?_⟩
    · cases v with
      | null => simp [render, value, skip, isSpace, isNumberChar, keyword]
      | bool b => cases b <;> simp [render, value, skip, isSpace, isNumberChar, keyword]
      | int i =>
        exact value_number n (numeric_renderInt i) (number_renderInt i) hr (skip_render (.int i) rest)
          (renderInt_ne_nil i)
      | float x =>
        refine value_number n x.numeric (number_float x) hr (skip_render (.float x) rest) ?_
        obtain ⟨c, hc, -⟩ := x.fractional
        exact List.ne_nil_of_mem hc
      | string s =>
        simp only [render, renderString, List.length_cons, List.length_append] at h
        exact value_string s n rest (by omega)
      | array vs =>
        cases vs with
        | nil => simp [render, renderItems, value, skip, isSpace]
        | cons v vs =>
          simp only [render, List.length_cons] at h
          have hitems := ihItems v vs rest (by omega)
          obtain ⟨c, cs, hc, hs, hbracket, -⟩ := render_head v
          obtain ⟨tail, htail⟩ : ∃ tail, renderItems (v :: vs) ++ rest = c :: tail := by
            cases vs <;> exact ⟨_, by simp only [renderItems, hc, List.cons_append]; rfl⟩
          simp only [render, List.cons_append]
          rw [htail] at hitems ⊢
          rw [value, skip_cons _ (by decide)]
          simp only [Char.reduceEq, if_true, if_false, skip_cons _ hs]
          split
          · next heq => exact absurd (List.cons.inj heq).1 hbracket
          · simp [hitems]
      | object ms =>
        cases ms with
        | nil => simp [render, renderMembers, value, skip, isSpace]
        | cons m ms =>
          simp only [render, List.length_cons] at h
          have hmembers := ihMembers m ms rest (by omega)
          obtain ⟨tail, htail⟩ : ∃ tail, renderMembers (m :: ms) ++ rest = '"' :: tail := by
            obtain ⟨k, v⟩ := m
            cases ms <;> exact ⟨_, by simp only [renderMembers, renderString, List.cons_append]; rfl⟩
          simp only [render, List.cons_append]
          rw [htail] at hmembers ⊢
          rw [value, skip_cons _ (by decide)]
          simp [skip_cons _ (show isSpace '"' = false by decide), hmembers]
    · cases vs with
      | nil =>
        simp only [renderItems, List.length_append] at h
        have hv := ihValue v (']' :: rest) (by simp at h; omega) (stops_of (by decide))
        simp [renderItems, items, hv, skip, isSpace]
      | cons w vs =>
        simp only [renderItems, List.length_append, List.length_cons] at h
        have hv := ihValue v (',' :: (renderItems (w :: vs) ++ rest)) (by omega) (stops_of (by decide))
        have hvs := ihItems w vs rest (by omega)
        simp [renderItems, items, hv, hvs, skip, isSpace]
    · obtain ⟨k, v⟩ := m
      cases ms with
      | nil =>
        simp only [renderMembers, renderString, List.length_append, List.length_cons, List.length_nil] at h
        have hk := stringBody_written k.toList n (':' :: (render v ++ '}' :: rest)) (by omega)
        have hv := ihValue v ('}' :: rest) (by omega) (stops_of (by decide))
        simp [renderMembers, renderString, members, hk, hv, skip, isSpace]
      | cons m ms =>
        simp only [renderMembers, renderString, List.length_append, List.length_cons, List.length_nil] at h
        have hk := stringBody_written k.toList n
          (':' :: (render v ++ ',' :: (renderMembers (m :: ms) ++ rest))) (by omega)
        have hv := ihValue v (',' :: (renderMembers (m :: ms) ++ rest)) (by omega) (stops_of (by decide))
        have hms := ihMembers m ms rest (by omega)
        simp [renderMembers, renderString, members, hk, hv, hms, skip, isSpace]

/-- **What is written is read back.** -/
theorem parse_render (v : Json) : parse (render v) = some v := by
  have h := (written ((render v).length + 1)).1 v [] (by omega) (by simp [Stops])
  simp only [List.append_nil] at h
  simp [parse, h, skip]

/-- **Two trees with one text are one tree.** -/
theorem render_injective {v w : Json} (h : render v = render w) : v = w := by
  have hv := parse_render v
  rw [h, parse_render w] at hv
  exact (Option.some.inj hv).symm

example : (parse "\x7b\"a\": [1, -2.5e3, \"x\\u0041\"], \"b\": null\x7d".toList).map render =
    some "\x7b\"a\":[1,-2.5e3,\"xA\"],\"b\":null\x7d".toList := by decide +kernel

end Json

end RmtPlatform
