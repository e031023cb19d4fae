import RmtPlatform.Data.Json

/-! JSON text as `json.dumps` writes it by default, and as `json.loads` reads it.

`dumps` puts a space after each comma and colon and writes ASCII only, a character
beyond the basic plane as the escapes of two surrogates. `loads` joins such a pair and
then reads the text. What is dumped is loaded (`loads_dumps`), and it is one line
(`dumps_one_line`). Both writers are one, given how a character is escaped and what
stands between tokens (`write`). -/
namespace RmtPlatform.Json

/-! ### Writing -/

section
variable (esc : Char → List Char) (gap : List Char)

def writeString (s : String) : List Char := '"' :: (s.toList.flatMap esc ++ ['"'])

mutual
def write : Json → List Char
  | null => ['n', 'u', 'l', 'l']
  | bool true => ['t', 'r', 'u', 'e']
  | bool false => ['f', 'a', 'l', 's', 'e']
  | int i => renderInt i
  | float x => x.text
  | string s => writeString esc s
  | array items => '[' :: writeItems items
  | object members => '{' :: writeMembers members

/-- The items and the closing bracket. -/
def writeItems : List Json → List Char
  | [] => [']']
  | [v] => write v ++ [']']
  | v :: w :: rest => write v ++ ',' :: (gap ++ writeItems (w :: rest))

/-- The members and the closing brace. -/
def writeMembers : List (String × Json) → List Char
  | [] => ['}']
  | [(k, v)] => writeString esc k ++ ':' :: (gap ++ (write v ++ ['}']))
  | (k, v) :: m :: rest => writeString esc k ++ ':' :: (gap ++ (write v ++ ',' :: (gap ++ writeMembers (m :: rest))))
end

end

/-- Four hex digits. -/
def hex (n : Nat) : List Char :=
  [hexDigit (n / 4096), hexDigit (n / 256 % 16), hexDigit (n / 16 % 16), hexDigit (n % 16)]

def unicodeEscape (n : Nat) : List Char := '\\' :: 'u' :: hex n

/-- A character in ASCII. -/
def asciiEscape (c : Char) : List Char :=
  if c.toNat < 127 then escape c
  else if c.toNat < 0x10000 then unicodeEscape c.toNat
  else unicodeEscape (0xD800 + (c.toNat - 0x10000) / 1024) ++ unicodeEscape (0xDC00 + (c.toNat - 0x10000) % 1024)

/-- `json.dumps`. -/
def dumps (v : Json) : List Char := write asciiEscape [' '] v

/-! ### Reading -/

/-- The number four hex digits name. -/
def readHex (a b c d : Char) : Option Nat := do
  some ((← hexValue a) * 4096 + (← hexValue b) * 256 + (← hexValue c) * 16 + (← hexValue d))

/-- The character that the escapes of two surrogates name, the first without its backslash, and what follows. -/
def surrogatePair : List Char → Option (Char × List Char)
  | 'u' :: a :: b :: c :: d :: '\\' :: 'u' :: e :: f :: g :: h :: rest => do
    let high ← readHex a b c d
    let low ← readHex e f g h
    if 0xD800 ≤ high ∧ high < 0xDC00 ∧ 0xDC00 ≤ low ∧ low < 0xE000 then
      some (Char.ofNat (0x10000 + (high - 0xD800) * 1024 + (low - 0xDC00)), rest)
    else none
  | _ => none

/-- A text with the pairs of surrogates in it joined. -/
def joinPairs : Nat → List Char → List Char
  | 0, text => text
  | _ + 1, [] => []
  | n + 1, c :: rest =>
    if c = '\\' then match surrogatePair rest with
      | some (joined, rest) => joined :: joinPairs n rest
      | none => match rest with
        | [] => [c]
        | d :: rest => c :: d :: joinPairs n rest
    else c :: joinPairs n rest

/-- `json.loads`. -/
def loads (text : List Char) : Option Json := parse (joinPairs text.length text)

/-! ### What is written is read back -/

/-- A character as it is escaped is read back, and that is no space or number. -/
structure Readable (esc : Char → List Char) (gap : List Char) : Prop where
  read : ∀ c n rest, stringBody (n + 1) (esc c ++ rest) = (stringBody n rest).map fun p => (c :: p.1, p.2)
  nonempty : ∀ c, 0 < (esc c).length
  blank : ∀ c ∈ gap, isSpace c = true

section
variable {esc : Char → List Char} {gap : List Char}

theorem Readable.body (readable : Readable esc gap) (cs : List Char) (n : Nat) (rest : List Char)
    (h : (cs.flatMap esc).length < n) : stringBody n (cs.flatMap esc ++ '"' :: rest) = some (cs, rest) := by
  induction cs generalizing n with
  | nil =>
    cases n with
    | zero => simp at h
    | succ n => simp [stringBody]
  | cons c cs ih =>
    cases n with
    | zero => simp at h
    | succ n =>
      have some_of := readable.nonempty c
      simp only [List.flatMap_cons, List.length_append] at h
      rw [List.flatMap_cons, List.append_assoc, readable.read, ih n (by omega)]
      rfl

theorem Readable.skip (readable : Readable esc gap) (rest : List Char) : skip (gap ++ rest) = skip rest := by
  unfold Json.skip
  rw [List.dropWhile_append_of_pos readable.blank]

/-- A value's first character: no space, and no closing bracket. -/
theorem write_head (v : Json) :
    ∃ c rest, write esc gap v = c :: rest ∧ isSpace c = false ∧ c ≠ ']' ∧ c ≠ '}' := by
  cases v with
  | null => exact ⟨_, _, rfl, by decide, by decide, by decide⟩
  | bool b => cases b <;> exact ⟨_, _, rfl, by decide, by decide, by decide⟩
  | int i =>
    obtain ⟨c, rest, same, head⟩ := render_head (.int i)
    exact ⟨c, rest, same, head⟩
  | float x =>
    obtain ⟨c, rest, same, head⟩ := render_head (.float x)
    exact ⟨c, rest, same, head⟩
  | string s => exact ⟨_, _, rfl, by decide, by decide, by decide⟩
  | array items => exact ⟨_, _, rfl, by decide, by decide, by decide⟩
  | object members => exact ⟨_, _, rfl, by decide, by decide, by decide⟩

theorem Readable.value (readable : Readable esc gap) (n : Nat) (rest : List Char) :
    value n (gap ++ rest) = Json.value n rest := by
  cases n with
  | zero => rfl
  | succ n => simp only [Json.value, readable.skip]

theorem Readable.items (readable : Readable esc gap) (n : Nat) (rest : List Char) :
    items n (gap ++ rest) = Json.items n rest := by
  cases n with
  | zero => rfl
  | succ n => simp only [Json.items, readable.value]

theorem Readable.members (readable : Readable esc gap) (n : Nat) (rest : List Char) :
    members n (gap ++ rest) = Json.members n rest := by
  cases n with
  | zero => rfl
  | succ n => simp only [Json.members, readable.skip]

theorem value_token {token rest : List Char} {v : Json} (n : Nat) (numeric : ∀ c ∈ token, isNumberChar c = true)
    (hv : number token = some v) (hr : Stops rest) (hne : token ≠ []) :
    Json.value (n + 1) (token ++ rest) = some (v, rest) := by
  obtain ⟨c, cs, rfl⟩ := List.exists_cons_of_ne_nil hne
  have hc := numeric c List.mem_cons_self
  have apart : ∀ d, isNumberChar d = false → c ≠ d := by
    rintro d hd rfl
    rw [hc] at hd
    cases hd
  have solid : isSpace c = false := by
    simp [isSpace, apart ' ' (by decide), apart '\n' (by decide), apart '\r' (by decide), apart '\t' (by decide)]
  obtain ⟨htake, hdrop⟩ := takeWhile_token numeric hr
  simp only [List.cons_append] at htake hdrop ⊢
  simp only [Json.value, skip_cons _ solid, apart '"' (by decide), apart '[' (by decide), apart '{' (by decide), hc, if_true,
    if_false, htake, hdrop, hv, Option.map_some]

theorem stops_before {c : Char} (rest : List Char) (h : isNumberChar c = false) : Stops (c :: rest) := by
  intro d hd
  cases hd
  exact h

theorem Readable.written (readable : Readable esc gap) (n : Nat) :
    (∀ v rest, (write esc gap v).length < n → Stops rest → Json.value n (write esc gap v ++ rest) = some (v, rest)) ∧
    (∀ v vs rest, (writeItems esc gap (v :: vs)).length < n →
      Json.items n (writeItems esc gap (v :: vs) ++ rest) = some (v :: vs, rest)) ∧
    (∀ m ms rest, (writeMembers esc gap (m :: ms)).length < n →
      Json.members n (writeMembers esc gap (m :: ms) ++ rest) = some (m :: ms, rest)) := by
  -- On the fuel: every reader hands less text than it got to the readers it calls.
  induction n with
  | zero => exact ⟨fun _ _ h => by simp at h, fun _ _ _ h => by simp at h, fun _ _ _ h => by simp at h⟩
  | succ n ih =>
    obtain ⟨ihValue, ihItems, ihMembers⟩ := ih
    refine ⟨fun v rest h hr => ?_, fun v vs rest h => ?_, fun m ms rest h => ?_⟩
    · cases v with
      | null => simp [write, Json.value, Json.skip, isSpace, isNumberChar, keyword]
      | bool b => cases b <;> simp [write, Json.value, Json.skip, isSpace, isNumberChar, keyword]
      | int i => exact value_token n (numeric_renderInt i) (number_renderInt i) hr (renderInt_ne_nil i)
      | float x =>
        obtain ⟨c, hc, -⟩ := x.fractional
        exact value_token n x.numeric (number_float x) hr (List.ne_nil_of_mem hc)
      | string s =>
        simp only [write, writeString, List.length_cons, List.length_append] at h
        have hs := readable.body s.toList n rest (by omega)
        simp [write, writeString, Json.value, skip_cons _ (show isSpace '"' = false by decide), hs]
      | array vs =>
        cases vs with
        | nil => simp [write, writeItems, Json.value, Json.skip, isSpace]
        | cons v vs =>
          simp only [write, List.length_cons] at h
          have hitems := ihItems v vs rest (by omega)
          obtain ⟨c, cs, hc, hs, hbracket, -⟩ := @write_head esc gap v
          obtain ⟨tail, htail⟩ : ∃ tail, writeItems esc gap (v :: vs) ++ rest = c :: tail := by
            cases vs <;> exact ⟨_, by simp only [writeItems, hc, List.cons_append]; rfl⟩
          simp only [write, List.cons_append]
          rw [htail] at hitems ⊢
          rw [Json.value, skip_cons _ (by decide)]
          simp only [Char.reduceEq, if_true, if_false, skip_cons _ hs]
          split
          · next heq => exact absurd (List.cons.inj heq).1 hbracket
          · simp [hitems]
      | object ms =>
        cases ms with
        | nil => simp [write, writeMembers, Json.value, Json.skip, isSpace]
        | cons m ms =>
          simp only [write, List.length_cons] at h
          have hmembers := ihMembers m ms rest (by omega)
          obtain ⟨tail, htail⟩ : ∃ tail, writeMembers esc gap (m :: ms) ++ rest = '"' :: tail := by
            obtain ⟨k, v⟩ := m
            cases ms <;> exact ⟨_, by simp only [writeMembers, writeString, List.cons_append]; rfl⟩
          simp only [write, List.cons_append]
          rw [htail] at hmembers ⊢
          rw [Json.value, skip_cons _ (by decide)]
          simp [skip_cons _ (show isSpace '"' = false by decide), hmembers]
    · cases vs with
      | nil =>
        simp only [writeItems, List.length_append] at h
        have hv := ihValue v (']' :: rest) (by simp at h; omega) (stops_before _ (by decide))
        simp [writeItems, Json.items, hv, Json.skip, isSpace]
      | cons w vs =>
        simp only [writeItems, List.length_append, List.length_cons] at h
        have hv := ihValue v (',' :: (gap ++ (writeItems esc gap (w :: vs) ++ rest))) (by omega) (stops_before _ (by decide))
        have hvs := ihItems w vs rest (by omega)
        simp [writeItems, Json.items, hv, readable.items, hvs, Json.skip, isSpace]
    · obtain ⟨k, v⟩ := m
      cases ms with
      | nil =>
        simp only [writeMembers, writeString, List.length_append, List.length_cons, List.length_nil] at h
        have hk := readable.body k.toList n (':' :: (gap ++ (write esc gap v ++ '}' :: rest))) (by omega)
        have hv := ihValue v ('}' :: rest) (by omega) (stops_before _ (by decide))
        simp [writeMembers, writeString, Json.members, hk, readable.value, hv, Json.skip, isSpace]
      | cons m ms =>
        simp only [writeMembers, writeString, List.length_append, List.length_cons, List.length_nil] at h
        have hk := readable.body k.toList n
          (':' :: (gap ++ (write esc gap v ++ ',' :: (gap ++ (writeMembers esc gap (m :: ms) ++ rest))))) (by omega)
        have hv := ihValue v (',' :: (gap ++ (writeMembers esc gap (m :: ms) ++ rest))) (by omega) (stops_before _ (by decide))
        have hms := ihMembers m ms rest (by omega)
        simp [writeMembers, writeString, Json.members, hk, readable.value, hv, readable.members, hms, Json.skip, isSpace]

theorem Readable.parse (readable : Readable esc gap) (v : Json) : Json.parse (write esc gap v) = some v := by
  have h := (readable.written ((write esc gap v).length + 1)).1 v [] (by omega) (by simp [Stops])
  simp only [List.append_nil] at h
  simp [Json.parse, h, Json.skip]

end

/-! ### Joined pairs -/

/-- A character in ASCII, but for one beyond the basic plane. -/
def planeEscape (c : Char) : List Char :=
  if c.toNat < 127 then escape c else if c.toNat < 0x10000 then unicodeEscape c.toNat else [c]

theorem hexValue_hexDigit {n : Nat} (h : n < 16) : hexValue (hexDigit n) = some n := by
  have all : ∀ n : Fin 16, hexValue (hexDigit n) = some n.val := by decide
  exact all ⟨n, h⟩

theorem readHex_hex {n : Nat} (h : n < 0x10000) :
    readHex (hexDigit (n / 4096)) (hexDigit (n / 256 % 16)) (hexDigit (n / 16 % 16)) (hexDigit (n % 16)) = some n := by
  unfold readHex
  rw [hexValue_hexDigit (by omega), hexValue_hexDigit (by omega), hexValue_hexDigit (by omega), hexValue_hexDigit (by omega)]
  simp only [Option.bind_eq_bind, Option.bind_some, Option.some.injEq]
  omega

theorem unicode_hex {n : Nat} (h : n < 0x10000) (valid : n.isValidChar) :
    unicode (hexDigit (n / 4096)) (hexDigit (n / 256 % 16)) (hexDigit (n / 16 % 16)) (hexDigit (n % 16)) =
      some (Char.ofNat n) := by
  have code : n / 4096 * 4096 + n / 256 % 16 * 256 + n / 16 % 16 * 16 + n % 16 = n := by omega
  have read : ∀ k, k = n → (if h : k.isValidChar then some (Char.ofNatAux k h) else none) = some (Char.ofNat n) := by
    rintro _ rfl
    rw [dif_pos valid, Char.ofNat, dif_pos valid]
  unfold unicode
  rw [hexValue_hexDigit (by omega), hexValue_hexDigit (by omega), hexValue_hexDigit (by omega), hexValue_hexDigit (by omega)]
  exact read _ code

theorem stringBody_unicodeEscape {k : Nat} (h : k < 0x10000) (valid : k.isValidChar) (n : Nat) (rest : List Char) :
    stringBody (n + 1) (unicodeEscape k ++ rest) = (stringBody n rest).map fun p => (Char.ofNat k :: p.1, p.2) := by
  cases body : stringBody n rest <;> simp [unicodeEscape, hex, stringBody, unicode_hex h valid, body]

theorem plane_readable : Readable planeEscape [' '] where
  read c n rest := by
    unfold planeEscape
    split_ifs with ascii plane
    · exact stringBody_escape c n rest
    · rw [stringBody_unicodeEscape plane c.valid, Char.ofNat_toNat]
    · have apart : ∀ d : Char, d.toNat < 127 → c ≠ d := by
        rintro d hd rfl
        exact ascii hd
      cases body : stringBody n rest <;>
        simp [stringBody, apart '"' (by decide), apart '\\' (by decide), show ¬c.toNat < 32 by omega, body]
  nonempty c := by
    unfold planeEscape
    split_ifs
    · exact length_escape c
    · exact Nat.succ_pos _
    · exact Nat.succ_pos _
  blank := by simp [isSpace]

theorem joinPairs_cons (n : Nat) (c : Char) (rest : List Char) :
    joinPairs (n + 1) (c :: rest) =
      if c = '\\' then match surrogatePair rest with
        | some (joined, rest) => joined :: joinPairs n rest
        | none => match rest with
          | [] => [c]
          | d :: rest => c :: d :: joinPairs n rest
      else c :: joinPairs n rest :=
  rfl

/-- Joining the pairs of the text gives `out`, whatever follows. -/
def Joins (text out : List Char) : Prop :=
  ∀ n rest, (text ++ rest).length ≤ n → ∃ n', rest.length ≤ n' ∧ joinPairs n (text ++ rest) = out ++ joinPairs n' rest

section
variable {text text' out out' : List Char}

theorem Joins.nil : Joins [] [] := by
  intro n _ bound
  exact ⟨n, bound, rfl⟩

theorem Joins.append (h : Joins text out) (h' : Joins text' out') : Joins (text ++ text') (out ++ out') := by
  intro n rest bound
  rw [List.append_assoc] at bound ⊢
  obtain ⟨n', bound', same⟩ := h n (text' ++ rest) bound
  obtain ⟨n'', bound'', same'⟩ := h' n' rest bound'
  exact ⟨n'', bound'', by rw [same, same', List.append_assoc]⟩

theorem Joins.cons {c : Char} (plain : c ≠ '\\') (h : Joins text out) : Joins (c :: text) (c :: out) := by
  intro n rest bound
  cases n with
  | zero => simp at bound
  | succ n =>
    obtain ⟨n', bound', same⟩ := h n rest (by simpa using bound)
    refine ⟨n', bound', ?_⟩
    rw [List.cons_append, joinPairs_cons, if_neg plain, same]
    rfl

theorem Joins.plain (h : '\\' ∉ text) : Joins text text := by
  induction text with
  | nil => exact .nil
  | cons c text ih =>
    rw [List.mem_cons, not_or] at h
    exact .cons (Ne.symm h.1) (ih h.2)

theorem Joins.gap : Joins [' '] [' '] := .plain (by decide)

/-- An escape that is no surrogate's. -/
theorem Joins.escaped {d : Char} (single : ∀ rest, surrogatePair (d :: (text ++ rest)) = none) (h : Joins text out) :
    Joins ('\\' :: d :: text) ('\\' :: d :: out) := by
  intro n rest bound
  cases n with
  | zero => simp at bound
  | succ n =>
    obtain ⟨n', bound', same⟩ := h n rest (by simp at bound ⊢; omega)
    refine ⟨n', bound', ?_⟩
    rw [List.cons_append, List.cons_append, joinPairs_cons, if_pos rfl, single rest]
    simp only [same, List.cons_append]

theorem Joins.letter {d : Char} (other : d ≠ 'u') : Joins ['\\', d] ['\\', d] := by
  refine Joins.escaped (fun _ => ?_) .nil
  unfold surrogatePair
  split
  · next same => exact absurd (List.cons.inj same).1 other
  · rfl

theorem hex_plain {n : Nat} (h : n < 0x10000) : '\\' ∉ hex n := by
  have digit : ∀ k : Fin 16, '\\' ≠ hexDigit k := by decide
  simp only [hex, List.mem_cons, List.not_mem_nil, or_false, not_or]
  exact ⟨digit ⟨n / 4096, by omega⟩, digit ⟨n / 256 % 16, by omega⟩, digit ⟨n / 16 % 16, by omega⟩,
    digit ⟨n % 16, by omega⟩⟩

theorem Joins.unicode {n : Nat} (h : n < 0x10000) (single : ¬(0xD800 ≤ n ∧ n < 0xDC00)) :
    Joins (unicodeEscape n) (unicodeEscape n) := by
  apply Joins.escaped _ (.plain (hex_plain h))
  intro rest
  unfold surrogatePair
  split
  · next same =>
    simp only [hex, List.cons_append, List.nil_append, List.cons.injEq, true_and] at same
    obtain ⟨rfl, rfl, rfl, rfl, -⟩ := same
    rw [readHex_hex h]
    simp only [Option.bind_eq_bind, Option.bind_some, Option.bind_eq_none_iff]
    intro low _
    rw [if_neg (by omega)]
  · rfl

theorem Joins.pair {k : Nat} (h : k < 0x100000) :
    Joins (unicodeEscape (0xD800 + k / 1024) ++ unicodeEscape (0xDC00 + k % 1024)) [Char.ofNat (0x10000 + k)] := by
  intro n rest bound
  cases n with
  | zero => simp [unicodeEscape] at bound
  | succ n =>
    have paired : surrogatePair ('u' :: (hex (0xD800 + k / 1024) ++ (unicodeEscape (0xDC00 + k % 1024) ++ rest))) =
        some (Char.ofNat (0x10000 + k), rest) := by
      have code : 0x10000 + (0xD800 + k / 1024 - 0xD800) * 1024 + (0xDC00 + k % 1024 - 0xDC00) = 0x10000 + k := by omega
      simp only [hex, unicodeEscape, List.cons_append, List.nil_append, surrogatePair]
      rw [readHex_hex (by omega), readHex_hex (by omega)]
      simp only [Option.bind_eq_bind, Option.bind_some]
      rw [if_pos (by omega), code]
    refine ⟨n, ?_, ?_⟩
    · simp only [unicodeEscape, hex, List.length_append, List.length_cons] at bound
      omega
    · rw [List.append_assoc, unicodeEscape, List.cons_append, List.cons_append, joinPairs_cons, if_pos rfl, paired]
      rfl

theorem Joins.escape (c : Char) : Joins (escape c) (escape c) := by
  unfold Json.escape
  split_ifs with quote backslash newline return_ tab backspace feed control
  · exact .letter (by decide)
  · exact .letter (by decide)
  · exact .letter (by decide)
  · exact .letter (by decide)
  · exact .letter (by decide)
  · exact .letter (by decide)
  · exact .letter (by decide)
  · have same : unicodeEscape c.toNat = ['\\', 'u', '0', '0', hexDigit (c.toNat / 16), hexDigit (c.toNat % 16)] := by
      rw [unicodeEscape, hex, show c.toNat / 4096 = 0 by omega, show c.toNat / 256 % 16 = 0 by omega,
        show c.toNat / 16 % 16 = c.toNat / 16 by omega]
      rfl
    rw [← same]
    exact .unicode (by omega) (by omega)
  · exact .cons backslash .nil

theorem Joins.char (c : Char) : Joins (asciiEscape c) (planeEscape c) := by
  unfold asciiEscape planeEscape
  split_ifs with ascii plane
  · exact .escape c
  · apply Joins.unicode plane
    have valid := c.valid
    simp only [UInt32.isValidChar, Nat.isValidChar] at valid
    have code : c.toNat = c.val.toNat := rfl
    omega
  · have valid := c.valid
    simp only [UInt32.isValidChar, Nat.isValidChar] at valid
    have code : c.toNat = c.val.toNat := rfl
    have joined := @Joins.pair (c.toNat - 0x10000) (by omega)
    rw [show 0x10000 + (c.toNat - 0x10000) = c.toNat by omega, Char.ofNat_toNat] at joined
    exact joined

theorem Joins.number {token : List Char} (numeric : ∀ c ∈ token, isNumberChar c = true) : Joins token token := by
  apply Joins.plain
  intro hc
  exact absurd (numeric _ hc) (by decide)

section
variable {esc esc' : Char → List Char} {gap : List Char}

theorem Joins.string (chars : ∀ c, Joins (esc c) (esc' c)) (s : String) :
    Joins (writeString esc s) (writeString esc' s) := by
  have body : ∀ cs : List Char, Joins (cs.flatMap esc) (cs.flatMap esc') := by
    intro cs
    induction cs with
    | nil => exact .nil
    | cons c cs ih => exact .append (chars c) ih
  exact .cons (by decide) (.append (body s.toList) (.plain (by decide)))

mutual
theorem Joins.value (chars : ∀ c, Joins (esc c) (esc' c)) (blank : Joins gap gap) :
    (v : Json) → Joins (write esc gap v) (write esc' gap v)
  | null => .plain (by simp [write])
  | bool true => .plain (by simp [write])
  | bool false => .plain (by simp [write])
  | int i => .number (numeric_renderInt i)
  | float x => .number x.numeric
  | Json.string s => .string chars s
  | array vs => .cons (by decide) (Joins.items chars blank vs)
  | object ms => .cons (by decide) (Joins.members chars blank ms)

theorem Joins.items (chars : ∀ c, Joins (esc c) (esc' c)) (blank : Joins gap gap) :
    (vs : List Json) → Joins (writeItems esc gap vs) (writeItems esc' gap vs)
  | [] => .plain (by simp [writeItems])
  | [v] => .append (Joins.value chars blank v) (.plain (by decide))
  | v :: w :: rest =>
    .append (Joins.value chars blank v) (.cons (by decide) (.append blank (Joins.items chars blank (w :: rest))))

theorem Joins.members (chars : ∀ c, Joins (esc c) (esc' c)) (blank : Joins gap gap) :
    (ms : List (String × Json)) → Joins (writeMembers esc gap ms) (writeMembers esc' gap ms)
  | [] => .plain (by simp [writeMembers])
  | [(k, v)] =>
    .append (.string chars k) (.cons (by decide) (.append blank (.append (Joins.value chars blank v) (.plain (by decide)))))
  | (k, v) :: m :: rest =>
    .append (.string chars k) (.cons (by decide) (.append blank (.append (Joins.value chars blank v)
      (.cons (by decide) (.append blank (Joins.members chars blank (m :: rest)))))))
end

end

end

/-- A text whose pairs join to one that is read. -/
theorem loads_joined {text out : List Char} (h : Joins text out) : loads text = parse out := by
  obtain ⟨n, -, joined⟩ := h text.length [] (Nat.le_of_eq (congrArg List.length (List.append_nil _)))
  have none_left : joinPairs n [] = [] := by cases n <;> rfl
  rw [List.append_nil, none_left, List.append_nil] at joined
  rw [loads, joined]

/-- **What is dumped is loaded.** -/
theorem loads_dumps (v : Json) : loads (dumps v) = some v :=
  (loads_joined (Joins.value Joins.char .gap v)).trans (plane_readable.parse v)

mutual
theorem write_escape : (v : Json) → write escape [] v = render v
  | null | bool true | bool false | int _ | float _ | Json.string _ => rfl
  | array vs => congrArg ('[' :: ·) (writeItems_escape vs)
  | object ms => congrArg ('{' :: ·) (writeMembers_escape ms)

theorem writeItems_escape : (vs : List Json) → writeItems escape [] vs = renderItems vs
  | [] => rfl
  | [v] => by rw [writeItems, renderItems, write_escape v]
  | v :: w :: rest => by rw [writeItems, renderItems, write_escape v, writeItems_escape (w :: rest)]; rfl

theorem writeMembers_escape : (ms : List (String × Json)) → writeMembers escape [] ms = renderMembers ms
  | [] => rfl
  | [(k, v)] => by rw [writeMembers, renderMembers, write_escape v]; rfl
  | (k, v) :: m :: rest => by
    rw [writeMembers, renderMembers, write_escape v, writeMembers_escape (m :: rest)]
    rfl
end

/-- What is written as it is, is loaded too. -/
theorem loads_render (v : Json) : loads (render v) = some v := by
  have joined := Joins.value Joins.escape .nil v
  rw [write_escape] at joined
  exact (loads_joined joined).trans (parse_render v)

example : (String.ofList (dumps (.object [("name", .string "é\n"), ("face", .string "😀"), ("rank", .array [.int 1, .null])])),
      (loads "\x7b\"face\":\"\\ud83d\\ude00\"\x7d".toList).map render) =
    ("\x7b\"name\": \"\\u00e9\\n\", \"face\": \"\\ud83d\\ude00\", \"rank\": [1, null]\x7d",
      some "\x7b\"face\":\"😀\"\x7d".toList) := by decide +kernel

/-! ### One line -/

/-- A character that prints as one byte. -/
def Printable (c : Char) : Prop := 32 ≤ c.toNat ∧ c.toNat < 127

instance (c : Char) : Decidable (Printable c) := inferInstanceAs (Decidable (_ ∧ _))

def AllPrintable (text : List Char) : Prop := ∀ c ∈ text, Printable c

instance (text : List Char) : Decidable (AllPrintable text) :=
  decidable_of_iff (text.all fun c => Printable c) (by simp [AllPrintable])

section
variable {text text' : List Char}

theorem AllPrintable.append (h : AllPrintable text) (h' : AllPrintable text') : AllPrintable (text ++ text') := by
  intro c hc
  exact (List.mem_append.mp hc).elim (h c) (h' c)

theorem AllPrintable.cons {c : Char} (hc : Printable c) (h : AllPrintable text) : AllPrintable (c :: text) := by
  intro d hd
  rcases List.mem_cons.mp hd with rfl | hd
  · exact hc
  · exact h d hd

theorem printable_hex {n : Nat} (h : n < 0x10000) : AllPrintable (hex n) := by
  have digit : ∀ k : Fin 16, Printable (hexDigit k) := by decide
  intro c hc
  simp only [hex, List.mem_cons, List.not_mem_nil, or_false] at hc
  rcases hc with rfl | rfl | rfl | rfl
  · exact digit ⟨n / 4096, by omega⟩
  · exact digit ⟨n / 256 % 16, by omega⟩
  · exact digit ⟨n / 16 % 16, by omega⟩
  · exact digit ⟨n % 16, by omega⟩

theorem printable_unicodeEscape {n : Nat} (h : n < 0x10000) : AllPrintable (unicodeEscape n) :=
  .cons (by decide) (.cons (by decide) (printable_hex h))

theorem printable_asciiEscape (c : Char) : AllPrintable (asciiEscape c) := by
  unfold asciiEscape
  split_ifs with ascii plane
  · have all : ∀ n : Fin 127, AllPrintable (escape (Char.ofNat n)) := by decide
    have own := all ⟨c.toNat, ascii⟩
    rwa [Char.ofNat_toNat] at own
  · exact printable_unicodeEscape plane
  · have valid := c.valid
    simp only [UInt32.isValidChar, Nat.isValidChar] at valid
    have code : c.toNat = c.val.toNat := rfl
    exact .append (printable_unicodeEscape (by omega)) (printable_unicodeEscape (by omega))

theorem printable_string (s : String) : AllPrintable (writeString asciiEscape s) := by
  apply AllPrintable.cons (by decide) (.append _ (by decide))
  intro c hc
  obtain ⟨d, -, hd⟩ := List.mem_flatMap.mp hc
  exact printable_asciiEscape d c hd

theorem printable_number (numeric : ∀ c ∈ text, isNumberChar c = true) : AllPrintable text := by
  intro c hc
  have digit := numeric c hc
  simp only [isNumberChar, Bool.or_eq_true, Char.isDigit, Bool.and_eq_true, decide_eq_true_eq] at digit
  rcases digit with ⟨low, high⟩ | other
  · have low' : 48 ≤ c.toNat := low
    have high' : c.toNat ≤ 57 := high
    exact ⟨by omega, by omega⟩
  · simp only [List.contains_iff_mem, List.mem_cons, List.not_mem_nil, or_false] at other
    rcases other with rfl | rfl | rfl | rfl | rfl <;> decide

mutual
theorem printable_write : (v : Json) → AllPrintable (write asciiEscape [' '] v)
  | null => show AllPrintable ['n', 'u', 'l', 'l'] by decide
  | bool true => show AllPrintable ['t', 'r', 'u', 'e'] by decide
  | bool false => show AllPrintable ['f', 'a', 'l', 's', 'e'] by decide
  | int i => printable_number (numeric_renderInt i)
  | float x => printable_number x.numeric
  | string s => printable_string s
  | array vs => .cons (by decide) (printable_writeItems vs)
  | object ms => .cons (by decide) (printable_writeMembers ms)

theorem printable_writeItems : (vs : List Json) → AllPrintable (writeItems asciiEscape [' '] vs)
  | [] => show AllPrintable [']'] by decide
  | [v] => .append (printable_write v) (by decide)
  | v :: w :: rest => .append (printable_write v) (.cons (by decide) (.append (by decide) (printable_writeItems (w :: rest))))

theorem printable_writeMembers : (ms : List (String × Json)) → AllPrintable (writeMembers asciiEscape [' '] ms)
  | [] => show AllPrintable ['}'] by decide
  | [(k, v)] =>
    .append (printable_string k) (.cons (by decide) (.append (by decide) (.append (printable_write v) (by decide))))
  | (k, v) :: m :: rest =>
    .append (printable_string k) (.cons (by decide) (.append (by decide) (.append (printable_write v)
      (.cons (by decide) (.append (by decide) (printable_writeMembers (m :: rest)))))))
end

end

/-- What is dumped is one line of as many bytes as characters. -/
theorem dumps_printable (v : Json) : AllPrintable (dumps v) := printable_write v

end RmtPlatform.Json
