import RmtPlatform.Data.Dumps

/-! JSON text as `json.dump` writes it with an indent, and texts that are cut off.

An indented text is loaded as a flat one is (`loads_indented`). A text that loads has
closed every bracket it opens (`closed_of_loads`), so an array that was written and cut
off before its end does not load (`loads_cut`). -/
namespace RmtPlatform.Json

/-! ### Writing -/

/-- A new line at a level of nesting. -/
def newline (level : Nat) : List Char := '\n' :: List.replicate (4 * level) ' '

section
variable (esc : Char → List Char)

mutual
def spread : Nat → Json → List Char
  | _, null => ['n', 'u', 'l', 'l']
  | _, bool true => ['t', 'r', 'u', 'e']
  | _, bool false => ['f', 'a', 'l', 's', 'e']
  | _, int i => renderInt i
  | _, float x => x.text
  | _, string s => writeString esc s
  | level, array items => '[' :: spreadItems level items
  | level, object members => '{' :: spreadMembers level members

/-- The items of an array at this level, and its closing bracket. -/
def spreadItems : Nat → List Json → List Char
  | _, [] => [']']
  | level, v :: vs => newline (level + 1) ++ (spread (level + 1) v ++ moreItems level vs)

def moreItems : Nat → List Json → List Char
  | level, [] => newline level ++ [']']
  | level, v :: vs => ',' :: (newline (level + 1) ++ (spread (level + 1) v ++ moreItems level vs))

/-- The members of an object at this level, and its closing brace. -/
def spreadMembers : Nat → List (String × Json) → List Char
  | _, [] => ['}']
  | level, (k, v) :: ms =>
    newline (level + 1) ++ (writeString esc k ++ ':' :: ' ' :: (spread (level + 1) v ++ moreMembers level ms))

def moreMembers : Nat → List (String × Json) → List Char
  | level, [] => newline level ++ ['}']
  | level, (k, v) :: ms =>
    ',' :: (newline (level + 1) ++ (writeString esc k ++ ':' :: ' ' :: (spread (level + 1) v ++ moreMembers level ms)))
end

end

/-- `json.dump` with an indent of four. -/
def indented (v : Json) : List Char := spread asciiEscape 0 v

/-! ### What is written is read back -/

section
variable {esc : Char → List Char}

theorem newline_blank (level : Nat) : ∀ c ∈ newline level, isSpace c = true := by
  intro c hc
  rcases List.mem_cons.mp hc with rfl | hc
  · decide
  · rw [List.eq_of_mem_replicate hc]
    decide

/-- A new line is a gap like any other. -/
theorem Readable.line {gap : List Char} (readable : Readable esc gap) (level : Nat) : Readable esc (newline level) :=
  ⟨readable.read, readable.nonempty, newline_blank level⟩

/-- A value's first character: no space, and no closing bracket. -/
theorem spread_head (level : Nat) (v : Json) :
    ∃ c rest, spread esc level v = c :: rest ∧ isSpace c = false ∧ c ≠ ']' ∧ c ≠ '}' := by
  cases v with
  | null => exact ⟨_, _, rfl, by decide, by decide, by decide⟩
  | bool b => cases b <;> exact ⟨_, _, rfl, by decide, by decide, by decide⟩
  | int i =>
    obtain ⟨c, rest, same, head⟩ := render_head (.int i)
    exact ⟨c, rest, same, head⟩
  | float x =>
    obtain ⟨c, rest, same, head⟩ := render_head (.float x)
    exact ⟨c, rest, same, head⟩
  | string s => exact ⟨_, _, rfl, by decide, by decide, by decide⟩
  | array items => exact ⟨_, _, rfl, by decide, by decide, by decide⟩
  | object members => exact ⟨_, _, rfl, by decide, by decide, by decide⟩

theorem skip_newline (level : Nat) (rest : List Char) : skip (newline level ++ rest) = skip rest := by
  unfold skip
  rw [List.dropWhile_append_of_pos (newline_blank level)]

theorem stops_newline (level : Nat) (rest : List Char) : Stops (newline level ++ rest) :=
  stops_before _ (by decide)

theorem Readable.nested (readable : Readable esc [' ']) (n : Nat) :
    (∀ level v rest, (spread esc level v).length < n → Stops rest →
      Json.value n (spread esc level v ++ rest) = some (v, rest)) ∧
    (∀ level v vs rest, (spread esc (level + 1) v ++ moreItems esc level vs).length < n →
      Json.items n (spread esc (level + 1) v ++ (moreItems esc level vs ++ rest)) = some (v :: vs, rest)) ∧
    (∀ level k v ms rest,
      (writeString esc k ++ ':' :: ' ' :: (spread esc (level + 1) v ++ moreMembers esc level ms)).length < n →
      Json.members n (writeString esc k ++ ':' :: ' ' :: (spread esc (level + 1) v ++
        (moreMembers esc level ms ++ rest))) = some ((k, v) :: ms, rest)) := by
  -- On the fuel, as for a flat text.
  induction n with
  | zero => exact ⟨fun _ _ _ h => by simp at h, fun _ _ _ _ h => by simp at h, fun _ _ _ _ _ h => by simp at h⟩
  | succ n ih =>
    obtain ⟨ihValue, ihItems, ihMembers⟩ := ih
    refine ⟨fun level v rest h hr => ?_, fun level v vs rest h => ?_, fun level k v ms rest h => ?_⟩
    · cases v with
      | null => simp [spread, Json.value, Json.skip, isSpace, isNumberChar, keyword]
      | bool b => cases b <;> simp [spread, Json.value, Json.skip, isSpace, isNumberChar, keyword]
      | int i => exact value_token n (numeric_renderInt i) (number_renderInt i) hr (renderInt_ne_nil i)
      | float x =>
        obtain ⟨c, hc, -⟩ := x.fractional
        exact value_token n x.numeric (number_float x) hr (List.ne_nil_of_mem hc)
      | string s =>
        simp only [spread, writeString, List.length_cons, List.length_append] at h
        have hs := readable.body s.toList n rest (by omega)
        simp [spread, writeString, Json.value, skip_cons _ (show isSpace '"' = false by decide), hs]
      | array vs =>
        cases vs with
        | nil => simp [spread, spreadItems, Json.value, Json.skip, isSpace]
        | cons v vs =>
          simp only [spread, spreadItems, List.length_cons, List.length_append] at h
          have hitems := ihItems level v vs rest (by rw [List.length_append]; omega)
          obtain ⟨c, cs, hc, hs, hbracket, -⟩ := @spread_head esc (level + 1) v
          simp only [spread, spreadItems, List.cons_append, List.append_assoc]
          rw [Json.value, skip_cons _ (by decide)]
          simp only [Char.reduceEq, if_true, if_false, skip_newline]
          rw [hc, List.cons_append] at hitems ⊢
          rw [skip_cons _ hs]
          split
          · next heq => exact absurd (List.cons.inj heq).1 hbracket
          · simp [hitems]
      | object ms =>
        cases ms with
        | nil => simp [spread, spreadMembers, Json.value, Json.skip, isSpace]
        | cons m ms =>
          obtain ⟨k, v⟩ := m
          simp only [spread, spreadMembers, List.length_cons, List.length_append] at h
          have hmembers := ihMembers level k v ms rest (by simp only [List.length_append, List.length_cons]; omega)
          simp only [spread, spreadMembers, List.cons_append, List.append_assoc]
          rw [Json.value, skip_cons _ (by decide)]
          simp only [Char.reduceEq, if_true, if_false, skip_newline]
          simp only [writeString, List.cons_append, List.append_assoc, List.nil_append] at hmembers ⊢
          rw [skip_cons _ (by decide)]
          simp [hmembers]
    · rw [List.length_append] at h
      cases vs with
      | nil =>
        have hv := ihValue (level + 1) v (newline level ++ ']' :: rest) (by simp [moreItems] at h; omega) (stops_newline _ _)
        have closed : Json.skip (newline level ++ ']' :: rest) = ']' :: rest := by
          rw [skip_newline, skip_cons _ (by decide)]
        simp [moreItems, Json.items, hv, closed]
      | cons w vs =>
        simp only [moreItems, List.length_append, List.length_cons] at h
        have hv := ihValue (level + 1) v
          (',' :: (newline (level + 1) ++ (spread esc (level + 1) w ++ (moreItems esc level vs ++ rest)))) (by omega)
          (stops_before _ (by decide))
        have hvs := ihItems level w vs rest (by rw [List.length_append]; omega)
        have line := (readable.line (level + 1)).items n (spread esc (level + 1) w ++ (moreItems esc level vs ++ rest))
        have next : ∀ text, Json.skip (',' :: text) = ',' :: text := fun text => skip_cons text (by decide)
        simp [moreItems, Json.items, hv, next, line, hvs]
    · have gap : ∀ text, Json.value n (' ' :: text) = Json.value n text := readable.value n
      have colon : ∀ text, Json.skip (':' :: text) = ':' :: text := fun text => skip_cons text (by decide)
      have quote : ∀ text, Json.skip ('"' :: text) = '"' :: text := fun text => skip_cons text (by decide)
      simp only [writeString, List.length_append, List.length_cons] at h
      have hk := readable.body k.toList n
        (':' :: ' ' :: (spread esc (level + 1) v ++ (moreMembers esc level ms ++ rest))) (by omega)
      cases ms with
      | nil =>
        have hv := ihValue (level + 1) v (newline level ++ '}' :: rest) (by omega) (stops_newline _ _)
        have closed : Json.skip (newline level ++ '}' :: rest) = '}' :: rest := by
          rw [skip_newline, skip_cons _ (by decide)]
        simp only [moreMembers, List.append_assoc, List.singleton_append] at hk
        simp [moreMembers, writeString, Json.members, quote, hk, colon, gap, hv, closed]
      | cons m ms =>
        obtain ⟨l, w⟩ := m
        simp only [moreMembers, writeString, List.length_append, List.length_cons] at h
        have hv := ihValue (level + 1) v (',' :: (newline (level + 1) ++ (writeString esc l ++ ':' :: ' ' ::
          (spread esc (level + 1) w ++ (moreMembers esc level ms ++ rest))))) (by omega) (stops_before _ (by decide))
        have hms := ihMembers level l w ms rest
          (by simp only [writeString, List.length_append, List.length_cons]; omega)
        have line := (readable.line (level + 1)).members n (writeString esc l ++ ':' :: ' ' ::
          (spread esc (level + 1) w ++ (moreMembers esc level ms ++ rest)))
        have next : ∀ text, Json.skip (',' :: text) = ',' :: text := fun text => skip_cons text (by decide)
        simp only [moreMembers, writeString, List.append_assoc, List.cons_append, List.nil_append] at hk hv hms line
        simp [moreMembers, writeString, Json.members, quote, hk, colon, gap, hv, next, line, hms]

theorem parse_indented (readable : Readable esc [' ']) (v : Json) : Json.parse (spread esc 0 v) = some v := by
  have h := (readable.nested ((spread esc 0 v).length + 1)).1 0 v [] (by omega) (by simp [Stops])
  simp only [List.append_nil] at h
  simp [Json.parse, h, Json.skip]

end

theorem Joins.newline (level : Nat) : Joins (newline level) (newline level) := by
  apply Joins.plain
  intro hc
  exact absurd (newline_blank level _ hc) (by decide)

mutual
theorem Joins.spread : (level : Nat) → (v : Json) → Joins (spread asciiEscape level v) (spread planeEscape level v)
  | _, null => .plain (show '\\' ∉ ['n', 'u', 'l', 'l'] by decide)
  | _, bool true => .plain (show '\\' ∉ ['t', 'r', 'u', 'e'] by decide)
  | _, bool false => .plain (show '\\' ∉ ['f', 'a', 'l', 's', 'e'] by decide)
  | _, int i => .number (numeric_renderInt i)
  | _, float x => .number x.numeric
  | _, Json.string s => .string .char s
  | level, array vs => .cons (by decide) (Joins.spreadItems level vs)
  | level, object ms => .cons (by decide) (Joins.spreadMembers level ms)

theorem Joins.spreadItems : (level : Nat) → (vs : List Json) →
    Joins (spreadItems asciiEscape level vs) (spreadItems planeEscape level vs)
  | _, [] => .plain (show '\\' ∉ [']'] by decide)
  | level, v :: vs => .append (.newline _) (.append (Joins.spread (level + 1) v) (Joins.moreItems level vs))

theorem Joins.moreItems : (level : Nat) → (vs : List Json) →
    Joins (moreItems asciiEscape level vs) (moreItems planeEscape level vs)
  | level, [] => .append (.newline _) (.plain (by decide))
  | level, v :: vs =>
    .cons (by decide) (.append (.newline _) (.append (Joins.spread (level + 1) v) (Joins.moreItems level vs)))

theorem Joins.spreadMembers : (level : Nat) → (ms : List (String × Json)) →
    Joins (spreadMembers asciiEscape level ms) (spreadMembers planeEscape level ms)
  | _, [] => .plain (show '\\' ∉ ['}'] by decide)
  | level, (k, v) :: ms => .append (.newline _) (.append (.string .char k) (.cons (by decide) (.cons (by decide)
      (.append (Joins.spread (level + 1) v) (Joins.moreMembers level ms)))))

theorem Joins.moreMembers : (level : Nat) → (ms : List (String × Json)) →
    Joins (moreMembers asciiEscape level ms) (moreMembers planeEscape level ms)
  | level, [] => .append (.newline _) (.plain (by decide))
  | level, (k, v) :: ms => .cons (by decide) (.append (.newline _) (.append (.string .char k) (.cons (by decide)
      (.cons (by decide) (.append (Joins.spread (level + 1) v) (Joins.moreMembers level ms))))))
end

/-- **What is written with an indent is loaded.** -/
theorem loads_indented (v : Json) : loads (indented v) = some v := by
  obtain ⟨n, -, joined⟩ := Joins.spread 0 v (indented v).length [] (Nat.le_of_eq (congrArg List.length (List.append_nil _)))
  have none_left : joinPairs n [] = [] := by cases n <;> rfl
  rw [List.append_nil, none_left, List.append_nil] at joined
  have same : joinPairs (indented v).length (indented v) = spread planeEscape 0 v := joined
  rw [loads, same]
  exact parse_indented plane_readable v

/-! ### Brackets

A text is scanned for brackets outside strings. A backslash takes the character after it
along, in a string or not. -/

structure Scan where
  escaped : Bool
  quoted : Bool
  depth : Int

namespace Scan

def outside (d : Int) : Scan := ⟨false, false, d⟩

def inside (d : Int) : Scan := ⟨false, true, d⟩

def step (s : Scan) (c : Char) : Scan :=
  if s.escaped then { s with escaped := false }
  else if c = '\\' then { s with escaped := true }
  else if c = '"' then { s with quoted := !s.quoted }
  else if s.quoted then s
  else if c = '[' ∨ c = '{' then { s with depth := s.depth + 1 }
  else if c = ']' ∨ c = '}' then { s with depth := s.depth - 1 }
  else s

/-- A character that no scan takes notice of. -/
def Plain (c : Char) : Prop := c ∉ ['\\', '"', '[', '{', ']', '}']

instance (c : Char) : Decidable (Plain c) := inferInstanceAs (Decidable (_ ∉ _))

theorem step_plain {s : Scan} {c : Char} (unescaped : s.escaped = false) (plain : Plain c) : s.step c = s := by
  simp only [Plain, List.mem_cons, List.not_mem_nil, or_false, not_or] at plain
  simp [step, unescaped, plain]

theorem plain_of_space {c : Char} (h : isSpace c = true) : Plain c := by
  have all : ∀ d ∈ [' ', '\n', '\r', '\t'], Plain d := by decide
  exact all c (by simpa [isSpace] using h)

theorem plain_of_number {c : Char} (h : isNumberChar c = true) : Plain c := by
  intro special
  have none_of : ∀ d ∈ ['\\', '"', '[', '{', ']', '}'], isNumberChar d = false := by decide
  rw [none_of c special] at h
  cases h

theorem plain_of_hex {c : Char} {n : Nat} (h : hexValue c = some n) : Plain c := by
  intro special
  have none_of : ∀ d ∈ ['\\', '"', '[', '{', ']', '}'], hexValue d = none := by decide
  rw [none_of c special] at h
  cases h

end Scan

def scan (s : Scan) (text : List Char) : Scan := text.foldl Scan.step s

open Scan

section
variable {s : Scan} {text rest : List Char}

theorem scan_append (s : Scan) (text rest : List Char) : scan s (text ++ rest) = scan (scan s text) rest := List.foldl_append

theorem scan_plain (unescaped : s.escaped = false) (plain : ∀ c ∈ text, Plain c) : scan s text = s := by
  induction text with
  | nil => rfl
  | cons c text ih =>
    show scan (s.step c) text = s
    rw [step_plain unescaped (plain c List.mem_cons_self)]
    exact ih fun c hc => plain c (List.mem_cons_of_mem _ hc)

theorem scan_skip (unescaped : s.escaped = false) : scan s text = scan s (skip text) := by
  have blank : scan s (text.takeWhile isSpace) = s :=
    scan_plain unescaped fun c hc => plain_of_space (List.all_eq_true.mp List.all_takeWhile c hc)
  conv_lhs => rw [← List.takeWhile_append_dropWhile (p := isSpace) (l := text)]
  rw [scan_append, blank]
  rfl

theorem scan_backslash (unescaped : s.escaped = false) (c : Char) : scan s ('\\' :: c :: rest) = scan s rest := by
  obtain ⟨escaped, quoted, depth⟩ := s
  obtain rfl : escaped = false := unescaped
  rfl

theorem hexValues {a b c d : Char} {k : Nat} (h : readHex a b c d = some k) : ∀ e ∈ [a, b, c, d], Plain e := by
  unfold readHex at h
  simp only [Option.bind_eq_bind, Option.bind_eq_some_iff] at h
  obtain ⟨i, ha, j, hb, k, hc, l, hd, -⟩ := h
  simp only [List.mem_cons, List.not_mem_nil, or_false]
  rintro e (rfl | rfl | rfl | rfl)
  · exact plain_of_hex ha
  · exact plain_of_hex hb
  · exact plain_of_hex hc
  · exact plain_of_hex hd

theorem unicodes {a b c d e : Char} (h : unicode a b c d = some e) : ∀ x ∈ [a, b, c, d], Plain x := by
  unfold unicode at h
  obtain ⟨i, ha, h⟩ := Option.bind_eq_some_iff.mp h
  obtain ⟨j, hb, h⟩ := Option.bind_eq_some_iff.mp h
  obtain ⟨k, hc, h⟩ := Option.bind_eq_some_iff.mp h
  obtain ⟨l, hd, -⟩ := Option.bind_eq_some_iff.mp h
  simp only [List.mem_cons, List.not_mem_nil, or_false]
  rintro e (rfl | rfl | rfl | rfl)
  · exact plain_of_hex ha
  · exact plain_of_hex hb
  · exact plain_of_hex hc
  · exact plain_of_hex hd

theorem stringBody_scan (d : Int) {n : Nat} {cs : List Char} (h : stringBody n text = some (cs, rest)) :
    scan (inside d) text = scan (outside d) rest := by
  induction n generalizing text cs with
  | zero => cases h
  | succ n ih =>
    cases text with
    | nil => cases h
    | cons c text =>
      unfold stringBody at h
      split at h
      · next quote =>
        subst quote
        cases h
        rfl
      · next other =>
        split at h
        · next backslash =>
          subst backslash
          split at h
          · next a b e f text =>
            simp only [Option.bind_eq_bind, Option.bind_eq_some_iff] at h
            obtain ⟨c, hex, ⟨cs', rest'⟩, body, same⟩ := h
            cases same
            rw [scan_backslash rfl]
            show scan (inside d) ([a, b, e, f] ++ text) = _
            rw [scan_append, scan_plain rfl (unicodes hex)]
            exact ih body
          · simp only [Option.bind_eq_bind, Option.bind_eq_some_iff] at h
            obtain ⟨c, simple, ⟨cs', rest'⟩, body, same⟩ := h
            cases same
            rw [scan_backslash rfl]
            exact ih body
          · cases h
        · next backslash =>
          split at h
          · cases h
          · simp only [Option.bind_eq_bind, Option.bind_eq_some_iff] at h
            obtain ⟨⟨cs', rest'⟩, body, same⟩ := h
            cases same
            show scan ((inside d).step c) text = _
            have stays : (inside d).step c = inside d := by simp [Scan.step, inside, backslash, other]
            rw [stays]
            exact ih body

/-- What a reader takes leaves the brackets as it found them, the closing one of an array or object apart. -/
theorem reads_scan (n : Nat) :
    (∀ text rest v d, value n text = some (v, rest) → scan (outside d) text = scan (outside d) rest) ∧
    (∀ text rest vs d, items n text = some (vs, rest) → scan (outside (d + 1)) text = scan (outside d) rest) ∧
    (∀ text rest ms d, members n text = some (ms, rest) → scan (outside (d + 1)) text = scan (outside d) rest) := by
  have close : ∀ d, (outside (d + 1)).step ']' = outside d ∧ (outside (d + 1)).step '}' = outside d := by
    intro d
    simp [Scan.step, outside]
  have open_ : ∀ d, (outside d).step '[' = outside (d + 1) ∧ (outside d).step '{' = outside (d + 1) := by
    intro d
    simp [Scan.step, outside]
  have separates : ∀ d, (outside d).step ',' = outside d ∧ (outside d).step ':' = outside d := fun d =>
    ⟨step_plain rfl (by decide), step_plain rfl (by decide)⟩
  induction n with
  | zero => exact ⟨fun _ _ _ _ h => (nomatch h), fun _ _ _ _ h => (nomatch h), fun _ _ _ _ h => (nomatch h)⟩
  | succ n ih =>
    obtain ⟨ihValue, ihItems, ihMembers⟩ := ih
    refine ⟨fun text rest v d h => ?_, fun text rest vs d h => ?_, fun text rest ms d h => ?_⟩
    · rw [scan_skip rfl]
      unfold value at h
      split at h
      · cases h
      · next c text skipped =>
        rw [skipped]
        split at h
        · next quote =>
          subst quote
          obtain ⟨⟨cs, rest'⟩, body, same⟩ := Option.map_eq_some_iff.mp h
          cases same
          exact stringBody_scan d body
        · split at h
          · next bracket =>
            subst bracket
            show scan ((outside d).step '[') text = _
            rw [(open_ d).1, scan_skip rfl]
            split at h
            · next empty =>
              cases h
              rw [empty]
              show scan ((outside (d + 1)).step ']') rest = _
              rw [(close d).1]
            · obtain ⟨⟨vs, rest'⟩, read, same⟩ := Option.map_eq_some_iff.mp h
              cases same
              exact ihItems _ _ _ d read
          · split at h
            · next brace =>
              subst brace
              show scan ((outside d).step '{') text = _
              rw [(open_ d).2, scan_skip rfl]
              split at h
              · next empty =>
                cases h
                rw [empty]
                show scan ((outside (d + 1)).step '}') rest = _
                rw [(close d).2]
              · obtain ⟨⟨ms, rest'⟩, read, same⟩ := Option.map_eq_some_iff.mp h
                cases same
                exact ihMembers _ _ _ d read
            · split at h
              · obtain ⟨v', number, same⟩ := Option.map_eq_some_iff.mp h
                cases same
                have token : scan (outside d) ((c :: text).takeWhile isNumberChar) = outside d :=
                  scan_plain rfl fun x hx => plain_of_number (List.all_eq_true.mp List.all_takeWhile x hx)
                conv_lhs => rw [← List.takeWhile_append_dropWhile (p := isNumberChar) (l := c :: text)]
                rw [scan_append, token]
              · have word : ∀ letters : List Char, (∀ x ∈ letters, Plain x) → scan (outside d) (letters ++ rest) =
                    scan (outside d) rest := fun letters plain => by rw [scan_append, scan_plain rfl plain]
                unfold keyword at h
                split at h
                · next same =>
                  cases h
                  rw [same]
                  exact word ['n', 'u', 'l', 'l'] (by decide)
                · next same =>
                  cases h
                  rw [same]
                  exact word ['t', 'r', 'u', 'e'] (by decide)
                · next same =>
                  cases h
                  rw [same]
                  exact word ['f', 'a', 'l', 's', 'e'] (by decide)
                · cases h
    · unfold items at h
      simp only [Option.bind_eq_bind, Option.bind_eq_some_iff] at h
      obtain ⟨⟨v, after⟩, read, h⟩ := h
      rw [ihValue _ _ _ _ read, scan_skip rfl]
      split at h
      · next text₁ next =>
        simp only [Option.bind_eq_some_iff] at h
        obtain ⟨⟨vs₁, rest₁⟩, more, same⟩ := h
        cases same
        rw [next]
        show scan ((outside (d + 1)).step ',') text₁ = _
        rw [(separates _).1]
        exact ihItems _ _ _ d more
      · next next =>
        cases h
        rw [next]
        show scan ((outside (d + 1)).step ']') rest = _
        rw [(close d).1]
      · cases h
    · unfold members at h
      rw [scan_skip rfl]
      split at h
      · next text₁ quote =>
        simp only [Option.bind_eq_bind, Option.bind_eq_some_iff] at h
        obtain ⟨⟨k, after⟩, body, h⟩ := h
        rw [quote]
        show scan (inside (d + 1)) text₁ = _
        rw [stringBody_scan _ body, scan_skip rfl]
        split at h
        · next text₂ colon =>
          simp only [Option.bind_eq_some_iff] at h
          obtain ⟨⟨v, after₁⟩, read, h⟩ := h
          rw [colon]
          show scan ((outside (d + 1)).step ':') text₂ = _
          rw [(separates _).2, ihValue _ _ _ _ read, scan_skip rfl]
          split at h
          · next text₃ next =>
            simp only [Option.bind_eq_some_iff] at h
            obtain ⟨⟨ms₁, rest₁⟩, more, same⟩ := h
            cases same
            rw [next]
            show scan ((outside (d + 1)).step ',') text₃ = _
            rw [(separates _).1]
            exact ihMembers _ _ _ d more
          · next next =>
            cases h
            rw [next]
            show scan ((outside (d + 1)).step '}') rest = _
            rw [(close d).2]
          · cases h
        · cases h
      · cases h

theorem surrogatePair_scan {c : Char} (unescaped : s.escaped = false) (h : surrogatePair text = some (c, rest)) :
    scan s ('\\' :: text) = scan s rest := by
  unfold surrogatePair at h
  split at h
  · next a b c₁ d e f g h₁ rest₁ =>
    simp only [Option.bind_eq_bind, Option.bind_eq_some_iff] at h
    obtain ⟨high, first, low, second, h⟩ := h
    split at h
    · simp only [Option.some.injEq, Prod.mk.injEq] at h
      obtain ⟨-, rfl⟩ := h
      rw [scan_backslash unescaped]
      show scan s ([a, b, c₁, d] ++ '\\' :: 'u' :: ([e, f, g, h₁] ++ rest₁)) = _
      rw [scan_append, scan_plain unescaped (hexValues first), scan_backslash unescaped, scan_append,
        scan_plain unescaped (hexValues second)]
    · cases h
  · cases h

/-- The character a pair names is none of those a scan takes notice of. -/
theorem surrogatePair_plain {c : Char} (h : surrogatePair text = some (c, rest)) : Plain c := by
  unfold surrogatePair at h
  split at h
  · simp only [Option.bind_eq_bind, Option.bind_eq_some_iff] at h
    obtain ⟨high, -, low, -, h⟩ := h
    split at h
    · next bounds =>
      simp only [Option.some.injEq, Prod.mk.injEq] at h
      obtain ⟨rfl, -⟩ := h
      have valid : (0x10000 + (high - 0xD800) * 1024 + (low - 0xDC00)).isValidChar := by
        right
        omega
      have code : (Char.ofNat (0x10000 + (high - 0xD800) * 1024 + (low - 0xDC00))).toNat =
          0x10000 + (high - 0xD800) * 1024 + (low - 0xDC00) := by
        generalize 0x10000 + (high - 0xD800) * 1024 + (low - 0xDC00) = k at valid
        have is : Char.ofNat k = Char.ofNatAux k valid := dif_pos valid
        exact congrArg Char.toNat is
      intro special
      have small : ∀ d ∈ ['\\', '"', '[', '{', ']', '}'], d.toNat < 0x10000 := by decide
      have bound := small _ special
      omega
    · cases h
  · cases h

theorem joinPairs_scan (unescaped : s.escaped = false) (n : Nat) (text : List Char) :
    scan s (joinPairs n text) = scan s text := by
  induction n generalizing s text with
  | zero => rfl
  | succ n ih =>
    cases text with
    | nil => rfl
    | cons c text =>
      rw [joinPairs_cons]
      by_cases backslash : c = '\\'
      · subst backslash
        rw [if_pos rfl]
        cases pair : surrogatePair text with
        | some p =>
          obtain ⟨joined, rest⟩ := p
          rw [surrogatePair_scan unescaped pair]
          show scan (s.step joined) (joinPairs n rest) = _
          rw [step_plain unescaped (surrogatePair_plain pair)]
          exact ih unescaped rest
        | none =>
          cases text with
          | nil => rfl
          | cons d text =>
            show scan s ('\\' :: d :: joinPairs n text) = _
            rw [scan_backslash unescaped, scan_backslash unescaped]
            exact ih unescaped text
      · rw [if_neg backslash]
        show scan (s.step c) (joinPairs n text) = scan (s.step c) text
        apply ih
        simp only [Scan.step, unescaped, Bool.false_eq_true, if_false, backslash]
        split_ifs <;> first | exact unescaped | rfl

/-- **What loads has closed its brackets.** -/
theorem closed_of_loads {v : Json} (h : loads text = some v) : scan (outside 0) text = outside 0 := by
  rw [← joinPairs_scan rfl text.length text]
  unfold loads parse at h
  split at h
  · next v₁ rest read =>
    split at h
    · next ended =>
      rw [(reads_scan _).1 _ _ _ 0 read, scan_skip rfl, ended]
      rfl
    · cases h
  · cases h

end

/-! ### What is cut off -/

/-- No part of the text, from its front, scans to a lesser depth. -/
def Deep (d : Int) : Scan → List Char → Prop
  | s, [] => d ≤ s.depth
  | s, c :: text => d ≤ s.depth ∧ Deep d (s.step c) text

section
variable {d : Int} {s : Scan} {text rest : List Char}

theorem Deep.start (h : Deep d s text) : d ≤ s.depth := by
  cases text with
  | nil => exact h
  | cons c text => exact h.1

theorem Deep.append (h : Deep d s text) (h' : Deep d (scan s text) rest) : Deep d s (text ++ rest) := by
  induction text generalizing s with
  | nil => exact h'
  | cons c text ih => exact ⟨h.1, ih h.2 h'⟩

theorem Deep.mono {d' : Int} (le : d' ≤ d) (h : Deep d s text) : Deep d' s text := by
  induction text generalizing s with
  | nil => exact Int.le_trans le h
  | cons c text ih => exact ⟨Int.le_trans le h.1, ih h.2⟩

theorem Deep.of_front {front : List Char} (h : Deep d s text) (cut : front <+: text) : d ≤ (scan s front).depth := by
  induction front generalizing s text with
  | nil => exact h.start
  | cons c front ih =>
    obtain ⟨rest, rfl⟩ := cut
    exact ih h.2 ⟨rest, rfl⟩

theorem deep_plain (le : d ≤ s.depth) (unescaped : s.escaped = false) (plain : ∀ c ∈ text, Plain c) : Deep d s text := by
  induction text with
  | nil => exact le
  | cons c text ih =>
    refine ⟨le, ?_⟩
    rw [step_plain unescaped (plain c List.mem_cons_self)]
    exact ih fun c hc => plain c (List.mem_cons_of_mem _ hc)

end

/-- The text is outside strings at both ends, and never less deep than there. -/
structure Balanced (text : List Char) : Prop where
  deep : ∀ d, Deep d (outside d) text
  closed : ∀ d, scan (outside d) text = outside d

section
variable {text rest : List Char}

theorem Balanced.append (h : Balanced text) (h' : Balanced rest) : Balanced (text ++ rest) where
  deep d := (h.deep d).append (by rw [h.closed]; exact h'.deep d)
  closed d := by rw [scan_append, h.closed, h'.closed]

theorem Balanced.plain (h : ∀ c ∈ text, Plain c) : Balanced text where
  deep _ := deep_plain (Int.le_refl _) rfl h
  closed _ := scan_plain rfl h

theorem Balanced.cons {c : Char} (hc : Plain c) (h : Balanced text) : Balanced (c :: text) :=
  (Balanced.plain (by simpa using hc) : Balanced [c]).append h

theorem Balanced.newline (level : Nat) : Balanced (newline level) :=
  .plain fun c hc => plain_of_space (newline_blank level c hc)

/-- Brackets around what is balanced. -/
theorem Balanced.enclose {open_ close : Char} (pair : (open_, close) = ('[', ']') ∨ (open_, close) = ('{', '}'))
    (h : Balanced text) : Balanced (open_ :: (text ++ [close])) := by
  have steps : ∀ d, (outside d).step open_ = outside (d + 1) ∧ (outside (d + 1)).step close = outside d := by
    rcases pair with same | same <;> cases same <;> intro d <;> simp [Scan.step, outside]
  have inner : ∀ d, scan (outside d) (open_ :: text) = outside (d + 1) := by
    intro d
    show scan ((outside d).step open_) text = _
    rw [(steps d).1, h.closed]
  constructor
  · intro d
    refine ⟨Int.le_refl _, ?_⟩
    rw [(steps d).1]
    apply ((h.deep (d + 1)).mono (by omega)).append
    rw [h.closed]
    refine ⟨by simp only [outside]; omega, ?_⟩
    rw [(steps d).2]
    exact Int.le_refl _
  · intro d
    rw [← List.cons_append, scan_append, inner]
    exact (steps d).2

theorem hexDigit_plain {n : Nat} (h : n < 16) : Plain (hexDigit n) := by
  have all : ∀ n : Fin 16, Plain (hexDigit n) := by decide
  exact all ⟨n, h⟩

/-- Within a string, and there again at the end. -/
structure Quoted (text : List Char) : Prop where
  deep : ∀ d, Deep d (inside d) text
  closed : ∀ d, scan (inside d) text = inside d

theorem Quoted.append (h : Quoted text) (h' : Quoted rest) : Quoted (text ++ rest) where
  deep d := (h.deep d).append (by rw [h.closed]; exact h'.deep d)
  closed d := by rw [scan_append, h.closed, h'.closed]

theorem Quoted.plain (h : ∀ c ∈ text, Plain c) : Quoted text where
  deep _ := deep_plain (Int.le_refl _) rfl h
  closed _ := scan_plain rfl h

theorem Quoted.escaped (c : Char) : Quoted ['\\', c] where
  deep _ := ⟨Int.le_refl _, Int.le_refl _, Int.le_refl _⟩
  closed _ := scan_backslash rfl c

theorem Quoted.unicode {n : Nat} (h : n < 0x10000) : Quoted (unicodeEscape n) := by
  refine (Quoted.escaped 'u').append (.plain ?_)
  simp only [List.mem_cons, List.not_mem_nil, or_false]
  rintro c (rfl | rfl | rfl | rfl)
  all_goals exact hexDigit_plain (by omega)

theorem Quoted.single {c : Char} (quote : c ≠ '"') (backslash : c ≠ '\\') : Quoted [c] := by
  have stays : ∀ d, (inside d).step c = inside d := fun d => by simp [Scan.step, inside, quote, backslash]
  refine ⟨fun d => ⟨Int.le_refl _, ?_⟩, stays⟩
  rw [stays]
  exact Int.le_refl _

theorem Quoted.char (c : Char) : Quoted (asciiEscape c) := by
  unfold asciiEscape
  split_ifs with ascii plane
  · unfold escape
    split_ifs with quote backslash newline return_ tab backspace feed control
    · exact .escaped _
    · exact .escaped _
    · exact .escaped _
    · exact .escaped _
    · exact .escaped _
    · exact .escaped _
    · exact .escaped _
    · refine (Quoted.escaped 'u').append (.plain ?_)
      simp only [List.mem_cons, List.not_mem_nil, or_false]
      rintro c (rfl | rfl | rfl | rfl)
      · decide
      · decide
      · exact hexDigit_plain (by omega)
      · exact hexDigit_plain (by omega)
    · exact .single quote backslash
  · exact .unicode plane
  · have valid := c.valid
    simp only [UInt32.isValidChar, Nat.isValidChar] at valid
    have code : c.toNat = c.val.toNat := rfl
    exact .append (.unicode (by omega)) (.unicode (by omega))

theorem Balanced.string (s : String) : Balanced (writeString asciiEscape s) := by
  have chars : ∀ cs : List Char, Quoted (cs.flatMap asciiEscape) := by
    intro cs
    induction cs with
    | nil => exact .plain (by simp)
    | cons c cs ih => exact .append (.char c) ih
  have body := chars s.toList
  constructor
  · intro d
    refine ⟨Int.le_refl _, ?_⟩
    show Deep d (inside d) (s.toList.flatMap asciiEscape ++ ['"'])
    apply (body.deep d).append
    rw [body.closed]
    exact ⟨Int.le_refl _, Int.le_refl _⟩
  · intro d
    show scan (inside d) (s.toList.flatMap asciiEscape ++ ['"']) = _
    rw [scan_append, body.closed]
    rfl

/-- What `moreItems` and `moreMembers` write before the closing bracket. -/
def Tail (close : Char) (text : List Char) : Prop := ∃ front, text = front ++ [close] ∧ Balanced front

theorem Tail.prepend {close : Char} (h : Balanced text) (tail : Tail close rest) : Tail close (text ++ rest) := by
  obtain ⟨front, rfl, balanced⟩ := tail
  exact ⟨text ++ front, by rw [List.append_assoc], h.append balanced⟩

theorem Tail.cons {c close : Char} (hc : Plain c) (tail : Tail close rest) : Tail close (c :: rest) :=
  .prepend (.plain (by simpa using hc) : Balanced [c]) tail

theorem Tail.last (close : Char) (level : Nat) : Tail close (newline level ++ [close]) := ⟨_, rfl, .newline level⟩

theorem Balanced.tailed {open_ close : Char} (pair : (open_, close) = ('[', ']') ∨ (open_, close) = ('{', '}'))
    (tail : Tail close text) : Balanced (open_ :: text) := by
  obtain ⟨front, rfl, balanced⟩ := tail
  exact .enclose pair balanced

mutual
theorem Balanced.spread : (level : Nat) → (v : Json) → Balanced (spread asciiEscape level v)
  | _, null => Balanced.plain (show ∀ c ∈ ['n', 'u', 'l', 'l'], Plain c by decide)
  | _, bool true => Balanced.plain (show ∀ c ∈ ['t', 'r', 'u', 'e'], Plain c by decide)
  | _, bool false => Balanced.plain (show ∀ c ∈ ['f', 'a', 'l', 's', 'e'], Plain c by decide)
  | _, int i => .plain fun c hc => plain_of_number (numeric_renderInt i c hc)
  | _, float x => .plain fun c hc => plain_of_number (x.numeric c hc)
  | _, Json.string s => .string s
  | level, array vs => .tailed (.inl rfl) (Tail.spreadItems level vs)
  | level, object ms => .tailed (.inr rfl) (Tail.spreadMembers level ms)

theorem Tail.spreadItems : (level : Nat) → (vs : List Json) → Tail ']' (spreadItems asciiEscape level vs)
  | _, [] => ⟨[], rfl, .plain (by simp)⟩
  | level, v :: vs => .prepend (.newline _) (.prepend (Balanced.spread (level + 1) v) (Tail.moreItems level vs))

theorem Tail.moreItems : (level : Nat) → (vs : List Json) → Tail ']' (moreItems asciiEscape level vs)
  | level, [] => .last _ level
  | level, v :: vs =>
    .cons (by decide) (.prepend (.newline _) (.prepend (Balanced.spread (level + 1) v) (Tail.moreItems level vs)))

theorem Tail.spreadMembers : (level : Nat) → (ms : List (String × Json)) → Tail '}' (spreadMembers asciiEscape level ms)
  | _, [] => ⟨[], rfl, .plain (by simp)⟩
  | level, (k, v) :: ms => .prepend (.newline _) (.prepend (.string k) (.cons (by decide) (.cons (by decide)
      (.prepend (Balanced.spread (level + 1) v) (Tail.moreMembers level ms)))))

theorem Tail.moreMembers : (level : Nat) → (ms : List (String × Json)) → Tail '}' (moreMembers asciiEscape level ms)
  | level, [] => .last _ level
  | level, (k, v) :: ms => .cons (by decide) (.prepend (.newline _) (.prepend (.string k) (.cons (by decide)
      (.cons (by decide) (.prepend (Balanced.spread (level + 1) v) (Tail.moreMembers level ms))))))
end

end

/-- **An array that is cut off does not load.** -/
theorem loads_cut {items : List Json} {text : List Char} (cut : text <+: indented (array items))
    (short : text ≠ indented (array items)) : loads text = none := by
  obtain ⟨front, written, balanced⟩ := Tail.spreadItems 0 items
  have whole : indented (array items) = '[' :: (front ++ [']']) := congrArg _ written
  cases loaded : loads text with
  | none => rfl
  | some v =>
    have closed := closed_of_loads loaded
    rw [whole] at cut short
    cases text with
    | nil => cases loaded
    | cons c text =>
      obtain ⟨rfl, within⟩ := List.cons_prefix_cons.mp cut
      rcases List.prefix_concat_iff.mp within with same | inner
      · exact absurd (by rw [same]) short
      · have deep := (balanced.deep 1).of_front inner
        have depth : (scan (outside 0) ('[' :: text)).depth = 0 := congrArg Scan.depth closed
        change (scan (outside 1) text).depth = 0 at depth
        omega

end RmtPlatform.Json
