import RmtPlatform.Data.Regex
import RmtPlatform.Data.Value

/-! Risk classification of shell commands.

The rules are searched for in the text of a command. A rule that matches a command
still matches it after a separator and before one, with one exception: `sudo` at the
very start of a command is found by `^`, and elsewhere only after `;`, `&` or `|`, so
a command that is risky for nothing but its leading `sudo` is hidden by a newline
(`classify_joined_iff`). -/
namespace RmtPlatform.CodingAgent

open Regex

/-! ### Characters -/

/-- What `\w` matches. Outside ASCII nothing is assumed but that a space is no letter. -/
structure WordChars where
  test : Char → Bool
  ascii : ∀ c, c.toNat < 128 → test c = (c.isAlphanum || c = '_')
  space : ∀ c, isSpace c = true → test c = false

/-- `[a-zA-Z]` -/
def isLetter (c : Char) : Bool := ('a' ≤ c && c ≤ 'z') || ('A' ≤ c && c ≤ 'Z')

/-- `[;&|]` -/
def isSeparator (c : Char) : Bool := c = ';' || c = '&' || c = '|'

/-- `[^\n;&|]` -/
def inCommand (c : Char) : Bool := c ≠ '\n' && !isSeparator c

/-! ### The rules -/

structure RiskRule where
  name : String
  pattern : Regex
  riskLevel : String
  description : String

/-- A dash and letters, `middle` among them. -/
def flags (middle : Regex) : Regex := seqs [lit ['-'], many isLetter, middle, many isLetter]

def gitForcePush : Regex := seqs [boundary, lit ['g', 'i', 't'], boundary, many inCommand,
  boundary, lit ['p', 'u', 's', 'h'], boundary, many inCommand,
  alt (seqs [lit ['-', '-', 'f', 'o', 'r', 'c', 'e'],
      opt (lit ['-', 'w', 'i', 't', 'h', '-', 'l', 'e', 'a', 's', 'e']), boundary])
    (seqs [one isSpace, flags (lit ['f']), boundary])]

def gitHardReset : Regex := seqs [boundary, lit ['g', 'i', 't'], many1 isSpace, lit ['r', 'e', 's', 'e', 't'],
  many1 isSpace, lit ['-', '-', 'h', 'a', 'r', 'd'], boundary]

def gitCleanForce : Regex := seqs [boundary, lit ['g', 'i', 't'], many1 isSpace, lit ['c', 'l', 'e', 'a', 'n'],
  many1 isSpace, alt (flags (lit ['f'])) (lit ['-', '-', 'f', 'o', 'r', 'c', 'e']), boundary]

def recursiveDelete : Regex := seqs [boundary, lit ['r', 'm'], boundary, many inCommand,
  alt (seqs [one isSpace, flags (one fun c => c = 'r' || c = 'R'), boundary])
    (seqs [one isSpace, lit ['-', '-', 'r', 'e', 'c', 'u', 'r', 's', 'i', 'v', 'e'], boundary])]

def sudoRule : Regex := seqs [alt start (seqs [one isSeparator, many isSpace]), lit ['s', 'u', 'd', 'o'], boundary]

def serviceRestart : Regex := seqs [boundary, lit ['s', 'y', 's', 't', 'e', 'm', 'c', 't', 'l'], many1 isSpace,
  alt (lit ['s', 't', 'o', 'p']) (lit ['r', 'e', 's', 't', 'a', 'r', 't']), boundary]

def RULES : List RiskRule :=
  [⟨"git-force-push", gitForcePush, "high", "irreversible remote history rewrite"⟩,
    ⟨"git-hard-reset", gitHardReset, "high", "discards local work irreversibly"⟩,
    ⟨"git-clean-force", gitCleanForce, "medium", "irreversibly deletes untracked files"⟩,
    ⟨"recursive-delete", recursiveDelete, "high", "unrecoverable recursive deletion"⟩,
    ⟨"sudo", sudoRule, "medium", "elevated privilege"⟩,
    ⟨"service-restart", serviceRestart, "medium", "affects a running service"⟩]

/-- The first rule that matches. -/
def classify (w : WordChars) (command : String) : Option RiskRule :=
  RULES.find? fun rule => rule.pattern.Search w.test command.toList

/-! ### Joined commands -/

inductive Separator where
  | semicolon | and | or | pipe | newline
deriving DecidableEq

def Separator.text : Separator → List Char
  | semicolon => [';']
  | and => ['&', '&']
  | or => ['|', '|']
  | pipe => ['|']
  | newline => ['\n']

/-- What stands between the commands, with spaces before and after it. -/
def Separator.between (sep : Separator) (before after : Nat) : List Char :=
  List.replicate before ' ' ++ sep.text ++ List.replicate after ' '

def joined (a : String) (sep : Separator) (before after : Nat) (b : String) : String :=
  String.ofList (a.toList ++ sep.between before after ++ b.toList)

/-- Some rule matches. -/
def Risky (w : WordChars) (t : List Char) : Prop := ∃ rule ∈ RULES, rule.pattern.Search w.test t

instance (w : WordChars) (t : List Char) : Decidable (Risky w t) := by
  unfold Risky
  infer_instance

/-- `sudo\b` at the very start. -/
def StartsWithSudo (w : WordChars) (t : List Char) : Prop :=
  (seqs [lit ['s', 'u', 'd', 'o'], boundary]).Matches w.test t 0 4

instance (w : WordChars) (t : List Char) : Decidable (StartsWithSudo w t) := by
  unfold StartsWithSudo
  infer_instance

/-- The last character that is no space is a separator. -/
def endsInSeparator (t : List Char) : Bool := (t.reverse.dropWhile isSpace).head?.any isSeparator

/-- A second command on its own line whose only risk is the `sudo` it starts with. -/
def HiddenSudo (w : WordChars) (a : String) (sep : Separator) (b : String) : Prop :=
  sep = .newline ∧ StartsWithSudo w b.toList ∧ ¬Risky w (' ' :: b.toList) ∧ ¬Risky w a.toList ∧
    endsInSeparator a.toList = false

variable {w : WordChars} {a : String} {t x y : List Char} {i j : Nat}

theorem classify_isSome : (classify w a).isSome = true ↔ Risky w a.toList := by
  unfold classify Risky
  rw [List.find?_isSome]
  simp

/-! ### A rule in a longer command -/

/-- What stands between two commands: no words, and a space or a separator at both ends. -/
theorem between_word {sep : Separator} {before after : Nat} {c : Char} (h : c ∈ sep.between before after) :
    w.test c = false := by
  unfold Separator.between at h
  rcases List.mem_append.mp h with h | h
  · rcases List.mem_append.mp h with h | h
    · obtain rfl := List.eq_of_mem_replicate h
      rw [w.ascii _ (by decide)]
      decide
    · cases sep <;> simp only [Separator.text, List.mem_cons, List.not_mem_nil, or_false, or_self] at h <;> subst h <;>
        (rw [w.ascii _ (by decide)]; decide)
  · obtain rfl := List.eq_of_mem_replicate h
    rw [w.ascii _ (by decide)]
    decide

theorem between_ne {sep : Separator} {before after : Nat} : sep.between before after ≠ [] := by
  unfold Separator.between
  cases sep <;> simp [Separator.text]

/-- The rules other than `sudo` look at nothing but what they match and the words next to it. -/
theorem startFree_of_mem {rule : RiskRule} (mem : rule ∈ RULES) : rule.pattern.StartFree ∨ rule.pattern = sudoRule := by
  simp only [RULES, List.mem_cons, List.not_mem_nil, or_false] at mem
  rcases mem with rfl | rfl | rfl | rfl | rfl | rfl
  · exact .inl (by simp [gitForcePush, seqs, flags, opt, StartFree])
  · exact .inl (by simp [gitHardReset, seqs, many1, StartFree])
  · exact .inl (by simp [gitCleanForce, seqs, flags, many1, StartFree])
  · exact .inl (by simp [recursiveDelete, seqs, flags, StartFree])
  · exact .inr rfl
  · exact .inl (by simp [serviceRestart, seqs, many1, StartFree])

/-- `sudo` after a separator. -/
def sudoAfter : Regex := seq (seqs [one isSeparator, many isSpace]) (seqs [lit ['s', 'u', 'd', 'o'], boundary])

theorem sudoAfter_free : sudoAfter.StartFree := by simp [sudoAfter, seqs, StartFree]

theorem sudoRule_search (h : sudoRule.Search w.test t) : StartsWithSudo w t ∨ sudoAfter.Search w.test t := by
  obtain ⟨i, hi, j, hj, k, hk, start | after, rest⟩ := h
  · obtain ⟨rfl, rfl⟩ := start
    refine .inl ?_
    obtain ⟨m, hm, name, word⟩ := rest
    obtain rfl : m = 4 := name.1
    obtain ⟨n, hn, bound, rfl⟩ := word
    obtain rfl := bound.1
    exact ⟨4, hm, name, _, hn, bound, rfl⟩
  · exact .inr ⟨i, hi, j, hj, k, hk, after, rest⟩

theorem sudoRule_of_after (h : sudoAfter.Search w.test t) : sudoRule.Search w.test t := by
  obtain ⟨i, hi, j, hj, k, hk, after, rest⟩ := h
  exact ⟨i, hi, j, hj, k, hk, .inr after, rest⟩

theorem sudoRule_of_start (h : StartsWithSudo w t) : sudoRule.Search w.test t := by
  refine ⟨0, Nat.zero_le _, 4, Matches.bound h (Nat.zero_le _), 0, Nat.zero_le _, .inl ⟨rfl, rfl⟩, h⟩

theorem risky_sudo (h : sudoRule.Search w.test t) : Risky w t :=
  ⟨⟨"sudo", sudoRule, "medium", "elevated privilege"⟩, by simp [RULES], h⟩

/-- **A risk before a separator is still there.** -/
theorem risky_left (h : Risky w t) (gap : x.head?.any w.test = false) : Risky w (t ++ x) := by
  obtain ⟨rule, mem, found⟩ := h
  exact ⟨rule, mem, found.left gap⟩

/-- **A risk after a separator is still there**, unless it is `sudo` at the very start. -/
theorem risky_right (h : Risky w t) (gap : x.getLast?.any w.test = false) (other : ¬StartsWithSudo w t) :
    Risky w (x ++ t) := by
  obtain ⟨rule, mem, found⟩ := h
  rcases startFree_of_mem mem with free | is_sudo
  · exact ⟨rule, mem, found.right free gap⟩
  · rw [is_sudo] at found
    rcases sudoRule_search found with start | after
    · exact absurd start other
    · exact risky_sudo (sudoRule_of_after (after.right sudoAfter_free gap))

theorem endsInSeparator_iff : endsInSeparator t = true ↔
    ∃ u s v, t = u ++ s :: v ∧ isSeparator s = true ∧ ∀ c ∈ v, isSpace c = true := by
  unfold endsInSeparator
  constructor
  · intro h
    obtain ⟨s, first, sep⟩ := (Option.any_eq_true _ _).mp h
    obtain ⟨rest, split⟩ := List.head?_eq_some_iff.mp first
    refine ⟨rest.reverse, s, (t.reverse.takeWhile isSpace).reverse, ?_, sep, ?_⟩
    · have whole := List.takeWhile_append_dropWhile (p := isSpace) (l := t.reverse)
      rw [split] at whole
      have back := congrArg List.reverse whole
      simpa using back.symm
    · intro c hc
      exact List.mem_takeWhile_imp (List.mem_reverse.mp hc)
  · rintro ⟨u, s, v, rfl, sep, spaces⟩
    have stop : isSpace s = false := by
      simp only [isSeparator, Bool.or_eq_true, decide_eq_true_eq] at sep
      rcases sep with (rfl | rfl) | rfl <;> decide
    have rest : (u ++ s :: v).reverse.dropWhile isSpace = s :: u.reverse := by
      rw [List.reverse_append, List.reverse_cons, List.append_assoc,
        List.dropWhile_append_of_pos fun c hc => spaces c (List.mem_reverse.mp hc)]
      exact List.dropWhile_cons_of_neg (by simp [stop])
    rw [rest]
    exact sep

/-- A leading `sudo` is found again after a separator. -/
theorem risky_sudo_after {s : Char} (sep : isSeparator s = true) (spaces : ∀ c ∈ x, isSpace c = true)
    (start : StartsWithSudo w t) : Risky w ((y ++ s :: x) ++ t) := by
  have gap : ((y ++ s :: x).getLast?).any w.test = false := by
    have no_word : w.test s = false := by
      simp only [isSeparator, Bool.or_eq_true, decide_eq_true_eq] at sep
      rcases sep with (rfl | rfl) | rfl <;> (rw [w.ascii _ (by decide)]; decide)
    rw [List.getLast?_append_cons]
    cases last : (s :: x).getLast? with
    | none => rfl
    | some c =>
      rcases List.mem_cons.mp (List.mem_of_getLast? last) with rfl | mem
      · exact no_word
      · exact w.space c (spaces c mem)
  have name : (seqs [lit ['s', 'u', 'd', 'o'], boundary]).Matches w.test ((y ++ s :: x) ++ t)
      (0 + (y ++ s :: x).length) (4 + (y ++ s :: x).length) :=
    (matches_shift (agree_right gap) (.inl (by simp [seqs, StartFree])) (Nat.le_refl _) (Nat.le_refl _)).mp start
  have after : (seqs [one isSeparator, many isSpace]).Matches w.test ((y ++ s :: x) ++ t) y.length
      (0 + (y ++ s :: x).length) := by
    refine matches_seq.mpr ⟨y.length + 1, ⟨rfl, ?_⟩, matches_seq.mpr ⟨_, ⟨by simp, ?_⟩, rfl⟩⟩
    · rw [List.append_assoc, List.getElem?_append_right (Nat.le_refl _), Nat.sub_self]
      exact sep
    · intro k upper lower
      simp only [List.length_append, List.length_cons] at upper
      obtain ⟨n, rfl⟩ : ∃ n, k = y.length + 1 + n := ⟨k - (y.length + 1), by omega⟩
      have inside : n < x.length := by omega
      rw [List.append_assoc, List.getElem?_append_right (by omega), show y.length + 1 + n - y.length = n + 1 by omega,
        List.cons_append, List.getElem?_cons_succ, List.getElem?_append_left inside, List.getElem?_eq_getElem inside]
      exact spaces _ (List.getElem_mem inside)
  apply risky_sudo
  apply sudoRule_of_after
  exact ⟨y.length, by simp, _, name.bound (by simp), matches_seq.mpr ⟨_, after, name⟩⟩

/-! ### Where a match before a newline ends -/

/-- The text has spaces from `l` to `e`, with a newline among them at `n`, and then `sudo`. -/
structure Break (t : List Char) (l n e : Nat) : Prop where
  spaces : ∀ k, l ≤ k → k < e → t[k]?.any isSpace = true
  newline : l ≤ n ∧ n < e ∧ t[n]? = some '\n'
  sudo_ : ∀ k, k < 4 → t[e + k]? = ['s', 'u', 'd', 'o'][k]?

section
variable {l n e : Nat} {p : Char → Bool} {cs : List Char}

theorem Break.lt (cut : Break t l n e) : l < e := Nat.lt_of_le_of_lt cut.newline.1 cut.newline.2.1

/-- No character of a class that has no spaces is a space. -/
theorem not_space_of_any (dark : ∀ c, p c = true → isSpace c = false) {k : Nat} (found : t[k]?.any p = true) :
    t[k]?.any isSpace = false := by
  obtain ⟨c, at_, hc⟩ := (Option.any_eq_true _ _).mp found
  rw [at_]
  exact dark c hc

theorem Break.class_one (cut : Break t l n e) (dark : ∀ c, p c = true → isSpace c = false) :
    Sends w.test t (· < e) (one p) (· ≤ l) := by
  rintro i j hi ⟨rfl, found⟩
  by_contra far
  have := cut.spaces i (by omega) hi
  rw [not_space_of_any dark found] at this
  cases this

theorem Break.class_many (cut : Break t l n e) (dark : ∀ c, p c = true → isSpace c = false) :
    Sends w.test t (· ≤ l) (many p) (· ≤ l) := by
  rintro i j hi ⟨le, found⟩
  by_contra far
  have := cut.spaces l (Nat.le_refl _) cut.lt
  rw [not_space_of_any dark (found l (by omega) hi)] at this
  cases this

theorem Break.lit_before (cut : Break t l n e) (dark : ∀ c ∈ cs, isSpace c = false) (ne : cs ≠ []) :
    Sends w.test t (· < e) (lit cs) (· ≤ l) := by
  rintro i j hi ⟨rfl, same⟩
  have pos : 0 < cs.length := List.length_pos_iff.mpr ne
  have not_space : ∀ k, k < cs.length → t[i + k]?.any isSpace = false := by
    intro k hk
    rw [same k hk, List.getElem?_eq_getElem hk]
    exact dark _ (List.getElem_mem hk)
  by_contra far
  -- One of the characters stands where the spaces are.
  rcases Nat.lt_or_ge i l with inside | outside
  · have := cut.spaces (i + (l - i)) (by omega) (by have := cut.lt; omega)
    rw [not_space (l - i) (by omega)] at this
    cases this
  · have := cut.spaces (i + 0) (by omega) (by omega)
    rw [not_space 0 pos] at this
    cases this

theorem Break.lit_until (cut : Break t l n e) (dark : ∀ c ∈ cs, isSpace c = false)
    (differs : ∃ k, k < 4 ∧ k < cs.length ∧ cs[k]? ≠ ['s', 'u', 'd', 'o'][k]?) :
    Sends w.test t (· ≤ e) (lit cs) (· ≤ l) := by
  intro i j hi found
  obtain ⟨k, four, hk, differs⟩ := differs
  rcases Nat.eq_or_lt_of_le hi with rfl | before
  · exact absurd ((found.2 k hk).symm.trans (cut.sudo_ k four)) differs
  · have ne : cs ≠ [] := fun h => by simp [h] at hk
    exact cut.lit_before dark ne i j before found

theorem Break.in_command (cut : Break t l n e) : Sends w.test t (· ≤ l) (many inCommand) (· ≤ n) := by
  rintro i j hi ⟨le, found⟩
  by_contra far
  have := found n (by omega) (by have := cut.newline; omega)
  rw [cut.newline.2.2] at this
  cases this

theorem spaces_one : Sends w.test t (· < e) (one isSpace) (· ≤ e) := by
  rintro i j hi ⟨rfl, -⟩
  exact hi

theorem Break.spaces_many (cut : Break t l n e) : Sends w.test t (· ≤ e) (many isSpace) (· ≤ e) := by
  rintro i j hi ⟨le, found⟩
  by_contra far
  have := found e (by omega) hi
  rw [show e = e + 0 from rfl, cut.sudo_ 0 (by decide)] at this
  cases this

theorem isLetter_dark (c : Char) (h : isLetter c = true) : isSpace c = false := by
  simp only [isLetter, Bool.or_eq_true, Bool.and_eq_true, decide_eq_true_eq, Char.le_def, UInt32.le_iff_toNat_le] at h
  have range : 65 ≤ c.toNat ∧ c.toNat ≤ 122 := by
    have h' : 97 ≤ c.toNat ∧ c.toNat ≤ 122 ∨ 65 ≤ c.toNat ∧ c.toNat ≤ 90 := h
    omega
  unfold isSpace
  exact decide_eq_false (by omega)

theorem isSeparator_dark (c : Char) (h : isSeparator c = true) : isSpace c = false := by
  simp only [isSeparator, Bool.or_eq_true, decide_eq_true_eq] at h
  rcases h with (rfl | rfl) | rfl <;> decide

theorem Break.flags_until (cut : Break t l n e) {middle : Regex} (h : Sends w.test t (· ≤ l) middle (· ≤ l)) :
    Sends w.test t (· ≤ e) (flags middle) (· ≤ l) :=
  (cut.lit_until (by decide) ⟨0, by decide⟩).seq <| (cut.class_many isLetter_dark).seq <| h.seq <|
    (cut.class_many isLetter_dark).seq .empty

theorem Break.spaces_some (cut : Break t l n e) : Sends w.test t (· ≤ l) (many1 isSpace) (· ≤ e) :=
  (spaces_one.starting fun _ hi => Nat.lt_of_le_of_lt hi cut.lt).seq cut.spaces_many

/-- Where the characters before the newline have nothing but spaces after a
separator, `sudo` is not found after it. -/
theorem Break.separator (cut : Break t l n e)
    (other : ∀ k, k < l → t[k]?.any isSeparator = true → ∃ m, k < m ∧ m < l ∧ t[m]?.any isSpace = false) :
    Sends w.test t (· < e) (alt start (seqs [one isSeparator, many isSpace])) (· ≤ l) := by
  rintro i j hi (⟨rfl, rfl⟩ | ⟨k, -, after, m, -, ⟨le, spaces⟩, rfl⟩)
  · exact Nat.zero_le _
  · have before : i + 1 ≤ l := after.1 ▸ cut.class_one isSeparator_dark i k hi after
    obtain ⟨rfl, sep⟩ := after
    obtain ⟨m', past, within, dark⟩ := other i before sep
    by_contra far
    have := spaces m' (by omega) (by omega)
    rw [dark] at this
    cases this

theorem rule_before_break (cut : Break t l n e)
    (other : ∀ k, k < l → t[k]?.any isSeparator = true → ∃ m, k < m ∧ m < l ∧ t[m]?.any isSpace = false)
    {rule : RiskRule} (mem : rule ∈ RULES) : Sends w.test t (· < e) rule.pattern (· ≤ l) := by
  have lt := cut.lt
  have newline := cut.newline
  have begins : ∀ i, i ≤ l → i < e := fun i hi => by omega
  have reaches : ∀ i, i ≤ n → i < e := fun i hi => by omega
  simp only [RULES, List.mem_cons, List.not_mem_nil, or_false] at mem
  rcases mem with rfl | rfl | rfl | rfl | rfl | rfl
  · have option : Sends w.test t (· ≤ n) (alt (seqs [lit ['-', '-', 'f', 'o', 'r', 'c', 'e'],
        opt (lit ['-', 'w', 'i', 't', 'h', '-', 'l', 'e', 'a', 's', 'e']), boundary])
        (seqs [one isSpace, flags (lit ['f']), boundary])) (· ≤ l) := by
      apply Sends.alt
      · exact ((cut.lit_before (by decide) (by decide)).starting reaches).seq <|
          (((cut.lit_before (by decide) (by decide)).starting begins).alt .empty).seq <| Sends.boundary.seq .empty
      · exact (spaces_one.starting reaches).seq <|
          (cut.flags_until ((cut.lit_before (by decide) (by decide)).starting begins)).seq <| Sends.boundary.seq .empty
    exact Sends.boundary.seq <| (cut.lit_before (by decide) (by decide)).seq <| Sends.boundary.seq <| cut.in_command.seq <|
      Sends.boundary.seq <| ((cut.lit_before (by decide) (by decide)).starting reaches).seq <| Sends.boundary.seq <|
      cut.in_command.seq <| option.seq .empty
  · exact Sends.boundary.seq <| (cut.lit_before (by decide) (by decide)).seq <| cut.spaces_some.seq <|
      (cut.lit_until (by decide) ⟨0, by decide⟩).seq <| cut.spaces_some.seq <|
      (cut.lit_until (by decide) ⟨0, by decide⟩).seq <| Sends.boundary.seq .empty
  · have option : Sends w.test t (· ≤ e) (alt (flags (lit ['f'])) (lit ['-', '-', 'f', 'o', 'r', 'c', 'e'])) (· ≤ l) :=
      (cut.flags_until ((cut.lit_before (by decide) (by decide)).starting begins)).alt
        (cut.lit_until (by decide) ⟨0, by decide⟩)
    exact Sends.boundary.seq <| (cut.lit_before (by decide) (by decide)).seq <| cut.spaces_some.seq <|
      (cut.lit_until (by decide) ⟨0, by decide⟩).seq <| cut.spaces_some.seq <| option.seq <| Sends.boundary.seq .empty
  · have r_dark : ∀ c : Char, (c = 'r' || c = 'R') = true → isSpace c = false := by
      intro c hc
      simp only [Bool.or_eq_true, decide_eq_true_eq] at hc
      rcases hc with rfl | rfl <;> decide
    have option : Sends w.test t (· ≤ n) (alt (seqs [one isSpace, flags (one fun c => c = 'r' || c = 'R'), boundary])
        (seqs [one isSpace, lit ['-', '-', 'r', 'e', 'c', 'u', 'r', 's', 'i', 'v', 'e'], boundary])) (· ≤ l) := by
      apply Sends.alt
      · exact (spaces_one.starting reaches).seq <|
          (cut.flags_until ((cut.class_one r_dark).starting begins)).seq <| Sends.boundary.seq .empty
      · exact (spaces_one.starting reaches).seq <| (cut.lit_until (by decide) ⟨0, by decide⟩).seq <|
          Sends.boundary.seq .empty
    exact Sends.boundary.seq <| (cut.lit_before (by decide) (by decide)).seq <| Sends.boundary.seq <| cut.in_command.seq <|
      option.seq .empty
  · exact (cut.separator other).seq <| ((cut.lit_before (by decide) (by decide)).starting begins).seq <|
      Sends.boundary.seq .empty
  · have verb : Sends w.test t (· ≤ e) (alt (lit ['s', 't', 'o', 'p']) (lit ['r', 'e', 's', 't', 'a', 'r', 't'])) (· ≤ l) :=
      (cut.lit_until (by decide) ⟨1, by decide⟩).alt (cut.lit_until (by decide) ⟨0, by decide⟩)
    exact Sends.boundary.seq <| (cut.lit_before (by decide) (by decide)).seq <| cut.spaces_some.seq <|
      verb.seq <| Sends.boundary.seq .empty

end

/-! ### Where a match begins -/

/-- There is no character but a space here. -/
def Blank (t : List Char) (k : Nat) : Prop := t[k]?.all isSpace = true

theorem lit_blank {c : Char} {cs : List Char} (dark : isSpace c = false) :
    Sends w.test t (Blank t) (lit (c :: cs)) fun _ => False := by
  rintro i j blank ⟨-, same⟩
  have first : t[i]? = some c := same 0 (Nat.succ_pos _)
  unfold Blank at blank
  rw [first] at blank
  simp [dark] at blank

/-- A rule matches nothing that begins with a space. -/
theorem rule_begins {rule : RiskRule} (mem : rule ∈ RULES) : Sends w.test t (Blank t) rule.pattern fun _ => False := by
  simp only [RULES, List.mem_cons, List.not_mem_nil, or_false] at mem
  have word_first : ∀ {c cs rest}, isSpace c = false →
      Sends w.test t (Blank t) (seqs (boundary :: lit (c :: cs) :: rest)) fun _ => False :=
    fun dark => Sends.boundary.seq ((lit_blank dark).seq .never)
  rcases mem with rfl | rfl | rfl | rfl | rfl | rfl
  · exact word_first (by decide)
  · exact word_first (by decide)
  · exact word_first (by decide)
  · exact word_first (by decide)
  · have nothing : Sends w.test t (Blank t) (alt start (seqs [one isSeparator, many isSpace])) (Blank t) := by
      rintro i j blank (⟨rfl, rfl⟩ | ⟨k, -, ⟨rfl, sep⟩, -⟩)
      · exact blank
      · obtain ⟨c, at_, hc⟩ := (Option.any_eq_true _ _).mp sep
        unfold Blank at blank
        rw [at_] at blank
        exact absurd blank (by simp [isSeparator_dark c hc])
    exact nothing.seq ((lit_blank (by decide)).seq .never)
  · exact word_first (by decide)

/-- A match in the second command is one that does not need its start. -/
theorem matches_spaced (gap : x.getLast?.any w.test = false) (ne : x ≠ []) (r : Regex) :
    r.Matches w.test (' ' :: t) (i + 1) (j + 1) ↔ r.Matches w.test (x ++ t) (i + x.length) (j + x.length) := by
  have pos : 0 < x.length := List.length_pos_iff.mpr ne
  have space : ([' '].getLast?).any w.test = false := w.space _ (by decide)
  have shifted : Agree w.test t ([' '] ++ t) [' '].length i j := agree_right space
  have agree := (agree_right (t := t) (i := i) (j := j) gap).across shifted pos
  have moved := matches_shift agree (r := r) (.inr (.inr (Nat.succ_pos i))) (Nat.le_refl _) (Nat.le_refl _)
  rw [show [' '].length = 1 from rfl, show i + 1 + (x.length - 1) = i + x.length by omega,
    show j + 1 + (x.length - 1) = j + x.length by omega] at moved
  exact moved

/-- A risk of the second command other than a leading `sudo`. -/
theorem risky_spaced (gap : x.getLast?.any w.test = false) (ne : x ≠ []) (h : Risky w (' ' :: t)) : Risky w (x ++ t) := by
  obtain ⟨rule, mem, i, hi, j, hj, found⟩ := h
  cases i with
  | zero =>
    have blank : Blank (' ' :: t) 0 := by
      show (some ' ').all isSpace = true
      decide
    exact (rule_begins mem 0 j blank found).elim
  | succ i =>
    have le := found.le
    obtain ⟨j, rfl⟩ : ∃ m, j = m + 1 := ⟨j - 1, by omega⟩
    simp only [List.length_cons] at hi hj
    exact ⟨rule, mem, i + x.length, by simp; omega, j + x.length, by simp; omega, (matches_spaced gap ne _).mp found⟩

theorem head_gap (gap : ∀ c ∈ x, w.test c = false) (ne : x ≠ []) : (x ++ t).head?.any w.test = false := by
  obtain ⟨c, rest, rfl⟩ := List.exists_cons_of_ne_nil ne
  exact gap c List.mem_cons_self

theorem last_gap (gap : ∀ c ∈ x, w.test c = false) (ne : x ≠ []) : (t ++ x).getLast?.any w.test = false := by
  obtain ⟨init, c, rfl⟩ : ∃ init c, x = init ++ [c] := ⟨_, _, (List.dropLast_append_getLast ne).symm⟩
  rw [← List.append_assoc, List.getLast?_append, List.getLast?_singleton, Option.some_or]
  exact gap c (by simp)

/-- After a newline a leading `sudo` is not found, whatever else is. -/
theorem risky_of_broken (spaces : ∀ c ∈ x, isSpace c = true) (newline : '\n' ∈ x) (start : StartsWithSudo w y)
    (quiet : endsInSeparator t = false) (h : Risky w (t ++ x ++ y)) : Risky w t ∨ Risky w (' ' :: y) := by
  have ne : x ≠ [] := List.ne_nil_of_mem newline
  have gap : ∀ c ∈ x, w.test c = false := fun c hc => w.space c (spaces c hc)
  obtain ⟨m, hm, at_m⟩ := List.mem_iff_getElem.mp newline
  have cut : Break (t ++ x ++ y) t.length (t.length + m) (t ++ x).length := by
    refine ⟨fun k lower upper => ?_, ⟨by omega, by simp; omega, ?_⟩, fun k four => ?_⟩
    · rw [List.length_append] at upper
      rw [List.getElem?_append_left (by simp; omega), List.getElem?_append_right lower,
        List.getElem?_eq_getElem (by omega)]
      exact spaces _ (List.getElem_mem _)
    · rw [List.getElem?_append_left (by simp; omega), List.getElem?_append_right (by omega), Nat.add_sub_cancel_left,
        List.getElem?_eq_getElem hm, at_m]
    · obtain ⟨p, -, name, -⟩ := start
      rw [List.getElem?_append_right (by omega), Nat.add_sub_cancel_left, ← name.2 k four, Nat.zero_add]
  have other : ∀ k, k < t.length → (t ++ x ++ y)[k]?.any isSeparator = true →
      ∃ m, k < m ∧ m < t.length ∧ (t ++ x ++ y)[m]?.any isSpace = false := by
    intro k hk sep
    have left : ∀ k, k < t.length → (t ++ x ++ y)[k]? = t[k]? := fun k hk => by
      rw [List.append_assoc, List.getElem?_append_left hk]
    rw [left k hk, List.getElem?_eq_getElem hk] at sep
    by_contra none_
    push Not at none_
    have ends : endsInSeparator t = true := by
      refine endsInSeparator_iff.mpr ⟨t.take k, t[k], t.drop (k + 1), ?_, sep, ?_⟩
      · rw [List.getElem_cons_drop, List.take_append_drop]
      · intro c hc
        obtain ⟨n, hn, rfl⟩ := List.mem_iff_getElem.mp hc
        rw [List.length_drop] at hn
        have := none_ (k + 1 + n) (by omega) (by omega)
        rw [left _ (by omega), List.getElem?_eq_getElem (by omega)] at this
        rw [List.getElem_drop]
        simpa using this
    rw [quiet] at ends
    cases ends
  obtain ⟨rule, mem, i, hi, j, hj, found⟩ := h
  have le := found.le
  rcases Nat.lt_or_ge i (t ++ x).length with before | after
  · have within := rule_before_break cut other mem i j before found
    refine .inl ⟨rule, mem, i, by omega, j, within, ?_⟩
    rw [List.append_assoc] at found
    exact (matches_shift (agree_left (head_gap gap ne) le within) (.inr (.inl rfl)) (Nat.le_refl _)
      (Nat.le_refl _)).mpr found
  · obtain ⟨i, rfl⟩ : ∃ n, i = n + (t ++ x).length := ⟨i - (t ++ x).length, by omega⟩
    obtain ⟨j, rfl⟩ : ∃ n, j = n + (t ++ x).length := ⟨j - (t ++ x).length, by omega⟩
    simp only [List.length_append] at hi hj
    refine .inr ⟨rule, mem, i + 1, by simp; omega, j + 1, by simp; omega, ?_⟩
    exact (matches_spaced (last_gap gap ne) (by simp [ne]) _).mpr found

/-! ### The theorem -/

theorem newline_between_spaces (before after : Nat) :
    (∀ c ∈ Separator.newline.between before after, isSpace c = true) ∧ '\n' ∈ Separator.newline.between before after := by
  refine ⟨fun c hc => ?_, by simp [Separator.between, Separator.text]⟩
  have only : c = ' ' ∨ c = '\n' := by
    rcases List.mem_append.mp hc with hc | hc
    · rcases List.mem_append.mp hc with hc | hc
      · exact .inl (List.eq_of_mem_replicate hc)
      · exact .inr (List.mem_singleton.mp hc)
    · exact .inl (List.eq_of_mem_replicate hc)
  rcases only with rfl | rfl <;> decide

/-- Any separator but a newline ends in a character that `sudo` is looked for after. -/
theorem separator_last {sep : Separator} (other : sep ≠ .newline) :
    ∃ init s, sep.text = init ++ [s] ∧ isSeparator s = true := by
  cases sep with
  | semicolon => exact ⟨[], ';', rfl, rfl⟩
  | and => exact ⟨['&'], '&', rfl, rfl⟩
  | or => exact ⟨['|'], '|', rfl, rfl⟩
  | pipe => exact ⟨[], '|', rfl, rfl⟩
  | newline => exact absurd rfl other

/-- **Joining commands hides no risk** but that of a `sudo` at the start of a line. -/
theorem classify_joined_iff (w : WordChars) (a b : String) (sep : Separator) (before after : Nat) :
    ((classify w a).isSome = true ∨ (classify w b).isSome = true →
      (classify w (joined a sep before after b)).isSome = true) ↔ ¬HiddenSudo w a sep b := by
  have gap : ∀ c ∈ sep.between before after, w.test c = false := fun c => between_word
  have ne : sep.between before after ≠ [] := between_ne
  rw [classify_isSome, classify_isSome, classify_isSome]
  unfold joined
  rw [String.toList_ofList]
  constructor
  · rintro claim ⟨rfl, start, other, left, quiet⟩
    have risky := claim (.inr (risky_sudo (sudoRule_of_start start)))
    obtain ⟨spaces, newline⟩ := newline_between_spaces before after
    exact (risky_of_broken spaces newline start quiet risky).elim left other
  · rintro shown (left | right)
    · rw [List.append_assoc]
      exact risky_left left (head_gap gap ne)
    by_cases start : StartsWithSudo w b.toList
    · by_cases line : sep = .newline
      · by_cases spaced : Risky w (' ' :: b.toList)
        · exact risky_spaced (last_gap gap ne) (by simp [ne]) spaced
        by_cases left : Risky w a.toList
        · rw [List.append_assoc]
          exact risky_left left (head_gap gap ne)
        -- What is left is that the first command ends in a separator of its own.
        have ends : endsInSeparator a.toList = true := by
          by_contra quiet
          exact shown ⟨line, start, spaced, left, by simpa using quiet⟩
        obtain ⟨u, s, v, split, is_sep, spaces⟩ := endsInSeparator_iff.mp ends
        subst line
        have far := risky_sudo_after (y := u) (x := v ++ Separator.newline.between before after) is_sep
          (fun c hc => (List.mem_append.mp hc).elim (spaces c) ((newline_between_spaces before after).1 c)) start
        rw [split]
        simpa using far
      · obtain ⟨init, s, text, is_sep⟩ := separator_last line
        have far := risky_sudo_after (y := a.toList ++ List.replicate before ' ' ++ init) (x := List.replicate after ' ')
          is_sep (fun c hc => by rw [List.eq_of_mem_replicate hc]; decide) start
        unfold Separator.between
        rw [text]
        simpa using far
    · exact risky_right right (last_gap gap ne) start

theorem isAlphanum_dark {c : Char} (h : isSpace c = true) : (c.isAlphanum || c = '_') = false := by
  by_contra found
  rw [Bool.not_eq_false] at found
  change ((decide (c.val ≥ 65 ∧ c.val ≤ 90) || decide (c.val ≥ 97) && decide (c.val ≤ 122)) ||
    decide (c.val ≥ 48) && decide (c.val ≤ 57) || decide (c = '_')) = true at found
  simp only [Bool.or_eq_true, decide_eq_true_eq, Bool.and_eq_true, ge_iff_le, UInt32.le_iff_toNat_le] at found
  have range : 48 ≤ c.toNat ∧ c.toNat ≤ 122 := by
    rcases found with ((h | h) | h) | rfl
    · have h' : 65 ≤ c.toNat ∧ c.toNat ≤ 90 := h
      omega
    · have h' : 97 ≤ c.toNat ∧ c.toNat ≤ 122 := h
      omega
    · have h' : 48 ≤ c.toNat ∧ c.toNat ≤ 57 := h
      omega
    · decide
  unfold isSpace at h
  have := of_decide_eq_true h
  omega

/-- Word characters of ASCII alone. -/
def asciiWords : WordChars where
  test c := c.isAlphanum || c = '_'
  ascii _ _ := rfl
  space _ := isAlphanum_dark

/-- **A command after a line break is not seen.** -/
theorem sudo_hidden : (classify asciiWords "sudo id").isSome = true ∧
    (classify asciiWords (joined "ls" .newline 0 0 "sudo id")).isSome = false := by
  decide +kernel

end RmtPlatform.CodingAgent
