import RmtPlatform.Data.Value

/-! Operator authentication.

A credential is taken from one of two headers and compared with every configured token.
What is not authenticated is refused with a status; the comparison itself raises for a
text that is not ASCII, so authentication fails closed exactly where the credential and
the tokens are (`resolveOperator_closed_iff`). -/
namespace RmtPlatform.Ops.Auth

/-! ### Configuration -/

/-- What the process is configured with. `credential` is the file of the tokens in a credentials directory. -/
structure Environment where
  authEnabled : Option String
  credentialsDirectory : Option String
  credential : String → Option String
  operatorTokens : Option String

/-- Lower case, for a comparison with words no other letter has a lower case in. -/
def lower (s : String) : String := String.ofList (s.toList.map Char.toLower)

/-- `_env_bool` with `strict`, or a `RuntimeError`. -/
def envBool (raw : Option String) (default : Bool) : Option Bool :=
  match raw with
  | none => some default
  | some raw =>
    if lower (strip raw) ∈ ["1", "true", "yes", "on"] then some true
    else if lower (strip raw) ∈ ["0", "false", "no", "off"] then some false
    else none

def authEnabled (env : Environment) : Option Bool := envBool env.authEnabled true

/-- `_operator_tokens_raw`. -/
def operatorTokensRaw (env : Environment) : String :=
  let directory := strip (env.credentialsDirectory.getD "")
  match if directory = "" then none else env.credential directory with
  | some text => text
  | none => env.operatorTokens.getD ""

/-- `s.partition(c)`, without the separator. -/
def partition (c : Char) (s : String) : String × String :=
  (String.ofList (s.toList.takeWhile (· ≠ c)), String.ofList ((s.toList.dropWhile (· ≠ c)).drop 1))

/-- The token and the name of an entry. -/
def parseEntry (entry : String) : Option (String × String) :=
  let entry := strip entry
  if entry = "" ∨ ':' ∉ entry.toList then none
  else
    let name := strip (partition ':' entry).1
    let token := strip (partition ':' entry).2
    if name ≠ "" ∧ token ≠ "" then some (token, name) else none

/-- `tokens[token] = name`. -/
def assign (tokens : List (String × String)) (token name : String) : List (String × String) :=
  match tokens with
  | [] => [(token, name)]
  | (t, n) :: rest => if t = token then (t, name) :: rest else (t, n) :: assign rest token name

/-- `s.split(",")`. -/
def entries (raw : String) : List String := (raw.toList.splitOn ',').map String.ofList

/-- `operator_tokens`, of a configuration string. -/
def operatorTokens (raw : String) : List (String × String) :=
  (entries raw).foldl (fun tokens entry => match parseEntry entry with
    | some (token, name) => assign tokens token name
    | none => tokens) []

/-! ### A request -/

inductive Raised where
  | http (status : Nat) (detail : String) (wwwAuthenticate : Option String)
  | typeError
deriving DecidableEq

def isAscii (s : String) : Bool := s.toList.all (·.toNat < 128)

/-- `hmac.compare_digest`, of two texts. -/
def compareDigest (a b : String) : Except Raised Bool :=
  if isAscii a && isAscii b then .ok (a = b) else .error .typeError

/-- `_match`. -/
def matchTokens (presented : String) (tokens : List (String × String)) : Except Raised (Option String) :=
  tokens.foldlM (fun matched entry => do
    let same ← compareDigest presented entry.1
    pure (if same then some entry.2 else matched)) none

/-- `_extract`. -/
def extract (authorization xApiKey : Option String) : Option String :=
  let bearer := authorization.bind fun authorization =>
    if lower (partition ' ' authorization).1 = "bearer" ∧ strip (partition ' ' authorization).2 ≠ "" then
      some (strip (partition ' ' authorization).2)
    else none
  bearer.or (xApiKey.bind fun key => if strip key ≠ "" then some (strip key) else none)

structure OperatorIdentity where
  name : String
deriving DecidableEq

def misconfigured : Raised := .http 503 "operator authentication is misconfigured" none

def unauthorized (detail : String) : Raised := .http 401 detail (some "Bearer")

/-- `resolve_operator`. -/
def resolveOperator (env : Environment) (authorization xApiKey : Option String) : Except Raised OperatorIdentity :=
  match authEnabled env with
  | none => .error misconfigured
  | some false => .ok ⟨"local-dev"⟩
  | some true =>
    let tokens := operatorTokens (operatorTokensRaw env)
    if tokens = [] then .error misconfigured
    else match extract authorization xApiKey with
      | none => .error (unauthorized "operator authentication required")
      | some presented => do
        match ← matchTokens presented tokens with
        | none => throw (unauthorized "invalid operator token")
        | some name => pure ⟨name⟩

/-! ### The configured tokens -/

/-- An entry of the configuration gives the operator this token. -/
def Configured (env : Environment) (token name : String) : Prop :=
  ∃ entry ∈ entries (operatorTokensRaw env), parseEntry entry = some (token, name)

section
variable {tokens : List (String × String)} {token name t n : String}

theorem mem_assign (mem : (t, n) ∈ assign tokens token name) : (t, n) = (token, name) ∨ (t, n) ∈ tokens := by
  induction tokens with
  | nil => exact .inl (List.mem_singleton.mp mem)
  | cons e rest ih =>
    obtain ⟨t', n'⟩ := e
    rw [assign] at mem
    split at mem
    · next same =>
      subst same
      exact (List.mem_cons.mp mem).imp_right (List.mem_cons_of_mem _)
    · rcases List.mem_cons.mp mem with same | mem
      · exact .inr (same ▸ List.mem_cons_self)
      · exact (ih mem).imp_right (List.mem_cons_of_mem _)

theorem keys_assign : t ∈ (assign tokens token name).map Prod.fst ↔ t = token ∨ t ∈ tokens.map Prod.fst := by
  induction tokens with
  | nil => simp [assign]
  | cons e rest ih =>
    obtain ⟨t', n'⟩ := e
    rw [assign]
    split
    · next same =>
      subst same
      simp
    · rw [List.map_cons, List.mem_cons, ih, List.map_cons, List.mem_cons]
      exact or_left_comm

/-- What the loop over the entries leaves. -/
theorem foldl_entries (texts : List String) (before : List (String × String)) :
    let after := texts.foldl (fun tokens entry => match parseEntry entry with
      | some (token, name) => assign tokens token name
      | none => tokens) before
    (∀ e ∈ after, e ∈ before ∨ ∃ entry ∈ texts, parseEntry entry = some e) ∧
      ∀ t, t ∈ after.map Prod.fst ↔ t ∈ before.map Prod.fst ∨ ∃ entry ∈ texts, ∃ n, parseEntry entry = some (t, n) := by
  induction texts generalizing before with
  | nil => simp
  | cons entry rest ih =>
    rw [List.foldl_cons]
    cases parsed : parseEntry entry with
    | none =>
      obtain ⟨from_entries, keys⟩ := ih before
      constructor
      · exact fun e mem => (from_entries e mem).imp_right fun ⟨other, mem, is⟩ => ⟨other, List.mem_cons_of_mem _ mem, is⟩
      · intro t
        rw [keys t]
        simp [parsed]
    | some e =>
      obtain ⟨token, name⟩ := e
      obtain ⟨from_entries, keys⟩ := ih (assign before token name)
      constructor
      · rintro ⟨t, n⟩ mem
        rcases from_entries _ mem with mem | ⟨other, mem, is⟩
        · rcases mem_assign mem with same | mem
          · exact .inr ⟨entry, List.mem_cons_self, same ▸ parsed⟩
          · exact .inl mem
        · exact .inr ⟨other, List.mem_cons_of_mem _ mem, is⟩
      · intro t
        rw [keys t, keys_assign]
        simp only [List.mem_cons, exists_eq_or_imp, parsed, Option.some.injEq, Prod.mk.injEq, exists_and_left,
          exists_eq', and_true]
        rw [or_assoc, or_left_comm, eq_comm]

end

section
variable {env : Environment} {authorization xApiKey : Option String} {presented : String}

theorem configured_of_mem {token name : String} (mem : (token, name) ∈ operatorTokens (operatorTokensRaw env)) :
    Configured env token name :=
  ((foldl_entries _ []).1 _ mem).resolve_left List.not_mem_nil

theorem mem_of_configured {token name : String} (configured : Configured env token name) :
    ∃ e ∈ operatorTokens (operatorTokensRaw env), e.1 = token := by
  obtain ⟨entry, mem, parsed⟩ := configured
  have key := ((foldl_entries (entries (operatorTokensRaw env)) []).2 token).mpr (.inr ⟨entry, mem, name, parsed⟩)
  exact List.mem_map.mp key

/-! ### The comparison -/

/-- Nothing raises if all is ASCII, and the match is one of the tokens. -/
theorem matchTokens_ascii {tokens : List (String × String)} (ascii : isAscii presented = true)
    (all : ∀ e ∈ tokens, isAscii e.1 = true) :
    ∃ matched, matchTokens presented tokens = .ok matched ∧ ∀ name, matched = some name → (presented, name) ∈ tokens := by
  suffices general : ∀ before, ∃ matched, tokens.foldlM (fun matched entry => do
      let same ← compareDigest presented entry.1
      pure (if same then some entry.2 else matched)) before = .ok matched ∧
      ∀ name, matched = some name → before = some name ∨ (presented, name) ∈ tokens by
    obtain ⟨matched, run, from_tokens⟩ := general none
    exact ⟨matched, run, fun name is => (from_tokens name is).resolve_left (by simp)⟩
  induction tokens with
  | nil => exact fun before => ⟨before, rfl, fun name is => .inl is⟩
  | cons e rest ih =>
    intro before
    have same : compareDigest presented e.1 = .ok (presented = e.1) := by
      simp [compareDigest, ascii, all e List.mem_cons_self]
    obtain ⟨matched, run, from_tokens⟩ := ih (fun e mem => all e (List.mem_cons_of_mem _ mem))
      (if presented = e.1 then some e.2 else before)
    refine ⟨matched, ?_, fun name is => ?_⟩
    · rw [List.foldlM_cons, same, ← run]
      simp [bind, Except.bind, pure, Except.pure]
    · rcases from_tokens name is with now | mem
      · split at now
        · next equal =>
          cases now
          exact .inr (equal ▸ List.mem_cons_self)
        · exact .inl now
      · exact .inr (List.mem_cons_of_mem _ mem)

/-- One text that is not ASCII is enough for it to raise. -/
theorem matchTokens_raises {tokens : List (String × String)}
    (other : ∃ e ∈ tokens, ¬(isAscii presented = true ∧ isAscii e.1 = true)) :
    matchTokens presented tokens = .error .typeError := by
  suffices general : ∀ before, tokens.foldlM (fun matched entry => do
      let same ← compareDigest presented entry.1
      pure (if same then some entry.2 else matched)) before = .error .typeError from general none
  induction tokens with
  | nil => simp at other
  | cons e rest ih =>
    intro before
    rw [List.foldlM_cons]
    by_cases both : isAscii presented = true ∧ isAscii e.1 = true
    · have later : ∃ e ∈ rest, ¬(isAscii presented = true ∧ isAscii e.1 = true) := by
        obtain ⟨e', mem, not_both⟩ := other
        rcases List.mem_cons.mp mem with rfl | mem
        · exact absurd both not_both
        · exact ⟨e', mem, not_both⟩
      have same : compareDigest presented e.1 = .ok (presented = e.1) := by
        simp [compareDigest, both]
      rw [same]
      exact ih later _
    · have raises : compareDigest presented e.1 = .error .typeError := by
        simp [compareDigest, both]
      rw [raises]
      rfl

/-! ### Requests -/

/-- The operator has the credential as a token, or the answer is 401 or 503. -/
def Closed (env : Environment) (authorization xApiKey : Option String) : Prop :=
  match resolveOperator env authorization xApiKey with
  | .ok identity => ∃ presented, extract authorization xApiKey = some presented ∧ Configured env presented identity.name
  | .error (.http status _ _) => status = 401 ∨ status = 503
  | .error .typeError => False

/-- The credential, if there is one, and every configured token are ASCII. -/
def Comparable (env : Environment) (authorization xApiKey : Option String) : Prop :=
  ∀ presented, extract authorization xApiKey = some presented →
    ∀ token name, Configured env token name → isAscii presented = true ∧ isAscii token = true

/-- **Authentication fails closed exactly where everything compared is ASCII.** -/
theorem resolveOperator_closed_iff (env : Environment) (authorization xApiKey : Option String)
    (enabled : authEnabled env = some true) :
    Closed env authorization xApiKey ↔ Comparable env authorization xApiKey := by
  unfold Closed Comparable
  simp only [resolveOperator, enabled]
  by_cases unconfigured : operatorTokens (operatorTokensRaw env) = []
  · have absent : ∀ token name, ¬Configured env token name := by
      intro token name configured
      obtain ⟨e, mem, -⟩ := mem_of_configured configured
      rw [unconfigured] at mem
      cases mem
    simp [unconfigured, misconfigured, absent]
  · rw [if_neg unconfigured]
    cases credential : extract authorization xApiKey with
    | none => simp [unauthorized]
    | some presented =>
      by_cases ascii : ∀ e ∈ operatorTokens (operatorTokensRaw env), isAscii presented = true ∧ isAscii e.1 = true
      · have comparable : ∀ token name, Configured env token name → isAscii presented = true ∧ isAscii token = true := by
          intro token name configured
          obtain ⟨e, mem, rfl⟩ := mem_of_configured configured
          exact ascii e mem
        obtain ⟨first, mem⟩ := List.exists_mem_of_ne_nil _ unconfigured
        obtain ⟨matched, run, from_tokens⟩ := matchTokens_ascii (ascii first mem).1 fun e mem => (ascii e mem).2
        simp only [run]
        cases matched with
        | none => simpa [bind, Except.bind, throw, throwThe, MonadExceptOf.throw, unauthorized] using comparable
        | some name =>
          have configured : Configured env presented name := configured_of_mem (from_tokens name rfl)
          simpa [bind, Except.bind, pure, Except.pure, configured] using comparable
      · obtain ⟨e, mem, not_both⟩ : ∃ e ∈ operatorTokens (operatorTokensRaw env),
            ¬(isAscii presented = true ∧ isAscii e.1 = true) := by
          simpa only [not_forall, exists_prop] using ascii
        have raises : matchTokens presented (operatorTokens (operatorTokensRaw env)) = .error .typeError :=
          matchTokens_raises ⟨e, mem, not_both⟩
        simp only [raises, bind, Except.bind, false_iff]
        intro comparable
        exact not_both (comparable presented rfl e.1 e.2 (configured_of_mem mem))

end

namespace Sample

/-- Two operators. -/
def environment : Environment where
  authEnabled := some "true"
  credentialsDirectory := none
  credential _ := none
  operatorTokens := some "alice:alice-secret-1,bob:bob-secret-2"

end Sample

/-- **A header with a letter that is not ASCII** is answered with neither status. -/
theorem nonAscii_raises :
    authEnabled Sample.environment = some true ∧
    resolveOperator Sample.environment none (some "secr\u00e9t") = .error .typeError ∧
    ¬Closed Sample.environment none (some "secr\u00e9t") := by
  have raises : resolveOperator Sample.environment none (some "secr\u00e9t") = .error .typeError := by decide +kernel
  refine ⟨by decide +kernel, raises, ?_⟩
  rw [Closed, raises]
  exact not_false

/-- A token of an operator. -/
theorem resolveOperator_closed_alice : Closed Sample.environment (some "Bearer alice-secret-1") none := by
  apply (resolveOperator_closed_iff Sample.environment _ _ (by decide +kernel)).mpr
  intro presented credential token name configured
  have is : extract (some "Bearer alice-secret-1") none = some "alice-secret-1" := by decide +kernel
  obtain rfl : "alice-secret-1" = presented := Option.some.inj (is.symm.trans credential)
  obtain ⟨e, mem, rfl⟩ := mem_of_configured configured
  have all : ∀ e ∈ operatorTokens (operatorTokensRaw Sample.environment), isAscii e.1 = true := by decide +kernel
  exact ⟨by decide +kernel, all e mem⟩

end RmtPlatform.Ops.Auth
