import Mathlib.Data.List.Dedup
import RmtPlatform.Data.Decode
import RmtPlatform.Core.Records

/-! The gate between a model's text and what is stored as an explanation.

One JSON object is taken from the text; a claim of it survives if it cites evidence,
and only evidence that exists. What comes out is grounded (`validate_grounded`). The
pattern and the suggested action are meant to be stripped where they are no good, and
are, as long as they can be hashed: the membership tests raise a `TypeError` for a
list or an object (`stripped_iff`). -/
namespace RmtPlatform.Reasoning

open Core

def MAX_CLAIMS : Nat := 10

def MAX_CLAIM_CHARS : Nat := 400

def MAX_SUMMARY_CHARS : Nat := 600

def MAX_REASON_CHARS : Nat := 300

def PATTERNS : List String := ["one_off", "recurring", "unknown"]

/-- What `validate` may raise. -/
inductive Raised where
  | explainError (status detail : String)
  | typeError (message : String)
  | valueError
  | recursionError

structure Claim where
  text : String
  evidence : List String
deriving DecidableEq

structure SuggestedAction where
  target : String
  mechanism : String
  reason : String
deriving DecidableEq

structure Validated where
  summary : String
  claims : List Claim
  pattern : String
  suggestedAction : Option SuggestedAction
  confidence : Int
  droppedClaims : Nat
  notes : List String

section
variable (rt : Runtime) (J : Decoder) (dependencies refs : List String)

/-! ### The object -/

/-- What becomes of the text from its first brace on, once a value has been read from it. -/
def objectOf (text : List Char) : Except DecodeError (PyVal × List Char) → Except Raised Dict
  | .ok (.dict data, rest) =>
    if '{' ∈ rest then .error (.explainError "llm_parse_error" "more than one JSON object in output")
    else .ok data
  | .ok _ => .error (.explainError "llm_parse_error" "model output is not an object")
  | .error .digits => .error .valueError
  | .error .depth => .error .recursionError
  | .error _ => .error (.explainError "llm_parse_error" ("bad JSON: " ++ J.complaint (String.ofList text)))

/-- The text from its first brace on. -/
def fromBrace (text : String) : List Char := text.toList.dropWhile (· ≠ '{')

def extractJson (text : String) : Except Raised Dict :=
  if fromBrace text = [] then .error (.explainError "llm_parse_error" "no JSON object in model output")
  else objectOf J text.toList (J.decode (fromBrace text))

/-! ### Claims -/

/-- A reference to the bundle. -/
def refOf : PyVal → Option String
  | .str r => if r ∈ refs then some r else none
  | _ => none

/-- A claim with text and evidence, all of it in the bundle. -/
def groundedClaim : PyVal → Option Claim
  | .dict claim =>
    match Dict.get claim "text", Dict.get claim "evidence" with
    | .str text, .list evidence =>
      if strip text = "" ∨ evidence = [] then none
      else (evidence.mapM (refOf refs)).map fun cited => ⟨truncated MAX_CLAIM_CHARS (strip text), cited.eraseDups⟩
    | _, _ => none
  | _ => none

/-- The loop over the claims: those kept, and how many are dropped. -/
def sift : List PyVal → List Claim × Nat
  | [] => ([], 0)
  | claim :: rest => match groundedClaim refs claim with
    | some kept => (kept :: (sift rest).1, (sift rest).2)
    | none => ((sift rest).1, (sift rest).2 + 1)

/-- What does not depend on the pattern or the action. -/
structure Common where
  confidence : Int
  kept : List Claim
  dropped : Nat
  summary : String

/-- The checks of `validate` before it looks at the pattern. -/
def commonOf (data : Dict) : Except Raised Common :=
  match (data.get "confidence").percentage with
  | none => .error (.explainError "invalid" ("confidence not int 0-100: " ++ rt.reprOf (data.get "confidence")))
  | some confidence => match data.get "claims" with
    | .list rawClaims =>
      let kept := (sift refs (rawClaims.take MAX_CLAIMS)).1
      let dropped := (sift refs (rawClaims.take MAX_CLAIMS)).2 + (rawClaims.length - MAX_CLAIMS)
      if kept = [] then
        .error (.explainError "no_grounded_explanation"
          ("no claim cited existing evidence (" ++ String.ofList (Json.renderInt dropped) ++ " dropped)"))
      else match data.get "summary" with
        | .str summary =>
          if strip summary = "" then .error (.explainError "invalid" "summary missing")
          else .ok ⟨confidence, kept, dropped, truncated MAX_SUMMARY_CHARS (strip summary)⟩
        | _ => .error (.explainError "invalid" "summary missing")
    | _ => .error (.explainError "invalid" "claims is not a list")

/-! ### The pattern and the action -/

/-- The failures that some claim cites. -/
def citedFailures (kept : List Claim) : List String :=
  ((kept.flatMap (·.evidence)).filter fun r => "failure#".toList.isPrefixOf r.toList).eraseDups

/-- The pattern, and what is noted about it. -/
def patternOf (kept : List Claim) (v : PyVal) : Except Raised (String × List String) :=
  match hashedIn PATTERNS v with
  | .error message => .error (.typeError message)
  | .ok none => .ok ("unknown", ["pattern reset to unknown: not a valid value"])
  | .ok (some pattern) =>
    if pattern = "recurring" ∧ (citedFailures kept).length < 2 then
      .ok ("unknown", ["pattern downgraded to unknown: fewer than two cited failures"])
    else .ok (pattern, [])

def cleanAction (raw : PyVal) : Except Raised (Option SuggestedAction × Option String) :=
  match raw with
  | .none => .ok (none, none)
  | .dict raw =>
    match hashedIn dependencies (Dict.get raw "target") with
    | .error message => .error (.typeError message)
    | .ok none => .ok (none, some ("suggested_action stripped: unknown target " ++ rt.reprOf (Dict.get raw "target")))
    | .ok (some target) =>
      match hashedIn (ActionType.all.map ActionType.value) (Dict.get raw "mechanism") with
      | .error message => .error (.typeError message)
      | .ok none =>
        .ok (none, some ("suggested_action stripped: invalid mechanism " ++ rt.reprOf (Dict.get raw "mechanism")))
      | .ok (some mechanism) =>
        let reason := Dict.get raw "reason"
        .ok (some ⟨target, mechanism, truncated MAX_REASON_CHARS (rt.str (if reason.truthy then reason else .str ""))⟩,
          none)
  | _ => .ok (none, some "suggested_action stripped: not an object")

/-! ### The whole -/

/-- `validate`, once the object is there. -/
def validateObject (data : Dict) : Except Raised Validated := do
  let common ← commonOf rt refs data
  let (pattern, notes) ← patternOf common.kept (data.get "pattern")
  let (action, note) ← cleanAction rt dependencies (data.get "suggested_action")
  .ok {
    summary := common.summary
    claims := common.kept
    pattern
    suggestedAction := action
    confidence := common.confidence
    droppedClaims := common.dropped
    notes := notes ++ note.toList }

def validate (text : String) : Except Raised Validated := do
  let data ← extractJson J text
  validateObject rt dependencies refs data

/-! ### What comes out is grounded -/

variable {rt J dependencies refs}

theorem refOf_mem {v : PyVal} {r : String} (h : refOf refs v = some r) : r ∈ refs := by
  unfold refOf at h
  split at h
  · split at h
    · cases h
      assumption
    · cases h
  · cases h

theorem mapM_refOf {evidence : List PyVal} {cited : List String} (h : evidence.mapM (refOf refs) = some cited) :
    cited.length = evidence.length ∧ ∀ r ∈ cited, r ∈ refs := by
  induction evidence generalizing cited with
  | nil =>
    cases h
    exact ⟨rfl, by simp⟩
  | cons v rest ih =>
    rw [List.mapM_cons] at h
    cases first : refOf refs v with
    | none => simp [first] at h
    | some r =>
      cases others : rest.mapM (refOf refs) with
      | none => simp [first, others] at h
      | some rs =>
        simp only [first, others, Option.bind_eq_bind, Option.bind_some, Option.pure_def, Option.some.injEq] at h
        subst h
        obtain ⟨len, mem⟩ := ih others
        refine ⟨congrArg (· + 1) len, fun r' hr => ?_⟩
        rcases List.mem_cons.mp hr with rfl | hr
        · exact refOf_mem first
        · exact mem r' hr

theorem eraseDups_ne_nil {items : List String} (h : items ≠ []) : items.eraseDups ≠ [] := by
  cases items with
  | nil => exact absurd rfl h
  | cons x rest => simp [List.eraseDups_cons]

theorem groundedClaim_cites {v : PyVal} {c : Claim} (h : groundedClaim refs v = some c) :
    c.evidence ≠ [] ∧ ∀ r ∈ c.evidence, r ∈ refs := by
  unfold groundedClaim at h
  split at h
  · split at h
    · next text evidence _ _ =>
      split at h
      · cases h
      · next good =>
        obtain ⟨cited, cites, rfl⟩ := Option.map_eq_some_iff.mp h
        obtain ⟨len, mem⟩ := mapM_refOf cites
        have some_ : cited ≠ [] := by
          rintro rfl
          exact good (.inr (List.length_eq_zero_iff.mp len.symm))
        exact ⟨eraseDups_ne_nil some_, fun r hr => mem r (List.mem_eraseDups.mp hr)⟩
    · cases h
  · cases h

variable (refs) in
theorem sift_length (claims : List PyVal) : (sift refs claims).1.length + (sift refs claims).2 = claims.length := by
  induction claims with
  | nil => rfl
  | cons claim rest ih =>
    unfold sift
    cases groundedClaim refs claim with
    | none => simp only [List.length_cons]; omega
    | some kept => simp only [List.length_cons]; omega

theorem sift_grounded {claims : List PyVal} {c : Claim} (h : c ∈ (sift refs claims).1) :
    ∃ claim ∈ claims, groundedClaim refs claim = some c := by
  induction claims with
  | nil => cases h
  | cons claim rest ih =>
    unfold sift at h
    cases found : groundedClaim refs claim with
    | none =>
      rw [found] at h
      obtain ⟨v, mem, is⟩ := ih h
      exact ⟨v, List.mem_cons_of_mem _ mem, is⟩
    | some kept =>
      rw [found] at h
      rcases List.mem_cons.mp h with rfl | h
      · exact ⟨claim, List.mem_cons_self, found⟩
      · obtain ⟨v, mem, is⟩ := ih h
        exact ⟨v, List.mem_cons_of_mem _ mem, is⟩

theorem sift_eq_nil {claims : List PyVal} : (sift refs claims).1 = [] ↔ ∀ claim ∈ claims, groundedClaim refs claim = none := by
  induction claims with
  | nil => exact iff_of_true rfl (by simp)
  | cons claim rest ih =>
    unfold sift
    cases found : groundedClaim refs claim with
    | none => simp [found, ih]
    | some kept => simp [found]

theorem takeWhile_ne (c : Char) (text : List Char) : c ∉ text.takeWhile (· ≠ c) := by
  intro mem
  have := List.mem_takeWhile_imp mem
  simp at this

/-- One object of the text, and no brace outside of it. -/
theorem extractJson_ok {text : String} {data : Dict} (h : extractJson J text = .ok data) :
    ∃ before body after, text.toList = before ++ body ++ after ∧ '{' ∉ before ∧ '{' ∉ after ∧
      J.decode (body ++ after) = .ok (.dict data, after) := by
  unfold extractJson at h
  split at h
  · cases h
  · unfold objectOf at h
    split at h
    · next found after read =>
      split at h
      · cases h
      · next only =>
        cases h
        obtain ⟨body, cut⟩ := Decoder.decode_suffix read
        refine ⟨text.toList.takeWhile (· ≠ '{'), body, after, ?_, takeWhile_ne _ _, only, ?_⟩
        · rw [List.append_assoc, cut]
          exact List.takeWhile_append_dropWhile.symm
        · rw [cut]
          exact read
    all_goals cases h

/-- What has been checked of an object before its pattern is looked at. -/
theorem commonOf_ok {data : Dict} {common : Common} (h : commonOf rt refs data = .ok common) :
    ∃ claims, data.get "claims" = .list claims ∧ common.kept = (sift refs (claims.take MAX_CLAIMS)).1 ∧
      common.kept ≠ [] ∧ common.kept.length + common.dropped = claims.length := by
  unfold commonOf at h
  split at h
  · cases h
  · split at h
    · next claims is =>
      dsimp only at h
      split at h
      · cases h
      · next ne =>
        split at h
        · split at h
          · cases h
          · cases h
            refine ⟨claims, is, rfl, ne, ?_⟩
            have counted := sift_length refs (claims.take MAX_CLAIMS)
            rw [List.length_take] at counted
            dsimp only
            omega
        · cases h
    · cases h

theorem two_of_eraseDups {items : List String} (h : 2 ≤ items.eraseDups.length) :
    ∃ a ∈ items, ∃ b ∈ items, a ≠ b := by
  cases items with
  | nil => simp at h
  | cons x rest =>
    rw [List.eraseDups_cons, List.length_cons] at h
    cases others : rest.filter fun b => !b == x with
    | nil => simp [others] at h
    | cons y _ =>
      have mem : y ∈ rest.filter fun b => !b == x := others ▸ List.mem_cons_self
      obtain ⟨mem, ne⟩ := List.mem_filter.mp mem
      exact ⟨x, List.mem_cons_self, y, List.mem_cons_of_mem _ mem, fun same => by simp [same] at ne⟩

theorem citedFailures_two {kept : List Claim} (h : 2 ≤ (citedFailures kept).length) :
    ∃ a b, a ≠ b ∧ ∀ r ∈ [a, b], "failure#".toList <+: r.toList ∧ ∃ c ∈ kept, r ∈ c.evidence := by
  have cites : ∀ r ∈ (kept.flatMap (·.evidence)).filter fun r => "failure#".toList.isPrefixOf r.toList,
      "failure#".toList <+: r.toList ∧ ∃ c ∈ kept, r ∈ c.evidence := by
    intro r mem
    obtain ⟨mem, begins⟩ := List.mem_filter.mp mem
    obtain ⟨c, kept_, cited⟩ := List.mem_flatMap.mp mem
    exact ⟨List.isPrefixOf_iff_prefix.mp begins, c, kept_, cited⟩
  obtain ⟨a, memA, b, memB, ne⟩ := two_of_eraseDups h
  refine ⟨a, b, ne, fun r mem => ?_⟩
  rcases List.mem_cons.mp mem with rfl | mem
  · exact cites _ memA
  · exact cites r (List.mem_singleton.mp mem ▸ memB)

theorem patternOf_recurring {kept : List Claim} {v : PyVal} {notes : List String}
    (h : patternOf kept v = .ok ("recurring", notes)) : 2 ≤ (citedFailures kept).length := by
  unfold patternOf at h
  split at h
  · cases h
  · simp at h
  · split at h
    · simp at h
    · next enough =>
      have is := (Prod.mk.inj (Except.ok.inj h)).1
      by_contra few
      exact enough ⟨is, by omega⟩

theorem cleanAction_allowed {raw : PyVal} {action : SuggestedAction} {note : Option String}
    (h : cleanAction rt dependencies raw = .ok (some action, note)) :
    action.target ∈ dependencies ∧ action.mechanism ∈ ActionType.all.map ActionType.value := by
  unfold cleanAction at h
  split at h
  · simp at h
  · next raw =>
    rcases hashedIn_cases dependencies (Dict.get raw "target") with
      ⟨-, message, raised⟩ | ⟨-, -, looked⟩ | ⟨-, target, known, -, looked⟩
    · rw [raised] at h
      cases h
    · rw [looked] at h
      cases h
    · rcases hashedIn_cases (ActionType.all.map ActionType.value) (Dict.get raw "mechanism") with
        ⟨-, message, raised'⟩ | ⟨-, -, looked'⟩ | ⟨-, mechanism, valid, -, looked'⟩
      · simp only [looked, raised'] at h
        cases h
      · simp only [looked, looked'] at h
        cases h
      · simp only [looked, looked'] at h
        cases h
        exact ⟨known, valid⟩
  · cases h

/-- The parts of an object that is accepted. -/
theorem validateObject_ok {data : Dict} {v : Validated} (h : validateObject rt dependencies refs data = .ok v) :
    ∃ common notes note, commonOf rt refs data = .ok common ∧
      patternOf common.kept (data.get "pattern") = .ok (v.pattern, notes) ∧
      cleanAction rt dependencies (data.get "suggested_action") = .ok (v.suggestedAction, note) ∧
      v.summary = common.summary ∧ v.claims = common.kept ∧ v.confidence = common.confidence ∧
      v.droppedClaims = common.dropped := by
  unfold validateObject at h
  cases shared : commonOf rt refs data with
  | error e =>
    rw [shared] at h
    cases h
  | ok common =>
    cases named : patternOf common.kept (data.get "pattern") with
    | error e =>
      simp only [shared, bind, Except.bind, named] at h
      cases h
    | ok pattern =>
      cases cleaned : cleanAction rt dependencies (data.get "suggested_action") with
      | error e =>
        simp only [shared, bind, Except.bind, named, cleaned] at h
        cases h
      | ok action =>
        simp only [shared, bind, Except.bind, named, cleaned] at h
        cases h
        exact ⟨common, pattern.2, action.2, rfl, named, rfl, rfl, rfl, rfl, rfl⟩

/-- What a result promises about the text it was read from and the evidence. -/
structure Grounded (rt : Runtime) (J : Decoder) (dependencies refs : List String) (text : String) (v : Validated) :
    Prop where
  parsed : ∃ before body after, ∃ data : Dict, ∃ claims, text.toList = before ++ body ++ after ∧ '{' ∉ before ∧ '{' ∉ after ∧
    J.decode (body ++ after) = .ok (.dict data, after) ∧ validateObject rt dependencies refs data = .ok v ∧
    data.get "claims" = .list claims ∧ v.claims.length + v.droppedClaims = claims.length
  nonempty : 1 ≤ v.claims.length
  bounded : v.claims.length ≤ MAX_CLAIMS
  cited : ∀ c ∈ v.claims, c.evidence ≠ [] ∧ ∀ r ∈ c.evidence, r ∈ refs
  recurs : v.pattern = "recurring" →
    ∃ a b, a ≠ b ∧ ∀ r ∈ [a, b], "failure#".toList <+: r.toList ∧ ∃ c ∈ v.claims, r ∈ c.evidence
  allowed : ∀ action, v.suggestedAction = some action →
    action.target ∈ dependencies ∧ action.mechanism ∈ ActionType.all.map ActionType.value

/-- **Nothing unsupported comes out.** -/
theorem validate_grounded {rt : Runtime} {J : Decoder} {dependencies refs : List String} {text : String} {v : Validated}
    (h : validate rt J dependencies refs text = .ok v) : Grounded rt J dependencies refs text v := by
  unfold validate at h
  cases extracted : extractJson J text with
  | error e =>
    rw [extracted] at h
    cases h
  | ok data =>
    rw [extracted] at h
    have valid : validateObject rt dependencies refs data = .ok v := h
    obtain ⟨before, body, after, cut, first, only, read⟩ := extractJson_ok extracted
    obtain ⟨common, notes, note, shared, named, cleaned, -, claims_, -, dropped⟩ := validateObject_ok valid
    obtain ⟨claims, is, kept, ne, count⟩ := commonOf_ok shared
    have short : common.kept.length ≤ MAX_CLAIMS := by
      have counted := sift_length refs (claims.take MAX_CLAIMS)
      rw [← kept, List.length_take] at counted
      omega
    exact {
      parsed := ⟨before, body, after, data, claims, cut, first, only, read, valid, is, by rw [claims_, dropped, count]⟩
      nonempty := by
        rw [claims_]
        exact List.length_pos_iff.mpr ne
      bounded := claims_ ▸ short
      cited := by
        intro c mem
        rw [claims_, kept] at mem
        obtain ⟨claim, -, grounded⟩ := sift_grounded mem
        exact groundedClaim_cites grounded
      recurs := by
        intro recurring
        rw [recurring] at named
        rw [claims_]
        exact citedFailures_two (patternOf_recurring named)
      allowed := by
        intro action has
        rw [has] at cleaned
        exact cleanAction_allowed cleaned }

/-! ### What the pattern and the action decide -/

/-- An object that is accepted as far as its claims, its summary and its confidence go. -/
structure WellGrounded (refs : List String) (data : Dict) : Prop where
  confident : (data.get "confidence").percentage.isSome = true
  claimed : ∃ claims, data.get "claims" = .list claims ∧
    ∃ claim ∈ claims.take MAX_CLAIMS, (groundedClaim refs claim).isSome = true
  summarised : ∃ summary, data.get "summary" = .str summary ∧ strip summary ≠ ""

/-- An action whose target cannot be hashed, or whose target is known and whose mechanism cannot. -/
def ActionUnhashable (dependencies : List String) (raw : PyVal) : Prop :=
  ∃ d, raw = .dict d ∧ ((Dict.get d "target").unhashable.isSome = true ∨
    (∃ target ∈ dependencies, Dict.get d "target" = .str target) ∧ (Dict.get d "mechanism").unhashable.isSome = true)

def Unhashable (dependencies : List String) (data : Dict) : Prop :=
  (data.get "pattern").unhashable.isSome = true ∨ ActionUnhashable dependencies (data.get "suggested_action")

/-- The decoder meets one of the interpreter's limits. -/
def OverLimits (J : Decoder) (text : String) : Prop :=
  J.decode (fromBrace text) = .error .digits ∨ J.decode (fromBrace text) = .error .depth

/-- Two objects that differ in their pattern and their action at most. -/
def Alike (d₁ d₂ : Dict) : Prop := ∀ key ∈ ["claims", "summary", "confidence"], d₁.get key = d₂.get key

/-- The same result as far as both have it, or `ExplainError` twice. -/
def SameFate : Except Raised Validated → Except Raised Validated → Prop
  | .ok v, .ok w => v.claims = w.claims ∧ v.summary = w.summary ∧ v.confidence = w.confidence ∧
    v.droppedClaims = w.droppedClaims
  | .error (.explainError _ _), .error (.explainError _ _) => True
  | _, _ => False

theorem commonOf_alike {d₁ d₂ : Dict} (alike : Alike d₁ d₂) : commonOf rt refs d₁ = commonOf rt refs d₂ := by
  unfold commonOf
  rw [alike "claims" (by simp), alike "summary" (by simp), alike "confidence" (by simp)]

variable (rt refs) in
theorem commonOf_cases (data : Dict) :
    (WellGrounded refs data ∧ ∃ common, commonOf rt refs data = .ok common) ∨
    (¬WellGrounded refs data ∧ ∃ status detail, commonOf rt refs data = .error (.explainError status detail)) := by
  unfold commonOf
  cases confidence : (data.get "confidence").percentage with
  | none =>
    refine .inr ⟨fun good => ?_, _, _, rfl⟩
    have := good.confident
    simp [confidence] at this
  | some percent =>
    cases is : data.get "claims" with
    | list claims =>
      dsimp only
      by_cases none_ : (sift refs (claims.take MAX_CLAIMS)).1 = []
      · rw [if_pos none_]
        refine .inr ⟨fun good => ?_, _, _, rfl⟩
        obtain ⟨claims', is', claim, mem, grounded⟩ := good.claimed
        cases is.symm.trans is'
        rw [sift_eq_nil.mp none_ claim mem] at grounded
        cases grounded
      · rw [if_neg none_]
        have claimed : ∃ claim ∈ claims.take MAX_CLAIMS, (groundedClaim refs claim).isSome = true := by
          by_contra none'
          apply none_
          rw [sift_eq_nil]
          intro claim mem
          by_contra some_
          exact none' ⟨claim, mem, Option.isSome_iff_ne_none.mpr some_⟩
        cases said : data.get "summary" with
        | str summary =>
          dsimp only
          by_cases blank : strip summary = ""
          · rw [if_pos blank]
            refine .inr ⟨fun good => ?_, _, _, rfl⟩
            obtain ⟨summary', said', text⟩ := good.summarised
            cases said.symm.trans said'
            exact text blank
          · rw [if_neg blank]
            exact .inl ⟨⟨by rw [confidence]; rfl, ⟨claims, is, claimed⟩, ⟨summary, said, blank⟩⟩, _, rfl⟩
        | _ =>
          refine .inr ⟨fun good => ?_, _, _, rfl⟩
          obtain ⟨summary', said', -⟩ := good.summarised
          cases said.symm.trans said'
    | _ =>
      refine .inr ⟨fun good => ?_, _, _, rfl⟩
      obtain ⟨claims', is', -⟩ := good.claimed
      cases is.symm.trans is'

theorem patternOf_cases (kept : List Claim) (v : PyVal) :
    (v.unhashable.isSome = true ∧ ∃ message, patternOf kept v = .error (.typeError message)) ∨
    (v.unhashable.isSome = false ∧ ∃ pattern, patternOf kept v = .ok pattern) := by
  unfold patternOf
  rcases hashedIn_cases PATTERNS v with ⟨bad, message, raised⟩ | ⟨good, -, looked⟩ | ⟨good, pattern, -, -, looked⟩
  · exact .inl ⟨bad, message, by rw [raised]⟩
  · exact .inr ⟨good, _, by rw [looked]⟩
  · rw [looked]
    dsimp only
    split
    · exact .inr ⟨good, _, rfl⟩
    · exact .inr ⟨good, _, rfl⟩

variable (rt dependencies) in
theorem cleanAction_cases (raw : PyVal) :
    (ActionUnhashable dependencies raw ∧ ∃ message, cleanAction rt dependencies raw = .error (.typeError message)) ∨
    (¬ActionUnhashable dependencies raw ∧ ∃ action, cleanAction rt dependencies raw = .ok action) := by
  unfold cleanAction ActionUnhashable
  cases raw with
  | none => exact .inr ⟨by simp, _, rfl⟩
  | dict raw =>
    simp only [PyVal.dict.injEq, exists_eq_left']
    rcases hashedIn_cases dependencies (Dict.get raw "target") with
      ⟨bad, message, raised⟩ | ⟨good, unknown, looked⟩ | ⟨good, target, known, is, looked⟩
    · exact .inl ⟨.inl bad, message, by rw [raised]⟩
    · refine .inr ⟨?_, _, by rw [looked]⟩
      rintro (bad | ⟨⟨target, known, is⟩, -⟩)
      · rw [good] at bad
        cases bad
      · exact unknown target known is
    · rcases hashedIn_cases (ActionType.all.map ActionType.value) (Dict.get raw "mechanism") with
        ⟨bad', message, raised'⟩ | ⟨good', -, looked'⟩ | ⟨good', mechanism, -, -, looked'⟩
      · exact .inl ⟨.inr ⟨⟨target, known, is⟩, bad'⟩, message, by simp only [looked, raised']⟩
      · exact .inr ⟨by simp [good, good'], _, by simp only [looked, looked']; rfl⟩
      · exact .inr ⟨by simp [good, good'], _, by simp only [looked, looked']; rfl⟩
  | _ => exact .inr ⟨by simp, _, rfl⟩

variable (rt dependencies refs) in
/-- The fate of an object. -/
theorem validateObject_cases (data : Dict) :
    (¬WellGrounded refs data ∧ ∃ status detail, commonOf rt refs data = .error (.explainError status detail) ∧
      validateObject rt dependencies refs data = .error (.explainError status detail)) ∨
    (WellGrounded refs data ∧ Unhashable dependencies data ∧
      ∃ message, validateObject rt dependencies refs data = .error (.typeError message)) ∨
    (WellGrounded refs data ∧ ¬Unhashable dependencies data ∧ ∃ v, validateObject rt dependencies refs data = .ok v) := by
  rcases commonOf_cases rt refs data with
    ⟨good, common, shared⟩ | ⟨bad, status, detail, refused⟩
  · rcases patternOf_cases common.kept (data.get "pattern") with ⟨bad, message, raised⟩ | ⟨hashed, pattern, named⟩
    · refine .inr (.inl ⟨good, .inl bad, message, ?_⟩)
      unfold validateObject
      simp only [shared, bind, Except.bind, raised]
    · rcases cleanAction_cases rt dependencies (data.get "suggested_action") with
        ⟨bad, message, raised⟩ | ⟨fine_, action, cleaned⟩
      · refine .inr (.inl ⟨good, .inr bad, message, ?_⟩)
        unfold validateObject
        simp only [shared, bind, Except.bind, named, raised]
      · refine .inr (.inr ⟨good, ?_, ?_⟩)
        · rintro (bad | bad)
          · rw [hashed] at bad
            cases bad
          · exact fine_ bad
        · unfold validateObject
          simp only [shared, bind, Except.bind, named, cleaned]
          exact ⟨_, rfl⟩
  · refine .inl ⟨bad, status, detail, refused, ?_⟩
    unfold validateObject
    rw [refused]
    rfl

variable (refs) in
theorem wellGrounded_alike {d₁ d₂ : Dict} (alike : Alike d₁ d₂) : WellGrounded refs d₁ ↔ WellGrounded refs d₂ := by
  have claims := alike "claims" (by simp)
  have summary := alike "summary" (by simp)
  have confidence := alike "confidence" (by simp)
  constructor
  · intro ⟨confident, claimed, summarised⟩
    exact ⟨confidence ▸ confident, claims ▸ claimed, summary ▸ summarised⟩
  · intro ⟨confident, claimed, summarised⟩
    exact ⟨confidence ▸ confident, claims ▸ claimed, summary ▸ summarised⟩

theorem sameFate_iff {d₁ d₂ : Dict} (alike : Alike d₁ d₂) :
    SameFate (validateObject rt dependencies refs d₁) (validateObject rt dependencies refs d₂) ↔
      (WellGrounded refs d₁ → ¬Unhashable dependencies d₁ ∧ ¬Unhashable dependencies d₂) := by
  have grounded := wellGrounded_alike refs alike
  rcases validateObject_cases rt dependencies refs d₁ with
    ⟨bad, status, detail, -, refused⟩ | ⟨good, hard, message, raised⟩ | ⟨good, soft, v, valid⟩
  · rcases validateObject_cases rt dependencies refs d₂ with
      ⟨-, status', detail', -, refused'⟩ | ⟨good', -⟩ | ⟨good', -⟩
    · rw [refused, refused']
      exact iff_of_true trivial fun good => absurd good bad
    · exact absurd (grounded.mpr good') bad
    · exact absurd (grounded.mpr good') bad
  · rw [raised]
    exact iff_of_false id fun h => (h good).1 hard
  · rcases validateObject_cases rt dependencies refs d₂ with
      ⟨bad', -⟩ | ⟨-, hard', message', raised'⟩ | ⟨-, soft', w, valid'⟩
    · exact absurd (grounded.mp good) bad'
    · rw [valid, raised']
      exact iff_of_false id fun h => (h good).2 hard'
    · rw [valid, valid']
      apply iff_of_true _ fun _ => ⟨soft, soft'⟩
      obtain ⟨c, -, -, shared, -, -, summary, claims, confidence, dropped⟩ := validateObject_ok valid
      obtain ⟨c', -, -, shared', -, -, summary', claims', confidence', dropped'⟩ := validateObject_ok valid'
      have same : c = c' := Except.ok.inj (shared.symm.trans ((commonOf_alike alike).trans shared'))
      subst same
      exact ⟨claims.trans claims'.symm, summary.trans summary'.symm, confidence.trans confidence'.symm,
        dropped.trans dropped'.symm⟩

/-- What a text that holds one object for an interpreter without limits is for the one it runs in. -/
theorem extractJson_within {text : String} {data : Dict} (h : extractJson J.unlimited text = .ok data) :
    (OverLimits J text ∧ (extractJson J text = .error .valueError ∨ extractJson J text = .error .recursionError)) ∨
    (¬OverLimits J text ∧ extractJson J text = .ok data) := by
  unfold extractJson OverLimits at *
  by_cases none_ : fromBrace text = []
  · rw [if_pos none_] at h
    cases h
  · rw [if_neg none_] at h ⊢
    rcases Decoder.decode_within (D := J) (fromBrace text) with same | digits | depth
    · rw [← same] at h
      refine .inr ⟨?_, h⟩
      rintro (digits | depth)
      · rw [digits] at h
        cases h
      · rw [depth] at h
        cases h
    · exact .inl ⟨.inl digits, .inl (by rw [digits]; rfl)⟩
    · exact .inl ⟨.inr depth, .inr (by rw [depth]; rfl)⟩

/-- **The pattern and the action are stripped** exactly where no limit of the decoder is met
and, if the rest is accepted, both can be looked up. -/
theorem stripped_iff {rt : Runtime} {J : Decoder} {dependencies refs : List String} {t₁ t₂ : String} {d₁ d₂ : Dict}
    (h₁ : extractJson J.unlimited t₁ = .ok d₁) (h₂ : extractJson J.unlimited t₂ = .ok d₂) (alike : Alike d₁ d₂) :
    SameFate (validate rt J dependencies refs t₁) (validate rt J dependencies refs t₂) ↔
      ¬OverLimits J t₁ ∧ ¬OverLimits J t₂ ∧
        (WellGrounded refs d₁ → ¬Unhashable dependencies d₁ ∧ ¬Unhashable dependencies d₂) := by
  have overLimits : ∀ {t : String}, extractJson J t = .error .valueError ∨ extractJson J t = .error .recursionError →
      validate rt J dependencies refs t = .error .valueError ∨ validate rt J dependencies refs t = .error .recursionError := by
    intro t raised
    unfold validate
    rcases raised with raised | raised
    · exact .inl (by rw [raised]; rfl)
    · exact .inr (by rw [raised]; rfl)
  have within : ∀ {t : String} {d : Dict}, extractJson J t = .ok d →
      validate rt J dependencies refs t = validateObject rt dependencies refs d := by
    intro t d read
    unfold validate
    rw [read]
    rfl
  rcases extractJson_within h₁ with ⟨limit₁, raised₁⟩ | ⟨fits₁, read₁⟩
  · apply iff_of_false _ fun h => h.1 limit₁
    rcases overLimits raised₁ with is | is
    · rw [is]
      exact id
    · rw [is]
      exact id
  · rcases extractJson_within h₂ with ⟨limit₂, raised₂⟩ | ⟨fits₂, read₂⟩
    · apply iff_of_false _ fun h => h.2.1 limit₂
      rw [within read₁]
      rcases overLimits raised₂ with is | is
      · rw [is]
        cases validateObject rt dependencies refs d₁ with
        | ok v => exact id
        | error e => cases e <;> exact id
      · rw [is]
        cases validateObject rt dependencies refs d₁ with
        | ok v => exact id
        | error e => cases e <;> exact id
    · rw [within read₁, within read₂, sameFate_iff alike]
      exact ⟨fun h => ⟨fits₁, fits₂, h⟩, fun h => h.2.2⟩

/-! ### An explanation, and the same with a list for a pattern -/

/-- A decoder with CPython's limits, without floats. -/
private def decoder : Decoder := ⟨fun _ => none, fun _ => Char.ofNat 0xFFFD, some 4300, some 990, fun _ => ""⟩

private def runtime : Runtime :=
  ⟨id, id, Char.isAlpha, id, fun _ => "", fun _ => none, fun _ => none, fun _ => none, 300⟩

/-- An explanation, its pattern left to be given. -/
def explained (pattern : String) : String :=
  "\x7b\"confidence\":9,\"claims\":[\x7b\"text\":\"a\",\"evidence\":[\"failure#1\",\"failure#2\"]\x7d],\"summary\":\"s\",\"pattern\":" ++
    pattern ++ "\x7d"

private def evidence : List String := ["failure#1", "failure#2"]

private def isOk : Except Raised Validated → Bool
  | .ok _ => true
  | .error _ => false

private def raisesType : Except Raised Validated → Bool
  | .error (.typeError _) => true
  | _ => false

private theorem ok_of_isOk {x : Except Raised Validated} (h : isOk x = true) : ∃ v, x = .ok v := by
  cases x with
  | error e => cases h
  | ok v => exact ⟨v, rfl⟩

private def objectWith (pattern : PyVal) : Dict :=
  [(.str "confidence", .int 9),
    (.str "claims", .list [.dict [(.str "text", .str "a"),
      (.str "evidence", .list [.str "failure#1", .str "failure#2"])]]),
    (.str "summary", .str "s"), (.str "pattern", pattern)]

/-- The explanation is read, with a pattern that can be looked up or not. -/
private def isObject (hashable : Bool) : Except Raised Dict → Bool
  | .ok [(.str "confidence", .int 9), (.str "claims", .list [.dict [(.str "text", .str "a"),
      (.str "evidence", .list [.str "failure#1", .str "failure#2"])]]), (.str "summary", .str "s"),
      (.str "pattern", p)] => p.unhashable.isNone == hashable
  | _ => false

private theorem objectWith_of {hashable : Bool} {x : Except Raised Dict} (h : isObject hashable x = true) :
    ∃ p, p.unhashable.isNone = hashable ∧ x = .ok (objectWith p) := by
  unfold isObject at h
  split at h
  · exact ⟨_, beq_iff_eq.mp h, rfl⟩
  · cases h

private def decodes : Except DecodeError (PyVal × List Char) → Bool
  | .ok _ => true
  | .error _ => false

private theorem fits_of {text : String} (h : decodes (J.decode (fromBrace text)) = true) : ¬OverLimits J text := by
  rintro (raised | raised) <;> rw [raised] at h <;> cases h

private theorem objectWith_hashable {p : PyVal} (h : p.unhashable.isNone = true) :
    ¬Unhashable dependencies (objectWith p) := by
  rintro (pattern | action)
  · have same : (objectWith p).get "pattern" = p := rfl
    rw [same, Option.isSome_eq_false_iff.mpr h] at pattern
    cases pattern
  · obtain ⟨d, is, -⟩ := action
    cases is

private theorem objectWith_alike (p q : PyVal) : Alike (objectWith p) (objectWith q) := by
  intro key mem
  simp only [List.mem_cons, List.not_mem_nil, or_false] at mem
  rcases mem with rfl | rfl | rfl <;> rfl

/-- A recurring failure, both of its occurrences cited. -/
theorem validate_recurring : ∃ v,
    validate runtime decoder ["dozzle"] evidence (explained "\"recurring\"") = .ok v ∧
    Grounded runtime decoder ["dozzle"] evidence (explained "\"recurring\"") v := by
  have accepted : isOk (validate runtime decoder ["dozzle"] evidence (explained "\"recurring\"")) = true := by
    decide +kernel
  obtain ⟨v, valid⟩ := ok_of_isOk accepted
  exact ⟨v, valid, validate_grounded valid⟩

private theorem same_of {t₁ t₂ : String} {p q : PyVal} {v w : Validated}
    (alike : SameFate (validate rt J dependencies refs t₁) (validate rt J dependencies refs t₂) ↔
      ¬OverLimits J t₁ ∧ ¬OverLimits J t₂ ∧ (WellGrounded refs (objectWith p) →
        ¬Unhashable dependencies (objectWith p) ∧ ¬Unhashable dependencies (objectWith q)))
    (fits₁ : decodes (J.decode (fromBrace t₁)) = true) (fits₂ : decodes (J.decode (fromBrace t₂)) = true)
    (hashable₁ : p.unhashable.isNone = true) (hashable₂ : q.unhashable.isNone = true)
    (ok₁ : validate rt J dependencies refs t₁ = .ok v) (ok₂ : validate rt J dependencies refs t₂ = .ok w) :
    SameFate (.ok v) (.ok w) := by
  rw [← ok₁, ← ok₂]
  exact alike.mpr
    ⟨fits_of fits₁, fits_of fits₂, fun _ => ⟨objectWith_hashable hashable₁, objectWith_hashable hashable₂⟩⟩

/-- A pattern of no known name is left out, as a missing one is; a list for a pattern is not. -/
theorem stripped_null : ∃ d₁ d₂ d₃, extractJson decoder.unlimited (explained "null") = .ok d₁ ∧
    extractJson decoder.unlimited (explained "\"odd\"") = .ok d₂ ∧ extractJson decoder.unlimited (explained "[]") = .ok d₃ ∧
    Alike d₁ d₂ ∧ Alike d₁ d₃ ∧
    (∃ v w, validate runtime decoder ["dozzle"] evidence (explained "null") = .ok v ∧
      validate runtime decoder ["dozzle"] evidence (explained "\"odd\"") = .ok w ∧ SameFate (.ok v) (.ok w)) ∧
    (SameFate (validate runtime decoder ["dozzle"] evidence (explained "null"))
        (validate runtime decoder ["dozzle"] evidence (explained "[]")) ↔
      ¬OverLimits decoder (explained "null") ∧ ¬OverLimits decoder (explained "[]") ∧
        (WellGrounded evidence d₁ → ¬Unhashable ["dozzle"] d₁ ∧ ¬Unhashable ["dozzle"] d₃)) := by
  have null : isObject true (extractJson decoder.unlimited (explained "null")) = true := by decide +kernel
  have odd : isObject true (extractJson decoder.unlimited (explained "\"odd\"")) = true := by decide +kernel
  have list : isObject false (extractJson decoder.unlimited (explained "[]")) = true := by decide +kernel
  have fits : decodes (decoder.decode (fromBrace (explained "null"))) = true ∧
      decodes (decoder.decode (fromBrace (explained "\"odd\""))) = true := by decide +kernel
  have ok : isOk (validate runtime decoder ["dozzle"] evidence (explained "null")) = true ∧
      isOk (validate runtime decoder ["dozzle"] evidence (explained "\"odd\"")) = true := by decide +kernel
  obtain ⟨p, hashable, read₁⟩ := objectWith_of null
  obtain ⟨q, hashable', read₂⟩ := objectWith_of odd
  obtain ⟨r, -, read₃⟩ := objectWith_of list
  obtain ⟨v, ok₁⟩ := ok_of_isOk ok.1
  obtain ⟨w, ok₂⟩ := ok_of_isOk ok.2
  exact ⟨objectWith p, objectWith q, objectWith r, read₁, read₂, read₃, objectWith_alike p q, objectWith_alike p r,
    ⟨v, w, ok₁, ok₂, same_of (stripped_iff read₁ read₂ (objectWith_alike p q)) fits.1 fits.2 hashable hashable' ok₁ ok₂⟩,
    stripped_iff read₁ read₃ (objectWith_alike p r)⟩

private theorem fatal_of {t₁ t₂ : String} (ok : isOk (validate rt J dependencies refs t₁) = true)
    (raises : raisesType (validate rt J dependencies refs t₂) = true) :
    ¬SameFate (validate rt J dependencies refs t₁) (validate rt J dependencies refs t₂) := by
  intro same
  obtain ⟨v, is⟩ := ok_of_isOk ok
  rw [is] at same
  unfold raisesType at raises
  split at raises
  · next message raised =>
    rw [raised] at same
    exact same
  · cases raises

/-- **A list for a pattern takes the explanation with it**, where without it the pattern is only left out. -/
theorem list_pattern_fatal : ∃ d₁ d₂, extractJson decoder.unlimited (explained "null") = .ok d₁ ∧
    extractJson decoder.unlimited (explained "[]") = .ok d₂ ∧ Alike d₁ d₂ ∧
    ¬SameFate (validate runtime decoder ["dozzle"] evidence (explained "null"))
      (validate runtime decoder ["dozzle"] evidence (explained "[]")) := by
  have null : isObject true (extractJson decoder.unlimited (explained "null")) = true := by decide +kernel
  have list : isObject false (extractJson decoder.unlimited (explained "[]")) = true := by decide +kernel
  have ok : isOk (validate runtime decoder ["dozzle"] evidence (explained "null")) = true := by decide +kernel
  have raises : raisesType (validate runtime decoder ["dozzle"] evidence (explained "[]")) = true := by decide +kernel
  obtain ⟨p, -, read₁⟩ := objectWith_of null
  obtain ⟨q, -, read₂⟩ := objectWith_of list
  exact ⟨_, _, read₁, read₂, objectWith_alike p q, fatal_of ok raises⟩

end

end RmtPlatform.Reasoning
