import RmtPlatform.Data.Canonical
import RmtPlatform.Data.Indent

/-! Signed bundles and their two verifiers.

A bundle is a payload and the HMAC of its canonical text. The server verifies it with
`verifyBundle`, an auditor with the script's `Offline.verify`, a copy without the exception
handler. The two give one verdict exactly where the script does not raise and the server
has the room to look (`verifiers_agree_iff`), and a bundle that was exported is accepted by
both, in whatever order its members come back. -/
namespace RmtPlatform.Ops.Attestation

/-- The `dict` a bundle is. -/
abbrev Bundle := List (String × Json)

/-- `d.get(key)` -/
def get (d : Bundle) (key : String) : Json := (d.lookup key).getD .null

def isAscii (s : String) : Bool := s.toList.all (·.toNat < 128)

/-- `hmac.new(key, payload, hashlib.sha256).hexdigest()`, of the key's text and of a payload in ASCII. -/
structure Hmac where
  hexdigest : String → List Char → String
  ascii : ∀ key payload, isAscii (hexdigest key payload) = true
  nonempty : ∀ key payload, hexdigest key payload ≠ ""

inductive Raised where
  | encode (e : EncodeError)
  /-- `TypeError`: not two strings. -/
  | unsupported
  /-- `TypeError`: a string that is not ASCII. -/
  | nonAscii
deriving DecidableEq

/-- `hmac.compare_digest(expected, value)` -/
def compareDigest (expected : String) : Json → Except Raised Bool
  | .string s => if isAscii expected ∧ isAscii s then .ok (expected = s) else .error .nonAscii
  | _ => .error .unsupported

variable (H : Hmac)

/-! ### The server -/

def canonicalize (E : Encoder) (payload : Bundle) : Except Raised (List Char) :=
  (E.encode (.object payload)).mapError .encode

def sign (payloadBytes : List Char) (signingKey : String) : String := H.hexdigest signingKey payloadBytes

def verifySignature (payloadBytes : List Char) (signingKey : String) (signature : Json) : Except Raised Bool :=
  compareDigest (sign H payloadBytes signingKey) signature

def formatVersion : Int := 1

def signatureAlgorithm : String := "HMAC-SHA256"

/-- `_build_payload`, given what `evidence_chain` answers. -/
def buildPayload (generatedAt : String) (chain : Json) : Bundle :=
  [("format_version", .int formatVersion), ("generated_at", .string generatedAt), ("chain", chain)]

def exportBundle (E : Encoder) (generatedAt : String) (chain : Json) (signingKey : String) : Except Raised Bundle := do
  let payload := buildPayload generatedAt chain
  let payloadBytes ← canonicalize E payload
  .ok (payload ++ [("signature", .object
    [("algorithm", .string signatureAlgorithm), ("value", .string (sign H payloadBytes signingKey))])])

/-- The bundle without its signature. -/
def payloadOf (bundle : Bundle) : Bundle := bundle.filter fun m => m.1 ≠ "signature"

/-- The `try` block of `verify_bundle`. -/
def tryVerify (E : Encoder) (bundle : Bundle) (signingKey : String) : Except Raised Bool :=
  match get bundle "signature" with
  | .object block =>
    let signature := get block "value"
    if (PyVal.ofJson signature).truthy = false then .ok false
    else do
      let payloadBytes ← canonicalize E (payloadOf bundle)
      verifySignature H payloadBytes signingKey signature
  | _ => .ok false

/-- Whatever is raised makes the bundle invalid. -/
def verifyBundle (E : Encoder) (bundle : Bundle) (signingKey : String) : Bool :=
  match tryVerify H E bundle signingKey with
  | .ok verdict => verdict
  | .error _ => false

/-! ### The script -/

namespace Offline

def canonicalize (E : Encoder) (payload : Bundle) : Except Raised (List Char) :=
  (E.encode (.object payload)).mapError .encode

def verify (E : Encoder) (bundle : Bundle) (signingKey : String) : Except Raised Bool :=
  match get bundle "signature" with
  | .object block =>
    let signature := get block "value"
    if (PyVal.ofJson signature).truthy = false then .ok false
    else do
      let payloadBytes ← canonicalize E (payloadOf bundle)
      let expected := H.hexdigest signingKey payloadBytes
      compareDigest expected signature
  | _ => .ok false

end Offline

/-! ### What they agree on -/

/-- The script gives the server's verdict, and so raises nothing. -/
def Agree (server script : Encoder) (bundle : Bundle) (signingKey : String) : Prop :=
  Offline.verify H script bundle signingKey = .ok (verifyBundle H server bundle signingKey)

/-- Both accept. -/
def Accepted (server script : Encoder) (bundle : Bundle) (signingKey : String) : Prop :=
  verifyBundle H server bundle signingKey = true ∧ Offline.verify H script bundle signingKey = .ok true

/-- The signature's value, where there is one to be checked. -/
def claimed (bundle : Bundle) : Option Json :=
  match get bundle "signature" with
  | .object block => if (PyVal.ofJson (get block "value")).truthy then some (get block "value") else none
  | _ => none

/-- The canonical text of a payload that is written. -/
def textOf (payload : Bundle) : List Char := Json.write Json.asciiEscape [] (Json.object payload).sorted

/-- A value to be checked is an ASCII text, the script has room for the payload, and so has the
server, unless the value is wrong anyway. -/
def Checkable (server script : Encoder) (bundle : Bundle) (signingKey : String) : Prop :=
  ∀ value, claimed bundle = some value → script.Takes (.object (payloadOf bundle)) ∧
    ∃ s, value = .string s ∧ isAscii s = true ∧
      (server.Takes (.object (payloadOf bundle)) ∨ H.hexdigest signingKey (textOf (payloadOf bundle)) ≠ s)

/-! ### One verifier -/

theorem canonicalize_takes {E : Encoder} {payload : Bundle} (h : E.Takes (.object payload)) :
    canonicalize E payload = .ok (textOf payload) := by
  rw [canonicalize, Encoder.encode_takes h]
  rfl

theorem canonicalize_refused {E : Encoder} {payload : Bundle} (h : ¬E.Takes (.object payload)) :
    ∃ e, canonicalize E payload = .error e := by
  obtain ⟨e, refused⟩ := Encoder.encode_refused h
  exact ⟨.encode e, by rw [canonicalize, refused]; rfl⟩

/-- The script is the server's attempt without the handler. -/
theorem verify_eq_try (E : Encoder) (bundle : Bundle) (signingKey : String) :
    Offline.verify H E bundle signingKey = tryVerify H E bundle signingKey := rfl

theorem try_unclaimed {E : Encoder} {bundle : Bundle} (signingKey : String) (h : claimed bundle = none) :
    tryVerify H E bundle signingKey = .ok false := by
  unfold claimed at h
  unfold tryVerify
  cases block : get bundle "signature" with
  | object ms =>
    rw [block] at h
    by_cases truthy : (PyVal.ofJson (get ms "value")).truthy
    · simp [truthy] at h
    · simp [truthy]
  | _ => rfl

theorem try_claimed {E : Encoder} {bundle : Bundle} (signingKey : String) {value : Json} (h : claimed bundle = some value) :
    tryVerify H E bundle signingKey = (do
      let payloadBytes ← canonicalize E (payloadOf bundle)
      compareDigest (H.hexdigest signingKey payloadBytes) value) := by
  unfold claimed at h
  unfold tryVerify
  cases block : get bundle "signature" with
  | object ms =>
    rw [block] at h
    by_cases truthy : (PyVal.ofJson (get ms "value")).truthy
    · simp only [truthy, if_true] at h
      obtain rfl := Option.some.inj h
      simp only [truthy, Bool.true_eq_false, if_false]
      rfl
    · simp [truthy] at h
  | _ => simp [block] at h

theorem try_refused {E : Encoder} {bundle : Bundle} (signingKey : String) {value : Json} (h : claimed bundle = some value)
    (refused : ¬E.Takes (.object (payloadOf bundle))) : ∃ e, tryVerify H E bundle signingKey = .error e := by
  obtain ⟨e, he⟩ := canonicalize_refused refused
  exact ⟨e, by rw [try_claimed H signingKey h, he]; rfl⟩

theorem try_taken {E : Encoder} {bundle : Bundle} (signingKey : String) {value : Json} (h : claimed bundle = some value)
    (taken : E.Takes (.object (payloadOf bundle))) :
    tryVerify H E bundle signingKey = compareDigest (H.hexdigest signingKey (textOf (payloadOf bundle))) value := by
  rw [try_claimed H signingKey h, canonicalize_takes taken]
  rfl

/-- A digest is compared with ASCII texts only. -/
theorem compare_ok_iff (key : String) (payload : List Char) (value : Json) (verdict : Bool) :
    compareDigest (H.hexdigest key payload) value = .ok verdict ↔
      ∃ s, value = .string s ∧ isAscii s = true ∧ verdict = decide (H.hexdigest key payload = s) := by
  cases value with
  | string s =>
    by_cases ascii : isAscii s = true
    · have compared : compareDigest (H.hexdigest key payload) (.string s) = .ok (decide (H.hexdigest key payload = s)) :=
        if_pos ⟨H.ascii key payload, ascii⟩
      rw [compared]
      constructor
      · intro h
        exact ⟨s, rfl, ascii, (Except.ok.inj h).symm⟩
      · rintro ⟨_, ⟨⟩, -, rfl⟩
        rfl
    · simp [compareDigest, ascii]
  | _ => simp [compareDigest]

/-! ### Both -/

theorem agree_iff (server script : Encoder) (bundle : Bundle) (signingKey : String) :
    Agree H server script bundle signingKey ↔ Checkable H server script bundle signingKey := by
  unfold Agree Checkable verifyBundle
  rw [verify_eq_try]
  cases value : claimed bundle with
  | none =>
    rw [try_unclaimed H signingKey value, try_unclaimed H signingKey value]
    simp
  | some v =>
    by_cases taken : script.Takes (.object (payloadOf bundle))
    · rw [try_taken H signingKey value taken, compare_ok_iff]
      by_cases room : server.Takes (.object (payloadOf bundle))
      · rw [try_taken H signingKey value room]
        constructor
        · rintro ⟨s, rfl, ascii, -⟩ _ ⟨⟩
          exact ⟨taken, s, rfl, ascii, .inl room⟩
        · intro h
          obtain ⟨-, s, rfl, ascii, -⟩ := h v rfl
          exact ⟨s, rfl, ascii, by simp [compareDigest, ascii, H.ascii]⟩
      · obtain ⟨e, refused⟩ := try_refused H signingKey value room
        rw [refused]
        constructor
        · rintro ⟨s, rfl, ascii, wrong⟩ _ ⟨⟩
          exact ⟨taken, s, rfl, ascii, .inr (of_decide_eq_false wrong.symm)⟩
        · intro h
          obtain ⟨-, s, rfl, ascii, wrong⟩ := h v rfl
          exact ⟨s, rfl, ascii, (decide_eq_false (wrong.resolve_left room)).symm⟩
    · obtain ⟨e, refused⟩ := try_refused H signingKey value taken
      rw [refused]
      constructor
      · intro h
        cases h
      · intro h
        exact absurd (h v rfl).1 taken

/-! ### What was exported -/

/-- The answer of `evidence_chain`: a Python value. -/
structure Chain where
  value : Json
  distinct : value.Distinct

theorem payload_distinct (generatedAt : String) (chain : Chain) :
    (Json.object (buildPayload generatedAt chain.value)).Distinct := by
  refine ⟨?_, trivial, trivial, chain.distinct, trivial⟩
  show ["format_version", "generated_at", "chain"].Nodup
  decide

/-- The payload with its signature. -/
def signed (generatedAt : String) (chain : Json) (digest : String) : Bundle :=
  buildPayload generatedAt chain ++
    [("signature", .object [("algorithm", .string signatureAlgorithm), ("value", .string digest)])]

theorem export_takes {E : Encoder} {generatedAt : String} {chain : Json} (signingKey : String)
    (h : E.Takes (.object (buildPayload generatedAt chain))) : exportBundle H E generatedAt chain signingKey =
      .ok (signed generatedAt chain (H.hexdigest signingKey (textOf (buildPayload generatedAt chain)))) := by
  rw [exportBundle, canonicalize_takes h]
  rfl

/-- What `exportBundle` returns, if it returns. -/
theorem export_ok {E : Encoder} {generatedAt : String} {chain : Json} {signingKey : String} {bundle : Bundle}
    (h : exportBundle H E generatedAt chain signingKey = .ok bundle) :
    bundle = signed generatedAt chain (H.hexdigest signingKey (textOf (buildPayload generatedAt chain))) := by
  by_cases taken : E.Takes (.object (buildPayload generatedAt chain))
  · rw [export_takes H signingKey taken] at h
    exact (Except.ok.inj h).symm
  · obtain ⟨e, refused⟩ := canonicalize_refused taken
    rw [exportBundle, refused] at h
    cases h

/-- The payload comes back, and the digest beside it. -/
theorem read_back {generatedAt digest : String} {chain : Chain} {read : Bundle} (nonempty : digest ≠ "")
    (same : Json.Same (.object (signed generatedAt chain.value digest)) (.object read)) :
    claimed read = some (.string digest) ∧
      Json.Same (.object (buildPayload generatedAt chain.value)) (.object (payloadOf read)) := by
  constructor
  · have names : ((signed generatedAt chain.value digest).map Prod.fst).Nodup := by
      show ["format_version", "generated_at", "chain", "signature"].Nodup
      decide
    have entry := same.lookup names "signature"
    rw [show (signed generatedAt chain.value digest).lookup "signature" = some (.object
      [("algorithm", .string signatureAlgorithm), ("value", .string digest)]) from rfl] at entry
    cases found : read.lookup "signature" with
    | none =>
      rw [found] at entry
      cases entry
    | some block =>
      rw [found] at entry
      obtain ⟨ms, rfl⟩ := entry.object_inv
      have names : ([("algorithm", Json.string signatureAlgorithm), ("value", .string digest)].map Prod.fst).Nodup := by
        show ["algorithm", "value"].Nodup
        decide
      have value := Json.Same.lookup entry names "value"
      rw [show List.lookup "value" [("algorithm", Json.string signatureAlgorithm), ("value", .string digest)] =
        some (.string digest) from rfl] at value
      cases found' : ms.lookup "value" with
      | none =>
        rw [found'] at value
        cases value
      | some v =>
        rw [found'] at value
        obtain rfl := value.string_inv
        simp [claimed, get, found, found', PyVal.ofJson, PyVal.truthy, nonempty]
  · exact same.filter fun k => k ≠ "signature"

theorem accepted_iff (server script : Encoder) {generatedAt signingKey : String} {chain : Chain} {read : Bundle}
    (same : Json.Same (.object (signed generatedAt chain.value
      (H.hexdigest signingKey (textOf (buildPayload generatedAt chain.value))))) (.object read)) :
    Accepted H server script read signingKey ↔ server.Takes (.object (buildPayload generatedAt chain.value)) ∧
      script.Takes (.object (buildPayload generatedAt chain.value)) := by
  obtain ⟨value, payload⟩ := read_back (H.nonempty _ _) same
  have distinct := payload_distinct generatedAt chain
  have text : textOf (payloadOf read) = textOf (buildPayload generatedAt chain.value) := by
    unfold textOf
    rw [payload.sorted distinct]
  have accepts (E : Encoder) : tryVerify H E read signingKey = .ok true ↔
      E.Takes (.object (buildPayload generatedAt chain.value)) := by
    rw [Encoder.takes_same payload distinct]
    constructor
    · intro h
      by_contra refused
      obtain ⟨e, he⟩ := try_refused H signingKey value refused
      rw [he] at h
      cases h
    · intro taken
      rw [try_taken H signingKey value taken, text, compare_ok_iff]
      exact ⟨_, rfl, H.ascii _ _, (decide_eq_true rfl).symm⟩
  have verdict : verifyBundle H server read signingKey = true ↔ tryVerify H server read signingKey = .ok true := by
    unfold verifyBundle
    cases tryVerify H server read signingKey <;> simp
  unfold Accepted
  rw [verdict, verify_eq_try, accepts, accepts]

/-- **The verifiers agree exactly where the script can take the bundle, and accept what was exported.** -/
theorem verifiers_agree_iff (server script : Encoder) :
    (∀ bundle signingKey, Agree H server script bundle signingKey ↔ Checkable H server script bundle signingKey) ∧
    (∀ exporter generatedAt (chain : Chain) signingKey bundle,
      exportBundle H exporter generatedAt chain.value signingKey = .ok bundle →
      (∀ write ∈ [Json.dumps, Json.render, Json.indented], Json.loads (write (.object bundle)) = some (.object bundle)) ∧
      ∀ read, Json.Same (.object bundle) (.object read) →
        (Accepted H server script read signingKey ↔
          server.Takes (.object (buildPayload generatedAt chain.value)) ∧
          script.Takes (.object (buildPayload generatedAt chain.value)))) := by
  refine ⟨agree_iff H server script, ?_⟩
  intro exporter generatedAt chain signingKey bundle exported
  constructor
  · intro write written
    simp only [List.mem_cons, List.not_mem_nil, or_false] at written
    rcases written with rfl | rfl | rfl
    · exact Json.loads_dumps _
    · exact Json.loads_render _
    · exact Json.loads_indented _
  · intro read same
    rw [export_ok H exported] at same
    exact accepted_iff H server script same

/-! ### A bundle exported, and one made up -/

/-- The chain of an action nothing is known of. -/
def emptyChain : Chain where
  value := .object [
    ("resolved", .object [("action_id", .string "a-1"), ("approval_id", .null), ("execution_id", .null)]),
    ("authorizations", .array []), ("approvals", .array []), ("holds", .array []), ("audit", .array []),
    ("traces", .array []), ("verifications", .array []), ("provenance", .object [])]
  distinct := by simp [Json.Distinct, Json.DistinctMembers, Json.DistinctItems]

def emptyDigest : String := "af6cf725ed1aed174a394eadda587fb4237bd38b1456da17155abb4b1a4c929e"

/-- A digest that is right for the bundle of `emptyChain` under the key `k`. -/
def sampleHmac : Hmac where
  hexdigest key payload :=
    if key = "k" ∧ payload = textOf (buildPayload "2026-01-01T00:00:00+00:00" emptyChain.value) then emptyDigest
    else "0000000000000000000000000000000000000000000000000000000000000000"
  ascii key payload := by split <;> decide +kernel
  nonempty key payload := by split <;> decide +kernel

example : String.ofList (textOf (buildPayload "2026-01-01T00:00:00+00:00" emptyChain.value)) =
    "\x7b\"chain\":\x7b\"approvals\":[],\"audit\":[],\"authorizations\":[],\"holds\":[],\"provenance\":\x7b\x7d," ++
    "\"resolved\":\x7b\"action_id\":\"a-1\",\"approval_id\":null,\"execution_id\":null\x7d," ++
    "\"traces\":[],\"verifications\":[]\x7d,\"format_version\":1,\"generated_at\":\"2026-01-01T00:00:00+00:00\"\x7d" := by
  decide +kernel

/-- An interpreter with its usual limits. -/
def usual : Encoder := ⟨some 4300, some 1000⟩

/-- Both accept it with its members the other way round. -/
theorem exported_accepted : Accepted sampleHmac usual usual
    (signed "2026-01-01T00:00:00+00:00" emptyChain.value emptyDigest).reverse "k" := by
  have taken : usual.Takes (.object (buildPayload "2026-01-01T00:00:00+00:00" emptyChain.value)) := by decide +kernel
  have digest : sampleHmac.hexdigest "k" (textOf (buildPayload "2026-01-01T00:00:00+00:00" emptyChain.value)) =
      emptyDigest := by
    simp only [sampleHmac, and_self, if_true]
  have exported := export_takes sampleHmac "k" taken
  rw [digest] at exported
  have same : Json.Same (.object (signed "2026-01-01T00:00:00+00:00" emptyChain.value emptyDigest))
      (.object (signed "2026-01-01T00:00:00+00:00" emptyChain.value emptyDigest).reverse) :=
    .object (.refl _) (List.reverse_perm _).symm
  exact (((verifiers_agree_iff sampleHmac usual usual).2 usual _ emptyChain "k" _ exported).2 _ same).mpr ⟨taken, taken⟩

/-- A number where the signature should be. -/
def numbered : Bundle :=
  [("format_version", .int 1), ("signature", .object [("algorithm", .string "HMAC-SHA256"), ("value", .int 5)])]

/-- Whatever the digest and the limits, the script raises on it and the server does not. -/
theorem script_raises : ¬∃ H server script, ∀ bundle signingKey, Agree H server script bundle signingKey := by
  rintro ⟨H, server, script, agree⟩
  have claims : claimed numbered = some (.int 5) := rfl
  obtain ⟨-, s, is, -⟩ := (agree_iff H server script numbered "k").mp (agree numbered "k") _ claims
  cases is

end RmtPlatform.Ops.Attestation
