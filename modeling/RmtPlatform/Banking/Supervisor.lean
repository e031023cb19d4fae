import RmtPlatform.Data.Decimal
import RmtPlatform.Data.Json
import RmtPlatform.Ops.Auth
import RmtPlatform.Process.Crew

/-! The banking supervisor.

A request is authenticated and its proposal read, strictly; the proposal is then measured
against the ledger, one statement after another, and an audit row is committed with its
release, if there is one. Requests are served by workers side by side, and what one of them
has read may be out of date when it commits: only the uniqueness of a transaction is the
database's. -/
namespace RmtPlatform.Banking

/-! ### Proposals -/

inductive Channel where
  | internalTransfer | domesticWire | crossBorderWire
deriving DecidableEq

def Channel.value : Channel → String
  | internalTransfer => "internal_transfer"
  | domesticWire => "domestic_wire"
  | crossBorderWire => "cross_border_wire"

def supportedChannels : List Channel := [.internalTransfer, .domesticWire, .crossBorderWire]

def crossBorderChannel : Channel := .crossBorderWire

/-- `[A-Z0-9]` -/
def upperOrDigit (c : Char) : Bool := c.isUpper || c.isDigit

/-- `^[A-Za-z0-9/._-]+$`, 1 to 35 characters. -/
def isTransactionId (s : String) : Bool :=
  decide (1 ≤ s.length ∧ s.length ≤ 35) && s.toList.all fun c => c.isAlphanum || ['/', '.', '_', '-'].contains c

/-- `^[A-Z]{3}$` -/
def isCurrency (s : String) : Bool := s.length = 3 && s.toList.all Char.isUpper

/-- `^[A-Z0-9][A-Z0-9-]{1,34}$`, 2 to 35 characters. -/
def isPartyId (s : String) : Bool :=
  decide (2 ≤ s.length ∧ s.length ≤ 35) && s.toList.head?.any upperOrDigit &&
    s.toList.all fun c => upperOrDigit c || c = '-'

def wholeDigits (s : String) : List Char := s.toList.takeWhile (· ≠ '.')

def fractionDigits (s : String) : List Char := (s.toList.dropWhile (· ≠ '.')).drop 1

/-- `^(?:0|[1-9][0-9]{0,11})\.[0-9]{2}$` -/
def isAmount (s : String) : Bool :=
  s.toList.contains '.' && (wholeDigits s).all Char.isDigit && (fractionDigits s).all Char.isDigit &&
    decide (1 ≤ (wholeDigits s).length ∧ (wholeDigits s).length ≤ 12 ∧ (fractionDigits s).length = 2) &&
    (wholeDigits s = ['0'] || (wholeDigits s).head? ≠ some '0')

/-- `Decimal` of digits around a point. -/
def decimalOf (s : String) : Decimal :=
  ⟨Nat.ofDigitChars 10 (wholeDigits s ++ fractionDigits s) 0, -(fractionDigits s).length⟩

structure TransactionIntent where
  transactionId : String
  amount : String
  currency : String
  counterpartyId : String
  correspondentBankId : Option String
  transaction : isTransactionId transactionId = true
  amounts : isAmount amount = true
  currencies : isCurrency currency = true
  counterparty : isPartyId counterpartyId = true
  correspondent : correspondentBankId.all isPartyId = true

structure ActionProposal where
  agentId : String
  channel : Channel
  payload : TransactionIntent
  agent : 1 ≤ agentId.length ∧ agentId.length ≤ 64
  /-- `_correspondent_bank_matches_channel`. -/
  corresponds : payload.correspondentBankId.isSome = decide (channel = crossBorderChannel)

def stringField (members : List (String × Json)) (name : String) : Option String :=
  match members.lookup name with
  | some (.string s) => some s
  | _ => none

/-- A string, null or nothing. -/
def optionalField (members : List (String × Json)) (name : String) : Option (Option String) :=
  match members.lookup name with
  | none | some .null => some none
  | some (.string s) => some (some s)
  | _ => none

/-- `model_validate` of the payload. -/
def TransactionIntent.validate : Json → Option TransactionIntent
  | .object members => do
    guard (members.all fun m =>
      m.1 ∈ ["transaction_id", "amount", "currency", "counterparty_id", "correspondent_bank_id"])
    let transactionId ← stringField members "transaction_id"
    let amount ← stringField members "amount"
    let currency ← stringField members "currency"
    let counterpartyId ← stringField members "counterparty_id"
    let correspondentBankId ← optionalField members "correspondent_bank_id"
    if h : isTransactionId transactionId = true ∧ isAmount amount = true ∧ isCurrency currency = true ∧
        isPartyId counterpartyId = true ∧ correspondentBankId.all isPartyId = true then
      some ⟨transactionId, amount, currency, counterpartyId, correspondentBankId, h.1, h.2.1, h.2.2.1, h.2.2.2.1, h.2.2.2.2⟩
    else none
  | _ => none

/-- `ActionProposal.model_validate`. -/
def ActionProposal.validate : Json → Option ActionProposal
  | .object members => do
    guard (members.all fun m => m.1 ∈ ["agent_id", "channel", "payload"])
    let agentId ← stringField members "agent_id"
    let name ← stringField members "channel"
    let channel ← supportedChannels.find? (·.value = name)
    let payload ← (members.lookup "payload").bind TransactionIntent.validate
    if h : (1 ≤ agentId.length ∧ agentId.length ≤ 64) ∧
        payload.correspondentBankId.isSome = decide (channel = crossBorderChannel) then
      some ⟨agentId, channel, payload, h.1, h.2⟩
    else none
  | _ => none

/-! ### Policy -/

inductive RiskTier where
  | low | medium | high
deriving DecidableEq

def second : Int := 1000000

def hour : Int := 3600 * second

def day : Int := 24 * hour

def one : Decimal := ⟨1, 0⟩

/-- The settings of the environment, with their defaults; times are in microseconds. -/
structure Settings where
  windowStartUtc : Int := 6 * hour
  windowEndUtc : Int := 22 * hour
  riskTierMediumMult : Decimal := ⟨50, -2⟩
  riskTierHighMult : Decimal := ⟨10, -2⟩
  crossBorderLimitMult : Decimal := ⟨50, -2⟩
  baseRiskLimit : Decimal := ⟨1000000, -2⟩
  counterpartyExposureCap : Decimal := ⟨2500000, -2⟩
  agentExposureCap : Decimal := ⟨6000000, -2⟩
  exposureWindowHours : Int := 24
  velocityWindowSeconds : Int := 60
  velocityMaxTx : Int := 5
  structuringWindowSeconds : Int := 600
  structuringNearLimitFraction : Decimal := ⟨80, -2⟩
  structuringCountThreshold : Int := 3

structure RiskConfig where
  windowStart : Int
  windowEnd : Int
  baseSingleTxLimit : Decimal
  tierMultiplier : RiskTier → Decimal
  crossBorderLimitMult : Decimal
  counterpartyExposureCap : Decimal
  agentExposureCap : Decimal
  exposureWindowHours : Int
  velocityWindowSeconds : Int
  velocityMaxTx : Int
  structuringWindowSeconds : Int
  structuringNearLimitFraction : Decimal
  structuringCountThreshold : Int
  counterpartyCap : 0 < counterpartyExposureCap.coefficient
  agentCap : 0 < agentExposureCap.coefficient
  velocity : 0 < velocityMaxTx
  structuring : 0 < structuringCountThreshold

/-- `_risk_config`. -/
def riskConfig (s : Settings) : Option RiskConfig :=
  if s.windowStartUtc = s.windowEndUtc then none
  else if ¬([s.riskTierMediumMult, s.riskTierHighMult, s.crossBorderLimitMult, s.baseRiskLimit,
      s.structuringNearLimitFraction].all fun d => decide (0 < d.coefficient)) then none
  else if ¬([s.exposureWindowHours, s.velocityWindowSeconds, s.structuringWindowSeconds].all fun i => decide (0 < i)) then none
  else if ¬([s.riskTierMediumMult, s.riskTierHighMult, s.crossBorderLimitMult].all fun d => decide (d ≤ one)) then none
  else if h : 0 < s.counterpartyExposureCap.coefficient ∧ 0 < s.agentExposureCap.coefficient ∧ 0 < s.velocityMaxTx ∧
      0 < s.structuringCountThreshold then
    some {
      windowStart := s.windowStartUtc
      windowEnd := s.windowEndUtc
      baseSingleTxLimit := s.baseRiskLimit
      tierMultiplier := fun tier => match tier with
        | .low => one
        | .medium => s.riskTierMediumMult
        | .high => s.riskTierHighMult
      crossBorderLimitMult := s.crossBorderLimitMult
      counterpartyExposureCap := s.counterpartyExposureCap
      agentExposureCap := s.agentExposureCap
      exposureWindowHours := s.exposureWindowHours
      velocityWindowSeconds := s.velocityWindowSeconds
      velocityMaxTx := s.velocityMaxTx
      structuringWindowSeconds := s.structuringWindowSeconds
      structuringNearLimitFraction := s.structuringNearLimitFraction
      structuringCountThreshold := s.structuringCountThreshold
      counterpartyCap := h.1
      agentCap := h.2.1
      velocity := h.2.2.1
      structuring := h.2.2.2 }
  else none

/-- A row of `correspondent_bank_reference`; the cap is in cents. -/
structure Correspondent where
  approved : Bool
  sanctioned : Bool
  nostroExposureCap : Int
  fits : nostroExposureCap.natAbs < 10 ^ 14

/-- A row of `counterparty_reference`. -/
structure Counterparty where
  riskTier : RiskTier
  sanctioned : Bool

/-- The tables the supervisor only reads. -/
structure References where
  counterparty : String → Option Counterparty
  correspondent : String → Option Correspondent
  fxRate : String → Option Decimal

/-! ### The ledger -/

inductive Decision where
  | authorized | rejected
deriving DecidableEq

/-- What `evaluate_risk` returns. -/
structure RiskVector where
  evaluatedAtUtc : Int
  processingWindowUtc : Int × Int
  withinProcessingWindow : Bool
  channel : Channel
  channelSupported : Bool
  currency : String
  currencySupported : Bool
  proposedAmount : Decimal
  usdEquivalentAmount : Option Decimal
  counterpartyId : String
  counterpartyRiskTier : RiskTier
  counterpartySanctioned : Bool
  correspondentBankId : Option String
  correspondentBankApproved : Option Bool
  correspondentBankSanctioned : Option Bool
  correspondentNostroExposureUsed : Option Decimal
  correspondentNostroExposureCap : Option Decimal
  withinCorrespondentNostroExposureCap : Bool
  singleTransactionLimit : Decimal
  withinSingleTransactionLimit : Bool
  counterpartyExposureWindowHours : Int
  counterpartyExposureUsed : Decimal
  counterpartyExposureCap : Decimal
  withinCounterpartyExposureCap : Bool
  agentExposureUsed : Decimal
  agentExposureCap : Decimal
  withinAgentExposureCap : Bool
  velocityWindowSeconds : Int
  velocityCountInWindow : Int
  velocityMaxTx : Int
  withinVelocityLimit : Bool
  structuringWindowSeconds : Int
  structuringNearLimitFloor : Decimal
  structuringCountInWindow : Int
  structuringPatternSuspected : Bool
  reasons : List String
deriving DecidableEq

/-- The column `risk_evaluation_result`. -/
inductive Evaluation where
  | vector (vector : RiskVector)
  /-- Of a request that is refused before or after it is measured. -/
  | refusal (schemaValid : Option (Option Bool)) (reasons : List String) (validationError : Option String)
deriving DecidableEq

structure AuditRow where
  id : Nat
  agentId : String
  channel : Option Channel
  payloadHash : String
  riskEvaluationResult : Evaluation
  finalDecision : Decision
  requestPath : String
  violationReason : Option String
deriving DecidableEq

/-- A row of `simulated_release_queue`; amounts are in cents. -/
structure Release where
  auditId : Nat
  agentId : String
  transactionId : String
  counterpartyId : String
  currency : String
  amount : Int
  amountUsdEquivalent : Int
  correspondentBankId : Option String
  payloadHash : String
  createdAt : Int
deriving DecidableEq

def Release.key (r : Release) : String × String := (r.agentId, r.transactionId)

/-- The two tables, with their constraints, and the sequence of the first. -/
structure Ledger where
  sequence : Nat
  auditLog : List AuditRow
  releases : List Release
  auditIds : (auditLog.map (·.id)).Nodup
  releaseAudits : (releases.map (·.auditId)).Nodup
  releaseKeys : (releases.map (·.key)).Nodup
  refers : ∀ r ∈ releases, r.auditId ∈ auditLog.map (·.id)

inductive Constraint where
  | auditPkey | releaseAuditIdKey | uqReleaseAgentTransaction | releaseAuditIdFkey
deriving DecidableEq

theorem nodup_append_map {α β : Type} {f : α → β} {xs : List α} {x : α} (nodup : (xs.map f).Nodup) (new : f x ∉ xs.map f) :
    ((xs ++ [x]).map f).Nodup := by
  rw [List.map_append, List.map_singleton, List.nodup_append]
  refine ⟨nodup, List.nodup_singleton _, fun y mem z single same => ?_⟩
  rw [List.mem_singleton] at single
  exact new (single ▸ same ▸ mem)

namespace Ledger

def empty : Ledger := ⟨0, [], [], List.nodup_nil, List.nodup_nil, List.nodup_nil, nofun⟩

def insertAudit (l : Ledger) (row : AuditRow) : Except Constraint Ledger :=
  if h : row.id ∈ l.auditLog.map (·.id) then .error .auditPkey
  else .ok { l with
    auditLog := l.auditLog ++ [row]
    auditIds := nodup_append_map l.auditIds h
    refers := fun r mem => by
      rw [List.map_append]
      exact List.mem_append_left _ (l.refers r mem) }

def insertRelease (l : Ledger) (r : Release) : Except Constraint Ledger :=
  if audit : r.auditId ∈ l.releases.map (·.auditId) then .error .releaseAuditIdKey
  else if key : r.key ∈ l.releases.map (·.key) then .error .uqReleaseAgentTransaction
  else if there : r.auditId ∈ l.auditLog.map (·.id) then .ok { l with
    releases := l.releases ++ [r]
    releaseAudits := nodup_append_map l.releaseAudits audit
    releaseKeys := nodup_append_map l.releaseKeys key
    refers := by
      intro x mem
      rcases List.mem_append.mp mem with mem | mem
      · exact l.refers x mem
      · exact List.mem_singleton.mp mem ▸ there }
  else .error .releaseAuditIdFkey

/-- A transaction of an audit row, and of its release. -/
def commit (l : Ledger) (row : AuditRow) (release : Option Release) : Except Constraint Ledger := do
  let l ← l.insertAudit row
  match release with
  | some r => l.insertRelease r
  | none => pure l

end Ledger

/-! ### Requests -/

structure Request where
  method : String
  path : String
  /-- The headers, empty where there is none. -/
  authorization : String
  contentType : String
  body : List UInt8

/-- A statement the database may refuse. -/
inductive Statement where
  | connect | fxRate | counterparty | correspondent | nostroExposure | counterpartyExposure | agentExposure | velocity
  | structuring | insertAudit | insertRelease | commit | insertRejection | commitRejection
deriving DecidableEq

/-- A request, and what the database does to it: it refuses statements, and of a commit it may not tell that it is done. -/
structure Call where
  request : Request
  refuses : Statement → Bool
  forgets : Statement → Bool

inductive Response where
  | authorized (auditId : Nat) (payloadHash : String)
  | rejected (status : Nat) (auditId : Nat) (reasons : List String)
  /-- 503. -/
  | auditUnavailable
  | unknownEndpoint
  | methodNotAllowed
  | healthy
  /-- 500. -/
  | internalError
deriving DecidableEq

inductive Raised where
  | http (status : Nat) (auditId : Nat) (reasons : List String)
  | integrity (constraint : Constraint)
  | database
  | typeError
  | recursionError
  | invalidOperation
deriving DecidableEq

/-- `SQLAlchemyError`. -/
def Raised.isSqlalchemy : Raised → Bool
  | integrity _ | database => true
  | _ => false

inductive JsonError where
  | value | recursion

/-- What the supervisor is deployed with, and what it is given by its libraries. -/
structure Deployment where
  config : RiskConfig
  references : References
  agentToken : String
  agentId : String
  hexdigest : List UInt8 → String
  /-- `json.loads`, which has each object made of its members by a function that may raise. -/
  loads : (List (String × Json) → Option Json) → List UInt8 → Except JsonError Json
  /-- What a proposal that is malformed is said to be. -/
  explain : List UInt8 → String
  /-- The readings of the clock, in microseconds. -/
  clock : Nat → Int

/-- A release, and the time its proposal was measured at. -/
structure Released where
  evaluatedAt : Int
  release : Release
deriving DecidableEq

/-- What a worker does that can be seen. -/
inductive Event (ι : Type) where
  | drew (worker : ι) (auditId : Nat)
  | recorded (worker : ι) (row : AuditRow) (released : Option Released)
  | answered (worker : ι) (call : Call) (response : Response)

def Event.worker {ι : Type} : Event ι → ι
  | drew i _ => i
  | recorded i _ _ => i
  | answered i _ _ => i

/-- The ledger, the clock, and what has been seen, the latest first. -/
structure Site (ι : Type) where
  ticks : Nat
  ledger : Ledger
  journal : List (Event ι)

namespace Site
variable {ι : Type}

def fresh (ι : Type) : Site ι := ⟨0, .empty, []⟩

/-- A number of the sequence is drawn. -/
def draw (worker : ι) (s : Site ι) : Site ι where
  ticks := s.ticks
  ledger := { s.ledger with sequence := s.ledger.sequence + 1 }
  journal := .drew worker s.ledger.sequence :: s.journal

/-- A transaction has left this ledger. -/
def record (worker : ι) (row : AuditRow) (released : Option Released) (ledger : Ledger) (s : Site ι) : Site ι where
  ticks := s.ticks
  ledger := ledger
  journal := .recorded worker row released :: s.journal

def answer (worker : ι) (call : Call) (response : Response) (s : Site ι) : Site ι where
  ticks := s.ticks
  ledger := s.ledger
  journal := .answered worker call response :: s.journal

end Site

abbrev Handling (ι : Type) := Script (Site ι) Empty Raised

namespace Deployment
variable (D : Deployment) {ι : Type}

def now : Handling ι Int := Script.step none fun s => .ok (D.clock s.ticks, { s with ticks := s.ticks + 1 })

/-- A query, of what is committed. -/
def select {α : Type} (call : Call) (statement : Statement) (query : Ledger → α) : Handling ι α := do
  Script.raiseIf (call.refuses statement = true) .database
  Script.read fun s => query s.ledger

/-- The next number of the audit log, which no rollback gives back. -/
def nextval (worker : ι) : Handling ι Nat := Script.step none fun s => .ok (s.ledger.sequence, s.draw worker)

/-- The end of a transaction. -/
def commit (worker : ι) (call : Call) (statement : Statement) (row : AuditRow) (released : Option Released) :
    Handling ι Unit := do
  Script.raiseIf (call.refuses statement = true) .database
  Script.step none fun s => match s.ledger.commit row (released.map (·.release)) with
    | .ok ledger => .ok ((), s.record worker row released ledger)
    | .error constraint => .error (.integrity constraint)
  Script.raiseIf (call.forgets statement = true) .database

/-! ### The evaluation -/

/-- `sum` of the amounts of some releases. -/
def sumUsd (p : Release → Bool) (l : Ledger) : Decimal := ⟨((l.releases.filter p).map (·.amountUsdEquivalent)).sum, -2⟩

/-- `count` of some releases. -/
def countOf (p : Release → Bool) (l : Ledger) : Int := (l.releases.filter p).length

/-- `_fx_rate`. -/
def fxRate (call : Call) (currency : String) : Handling ι (Option Decimal) :=
  if currency = "USD" then pure (some one) else select call .fxRate fun _ => D.references.fxRate currency

/-- The rate a proposal is converted at, if there is one. -/
def rateFor (call : Call) (isCrossBorder : Bool) (currency : String) : Handling ι (Option Decimal) :=
  if isCrossBorder then D.fxRate call currency else pure (if currency = "USD" then some one else none)

/-- `quantize(Decimal("0.01"))`. -/
def quantized (x : Decimal) : Handling ι Decimal :=
  match x.quantize (-2) with
  | some y => pure y
  | none => throw .invalidOperation

def converted (amount : Decimal) : Option Decimal → Handling ι (Option Decimal)
  | some rate => do
    let usdEquivalent ← quantized (amount * rate)
    pure (some usdEquivalent)
  | none => pure none

/-- Is the time of the day in the processing window? -/
def inWindow (currentTime : Int) : Bool :=
  if D.config.windowStart < D.config.windowEnd then
    D.config.windowStart ≤ currentTime && currentTime < D.config.windowEnd
  else D.config.windowStart ≤ currentTime || currentTime < D.config.windowEnd

/-- What is read of the correspondent bank of a proposal, and whether its cap is kept. -/
structure CorrespondentView where
  approved : Option Bool
  sanctioned : Option Bool
  nostroUsed : Option Decimal
  nostroCap : Option Decimal
  withinNostroCap : Bool

def correspondentView (call : Call) (since : Int) (usdEquivalent : Option Decimal) :
    Option String → Handling ι CorrespondentView
  | none => pure ⟨none, none, none, none, true⟩
  | some bank => do
    let correspondent ← select call .correspondent fun _ => D.references.correspondent bank
    let cap : Decimal := match correspondent with
      | some c => ⟨c.nostroExposureCap, -2⟩
      | none => ⟨0, 0⟩
    let used ← select call .nostroExposure (sumUsd fun r => r.correspondentBankId = some bank && since ≤ r.createdAt)
    pure {
      approved := some (correspondent.any (·.approved))
      sanctioned := some (correspondent.any (·.sanctioned))
      nostroUsed := some used
      nostroCap := some cap
      withinNostroCap := usdEquivalent.any fun usd => used + usd ≤ cap }

/-- `evaluate_risk`. -/
def evaluateRisk (call : Call) (proposal : ActionProposal) : Handling ι RiskVector := do
  let now ← D.now
  let inWindow := D.inWindow (now % day)
  let channelSupported := decide (proposal.channel ∈ supportedChannels)
  let isCrossBorder := decide (proposal.channel = crossBorderChannel)
  let amount := decimalOf proposal.payload.amount
  let fxRate ← D.rateFor call isCrossBorder proposal.payload.currency
  let usdEquivalent ← converted amount fxRate
  let reference ← select call .counterparty fun _ => D.references.counterparty proposal.payload.counterpartyId
  let riskTier := (reference.map (·.riskTier)).getD .medium
  let sanctioned := reference.any (·.sanctioned)
  let channelMult := if isCrossBorder then D.config.crossBorderLimitMult else one
  let singleTxLimit ← quantized (D.config.baseSingleTxLimit * D.config.tierMultiplier riskTier * channelMult)
  let withinSingleTxLimit := usdEquivalent.any fun usd => usd ≤ singleTxLimit
  let exposureSince := now - D.config.exposureWindowHours * hour
  let correspondent ← D.correspondentView call exposureSince usdEquivalent proposal.payload.correspondentBankId
  let counterpartyUsed ← select call .counterpartyExposure (sumUsd fun r => r.agentId = proposal.agentId &&
    r.counterpartyId = proposal.payload.counterpartyId && exposureSince ≤ r.createdAt)
  let agentUsed ← select call .agentExposure (sumUsd fun r => r.agentId = proposal.agentId && exposureSince ≤ r.createdAt)
  let withinCounterpartyExposure := usdEquivalent.any fun usd => counterpartyUsed + usd ≤ D.config.counterpartyExposureCap
  let withinAgentExposure := usdEquivalent.any fun usd => agentUsed + usd ≤ D.config.agentExposureCap
  let velocitySince := now - D.config.velocityWindowSeconds * second
  let velocityCount ← select call .velocity (countOf fun r => r.agentId = proposal.agentId && velocitySince ≤ r.createdAt)
  let withinVelocityLimit := decide (velocityCount < D.config.velocityMaxTx)
  let structuringSince := now - D.config.structuringWindowSeconds * second
  let nearLimitFloor ← quantized (singleTxLimit * D.config.structuringNearLimitFraction)
  let structuringCount ← select call .structuring (countOf fun r => r.agentId = proposal.agentId &&
    r.counterpartyId = proposal.payload.counterpartyId && structuringSince ≤ r.createdAt &&
    nearLimitFloor ≤ (⟨r.amountUsdEquivalent, -2⟩ : Decimal))
  let structuringSuspected := usdEquivalent.any fun usd =>
    nearLimitFloor ≤ usd && D.config.structuringCountThreshold ≤ structuringCount + 1
  let reasons :=
    (if sanctioned then ["sanctioned_counterparty"] else []) ++
    (if channelSupported then [] else ["unsupported_channel"]) ++
    (if inWindow then [] else ["outside_processing_window"]) ++
    (if usdEquivalent.isSome then [] else ["unsupported_currency"]) ++
    (if proposal.payload.correspondentBankId.isSome then
      (if correspondent.sanctioned = some true then ["correspondent_bank_sanctioned"] else []) ++
      (if correspondent.approved = some true then [] else ["correspondent_bank_not_approved"]) ++
      (if correspondent.withinNostroCap then [] else ["correspondent_nostro_exposure_exceeded"])
    else []) ++
    (if withinSingleTxLimit then [] else ["single_transaction_limit_exceeded"]) ++
    (if withinCounterpartyExposure then [] else ["counterparty_exposure_exceeded"]) ++
    (if withinAgentExposure then [] else ["agent_exposure_exceeded"]) ++
    (if withinVelocityLimit then [] else ["velocity_limit_exceeded"]) ++
    (if structuringSuspected then ["structuring_pattern_suspected"] else [])
  pure {
    evaluatedAtUtc := now
    processingWindowUtc := (D.config.windowStart, D.config.windowEnd)
    withinProcessingWindow := inWindow
    channel := proposal.channel
    channelSupported
    currency := proposal.payload.currency
    currencySupported := usdEquivalent.isSome
    proposedAmount := amount
    usdEquivalentAmount := usdEquivalent
    counterpartyId := proposal.payload.counterpartyId
    counterpartyRiskTier := riskTier
    counterpartySanctioned := sanctioned
    correspondentBankId := proposal.payload.correspondentBankId
    correspondentBankApproved := correspondent.approved
    correspondentBankSanctioned := correspondent.sanctioned
    correspondentNostroExposureUsed := correspondent.nostroUsed
    correspondentNostroExposureCap := correspondent.nostroCap
    withinCorrespondentNostroExposureCap := correspondent.withinNostroCap
    singleTransactionLimit := singleTxLimit
    withinSingleTransactionLimit := withinSingleTxLimit
    counterpartyExposureWindowHours := D.config.exposureWindowHours
    counterpartyExposureUsed := counterpartyUsed
    counterpartyExposureCap := D.config.counterpartyExposureCap
    withinCounterpartyExposureCap := withinCounterpartyExposure
    agentExposureUsed := agentUsed
    agentExposureCap := D.config.agentExposureCap
    withinAgentExposureCap := withinAgentExposure
    velocityWindowSeconds := D.config.velocityWindowSeconds
    velocityCountInWindow := velocityCount
    velocityMaxTx := D.config.velocityMaxTx
    withinVelocityLimit
    structuringWindowSeconds := D.config.structuringWindowSeconds
    structuringNearLimitFloor := nearLimitFloor
    structuringCountInWindow := structuringCount
    structuringPatternSuspected := structuringSuspected
    reasons }

/-! ### Handling -/

def maxBodyBytes : Nat := 16384

def proposePath : String := "/api/v1/supervise/propose-action"

/-- `_token_is_valid`. -/
def tokenIsValid (request : Request) : Except Raised Bool :=
  if Ops.Auth.isAscii request.authorization && Ops.Auth.isAscii ("Bearer " ++ D.agentToken) then
    .ok (request.authorization = "Bearer " ++ D.agentToken)
  else .error .typeError

/-- `_record_rejection`. -/
def recordRejection (worker : ι) (call : Call) (reason : String) (vector : Evaluation) (channel : Option Channel) :
    Handling ι Nat := do
  let valid ← Script.ofExcept (D.tokenIsValid call.request)
  Script.raiseIf (call.refuses .insertRejection = true) .database
  let id ← nextval worker
  commit worker call .commitRejection
    { id
      agentId := if valid then D.agentId else "unidentified"
      channel
      payloadHash := D.hexdigest call.request.body
      riskEvaluationResult := vector
      finalDecision := .rejected
      requestPath := call.request.path
      violationReason := some reason } none
  pure id

/-- A key that is given twice is an error. -/
def uniquePairs (pairs : List (String × Json)) : Option Json :=
  if (pairs.map Prod.fst).Nodup then some (.object pairs) else none

/-- `_parse_json`. -/
def parseJson (body : List UInt8) : Except JsonError Json := D.loads uniquePairs body

/-- A rejection that is recorded and then raised. -/
def refuse {α : Type} (worker : ι) (call : Call) (status : Nat) (reason : String) (schemaValid : Option (Option Bool))
    (validationError : Option String) (channel : Option Channel) : Handling ι α := do
  let auditId ← D.recordRejection worker call reason (.refusal schemaValid [reason] validationError) channel
  throw (.http status auditId [reason])

def isJson (contentType : String) : Bool := Ops.Auth.lower (strip (Ops.Auth.partition ';' contentType).1) = "application/json"

/-- `authenticated_proposal`. -/
def authenticatedProposal (worker : ι) (call : Call) : Handling ι ActionProposal := do
  let valid ← Script.ofExcept (D.tokenIsValid call.request)
  if valid = false then D.refuse worker call 401 "invalid_agent_token" (some none) none none
  else if maxBodyBytes < call.request.body.length ∨ isJson call.request.contentType = false then
    D.refuse worker call 400 "invalid_request_format" (some (some false)) none none
  else match D.parseJson call.request.body with
    | .error .recursion => throw .recursionError
    | .error .value =>
      D.refuse worker call 400 "malformed_proposal" (some (some false)) (some (D.explain call.request.body)) none
    | .ok json => match ActionProposal.validate json with
      | none => D.refuse worker call 400 "malformed_proposal" (some (some false)) (some (D.explain call.request.body)) none
      | some proposal =>
        if proposal.agentId ≠ D.agentId then
          D.refuse worker call 403 "agent_identity_mismatch" (some (some true)) none (some proposal.channel)
        else pure proposal

/-- An amount in cents, as a column of 14 digits takes it. -/
def numeric (x : Decimal) : Option Int :=
  if (x.rescale (-2)).natAbs < 10 ^ 14 then some (x.rescale (-2)) else none

def columns (x : Decimal) : Handling ι Int :=
  match numeric x with
  | some cents => pure cents
  | none => throw .database

/-- The transaction of `propose_action`. -/
def measure (worker : ι) (call : Call) (proposal : ActionProposal) : Handling ι Response := do
  Script.raiseIf (call.refuses .connect = true) .database
  let vector ← D.evaluateRisk call proposal
  Script.raiseIf (call.refuses .insertAudit = true) .database
  let id ← nextval worker
  let payloadHash := D.hexdigest call.request.body
  let values (finalDecision : Decision) (violationReason : Option String) : AuditRow := {
    id
    agentId := proposal.agentId
    channel := some proposal.channel
    payloadHash
    riskEvaluationResult := .vector vector
    finalDecision
    requestPath := proposePath
    violationReason }
  if vector.reasons ≠ [] then do
    commit worker call .commit (values .rejected (some (",".intercalate vector.reasons))) none
    pure (.rejected 200 id vector.reasons)
  else match vector.usdEquivalentAmount with
    | none => throw .typeError
    | some usdEquivalent => do
      Script.raiseIf (call.refuses .insertRelease = true) .database
      let amount ← columns (decimalOf proposal.payload.amount)
      let amountUsdEquivalent ← columns usdEquivalent
      let createdAt ← D.now
      commit worker call .commit (values .authorized none) (some {
        evaluatedAt := vector.evaluatedAtUtc
        release := {
          auditId := id
          agentId := proposal.agentId
          transactionId := proposal.payload.transactionId
          counterpartyId := proposal.payload.counterpartyId
          currency := proposal.payload.currency
          amount
          amountUsdEquivalent
          correspondentBankId := proposal.payload.correspondentBankId
          payloadHash
          createdAt } })
      pure (.authorized id payloadHash)

/-- `propose_action`. -/
def proposeAction (worker : ι) (call : Call) (proposal : ActionProposal) : Handling ι Response := do
  match ← Script.caught (D.measure worker call proposal) with
  | .ok response => pure response
  | .error (.integrity .uqReleaseAgentTransaction) => do
    let auditId ← D.recordRejection worker call "replayed_transaction_id"
      (.refusal none ["replayed_transaction_id"] none) (some proposal.channel)
    pure (.rejected 200 auditId ["replayed_transaction_id"])
  | .error e => throw e

/-- The routes of the two paths there are. -/
def route (worker : ι) (call : Call) : Handling ι Response :=
  if call.request.path = proposePath then
    if call.request.method = "POST" then do
      let proposal ← D.authenticatedProposal worker call
      D.proposeAction worker call proposal
    else pure .methodNotAllowed
  else if call.request.method = "GET" then pure .healthy
  else pure .methodNotAllowed

/-- `block_alternate_paths`, and what is made of an exception of a route. -/
def handle (worker : ι) (call : Call) : Handling ι Response := do
  if call.request.path ∉ [proposePath, "/health"] then
    if call.request.method ∉ ["GET", "HEAD", "OPTIONS"] then
      match ← Script.caught (D.recordRejection worker call "alternate_endpoint_attempt"
        (.refusal (some none) ["alternate_endpoint_attempt"] none) none) with
      | .ok auditId => pure (.rejected 404 auditId ["alternate_endpoint_attempt"])
      | .error e => if e.isSqlalchemy then pure .auditUnavailable else throw e
    else pure .unknownEndpoint
  else match ← Script.caught (D.route worker call) with
    | .ok response => pure response
    | .error (.http status auditId reasons) => pure (.rejected status auditId reasons)
    | .error e => if e.isSqlalchemy then pure .auditUnavailable else throw e

/-- One request, and its answer. -/
def answer (worker : ι) (call : Call) : Program (Site ι) Empty Unit := do
  let outcome ← (D.handle worker call).run
  let response := match outcome with
    | .ok response => response
    | .error _ => .internalError
  .act none (·.answer worker call response) fun _ => .done ()

/-- One worker: its requests, one after another. -/
def serve (worker : ι) : List Call → Program (Site ι) Empty Unit
  | [] => .done ()
  | call :: rest => do
    D.answer worker call
    serve worker rest

/-- The workers at the start. -/
def crew (calls : ι → List Call) : Crew ι (Site ι) Empty Unit := ⟨fun i => D.serve i (calls i), ⟨.fresh ι, []⟩⟩

end Deployment

end RmtPlatform.Banking
