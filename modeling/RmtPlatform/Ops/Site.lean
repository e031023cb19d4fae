import RmtPlatform.Core.Service

/-! What surrounds the core.

The endpoints keep three things of their own: the grants under which an agent may
propose, who is behind the holds an agent raised, and an index of what each execution
came to. Grants are stored; the other two are in memory and gone after a restart.
`Deployment` is what the endpoints are given: the core's platform, the observers, and
the settings. -/
namespace RmtPlatform.Ops

open Core

/-! ### Records -/

structure AuthorityGrant where
  grantId : String
  operation : String
  target : String
  grantedBy : String
  expiresAt : Int
  consumed : Bool
  consumedAt : Option Int
deriving DecidableEq

/-- Who is behind a hold that an agent raised. -/
structure HoldProvenance where
  approvalId : String
  grantId : Option String
  grantedBy : Option String
  agentId : Option String
  recordedAt : Int
deriving DecidableEq

/-- What one execution came to, as far as it was verified. -/
structure IndexRow where
  executionId : String
  actionId : Option String
  adapter : Option String
  operation : Option String
  target : Option String
  coreStatus : Option String
  aboveCoreStatus : Option String
  effectiveStatus : String
  verified : Bool
  notifiedInconclusive : Bool
deriving DecidableEq

/-! ### Dictionaries of records -/

section
variable {Record : Type} {key : Record → String}

/-- `d[key] = r`: a key keeps its place. -/
def put (key : Record → String) (r : Record) : List Record → List Record
  | [] => [r]
  | r' :: rest => if key r' = key r then r :: rest else r' :: put key r rest

/-- `d.get(k)`. -/
def get? (key : Record → String) (k : String) (records : List Record) : Option Record :=
  records.find? fun r => key r = k

theorem get?_put (r : Record) (records : List Record) (k : String) :
    get? key k (put key r records) = if key r = k then some r else get? key k records := by
  induction records with
  | nil => by_cases h : key r = k <;> simp [put, get?, h]
  | cons r' rest ih =>
    unfold get? at *
    by_cases same : key r' = key r
    · by_cases h : key r = k <;> simp [put, same, h]
    · rw [put, if_neg same, List.find?_cons, ih, List.find?_cons]
      by_cases h : key r = k
      · have other : key r' ≠ k := fun e => same (e.trans h.symm)
        simp [h, other]
      · simp [h]

theorem put_put (r r' : Record) (h : key r' = key r) (records : List Record) :
    put key r' (put key r records) = put key r' records := by
  induction records with
  | nil => simp [put, h]
  | cons a rest ih => by_cases same : key a = key r <;> simp [put, h, same, ih]

end

/-! ### The state -/

structure Site (W : Type) where
  core : State W
  grants : DurableStore AuthorityGrant
  provenance : List HoldProvenance
  index : List IndexRow

namespace Site
variable {W : Type}

def initial (backend : Backend) (world : W) : Site W where
  core := .initial backend world
  grants := .empty backend
  provenance := []
  index := []

def corePart : Component (Site W) (State W) where
  get := (·.core)
  set c s := { s with core := c }
  get_set _ _ := rfl
  set_get _ := rfl
  set_set _ _ _ := rfl

def grant? (s : Site W) (grantId : String) : Option AuthorityGrant := s.grants.get? (·.grantId) grantId

def row? (s : Site W) (executionId : String) : Option IndexRow := get? (·.executionId) executionId s.index

end Site

/-! ### The deployment -/

structure Deployment (W L : Type) extends Platform W L where
  /-- The configured runtime engine. -/
  engine : String
  /-- `observe_container_state`. -/
  observeContainer : String → Script W L Raised (Option ObservedState)
  /-- The observer of git tags. -/
  observeTag : String → Script W L Raised (Option ObservedState)
  /-- How often there is time to observe again, by how often the clock has been read. -/
  polls : Nat → Nat
  agentEnabled : Bool
  grantTtl : Int
  agentDefaultRequiresApproval : Bool
  agentDependencyEscalation : Bool
  /-- `HOMELAB_DEPENDENCIES`: each component and what it depends on. -/
  homelabDependencies : List (String × List String)
  /-- The `dependencies` of each `ComponentContext`. -/
  contextDependencies : List (String × List String)
  /-- The edges an operator declared. -/
  dependencyEdges : List (String × List String)
  separationEnabled : Bool

/-- What an observer of a run sees. -/
inductive Notice (L : Type) where
  | core (e : Event L)
  /-- A call of the core comes back to the endpoint that made it. -/
  | returned (result : GovernedResult)

/-- A call of an endpoint. -/
abbrev Above (W L α : Type) := Script (Site W) (Notice L) Raised α

section
variable {W L α : Type}

/-- What the core does, as a part of a call. -/
def inCore (x : Governed W L α) : Above W L α := Program.within Site.corePart Notice.core x

/-- A call of the core that the endpoint waits for. -/
def governed (x : Governed W L GovernedResult) : Above W L GovernedResult := do
  let result ← inCore x
  Script.announce (.returned result)
  pure result

end

end RmtPlatform.Ops
