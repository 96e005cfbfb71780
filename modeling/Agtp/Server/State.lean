import Agtp.Foundation.Computation
import Agtp.Server.Gates

/-! # Server state

The state that dispatching a request reads and changes, and the events that it
logs. Each event says all that happens to the state: a log determines the states
that it passes through. -/

namespace Agtp

open Computation

/-! ## Negotiation state -/

/-- The rate-limit log and the idempotency table of the negotiation gate, in
memory or in the SQLite file. -/
structure RcnsState where
  negotiations : List (String × Nat)
  idempotency : Dict (String × String) (String × Nat)

/-- The bookkeeping of the gate: the first two keep the log in memory, the next
two in the file. -/
inductive RcnsOperation where
  | record (agentId : String)
  | forget (agentId key : String)
  | prune
  | reserve (agentId : String)
  | purge

namespace RcnsState

def empty : RcnsState := ⟨[], .empty⟩

def isRecent (now time : Nat) : Bool := now ≤ time + 60

def recentCount (rcns : RcnsState) (now : Nat) (agentId : String) : Nat :=
  (rcns.negotiations.filter fun row => row.1 = agentId && isRecent now row.2).length

def perform (now : Nat) (rcns : RcnsState) : RcnsOperation → RcnsState
  | .record agentId =>
      { rcns with
        negotiations := (rcns.negotiations.filter fun row =>
          row.1 ≠ agentId || isRecent now row.2) ++ [(agentId, now)] }
  | .forget agentId key =>
      { rcns with idempotency := rcns.idempotency.erase (agentId, key) }
  | .prune =>
      { rcns with negotiations := rcns.negotiations.filter (isRecent now ·.2) }
  | .reserve agentId =>
      { rcns with negotiations := rcns.negotiations ++ [(agentId, now)] }
  | .purge =>
      { rcns with
        idempotency := ⟨rcns.idempotency.entries.filter (now < ·.2.2),
          rcns.idempotency.nodup.sublist (List.filter_sublist.map Prod.fst)⟩ }

def bind (rcns : RcnsState) (agentId key synthesisId : String) (expiresAt : Nat) :
    RcnsState :=
  { rcns with
    idempotency := rcns.idempotency.set (agentId, key) (synthesisId, expiresAt) }

end RcnsState

/-! ## State -/

/-- `agents` holds the documents as they are now: the lifecycle methods change
their status. `drawn` counts the tokens drawn, `app` is what the handlers of the
deployment keep. -/
structure State (App : Type) where
  agents : AgentRegistry
  runtime : SynthesisRuntime
  rcns : RcnsState
  now : Nat
  drawn : Nat
  app : App

namespace State

variable {App : Type}

def boot (agents : AgentRegistry) (now : Nat) (app : App) : State App :=
  ⟨agents, .empty, .empty, now, 0, app⟩

def document (state : State App) (agent : AgentDocument) : AgentDocument :=
  (state.agents.lookup agent.agentId).getD agent

theorem agentId_document (state : State App) (agent : AgentDocument) :
    (state.document agent).agentId = agent.agentId := by
  unfold document
  cases found : state.agents.lookup agent.agentId with
  | none => rfl
  | some held => exact AgentRegistry.agentId_of_lookup found

end State

/-! ## Handlers -/

/-- What a handler that this development does not look into does. It answers,
or it raises. -/
abbrev Effect (App : Type) := State App → Option Response × State App

inductive EndpointHandler (App : Type) where
  | function (run : EndpointContext → Effect App)
  | composition (spec : EndpointSpec) (recipe : String) (plan : SynthesisPlan)

/-- A proposal to compose, with the answer to what comes of it. -/
structure Attempt where
  proposal : Proposal
  expiresAt : Option Nat
  persistent : Bool
  report : Option (String × SynthesisPlan) → Response

/-- The embedded methods that reach the synthesis runtime, and all others. What
they do beyond that is left to `run`; a proposal is what `attempt` makes of the
body of a `PROPOSE` request. -/
inductive MethodHandler (App : Type) where
  | suspend
  | revoke (run : Request → AgentDocument → Effect App)
  | inspect (run : Request → AgentDocument → Effect App)
  | propose (attempt : Request → AgentDocument → State App → Option Attempt)
      (run : Request → AgentDocument → Effect App)
  | other (run : Request → AgentDocument → Effect App)

/-! ## Negotiated contracts -/

/-- `json.dumps(contract, sort_keys=True, separators=(",", ":"),
ensure_ascii=False)`, as UTF-8. -/
class ContractCodec where
  canonical : Json → Bytes

class Tokens where
  synthesisId : Nat → String
  attemptId : Nat → String
  nonce : Nat → String
  synthesisId_injective : Function.Injective synthesisId

namespace PlainServing

scoped instance : ContractCodec where
  canonical
    | .object members => members.flatMap fun entry =>
        match entry.2 with
        | .string text => asciiBytes text
        | _ => []
    | _ => []

scoped instance : Digest where
  sha256 data := String.ofList ('#' :: data.map fun byte => Char.ofNat byte.toNat)

scoped instance : Tokens where
  synthesisId number := String.ofList (List.replicate (number + 1) 's')
  attemptId number := String.ofList (List.replicate (number + 1) 'a')
  nonce number := String.ofList (List.replicate (number + 1) 'n')
  synthesisId_injective := by
    intro left right equal
    have lengths := congrArg List.length (String.ofList_inj.mp equal)
    simpa using lengths

end PlainServing

def optionalText : Option String → Json
  | some text => .string text
  | none => .null

def contractMembers (method path : String) (plan : SynthesisPlan) :
    List (String × Json) :=
  [("method", .string method),
    ("path", .string path),
    ("plan_summary", .string (plan.description.getD "")),
    ("recipe_name", optionalText plan.recipeName),
    ("recipe_version", optionalText plan.recipeVersion),
    ("policy_name", optionalText plan.policyName)]

def contractHash [Digest] [ContractCodec] (contract : List (String × Json)) :
    String :=
  Digest.sha256 (ContractCodec.canonical (.object contract))

/-- A successful negotiation. `binding` is the idempotency key and its expiry,
where one is recorded. -/
structure Negotiation where
  agentId : String
  method : String
  path : String
  plan : SynthesisPlan
  origin : String
  binding : Option (String × Nat)

def Negotiation.terms [Digest] [ContractCodec] (negotiation : Negotiation) :
    Terms where
  expiresAt := none
  persistent := false
  originator := some negotiation.agentId
  hash := some (contractHash
    (contractMembers negotiation.method negotiation.path negotiation.plan))
  origin := negotiation.origin

/-! ## Events -/

/-- A handler is called. -/
structure Call (App : Type) where
  agent : AgentDocument
  request : Request
  admission : Gates.Admission (EndpointHandler App) (MethodHandler App)

/-- The gate answers with a contract. -/
structure Answer where
  synthesisId : String
  method : String
  path : String
  contract : List (String × Json)

inductive Event (App : Type) where
  | called (call : Call App)
  | ran (effect : Effect App)
  | executed (synthesisId : String)
  | stepped (synthesisId : String) (index : Nat)
  | evicted (synthesisId : String)
  | suspended (agent : AgentDocument) (synthesisId : String)
  | revoked (agent : AgentDocument) (synthesisId : String)
  | swept (agent : AgentDocument) (policies : List CompositionPolicy)
  | proposed (plan : SynthesisPlan) (expiresAt : Option Nat) (persistent : Bool)
  | negotiated (negotiation : Negotiation)
  | bookkeeping (operation : RcnsOperation)
  | drew
  | answered (answer : Answer)
  | elapsed (seconds : Nat) (agents : AgentRegistry) (app : App)

def proposedTerms (expiresAt : Option Nat) (persistent : Bool) : Terms where
  expiresAt := expiresAt
  persistent := persistent
  originator := none
  hash := none
  origin := "propose-explicit"

namespace State

variable {App : Type} [Digest] [ContractCodec] [Tokens]

def expire (state : State App) (synthesisId : String) : State App :=
  { state with runtime := state.runtime.expire synthesisId }

def instantiate (state : State App) (plan : SynthesisPlan) (terms : Terms) :
    State App :=
  { state with
    runtime := state.runtime.instantiate (Tokens.synthesisId state.drawn) plan terms
    drawn := state.drawn + 1 }

def bindKey (state : State App) (agentId synthesisId : String) :
    Option (String × Nat) → State App
  | some (key, expiresAt) =>
      { state with rcns := state.rcns.bind agentId key synthesisId expiresAt }
  | none => state

def negotiate (state : State App) (negotiation : Negotiation) : State App :=
  (state.instantiate negotiation.plan negotiation.terms).bindKey
    negotiation.agentId (Tokens.synthesisId state.drawn) negotiation.binding

/-- The state after an event. -/
def after (state : State App) : Event App → State App
  | .called _ | .executed _ | .stepped _ _ | .answered _ => state
  | .ran effect => (effect state).2
  | .evicted id | .suspended _ id | .revoked _ id => state.expire id
  | .swept _ policies =>
      { state with runtime := state.runtime.invalidateStale policies }
  | .proposed plan expiresAt persistent =>
      state.instantiate plan (proposedTerms expiresAt persistent)
  | .negotiated negotiation => state.negotiate negotiation
  | .bookkeeping operation =>
      { state with rcns := state.rcns.perform state.now operation }
  | .drew => { state with drawn := state.drawn + 1 }
  | .elapsed seconds agents app =>
      { state with agents := agents, now := state.now + seconds, app := app }

def replay (state : State App) (log : List (Event App)) : State App :=
  log.foldl after state

end State

/-! ## Computations of the server -/

abbrev Serving (App Value : Type) :=
  Computation (State App) (Event App) Value

abbrev Dispatcher (App : Type) :=
  Request → AgentDocument → Serving App Response

namespace Serving

variable {App : Type} [Digest] [ContractCodec] [Tokens]

def emit (event : Event App) : Serving App PUnit :=
  perform event fun state => (.value .unit, state.after event)

theorem emit_andThen (event : Event App) (next : PUnit → Serving App Value)
    (state : State App) :
    andThen (emit event) next state =
      ⟨(next .unit (state.after event)).ending,
        (next .unit (state.after event)).state,
        event :: (next .unit (state.after event)).log⟩ := rfl

omit [Digest] [ContractCodec] [Tokens] in
def run (effect : Effect App) : Serving App Response :=
  perform (.ran effect) fun state =>
    match effect state with
    | (some response, after) => (.value response, after)
    | (none, after) => (.raised, after)

def draw : Serving App Nat :=
  andThen read fun state => andThen (emit .drew) fun _ => result state.drawn

def getPlan (synthesisId : String) : Serving App (Option SynthesisPlan) :=
  andThen read fun state =>
    if state.runtime.isOverdue state.now synthesisId then
      andThen (emit (.evicted synthesisId)) fun _ => result none
    else result (state.runtime.active.get? synthesisId)

theorem getPlan_active {state : State App} {id : String} {plan : SynthesisPlan}
    (active : state.runtime.get state.now id = some plan) :
    getPlan id state = ⟨.value (some plan), state, []⟩ := by
  unfold SynthesisRuntime.get at active
  unfold getPlan
  rw [andThen_read]
  split at active
  · cases active
  · next fresh =>
      rw [if_neg fresh, active]
      rfl

theorem getPlan_inactive {state : State App} {id : String}
    (inactive : state.runtime.get state.now id = none) :
    ∃ log, getPlan id state = ⟨.value none, state.replay log, log⟩ := by
  unfold SynthesisRuntime.get at inactive
  unfold getPlan
  rw [andThen_read]
  split at inactive
  · next overdue =>
      rw [if_pos overdue]
      exact ⟨[.evicted id], rfl⟩
  · next fresh =>
      rw [if_neg fresh, inactive]
      exact ⟨[], rfl⟩

end Serving

end Agtp
