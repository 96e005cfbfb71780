import Agtp.Server.Handlers

/-! # The negotiation gate

`try_rcns`: between the miss of the endpoint registry and the 404. -/

namespace Agtp

/-- How the caller lets the server negotiate. -/
inductive RcnsMode where
  | confirm
  | optimistic
deriving DecidableEq

namespace Rcns

open Computation Serving

variable {App : Type} [TextCase] [TextOf] [BodyCodec] [Digest] [ContractCodec]
  [Tokens]

/-! ## Locks -/

def parseAllowRcns (headers : Headers) : Option RcnsMode :=
  let value := lower (Text.strip (Wire.header headers "Allow-RCNS"))
  if value = "true" then some .confirm
  else if value = "optimistic" then some .optimistic
  else none

def RcnsMode.origin : RcnsMode → String
  | .confirm => "rcns-confirmed"
  | .optimistic => "rcns-optimistic"

def refuseAttempt (reason explanation method path : String)
    (details : List (String × Json)) : Serving App Response :=
  andThen draw fun token =>
    let attempt := Tokens.attemptId token
    let refusal := Status.rcnsNoContract reason explanation (some (method, path))
      (details ++ [("attempt_id", .string attempt)])
    result { refusal.toResponse with headers := [("RCNS-Attempt-Id", attempt)] }

def scopeRequired (method path : String) : ErrorResponse :=
  Status.authorizationRequired "scope-required"
    ("RCNS negotiation requires the 'rcns:negotiate' scope. Declare it in the " ++
     "agent's requires.scopes to opt in.")
    [("code", .string "rcns-scope-required"),
      ("missing_scopes", Status.texts ["rcns:negotiate"]),
      ("method", .string method),
      ("path", .string path)]

def rateLimited (limit : Nat) (method path : String) : ErrorResponse where
  status := 429
  statusText := "Too Many Requests"
  error := [
    ("code", .string "rate-limited"),
    ("scope", .string "rcns"),
    ("explanation", .string s!"agent exceeded {limit} RCNS negotiations per minute"),
    ("method", .string method),
    ("path", .string path)]

/-! ## Rate limit -/

/-- Whether the agent is at its limit. The file reserves the attempt at once;
in memory it is recorded when a plan is composed. -/
def limited (config : RcnsConfig) (agentId : String) : Serving App Bool :=
  let limit := config.maxNegotiationsPerMinute
  if limit = 0 then result false
  else if config.durable then
    andThen (emit (.bookkeeping .prune)) fun _ =>
    andThen read fun state =>
      if limit ≤ state.rcns.recentCount state.now agentId then result true
      else andThen (emit (.bookkeeping (.reserve agentId))) fun _ => result false
  else
    andThen read fun state =>
      result (decide (limit ≤ state.rcns.recentCount state.now agentId))

/-! ## Idempotency -/

def boundId (config : RcnsConfig) (state : State App) (agentId key : String) :
    Option String :=
  if key = "" ∨ (¬config.durable ∧ config.idempotencyWindowSeconds = 0) then none
  else
    ((state.rcns.idempotency.get? (agentId, key)).filter (state.now < ·.2)).map
      Prod.fst

/-- `get_idempotency` of the file, `_idempotent_lookup` in memory: bindings that
ran out are dropped. -/
def lookupKey (config : RcnsConfig) (agentId key : String) :
    Serving App (Option String) :=
  andThen read fun state =>
    let found := boundId config state agentId key
    if key = "" then result none
    else if config.durable then
      andThen (emit (.bookkeeping .purge)) fun _ => result found
    else if config.idempotencyWindowSeconds ≠ 0 ∧ found = none then
      andThen (emit (.bookkeeping (.forget agentId key))) fun _ => result none
    else result found

def binding (config : RcnsConfig) (now : Nat) (key : String) :
    Option (String × Nat) :=
  if key = "" ∨ (¬config.durable ∧ config.idempotencyWindowSeconds = 0) then none
  else some (key, now + config.idempotencyWindowSeconds)

/-! ## Negotiation -/

/-- A contract to deliver: a new one, or the one that the key was bound to. -/
structure Deal where
  synthesisId : String
  plan : SynthesisPlan

def available
    (server : Server (EndpointHandler App) (MethodHandler App)) :
    List AvailableMethod :=
  availableMethods server.methods ++
    server.endpoints.entries.entries.map fun entry =>
      ⟨entry.2.1.name, entry.2.1.parameters⟩

def proposal (method path : String) : Proposal where
  name := upper method
  path := some path
  requiredParams := []
  body := []

/-- Compose a plan for the pair and instantiate it. -/
def negotiate (server : Server (EndpointHandler App) (MethodHandler App))
    (mode : RcnsMode) (agent : AgentDocument) (key method path : String) :
    Serving App (Except Response Deal) :=
  andThen (if server.rcns.durable then result .unit
    else emit (.bookkeeping (.record agent.agentId))) fun _ =>
  match attemptSynthesis server.synthesis.policies server.synthesis.maxDepth
      (proposal method path) (available server) with
  | none =>
      andThen (refuseAttempt "composition-impossible"
        (s!"no composition policy could fulfill {method} {path} from the server's " ++
         "available methods") method path []) fun response =>
        result (.error response)
  | some plan =>
      andThen read fun state =>
      andThen (emit (.negotiated {
        agentId := agent.agentId
        method := upper method
        path := path
        plan := plan
        origin := RcnsMode.origin mode
        binding := binding server.rcns state.now key })) fun _ =>
        result (.ok ⟨Tokens.synthesisId state.drawn, plan⟩)

/-- The contract that the key is bound to while it is active, or else a new
one. -/
def obtain (server : Server (EndpointHandler App) (MethodHandler App))
    (mode : RcnsMode) (agent : AgentDocument) (key method path : String) :
    Serving App (Except Response Deal) :=
  andThen (lookupKey server.rcns agent.agentId key) fun
    | none => negotiate server mode agent key method path
    | some cached =>
        andThen (getPlan cached) fun
          | some plan => result (.ok ⟨cached, plan⟩)
          | none => negotiate server mode agent key method path

/-! ## Delivery -/

def answerOf (deal : Deal) (method path : String) : Answer where
  synthesisId := deal.synthesisId
  method := upper method
  path := path
  contract := contractMembers (upper method) path deal.plan

def deliver (next : Dispatcher App) (mode : RcnsMode) (request : Request)
    (agent : AgentDocument) (method path : String) (deal : Deal) :
    Serving App Response :=
  let answer := answerOf deal method path
  andThen (emit (.answered answer)) fun _ =>
  match mode with
  | .confirm =>
      result (Status.rcnsContractAvailable answer.contract deal.synthesisId)
  | .optimistic =>
      andThen (execute next deal.synthesisId request agent) fun response =>
        result { response with
          headers := Dict.setEntries "Contract-Synthesized" deal.synthesisId
            response.headers }

def negotiateAndDeliver (next : Dispatcher App)
    (server : Server (EndpointHandler App) (MethodHandler App)) (mode : RcnsMode)
    (request : Request) (agent : AgentDocument) (method path : String) :
    Serving App Response :=
  andThen (limited server.rcns agent.agentId) fun
    | true =>
        result (rateLimited server.rcns.maxNegotiationsPerMinute method path).toResponse
    | false =>
        andThen (obtain server mode agent (Wire.readIdempotencyKey request.headers)
          method path) fun
          | .error response => result response
          | .ok deal => deliver next mode request agent method path deal

def tryRcns (next : Dispatcher App)
    (server : Server (EndpointHandler App) (MethodHandler App))
    (request : Request) (agent : AgentDocument) (method path : String) :
    Serving App (Option Response) :=
  match server.rcns.enabled, parseAllowRcns request.headers with
  | true, some mode =>
      andThen (
        if server.rcns.requireVerifiedIdentity ∧ request.verifiedCert.isNone then
          refuseAttempt "identity-unverified"
            ("RCNS negotiation requires a verified mTLS client certificate on this " ++
             "server ([policies.rcns].require_verified_identity = true)")
            method path []
        else if ¬agent.requires.scopes.contains "rcns:negotiate" then
          result (scopeRequired method path).toResponse
        else if server.rcns.minTrustTier < agent.trustTier then
          refuseAttempt "trust-tier-insufficient"
            (s!"RCNS requires trust_tier <= {server.rcns.minTrustTier}; agent's " ++
             s!"resolved trust_tier is {agent.trustTier}")
            method path
            [("min_trust_tier", .int server.rcns.minTrustTier),
              ("agent_trust_tier", .int agent.trustTier)]
        else negotiateAndDeliver next server mode request agent method path)
        fun response => result (some response)
  | _, _ => result none

end Rcns

end Agtp
