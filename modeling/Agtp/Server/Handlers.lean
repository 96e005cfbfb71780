import Agtp.Server.Execution

/-! # Handlers of the embedded methods

The handlers that read or change the table of active syntheses: `SUSPEND`,
`REVOKE`, `INSPECT` and `PROPOSE`. -/

namespace Agtp

/-- Times as the responses print them. A time that is out of range has no
print. -/
class Clock where
  timestamp : Nat → String
  offset : Nat → Int → Option String

namespace PlainServing

scoped instance : Clock where
  timestamp := fun time => toString time
  offset := fun time _ => some (toString time)

end PlainServing

def AgentDocument.isOperator (agent : AgentDocument) : Bool :=
  agent.requires.scopes.contains "inspect:all"

namespace Serving

open Computation

variable {App : Type} [TextCase] [TextOf] [BodyCodec] [Digest] [ContractCodec]
  [Tokens]

def refuse (refusal : Refusal) : Serving App Response :=
  match refusal with
  | .answer response => result response.toResponse
  | .crash => raise

omit [TextCase] [Digest] [ContractCodec] [Tokens] in
def withBody (request : Request)
    (next : List (String × Json) → Serving App Response) : Serving App Response :=
  match parseBody request with
  | .error refusal => refuse refusal
  | .ok params => next params

/-! ## SUSPEND -/

/-- Whoever sends the request, the named synthesis is expired. The result is
its id, if it was known. -/
def release (agent : AgentDocument) (named : Json) :
    Serving App (Option String) :=
  if named.truthy then
    andThen (getPlan named.str) fun _ =>
    andThen read fun state =>
    andThen (emit (.suspended agent named.str)) fun _ =>
      result (if state.runtime.isKnown named.str then some named.str else none)
  else result none

def suspend [NumberText] [Clock] (request : Request) (agent : AgentDocument) :
    Serving App Response :=
  withBody request fun params =>
    match ((Json.member params "ttl_seconds").getD (.int 3600)).toInt? with
    | none => raise
    | some ttl =>
        andThen draw fun token =>
        andThen (release agent ((Json.member params "synthesis_id").getD .null))
          fun cleared =>
        andThen read fun state =>
          match Clock.offset state.now ttl with
          | none => raise
          | some expiry =>
              result ⟨200, "OK", [], .object [
                ("method", .string "SUSPEND"),
                ("agent_id", .string agent.agentId),
                ("session_id", (Json.member params "session_id").getD
                  (.string s!"sess-{Tokens.nonce token}")),
                ("resumption_nonce", .string (Tokens.nonce token)),
                ("expires_at", .string expiry),
                ("reason", (Json.member params "reason").getD .null),
                ("synthesis_cleared", optionalText cleared),
                ("suspended_at", .string (Clock.timestamp state.now))]⟩

/-! ## REVOKE -/

def mayRevoke (agent : AgentDocument) (originator : String) : Bool :=
  originator = "" || originator = agent.agentId || agent.isOperator

def revokeContract [Clock] (params : List (String × Json))
    (agent : AgentDocument) : Serving App Response :=
  let id := Text.strip (Json.textOr params "synthesis_id" "")
  let reason := Text.strip (Json.textOr params "reason" "")
  if id = "" then
    result (Status.errorResponse 400 "Bad Request" "missing-synthesis-id"
      "REVOKE target=contract requires a synthesis_id parameter" []).toResponse
  else
    andThen (getPlan id) fun
      | none =>
          result (Status.errorResponse 404 "Not Found" "contract-not-found"
            s!"no active synthesis with id {TextOf.quoted id}"
            [("synthesis_id", .string id)]).toResponse
      | some _ =>
          andThen read fun state =>
          let originator := (state.runtime.originatingAgentId id).getD ""
          if mayRevoke agent originator then
            andThen (emit (.revoked agent id)) fun _ =>
              result ⟨200, "OK", [], .object [
                ("method", .string "REVOKE"),
                ("target", .string "contract"),
                ("synthesis_id", .string id),
                ("revoked_at", .string (Clock.timestamp state.now)),
                ("originating_agent_id",
                  optionalText (SynthesisRuntime.nonempty (some originator))),
                ("reason",
                  optionalText (SynthesisRuntime.nonempty (some reason)))]⟩
          else
            result (Status.errorResponse 403 "Forbidden" "contract-not-yours"
              ("this synthesis_id belongs to a different Agent-ID; only the " ++
               "originator or an inspect:all caller can REVOKE it")
              [("synthesis_id", .string id)]).toResponse

/-- One record of `sweep_for_policy_change`. -/
def staleRecord (runtime : SynthesisRuntime) (policies : List CompositionPolicy)
    (action : String) (entry : String × SynthesisPlan) : Json :=
  let current := policies.flatMap CompositionPolicy.recipes
  .object [
    ("synthesis_id", .string entry.1),
    ("originating_agent_id", optionalText (runtime.originatingAgentId entry.1)),
    ("contract_hash", optionalText (runtime.contractHash entry.1)),
    ("negotiation_origin", .string (runtime.negotiationOrigin entry.1)),
    ("method", .string entry.2.proposedMethod.name),
    ("path", .string entry.2.boundPath),
    ("recipe_name", optionalText entry.2.recipeName),
    ("captured_version", optionalText entry.2.recipeVersion),
    ("current_version", optionalText
      (entry.2.recipeName.bind fun name => current.reverse.lookup name)),
    ("action", .string action)]

def sweepResponse [Clock] (state : State App) (agent : AgentDocument)
    (mode : String) (records : List Json) : Response :=
  ⟨200, "OK", [], .object [
    ("method", .string "REVOKE"),
    ("target", .string "stale-contracts"),
    ("mode", .string mode),
    ("swept_at", .string (Clock.timestamp state.now)),
    ("actor_agent_id", .string agent.agentId),
    ("records", .array records),
    ("stale_count", .int records.length)]⟩

def sweepMode (onPolicyChange : String) (params : List (String × Json)) :
    String :=
  lower (Json.textOr params "mode"
    (if onPolicyChange = "" then "grandfather" else onPolicyChange))

def revokeStaleContracts [Clock] (onPolicyChange : String)
    (policies : List CompositionPolicy) (params : List (String × Json))
    (agent : AgentDocument) : Serving App Response :=
  let mode := sweepMode onPolicyChange params
  if agent.isOperator then
    andThen read fun state =>
    let stale := state.runtime.active.entries.filter fun entry =>
      SynthesisRuntime.isStale (policies.flatMap CompositionPolicy.recipes) entry.2
    let records (action : String) : List Json :=
      stale.map (staleRecord state.runtime policies action)
    if mode = "grandfather" then
      result (sweepResponse state agent mode (records "grandfathered"))
    else if mode = "invalidate" then
      andThen (emit (.swept agent policies)) fun _ =>
        result (sweepResponse state agent mode (records "evicted"))
    else
      result (Status.errorResponse 400 "Bad Request" "invalid-mode"
        s!"mode must be 'grandfather' or 'invalidate' (got {TextOf.quoted mode})"
        []).toResponse
  else
    result (Status.errorResponse 403 "Forbidden" "operator-scope-required"
      ("REVOKE target=stale-contracts requires the inspect:all scope " ++
       "(operator-only sweep)") []).toResponse

def revoke [Clock] (onPolicyChange : String) (policies : List CompositionPolicy)
    (lifecycle : Request → AgentDocument → Effect App) (request : Request)
    (agent : AgentDocument) : Serving App Response :=
  withBody request fun params =>
    let target := lower (Json.textOr params "target" "agent")
    if target = "contract" then revokeContract params agent
    else if target = "stale-contracts" then
      revokeStaleContracts onPolicyChange policies params agent
    else run (lifecycle request agent)

/-! ## INSPECT -/

/-- `handle_inspect`. The view of a contract looks its plan up, and so evicts
it when it is overdue. -/
def inspect (answer : Request → AgentDocument → Effect App) (request : Request)
    (agent : AgentDocument) : Serving App Response :=
  withBody request fun params =>
    let id := Text.strip (Json.textOr params "synthesis_id" "")
    let target := lower (((Json.member params "target").map Json.str).getD "")
    if target = "contract" ∧ id ≠ "" then
      andThen (getPlan id) fun _ => run (answer request agent)
    else run (answer request agent)

/-! ## PROPOSE -/

def availableMethods {catalog : Catalog}
    (methods : MethodRegistry catalog (MethodHandler App)) :
    List AvailableMethod :=
  methods.methods.entries.map fun entry =>
    ⟨entry.2.name, entry.2.requiredParams ++ entry.2.optionalParams⟩

def propose (config : SynthesisConfig) (available : List AvailableMethod)
    (attempt : Request → AgentDocument → State App → Option Attempt)
    (answer : Request → AgentDocument → Effect App) (request : Request)
    (agent : AgentDocument) : Serving App Response :=
  andThen read fun state =>
    match attempt request agent state with
    | none => run (answer request agent)
    | some proposed =>
        match attemptSynthesis config.policies config.maxDepth proposed.proposal
            available with
        | none => result (proposed.report none)
        | some plan =>
            andThen (emit (.proposed plan proposed.expiresAt proposed.persistent))
              fun _ => result (proposed.report
                (some (Tokens.synthesisId state.drawn, plan)))

end Serving

end Agtp
