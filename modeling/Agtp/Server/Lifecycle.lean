import Agtp.Server.AgentDirectory
import Agtp.Server.Endpoint

/-! # Lifecycle methods

`ACTIVATE`, `DEACTIVATE`, `REVOKE`, `REINSTATE` and `DEPRECATE` change the status
of a hosted agent, write its document back and record the change. -/

namespace Agtp

inductive LifecycleEvent where
  | activation
  | deactivation
  | revocation
  | reinstatement
  | deprecation
deriving DecidableEq

namespace LifecycleEvent

def type : LifecycleEvent → String
  | activation => "activate"
  | deactivation => "deactivate"
  | revocation => "revoke"
  | reinstatement => "reinstate"
  | deprecation => "deprecate"

def newStatus : LifecycleEvent → String
  | activation => "active"
  | deactivation => "suspended"
  | revocation => "retired"
  | reinstatement => "active"
  | deprecation => "deprecated"

def method : LifecycleEvent → String
  | activation => "ACTIVATE"
  | deactivation => "DEACTIVATE"
  | revocation => "REVOKE"
  | reinstatement => "REINSTATE"
  | deprecation => "DEPRECATE"

end LifecycleEvent

structure LifecycleRecord where
  event : LifecycleEvent
  previousStatus : String
  newStatus : String
  reason : String
deriving DecidableEq

/-- `[audit]`: who may call the lifecycle methods, and whether events are
recorded. -/
structure LifecycleConfig where
  auth : String
  recordsEnabled : Bool
  signing : Bool

/-- `issuer_key_fingerprint`, or the message of its error. -/
class IssuerKeys where
  fingerprint : String → Except String String

/-- The agents of a server, as they are in memory and on disk, and the lifecycle
streams by agent id. -/
structure Hosting [FloatText] where
  agents : HostedAgents
  directory : AgentDirectory
  streams : Dict String (List LifecycleRecord)

/-- A lifecycle request for an agent. The last two fields are the time and the
audit id that its answer shows. -/
structure LifecycleCall where
  agentId : String
  event : LifecycleEvent
  request : Request
  issuedAt : String
  auditId : String

namespace Lifecycle

/-! ## Authorization -/

def refusal (status : Nat) (statusText code detail : String)
    (extra : List (String × Json)) : Option Refusal :=
  some (.answer (Status.errorResponse status statusText code detail extra))

variable [TextCase] [TextOf] [BodyCodec] [IssuerKeys] [FloatText]

/-- Mode `genesis_issuer`: the caller holds the key of the agent's registrar. -/
def issuerCheck (genesis : Option Genesis) (call : LifecycleCall) :
    Option Refusal :=
  match call.request.verifiedCert, genesis with
  | none, _ =>
      refusal 401 "Unauthorized" "lifecycle-auth-no-cert"
        ("[audit].lifecycle_auth=genesis_issuer requires a verified mTLS client " ++
         s!"certificate for {call.event.method}") []
  | some _, none =>
      refusal 403 "Forbidden" "lifecycle-auth-no-genesis"
        (s!"agent {call.agentId} has no loaded Genesis; " ++
         "[audit].lifecycle_auth=genesis_issuer cannot verify the caller's authority")
        []
  | some cert, some genesis =>
      match IssuerKeys.fingerprint genesis.issuerPublicKey with
      | .error message =>
          refusal 500 "Internal Server Error" "lifecycle-auth-bad-genesis"
            ("could not derive issuer key fingerprint from agent's Genesis: " ++
             s!"{message}") []
      | .ok expected =>
          let callerKey := lower cert.agentId
          if callerKey = lower expected then none
          else
            refusal 403 "Forbidden" "lifecycle-auth-wrong-issuer"
              (s!"caller's cert key {TextOf.quoted callerKey} does not match the " ++
               s!"agent's Genesis issuer key {TextOf.quoted expected}")
              [("caller_key", .string callerKey),
                ("expected_issuer_key", .string expected)]

def authCheck (auth : String) (genesis : Option Genesis)
    (call : LifecycleCall) : Option Refusal :=
  if auth = "" ∨ auth = "open" then none
  else if auth = "genesis_issuer" then issuerCheck genesis call
  else
    refusal 500 "Internal Server Error" "lifecycle-auth-unknown-mode"
      s!"unrecognized [audit].lifecycle_auth mode: {TextOf.quoted auth}" []

def admitCall (config : LifecycleConfig) (genesis : Option Genesis)
    (call : LifecycleCall) : Except Refusal (List (String × Json)) :=
  match parseBody call.request with
  | .error refusal => .error refusal
  | .ok params =>
      match authCheck config.auth genesis call with
      | some refusal => .error refusal
      | none => .ok params

/-! ## Answers -/

def noop (call : LifecycleCall) (status : String) : Response :=
  ⟨200, "OK", [], .object [
    ("method", .string call.event.method),
    ("agent_id", .string call.agentId),
    ("noop", .bool true),
    ("status", .string status),
    ("issued_at", .string call.issuedAt)]⟩

/-- The confirmation. `auditId` is empty when no event was recorded. -/
def confirmation (call : LifecycleCall) (record : LifecycleRecord)
    (auditId : String) : Response :=
  let optional (name text : String) : List (String × Json) :=
    if text = "" then [] else [(name, .string text)]
  ⟨200, "OK", [], .object ([
    ("method", .string call.event.method),
    ("agent_id", .string call.agentId),
    ("previous_status", .string record.previousStatus),
    ("status", .string record.newStatus),
    ("event_type", .string call.event.type),
    ("issued_at", .string call.issuedAt)] ++
    optional "reason" record.reason ++ optional "audit_id" auditId)⟩

/-! ## Atomic steps -/

def setStatus (agents : HostedAgents) (agentId status : String) : HostedAgents :=
  match agents.get? agentId with
  | some agent => agents.set agentId (agent.withStatus status)
  | none => agents

def streamName (agentId : String) : Option String :=
  let name := lower (Text.strip agentId)
  if name.toList.length = 64 ∧ name.toList.all ("0123456789abcdef".toList.contains ·)
  then some name
  else none

/-- Append to an agent's stream. An agent whose id is no digest has none. -/
def append (config : LifecycleConfig)
    (streams : Dict String (List LifecycleRecord)) (agentId : String)
    (record : LifecycleRecord) : Dict String (List LifecycleRecord) :=
  match streamName agentId with
  | some name =>
      if config.recordsEnabled && config.signing then
        streams.set name ((streams.get? name).getD [] ++ [record])
      else streams
  | none => streams

/-! ## Transitions -/

def recordOf (call : LifecycleCall) (previous : String)
    (params : List (String × Json)) : LifecycleRecord where
  event := call.event
  previousStatus := previous
  newStatus := call.event.newStatus
  reason := Text.strip (Json.textOr params "reason" "")

def commit (config : LifecycleConfig) (hosting : Hosting) (agentId : String)
    (record : LifecycleRecord) : Hosting :=
  let agents := setStatus hosting.agents agentId record.newStatus
  { agents := agents
    directory := hosting.directory.persist agents agentId
    streams := append config hosting.streams agentId record }

omit [TextOf] [BodyCodec] [IssuerKeys] in
theorem agents_commit {hosting : Hosting} {agentId : String} {agent : HostedAgent}
    (held : hosting.agents.get? agentId = some agent) (config : LifecycleConfig)
    (record : LifecycleRecord) :
    (commit config hosting agentId record).agents =
      hosting.agents.set agentId (agent.withStatus record.newStatus) := by
  simp only [commit, setStatus, held]

omit [TextOf] [BodyCodec] [IssuerKeys] in
theorem directory_commit {hosting : Hosting} {agentId : String} {agent : HostedAgent}
    (held : hosting.agents.get? agentId = some agent) (config : LifecycleConfig)
    (record : LifecycleRecord) :
    (commit config hosting agentId record).directory =
      hosting.directory.write agent.path
        (agent.document.withStatus record.newStatus) := by
  simp only [commit, setStatus, held, AgentDirectory.persist, Dict.get?_set_same]
  rfl

def recorded (config : LifecycleConfig) (agentId : String) : Bool :=
  config.recordsEnabled && config.signing && (streamName agentId).isSome

def transition (config : LifecycleConfig) (call : LifecycleCall)
    (agent : HostedAgent) (hosting : Hosting) : Except Refusal Response × Hosting :=
  match admitCall config agent.genesis call with
  | .error refusal => (.error refusal, hosting)
  | .ok params =>
      let previous := agent.document.status
      if previous = call.event.newStatus then (.ok (noop call previous), hosting)
      else
        let record := recordOf call previous params
        let auditId := if recorded config call.agentId then call.auditId else ""
        (.ok (confirmation call record auditId),
          commit config hosting call.agentId record)

def serveCall (config : LifecycleConfig) (hosting : Hosting)
    (call : LifecycleCall) : Hosting :=
  match hosting.agents.get? call.agentId with
  | some agent => (transition config call agent hosting).2
  | none => hosting

def serveCalls (config : LifecycleConfig) (hosting : Hosting)
    (calls : List LifecycleCall) : Hosting :=
  calls.foldl (serveCall config) hosting

end Lifecycle

end Agtp
