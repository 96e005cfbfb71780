import Agtp.Server.Gates

/-! # Connections

`handle_connection` up to the dispatcher: identity binding, agent addressing by
name, the coordinator hooks, the manifest and the choice of the agent. -/

namespace Agtp.Connection

/-- The peer's certificate, once the verifier has looked at it. -/
inductive PeerCertificate where
  | absent
  | rejected (message detail : String)
  | verified (cert : VerifiedCert)

inductive HookAnswer where
  | served
  | refused (error : ErrorResponse)

/-- Presence, name service and routing overlay. Each hook answers the requests
that it owns and leaves the others alone. -/
abbrev Hooks := List (Request → Option HookAnswer)

def coordinatorMethods : List String := [
  "ANNOUNCE", "WITHDRAW", "PROBE", "DISCOVER", "PUBLISH", "REPLICATE", "RESOLVE",
  "REGISTER", "DEREGISTER", "LOCATE", "PING"]

/-- What becomes of a request. An answer is audited for the agent that the
request names when it is finalized. -/
inductive Outcome where
  | refused (refusal : Refusal)
  | answered (request : Request)
  | dispatched (request : Request) (agent : AgentDocument)

def auditAgentId [TextCase] (request : Request) : String :=
  Wire.readAgentId request.headers

def refuse (status : Nat) (statusText code detail : String)
    (extra : List (String × Json)) : Refusal :=
  .answer (Status.errorResponse status statusText code detail extra)

variable [TextCase] [TextOf] {EndpointHandler MethodHandler : Type}

/-! ## Identity binding -/

structure Identified where
  request : Request
  target : String

def crossCheckAgentId (cert : VerifiedCert) (presented : String) :
    Option Refusal :=
  if lower presented ≠ lower cert.agentId then
    some (refuse 401 "Unauthorized" "agent-id-mismatch"
      (s!"Agent-ID header {TextOf.quoted presented} does not match cert-derived " ++
       s!"identity {TextOf.quoted cert.agentId}; the agent presented a cert for a " ++
       "different identity")
      [("detail", .string "agent-id-mismatch")])
  else none

omit [TextCase] in
def crossCheckPrincipalId (cert : VerifiedCert) (presented : String) :
    Option Refusal :=
  if presented ≠ "" ∧ cert.principalId ≠ "" ∧
      Text.strip presented ≠ Text.strip cert.principalId then
    some (refuse 401 "Unauthorized" "principal-id-mismatch"
      (s!"Principal-ID header {TextOf.quoted presented} does not match the cert's " ++
       s!"principal-id extension {TextOf.quoted cert.principalId}; refuse per " ++
       "AGTP-CERT §5.1")
      [("detail", .string "principal-id-mismatch")])
  else none

def withAgentId (request : Request) (agentId : String) : Request :=
  { request with headers := request.headers.set "Agent-ID" agentId }

/-- A verified certificate must agree with the headers. Where they name no
agent, the certificate's agent id is written into them. -/
def bindIdentity (server : Server EndpointHandler MethodHandler)
    (peer : PeerCertificate) (request : Request) : Except Refusal Identified :=
  let presented := Wire.readAgentId request.headers
  match peer with
  | .absent => .ok ⟨{ request with verifiedCert := none }, presented⟩
  | .rejected message detail =>
      .error (refuse 401 "Unauthorized" "cert-verification-failed"
        s!"client cert verification failed: {message}" [("detail", .string detail)])
  | .verified cert =>
      let bound := { request with verifiedCert := some cert }
      let mismatch :=
        if server.requireAgentIdMatch ∧ presented ≠ "" then
          crossCheckAgentId cert presented
        else none
      match mismatch,
          crossCheckPrincipalId cert (Wire.header request.headers "Principal-ID") with
      | some refusal, _ => .error refusal
      | none, some refusal => .error refusal
      | none, none =>
          if presented = "" then
            .ok ⟨withAgentId bound cert.agentId, cert.agentId⟩
          else .ok ⟨bound, presented⟩

def delegationGate (request : Request) : Option Refusal :=
  if Wire.header request.headers "Delegation-Chain" ≠ "" then
    some (.answer {
      status := 501
      statusText := "Not Implemented"
      error := [("code", .string "delegation-not-supported"),
        ("message", .string ("the Delegation-Chain header is reserved for future " ++
                             "AGTP revisions; this server (v00) does not support delegated " ++
                             "authority. The header is documented in agtp §10 Future Work."))] })
  else none

/-! ## Agents addressed by name -/

omit [TextCase] [TextOf] in
/-- The name in a path `/agents/NAME`. -/
def agentHandle (path : String) : Option String :=
  let alphanumeric (character : Char) : Bool :=
    character.isAlphanum
  let continues (character : Char) : Bool :=
    alphanumeric character || character == '.' || character == '_' ||
      character == '-'
  match path.toList.splitAt 8 with
  | (front, first :: rest) =>
      if String.ofList front = "/agents/" ∧ alphanumeric first ∧
          rest.all continues then
        some (String.ofList (first :: rest))
      else none
  | _ => none

example : agentHandle "/agents/scout-2" = some "scout-2" := by decide

def resolveHandle (registry : AgentRegistry) (identified : Identified) :
    Except Refusal Identified :=
  match agentHandle identified.request.path with
  | none => .ok identified
  | some handle =>
      match registry.agents.entries.find? fun entry =>
          lower entry.2.name = lower handle with
      | none =>
          .error (refuse 404 "Not Found" "agent-handle-not-found"
            s!"no agent with name {TextOf.quoted handle} hosted at this server"
            [("handle", .string handle)])
      | some (_, resolved) =>
          if identified.target ≠ "" ∧ identified.target ≠ resolved.agentId then
            .error (refuse 400 "Bad Request" "agent-identity-mismatch"
              (s!"Agent-ID header {TextOf.quoted identified.target} does not match " ++
               s!"the agent resolved from path /agents/{handle} " ++
               s!"({TextOf.quoted resolved.agentId})") [])
          else
            .ok ⟨{ withAgentId identified.request resolved.agentId with path := "/" },
              resolved.agentId⟩

/-! ## The agent dispatched against -/

def selectTarget (registry : AgentRegistry) (request : Request) :
    Except Refusal AgentDocument :=
  let target := Wire.readAgentId request.headers
  if target = "" then
    match registry.listIds with
    | [only] =>
        match registry.lookup only with
        | some agent => .ok agent
        | none => .error .crash
    | _ =>
        .error (refuse 400 "Bad Request" "missing-agent-id"
          "Agent-ID header required when server hosts multiple agents" [])
  else
    match registry.lookup target with
    | some agent => .ok agent
    | none =>
        .error (refuse 404 "Not Found" "agent-not-found"
          s!"no agent with id {target} on this server" [])

def serveManifest (server : Server EndpointHandler MethodHandler)
    (request : Request) : Outcome :=
  if server.anonymousDiscovery ∨
      Wire.header request.headers "Agent-Identity" ≠ "" then
    .answered request
  else .refused (.answer Status.anonymousDiscoveryDisabled)

def softDenied (server : Server EndpointHandler MethodHandler)
    (isSynthesis : String → Bool) (request : Request) (agent : AgentDocument) :
    Option ErrorResponse :=
  let synthesisId := Wire.readSynthesisId request.headers
  if server.softDenyEnabled ∧ ¬(synthesisId ≠ "" ∧ isSynthesis synthesisId) then
    softDenyCheck server (upper request.method) agent
  else none

def hookAnswer (hooks : Hooks) (request : Request) : Option HookAnswer :=
  hooks.findSome? fun hook => hook request

def OwnMethods (hooks : Hooks) : Prop :=
  ∀ hook ∈ hooks, ∀ request, upper request.method ∉ coordinatorMethods →
    hook request = none

omit [TextOf] in
theorem hookAnswer_none {hooks : Hooks} (own : OwnMethods hooks) {request : Request}
    (other : upper request.method ∉ coordinatorMethods) :
    hookAnswer hooks request = none := by
  apply List.findSome?_eq_none_iff.mpr
  intro hook member
  exact own hook member request other

/-- From the hooks on, for a request whose headers name `target`. -/
def route (server : Server EndpointHandler MethodHandler) (hooks : Hooks)
    (registry : AgentRegistry) (isSynthesis : String → Bool) (target : String)
    (request : Request) : Outcome :=
  match hookAnswer hooks request with
  | some .served => .answered request
  | some (.refused error) => .refused (.answer error)
  | none =>
      if upper request.method = "DISCOVER" ∧ target = "" then
        serveManifest server request
      else
        match selectTarget registry request with
        | .error refusal => .refused refusal
        | .ok agent =>
            match softDenied server isSynthesis request agent with
            | some refusal => .refused (.answer refusal)
            | none => .dispatched request agent

/-- One request of a connection. -/
def handle (server : Server EndpointHandler MethodHandler) (hooks : Hooks)
    (registry : AgentRegistry) (isSynthesis : String → Bool)
    (peer : PeerCertificate) (request : Request) : Outcome :=
  match bindIdentity server peer request with
  | .error refusal => .refused refusal
  | .ok identified =>
      match delegationGate identified.request with
      | some refusal => .refused refusal
      | none =>
          match resolveHandle registry identified with
          | .error refusal => .refused refusal
          | .ok addressed =>
              route server hooks registry isSynthesis addressed.target
                addressed.request

def listen [UrlText] (server : Server EndpointHandler MethodHandler) (hooks : Hooks)
    (registry : AgentRegistry) (isSynthesis : String → Bool) (peer : PeerCertificate)
    (wire : WireRequest) : Outcome :=
  match Wire.receive wire with
  | .error message =>
      .refused (refuse 400 "Bad Request" "invalid-wire-format" message [])
  | .ok request => handle server hooks registry isSynthesis peer request

end Agtp.Connection
