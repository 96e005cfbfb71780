import Agtp.Server.GatewayRuns

/-! # The module at the other end

`GatewayClient` of `mod_python`: how a runtime module serves the requests that the gateway
sends it. A module reads one frame at a time, and writes what it has to say to it before it
reads the next. A handler may ask the daemon for services while it runs, and waits for
each. -/

namespace Agtp.Gateway

/-! ## Handlers -/

inductive CallFailure where
  | daemonError (message code : String)
  | lost
  | raised (raised : Raised)

structure OutboundResponse where
  status : Int
  headers : List (String × Json)
  body : List (String × Json)

/-- The arguments of `fetch`. A body of bytes is passed as the text it decodes to. -/
structure FetchCall where
  uri : String
  method : String
  path : String
  body : Json
  headers : List (String × String)

/-- What comes of a request. -/
inductive Handled where
  | unbound (method path : String)
  | responded (response : EndpointResponse)
  | refused (error : EndpointError)
  | misreturned (typeName : String)
  | raised (typeName text : String)

inductive HandlerRun where
  | ended (result : Handled)
  | sign (data : Bytes) (next : Except CallFailure Bytes → HandlerRun)
  | fetch (call : FetchCall) (next : Except CallFailure OutboundResponse → HandlerRun)

/-- The context that a module builds for its handler. The other fields of `EndpointContext`
have their defaults. -/
structure ModuleContext where
  input : List (String × Json)
  agentId : String
  principalId : String
  authorityScope : List Json
  sessionId : Json
  taskId : Json
  requestId : String
  method : String
  path : String
  headers : List (String × Json)
  agentVerified : Bool
  agentCertFingerprint : Json

/-! ## The client -/

/-- Whether `write_frame` takes a frame: its text is no longer than `MAX_FRAME_SIZE`. -/
class FrameLimit where
  fits : Frame → Bool

namespace PlainGateway

scoped instance : FrameLimit := ⟨fun _ => true⟩

end PlainGateway

structure GatewayClient where
  bindings : Dict (String × String) (ModuleContext → HandlerRun)
  daemonCapabilities : List Json
  drawn : Nat → String

/-- Where a module reads its next frame: in the serve loop, or in a call of the handler of
a request. -/
inductive ModuleState where
  | serving
  | signing (requestId : Json) (operationId : String)
      (next : Except CallFailure Bytes → HandlerRun)
  | fetching (requestId : Json) (operationId : String)
      (next : Except CallFailure OutboundResponse → HandlerRun)
  | ended

structure Reaction where
  written : List Frame
  state : ModuleState
  calls : Nat

def signFrame (operationId : String) (data : Bytes) : Frame := [
  ("type", .string "sign_request"),
  ("operation_id", .string operationId),
  ("data_b64", .string (String.ofList (Base64Url.encode data)))]

def fetchFrame [TextCase] (operationId : String) (call : FetchCall) : Frame := [
  ("type", .string "outbound_request"),
  ("operation_id", .string operationId),
  ("uri", .string call.uri),
  ("method", .string (upper call.method)),
  ("path", .string call.path),
  ("headers", .object (call.headers.map fun entry => (entry.1, .string entry.2))),
  ("body", call.body)]

def errorFrame (requestId : Json) (message : String) : Frame := [
  ("type", .string "error"),
  ("request_id", requestId),
  ("code", .string "handler_exception"),
  ("message", .string message)]

def responseFrame (requestId : Json) (envelope : List (String × Json)) : Frame := [
  ("type", .string "response"),
  ("request_id", requestId),
  ("envelope", .object envelope)]

def resultFrame (requestId : Json) : Handled → Frame
  | .unbound method path =>
      errorFrame requestId ("no handler bound for (" ++ method ++ ", " ++ path ++ ")")
  | .responded response => responseFrame requestId ([
      ("body", .object response.body), ("status", .int response.status)] ++
      if response.headers = [] then []
      else [("headers", .object (response.headers.map fun entry => (entry.1, .string entry.2)))])
  | .refused error => responseFrame requestId [("endpoint_error", .object [
      ("code", .string error.code),
      ("message", .string error.message),
      ("details", (error.details.bind Json.orNone).getD .null)])]
  | .misreturned typeName => errorFrame requestId
      ("handler returned " ++ typeName ++ "; expected EndpointResponse or EndpointError")
  | .raised typeName text => errorFrame requestId (typeName ++ ": " ++ text) ++
      [("details", .object [("exception_type", .string typeName)])]

section Answers

variable [TextOf]

def readAnswer {Value : Type} (operation operationId failure code : String) (frame : Frame)
    (read : Frame → Except CallFailure Value) : Except CallFailure Value :=
  if isType (operation ++ "_error") frame then
    .error (.daemonError (Json.textOr frame "message" failure) (Json.textOr frame "code" code))
  else if !isType (operation ++ "_response") frame then
    .error (.daemonError
      ("unexpected frame from daemon: type=" ++ (Json.get frame "type").repr)
      "protocol_violation")
  else if !Json.isText operationId (Json.get frame "operation_id") then
    .error (.daemonError ("operation_id mismatch: sent " ++ TextOf.quoted operationId ++
      ", got " ++ (Json.get frame "operation_id").repr) "protocol_violation")
  else read frame

def readSignature (operationId : String) (frame : Frame) : Except CallFailure Bytes :=
  readAnswer "sign" operationId "signing failed" "sign_failure" frame fun frame =>
    match Base64Url.decode (Json.textOr frame "signature_b64" "").toList with
    | some signature => .ok signature
    | none => .error (.raised .valueError)

variable [NumberText]

def outboundResponse (frame : Frame) : Except Raised OutboundResponse := do
  let some status := (Json.getOr frame "status" (.int 0)).toInt? | .error .valueError
  let headers ← (Json.getOr frame "headers" (.object [])).toDict
  let body := match Json.get frame "body" with
    | .object members => members
    | other => [("result", other)]
  return ⟨status, headers, body⟩

def readOutbound (operationId : String) (frame : Frame) : Except CallFailure OutboundResponse :=
  readAnswer "outbound" operationId "outbound call failed" "outbound_failure" frame fun frame =>
    (outboundResponse frame).mapError .raised

end Answers

namespace GatewayClient

variable [TextCase] [TextOf] [FrameLimit]

def claimed (client : GatewayClient) (capability : String) : Bool :=
  client.daemonCapabilities.any (Json.isText capability)

def send (frame : Frame) (calls : Nat) : Reaction :=
  if FrameLimit.fits frame then ⟨[frame], .serving, calls⟩ else ⟨[], .ended, calls⟩

/-- What a call writes, under the id that is drawn for it, or why it writes nothing. -/
def ask (client : GatewayClient) (capability refusal : String) (frame : String → Frame)
    (calls : Nat) : Except CallFailure (String × Frame) × Nat :=
  if !client.claimed capability then
    (.error (.daemonError refusal "capability_not_claimed"), calls)
  else
    let operationId := "op-" ++ client.drawn calls
    if FrameLimit.fits (frame operationId) then
      (.ok (operationId, frame operationId), calls + 1)
    else (.error .lost, calls + 1)

def askSign (client : GatewayClient) (data : Bytes) :
    Nat → Except CallFailure (String × Frame) × Nat :=
  client.ask "sign_request"
    "daemon did not advertise sign_request capability; enable [signing] in agtp-server.toml"
    fun operationId => signFrame operationId data

def askFetch (client : GatewayClient) (call : FetchCall) :
    Nat → Except CallFailure (String × Frame) × Nat :=
  client.ask "outbound_call" "daemon did not advertise outbound_call capability"
    fun operationId => fetchFrame operationId call

def proceed (client : GatewayClient) (requestId : Json) : HandlerRun → Nat → Reaction
  | .ended result, calls => send (resultFrame requestId result) calls
  | .sign data next, calls =>
      match client.askSign data calls with
      | (.ok (operationId, frame), later) =>
          ⟨[frame], .signing requestId operationId next, later⟩
      | (.error failure, later) => client.proceed requestId (next (.error failure)) later
  | .fetch call next, calls =>
      match client.askFetch call calls with
      | (.ok (operationId, frame), later) =>
          ⟨[frame], .fetching requestId operationId next, later⟩
      | (.error failure, later) => client.proceed requestId (next (.error failure)) later

def block (frame : Frame) (name : String) : Except Raised (List (String × Json)) :=
  match Json.getOr frame name (.object []) with
  | .object members => .ok members
  | _ => .error .attributeError

def readContext (requestId : Json) (envelope trust : List (String × Json)) :
    Except Raised ModuleContext := do
  let input ← (Json.getOr envelope "input" (.object [])).toDict
  let authorityScope ← (Json.getOr envelope "authority_scope" (.array [])).iterate
  let headers ← (Json.getOr envelope "headers" (.object [])).toDict
  return {
    input
    agentId := Json.textOr envelope "agent_id" ""
    principalId := Json.textOr envelope "principal_id" ""
    authorityScope
    sessionId := Json.get envelope "session_id"
    taskId := Json.get envelope "task_id"
    requestId := (Json.getOr envelope "request_id" requestId).str
    method := upper (Json.textOr envelope "method" "")
    path := Json.textOr envelope "path" "/"
    headers
    agentVerified := Json.textOr trust "method" "" = "agent_cert_mtls"
    agentCertFingerprint := Json.get trust "agent_cert_fingerprint" }

def readRequest (client : GatewayClient) (frame : Frame) : Except Raised HandlerRun := do
  let envelope ← block frame "envelope"
  let method := upper (Json.textOr envelope "method" "")
  let path := Json.textOr envelope "path" "/"
  match client.bindings.get? (method, path) with
  | none => return .ended (.unbound method path)
  | some handler =>
      let trust ← block frame "trust"
      let context ← readContext (Json.getOr frame "request_id" (.string "")) envelope trust
      return handler context

def handleRequest (client : GatewayClient) (frame : Frame) (calls : Nat) : Reaction :=
  match client.readRequest frame with
  | .error _ => ⟨[], .ended, calls⟩
  | .ok run => client.proceed (Json.getOr frame "request_id" (.string "")) run calls

def serve (client : GatewayClient) (frame : Frame) (calls : Nat) : Reaction :=
  if isType "goodbye" frame then ⟨[], .ended, calls⟩
  else if isType "ping" frame then
    send [("type", .string "pong"), ("nonce", .string (Json.textOr frame "nonce" ""))] calls
  else if !isType "request" frame then
    send [
      ("type", .string "error"),
      ("code", .string "phase_violation"),
      ("message", .string ("unexpected frame type " ++ (Json.get frame "type").repr))] calls
  else client.handleRequest frame calls

def received {Value : Type} (read : Frame → Except CallFailure Value) :
    Incoming → Except CallFailure Value
  | .frame frame => read frame
  | .failed _ => .error .lost
  | .raised => .error (.raised .valueError)

variable [NumberText]

def react (client : GatewayClient) : ModuleState → Incoming → Nat → Reaction
  | .serving, .frame frame, calls => client.serve frame calls
  | .serving, _, calls => ⟨[], .ended, calls⟩
  | .signing requestId operationId next, incoming, calls =>
      client.proceed requestId (next (received (readSignature operationId) incoming)) calls
  | .fetching requestId operationId next, incoming, calls =>
      client.proceed requestId (next (received (readOutbound operationId) incoming)) calls
  | .ended, _, calls => ⟨[], .ended, calls⟩

def outputs (client : GatewayClient) (state : ModuleState) (calls : Nat) :
    List Frame → List Frame
  | [] => []
  | frame :: frames =>
      let reaction := client.react state (.frame frame) calls
      reaction.written ++ client.outputs reaction.state reaction.calls frames

end GatewayClient

/-! ## What a handler sees -/

/-- What comes of a frame that answers a request, as the daemon reads it. -/
def seen : Handled → Reply
  | .unbound method path => .error {
      code := "handler_exception"
      message := "no handler bound for (" ++ method ++ ", " ++ path ++ ")"
      details := none }
  | .responded response => .response {
      body := response.body
      status := if response.status = 0 then 200 else response.status
      headers :=
        if response.headers = [] then none
        else some (.object (response.headers.map fun entry => (entry.1, .string entry.2))) }
  | .refused error => .error {
      code := if error.code = "" then "handler_exception" else error.code
      message := error.message
      details := error.details.bind Json.orNone }
  | .misreturned typeName => .error {
      code := "handler_exception"
      message := "handler returned " ++ typeName ++ "; expected EndpointResponse or EndpointError"
      details := none }
  | .raised typeName text => .error {
      code := "handler_exception"
      message := typeName ++ ": " ++ text
      details := some (.object [("exception_type", .string typeName)]) }

/-- The context of a request, as far as a module is told. -/
def shown [TextCase] (requestId : String) (context : EndpointContext) : ModuleContext where
  input := context.input
  agentId := context.agentId
  principalId := context.principalId
  authorityScope := context.authorityScope.map .string
  sessionId := textOrNull context.sessionId
  taskId := textOrNull context.taskId
  requestId := if context.requestId = "" then requestId else context.requestId
  method := upper context.method
  path := if context.path = "" then "/" else context.path
  headers := context.headers.entries.map fun entry => (entry.1, .string entry.2)
  agentVerified := (verifiedFingerprint context).isSome
  agentCertFingerprint := textOrNull (verifiedFingerprint context)

def GatewayServer.signed (server : GatewayServer) (data : Bytes) : Except CallFailure Bytes :=
  match server.signingService with
  | none => .error (.daemonError
      "daemon has no signing service configured; set [signing].enabled in agtp-server.toml"
      "signing_unavailable")
  | some service => .ok (service.sign data)

section Upstreams

variable [TextCase] [TextOf] [BodyCodec] [OutboundClient]

def outboundBodyOf (upstream : Upstream) : Except CallFailure (List (String × Json)) :=
  if upstream.body = [] then .ok [("result", .null)]
  else
    match BodyCodec.loadsStrict upstream.body with
    | some (.object members) => .ok members
    | some other => .ok [("result", other)]
    | none => .error (.daemonError "upstream returned non-JSON body" "upstream_malformed")

/-- `fetch`, as the daemon does it. -/
def fetched (call : FetchCall) : Except CallFailure OutboundResponse :=
  if call.uri = "" then
    .error (.daemonError "outbound_request requires a non-empty uri" "outbound_failure")
  else
    match OutboundClient.importError with
    | some reason =>
        .error (.daemonError ("AGTP client unavailable: " ++ reason) "outbound_failure")
    | none =>
        match (callFetch {
            uri := call.uri
            method := upper (if upper call.method = "" then "QUERY" else upper call.method)
            path := if call.path = "" then "/" else call.path
            headers := call.headers.map fun entry => (entry.1, .string entry.2)
            body := outboundBody call.body }).1 with
        | .error reason =>
            .error (.daemonError ("upstream call failed: " ++ reason) "upstream_unreachable")
        | .ok upstream =>
            (outboundBodyOf upstream).map fun body => ⟨upstream.status, upstream.headers, body⟩

variable [FrameLimit]

/-- What a handler ends with where the daemon's services are functions that it calls. -/
def HandlerRun.direct (server : GatewayServer) (client : GatewayClient) :
    HandlerRun → Nat → Handled
  | .ended result, _ => result
  | .sign data next, calls =>
      match client.askSign data calls with
      | (.ok _, later) => direct server client (next (server.signed data)) later
      | (.error failure, later) => direct server client (next (.error failure)) later
  | .fetch call next, calls =>
      match client.askFetch call calls with
      | (.ok _, later) => direct server client (next (fetched call)) later
      | (.error failure, later) => direct server client (next (.error failure)) later

end Upstreams

def GatewayClient.runOf [TextCase] (client : GatewayClient) (requestId : String)
    (context : EndpointContext) : HandlerRun :=
  let context := shown requestId context
  match client.bindings.get? (context.method, context.path) with
  | none => .ended (.unbound context.method context.path)
  | some handler => handler context

/-! ## Frames are read as they are written -/

section Reading

theorem getOr_object {members : List (String × Json)} {name : String}
    (fields : List (String × Json))
    (found : Json.member members name = some (.object fields)) :
    Json.getOr members name (.object []) = .object fields := by
  rw [Json.getOr, found]
  cases fields <;> rfl

theorem getOr_array {members : List (String × Json)} {name : String} (values : List Json)
    (found : Json.member members name = some (.array values)) :
    Json.getOr members name (.array []) = .array values := by
  rw [Json.getOr, found]
  cases values <;> rfl

variable [TextOf]

theorem textOr_string {members : List (String × Json)} {name default : String} (text : String)
    (found : Json.member members name = some (.string text)) :
    Json.textOr members name default = if text = "" then default else text := by
  rw [Json.textOr, found]
  by_cases blank : text = ""
  · rw [if_pos blank, blank]
    rfl
  · rw [if_neg blank]
    simp [Json.truthy, Json.str, blank]

theorem textOr_blank {members : List (String × Json)} {name : String} (text : String)
    (found : Json.member members name = some (.string text)) :
    Json.textOr members name "" = text := by
  rw [textOr_string text found]
  split
  · next blank => exact blank.symm
  · rfl

variable [TextCase]

theorem readContext_requestFrame (requestId : String) (context : EndpointContext) :
    GatewayClient.readContext (.string requestId) (requestEnvelope context)
      (trustBlock context) = .ok (shown requestId context) := by
  have input : Json.getOr (requestEnvelope context) "input" (.object []) =
      .object context.input :=
    getOr_object _ (by simp [requestEnvelope, Json.member_cons])
  have headers : Json.getOr (requestEnvelope context) "headers" (.object []) =
      .object (context.headers.entries.map fun entry => (entry.1, .string entry.2)) :=
    getOr_object _ (by simp [requestEnvelope, Json.member_cons])
  have scopes : Json.getOr (requestEnvelope context) "authority_scope" (.array []) =
      .array (context.authorityScope.map .string) :=
    getOr_array _ (by simp [requestEnvelope, Json.member_cons, Status.texts])
  have own : (Json.getOr (requestEnvelope context) "request_id" (.string requestId)).str =
      if context.requestId = "" then requestId else context.requestId := by
    rw [Json.getOr, show Json.member (requestEnvelope context) "request_id" =
      some (.string context.requestId) by simp [requestEnvelope, Json.member_cons]]
    by_cases blank : context.requestId = "" <;> simp [Json.truthy, Json.str, blank]
  have trusted : (Json.textOr (trustBlock context) "method" "" = "agent_cert_mtls") =
      ((verifiedFingerprint context).isSome = true) := by
    unfold trustBlock
    cases verifiedFingerprint context <;>
      simp [Json.textOr, Json.member_cons, Json.truthy, Json.str]
  have fingerprint : Json.get (trustBlock context) "agent_cert_fingerprint" =
      textOrNull (verifiedFingerprint context) := by
    unfold trustBlock
    cases verifiedFingerprint context <;> simp [Json.get, Json.member_cons, textOrNull]
  have method : Json.textOr (requestEnvelope context) "method" "" = context.method :=
    textOr_blank _ (by simp [requestEnvelope])
  unfold GatewayClient.readContext
  rw [input, headers, scopes, own, fingerprint, method]
  simp only [Json.toDict, Json.iterate, bind, Except.bind, pure, Except.pure, shown, trusted,
    Bool.decide_eq_true]
  simp [requestEnvelope, Json.textOr, Json.get, Json.member_cons, Json.truthy, Json.str]

omit [TextOf] [TextCase] in
theorem getOr_requestFrame (requestId : String) (context : EndpointContext) :
    Json.getOr (requestFrame requestId context) "request_id" (.string "") =
      .string requestId := by
  by_cases blank : requestId = "" <;>
    simp [Json.getOr, requestFrame, Json.member_cons, Json.truthy, blank]

theorem readRequest_requestFrame (client : GatewayClient) (requestId : String)
    (context : EndpointContext) :
    client.readRequest (requestFrame requestId context) =
      .ok (client.runOf requestId context) := by
  have envelope : GatewayClient.block (requestFrame requestId context) "envelope" =
      .ok (requestEnvelope context) := by
    rw [GatewayClient.block, getOr_object _ (show Json.member (requestFrame requestId context)
      "envelope" = some (.object (requestEnvelope context)) by
        simp [requestFrame, Json.member_cons])]
  have trust : GatewayClient.block (requestFrame requestId context) "trust" =
      .ok (trustBlock context) := by
    rw [GatewayClient.block, getOr_object _ (show Json.member (requestFrame requestId context)
      "trust" = some (.object (trustBlock context)) by simp [requestFrame, Json.member_cons])]
  have method : Json.textOr (requestEnvelope context) "method" "" = context.method :=
    textOr_blank _ (by simp [requestEnvelope])
  have path : Json.textOr (requestEnvelope context) "path" "/" =
      if context.path = "" then "/" else context.path :=
    textOr_string _ (by simp [requestEnvelope, Json.member_cons])
  unfold GatewayClient.readRequest GatewayClient.runOf
  simp only [envelope, trust, getOr_requestFrame, method, path, readContext_requestFrame, bind,
    Except.bind, pure, Except.pure]
  split <;> simp only [shown, *]

theorem serve_requestFrame [FrameLimit] (client : GatewayClient) (requestId : String)
    (context : EndpointContext) (calls : Nat) :
    client.serve (requestFrame requestId context) calls =
      client.proceed (.string requestId) (client.runOf requestId context) calls := by
  have served : client.serve (requestFrame requestId context) calls =
      client.handleRequest (requestFrame requestId context) calls := rfl
  rw [served, GatewayClient.handleRequest, readRequest_requestFrame, getOr_requestFrame]

omit [TextOf] [TextCase] in
theorem isFinal_resultFrame (requestId : String) (result : Handled) :
    isFinal requestId (resultFrame (.string requestId) result) = true := by
  cases result <;>
    simp [resultFrame, errorFrame, responseFrame, isFinal, isType, belongsTo, Json.get,
      Json.member_cons, Json.isText]

def envelopeOf (response : EndpointResponse) : List (String × Json) :=
  [("body", .object response.body), ("status", .int response.status)] ++
    if response.headers = [] then []
    else [("headers", .object (response.headers.map fun entry => (entry.1, .string entry.2)))]

omit [TextCase] in
theorem decode_envelopeOf [NumberText] (response : EndpointResponse) {frame : Frame}
    (envelope : Json.member frame "envelope" = some (.object (envelopeOf response))) :
    decodeEnvelope frame = .ok (seen (.responded response)) := by
  have body : Json.getOr (envelopeOf response) "body" (.object []) = .object response.body :=
    getOr_object _ (by simp [envelopeOf])
  have status : (Json.getOr (envelopeOf response) "status" (.int 200)).toInt? =
      some (if response.status = 0 then 200 else response.status) := by
    by_cases zero : response.status = 0 <;>
      simp [envelopeOf, Json.getOr, Json.member_cons, Json.truthy, Json.toInt?, zero]
  have headers : (Json.get (envelopeOf response) "headers").orNone =
      if response.headers = [] then none
      else some (.object (response.headers.map fun entry => (entry.1, .string entry.2))) := by
    by_cases bare : response.headers = [] <;>
      simp [envelopeOf, Json.get, Json.member_cons, Json.orNone, Json.truthy, bare]
  have plain : Json.member (envelopeOf response) "endpoint_error" = none := by
    by_cases bare : response.headers = [] <;> simp [envelopeOf, Json.member_cons, bare]
  rw [decodeEnvelope, getOr_object _ envelope]
  simp [plain, body, status, headers, Json.toDict, seen, bind, Except.bind, pure, Except.pure]

omit [TextCase] in
theorem decode_resultFrame [NumberText] (requestId : String) (result : Handled) :
    decodeResponseFrame (resultFrame (.string requestId) result) requestId =
      .ok (seen result) := by
  cases result with
  | refused error =>
      have response : decodeResponseFrame (resultFrame (.string requestId) (.refused error))
          requestId = decodeEnvelope (resultFrame (.string requestId) (.refused error)) := by
        simp [decodeResponseFrame, resultFrame, responseFrame, isType, belongsTo, Json.get,
          Json.member_cons, Json.isText]
      rw [response, decodeEnvelope, resultFrame, getOr_object _ (show Json.member _ "envelope" =
        some (.object _) by rw [responseFrame]; simp [Json.member_cons]; rfl)]
      have kept : ((error.details.bind Json.orNone).getD .null).orNone =
          error.details.bind Json.orNone := by
        cases given : error.details.bind Json.orNone with
        | none => rfl
        | some details =>
            rcases Option.bind_eq_some_iff.mp given with ⟨whole, -, same⟩
            rw [Option.getD_some]
            unfold Json.orNone at same ⊢
            split at same
            · next holds =>
                cases same
                exact if_pos holds
            · cases same
      simp [endpointError, seen, Json.getOr, Json.get, Json.member_cons, Json.textOr,
        Json.truthy, Json.str, kept, pure, Except.pure]
  | responded response =>
      have received : decodeResponseFrame (resultFrame (.string requestId) (.responded response))
          requestId = decodeEnvelope (resultFrame (.string requestId) (.responded response)) := by
        simp [decodeResponseFrame, resultFrame, responseFrame, isType, belongsTo, Json.get,
          Json.member_cons, Json.isText]
      rw [received]
      exact decode_envelopeOf response (by simp [resultFrame, responseFrame, envelopeOf,
        Json.member_cons])
  | _ =>
      simp [decodeResponseFrame, resultFrame, errorFrame, seen, isType, endpointError, Json.get,
        Json.member_cons, Json.isText, Json.textOr, Json.truthy, Json.str, Json.orNone]

end Reading

/-! ## Calls are answered as they are asked -/

section Calls

theorem append_ne {front : String} (some : front ≠ "") (back : String) : front ++ back ≠ "" := by
  intro blank
  exact some (String.append_eq_empty_iff.mp blank).1

theorem getOr_int {members : List (String × Json)} {name : String} (number : Int)
    (found : Json.member members name = some (.int number)) :
    Json.getOr members name (.int 0) = .int number := by
  rw [Json.getOr, found]
  by_cases zero : number = 0 <;> simp [Json.truthy, zero]

variable [TextOf]

theorem readAnswer_operationError {Value : Type} (operation operationId failure default : String)
    {code message : String} (coded : code ≠ "") (told : message ≠ "")
    (extra : List (String × Json)) (read : Frame → Except CallFailure Value) :
    readAnswer operation operationId failure default
      (operationError (operation ++ "_error") operationId code message ++ extra) read =
        .error (.daemonError message code) := by
  have type : isType (operation ++ "_error")
      (operationError (operation ++ "_error") operationId code message ++ extra) = true := by
    simp [isType, operationError, Json.get, Json.isText]
  rw [readAnswer, if_pos type,
    textOr_string message (by simp [operationError, Json.member_cons]), if_neg told,
    textOr_string code (by simp [operationError, Json.member_cons]), if_neg coded]

theorem readAnswer_response {Value : Type} (operation operationId failure default : String)
    {frame : Frame} (type : Json.get frame "type" = .string (operation ++ "_response"))
    (own : Json.get frame "operation_id" = .string operationId)
    (read : Frame → Except CallFailure Value) :
    readAnswer operation operationId failure default frame read = read frame := by
  have other : isType (operation ++ "_error") frame = false := by
    simp [isType, type, Json.isText]
  have response : isType (operation ++ "_response") frame = true := by
    simp [isType, type, Json.isText]
  rw [readAnswer, other, response, own]
  simp [Json.isText]

theorem readSignature_answer [DecoderText] (server : GatewayServer) (operationId : String)
    (data : Bytes) :
    readSignature operationId
      (handleSignRequest server.signingService (signFrame operationId data)).answer =
        server.signed data := by
  have id : Json.textOr (signFrame operationId data) "operation_id" "" = operationId :=
    textOr_blank _ (by simp [signFrame, Json.member_cons])
  have text : Json.textOr (signFrame operationId data) "data_b64" "" =
      String.ofList (Base64Url.encode data) :=
    textOr_blank _ (by simp [signFrame, Json.member_cons])
  unfold handleSignRequest GatewayServer.signed readSignature
  cases server.signingService with
  | none =>
      rw [id]
      exact readAnswer_operationError "sign" operationId "signing failed" "sign_failure"
        (by decide) (by decide) [] _
  | some service =>
      simp only [id, text, String.toList_ofList, Base64Url.decode_encode]
      rw [readAnswer_response "sign" operationId _ _ rfl rfl,
        textOr_blank (String.ofList (Base64Url.encode (service.sign data)))
          (by simp [Json.member_cons])]
      simp only [String.toList_ofList, Base64Url.decode_encode]

variable [BodyCodec] [NumberText]

theorem readOutbound_upstreamAnswer (operationId uri : String) (upstream : Upstream) :
    readOutbound operationId (upstreamAnswer operationId uri upstream) =
      (outboundBodyOf upstream).map fun body => ⟨upstream.status, upstream.headers, body⟩ := by
  have answered (body : Json) : readOutbound operationId [
      ("type", .string "outbound_response"),
      ("operation_id", .string operationId),
      ("status", .int upstream.status),
      ("headers", .object upstream.headers),
      ("body", body)] = .ok ⟨upstream.status, upstream.headers, match body with
        | .object members => members
        | other => [("result", other)]⟩ := by
    rw [readOutbound, readAnswer_response "outbound" operationId _ _ rfl rfl, outboundResponse]
    rw [getOr_int upstream.status (by simp [Json.member_cons]),
      getOr_object upstream.headers (by simp [Json.member_cons])]
    simp only [Json.toInt?, Json.toDict, Json.get, Json.member_cons]
    cases body <;> rfl
  unfold upstreamAnswer outboundBodyOf
  split
  · exact answered .null
  · cases BodyCodec.loadsStrict upstream.body with
    | none =>
        exact readAnswer_operationError "outbound" operationId "outbound call failed"
          "outbound_failure" (by decide) (by decide) _ _
    | some body =>
        refine (answered body).trans ?_
        cases body <;> rfl

variable [TextCase] [OutboundClient] [DecoderText]

theorem readOutbound_answer (server : GatewayServer) (operationId : String) (call : FetchCall) :
    ∃ service, server.serve (fetchFrame operationId call) = some (.ok service) ∧
      readOutbound operationId service.answer = fetched call := by
  have served : server.serve (fetchFrame operationId call) =
      some (handleOutboundRequest (fetchFrame operationId call)) := rfl
  rw [served]
  have id : Json.textOr (fetchFrame operationId call) "operation_id" "" = operationId :=
    textOr_blank _ (by simp [fetchFrame, Json.member_cons])
  have uri : Json.textOr (fetchFrame operationId call) "uri" "" = call.uri :=
    textOr_blank _ (by simp [fetchFrame, Json.member_cons])
  have headers : Json.getOr (fetchFrame operationId call) "headers" (.object []) =
      .object (call.headers.map fun entry => (entry.1, .string entry.2)) :=
    getOr_object _ (by simp [fetchFrame, Json.member_cons])
  have method : Json.textOr (fetchFrame operationId call) "method" "QUERY" =
      if upper call.method = "" then "QUERY" else upper call.method :=
    textOr_string _ (by simp [fetchFrame, Json.member_cons])
  have path : Json.textOr (fetchFrame operationId call) "path" "/" =
      if call.path = "" then "/" else call.path :=
    textOr_string _ (by simp [fetchFrame, Json.member_cons])
  have body : Json.get (fetchFrame operationId call) "body" = call.body := by
    simp [fetchFrame, Json.get, Json.member_cons]
  unfold handleOutboundRequest fetched
  simp only [id, uri, headers, method, path, body, Json.toDict, bind, Except.bind, pure,
    Except.pure]
  split
  · exact ⟨_, rfl, readAnswer_operationError "outbound" operationId "outbound call failed"
      "outbound_failure" (by decide) (by decide) [] _⟩
  · cases OutboundClient.importError with
    | some reason =>
        exact ⟨_, rfl, readAnswer_operationError "outbound" operationId "outbound call failed"
          "outbound_failure" (by decide) (append_ne (by decide) reason) [] _⟩
    | none =>
        generalize callFetch _ = outcome
        rcases outcome with ⟨reason | upstream, performed⟩
        · exact ⟨_, rfl, readAnswer_operationError "outbound" operationId "outbound call failed"
            "outbound_failure" (by decide) (append_ne (by decide) reason) [] _⟩
        · exact ⟨_, rfl, readOutbound_upstreamAnswer operationId call.uri upstream⟩

end Calls

/-! ## A connection with a client at its other end -/

/-- What the socket delivers of what a module writes: all of it, or, where the delivery may
be cut, some of it from the front on, and then the connection may fail. -/
inductive Arrives (cut : Prop) : List Incoming → List Frame → Prop
  | done : Arrives cut [] []
  | stops (stopped : cut) (frames : List Frame) : Arrives cut [] frames
  | fails (stopped : cut) (reason : String) (rest : List Incoming) (frames : List Frame) :
      Arrives cut (.failed reason :: rest) frames
  | next (frame : Frame) {incoming : List Incoming} {frames : List Frame}
      (later : Arrives cut incoming frames) :
      Arrives cut (.frame frame :: incoming) (frame :: frames)

theorem arrives_all (cut : Prop) (frames : List Frame) :
    Arrives cut (frames.map .frame) frames := by
  induction frames with
  | nil => exact .done
  | cons frame later induction => exact .next frame induction

theorem exists_of_suffix {frame : Frame} {frames written : List Frame}
    (part : frame :: written <:+ frames.reverse ++ written) :
    ∃ later, frames = frame :: later := by
  rcases part with ⟨front, same⟩
  rw [← List.singleton_append, ← List.append_assoc] at same
  have reversed := congrArg List.reverse (List.append_cancel_right same)
  rw [List.reverse_reverse, List.reverse_append] at reversed
  exact ⟨front.reverse, reversed.symm⟩

theorem ModuleConnection.written_of_write {connection written : ModuleConnection} {frame : Frame}
    (taken : connection.write frame = .ok written) :
    written.written = frame :: connection.written := by
  rw [ModuleConnection.eq_of_write taken]

theorem ModuleConnection.suffix_of_write {connection written : ModuleConnection} {frame : Frame}
    (taken : connection.write frame = .ok written) : connection.written <:+ written.written := by
  rw [ModuleConnection.written_of_write taken]
  exact List.suffix_cons _ _

section Conversation

open GatewayServer

variable [TextCase] [TextOf] [BodyCodec] [OutboundClient] [DecoderText]
  {server : GatewayServer} {client : GatewayClient} {requestId : String}
  {incoming : List Incoming} {connection : ModuleConnection} {sent frames : List Frame}
  {cut : Prop}

theorem GatewayServer.suffix_loop :
    connection.written <:+
      (server.readUntilResponse requestId incoming connection).connection.written := by
  induction incoming generalizing connection with
  | nil => exact List.suffix_refl _
  | cons delivered rest induction =>
      cases delivered with
      | failed reason => exact List.suffix_refl _
      | raised => exact List.suffix_refl _
      | frame frame =>
          rw [GatewayServer.readUntilResponse]
          dsimp only
          split
          · exact List.suffix_refl _
          · split
            · exact List.suffix_refl _
            · split
              · exact List.suffix_refl _
              · next taken => exact (ModuleConnection.suffix_of_write taken).trans induction
            · split
              · exact List.suffix_refl _
              · next taken =>
                  have part := ModuleConnection.suffix_of_write taken
                  exact part

variable [NumberText]

theorem GatewayServer.written_exchange {request : Dispatched} {written : ModuleConnection}
    (taken : connection.write (requestFrame request.requestId request.context) = .ok written) :
    (server.exchange request connection).connection.written =
      (server.readUntilResponse request.requestId written.incoming
        written).connection.written := by
  simp only [GatewayServer.exchange, taken]
  split <;> rfl

theorem GatewayServer.suffix_exchange (request : Dispatched) :
    connection.written <:+ (server.exchange request connection).connection.written := by
  cases taken : connection.write (requestFrame request.requestId request.context) with
  | error reason =>
      rw [exchange_of_write_error taken]
      exact List.suffix_refl _
  | ok written =>
      rw [GatewayServer.written_exchange taken]
      exact (ModuleConnection.suffix_of_write taken).trans GatewayServer.suffix_loop

theorem GatewayServer.suffix_after (events : List Event) :
    connection.written <:+ (server.after events connection).written := by
  induction events generalizing connection with
  | nil => exact List.suffix_refl _
  | cons event rest induction =>
      apply List.IsSuffix.trans _ induction
      cases event with
      | dispatched request => exact GatewayServer.suffix_exchange request
      | closed => exact List.suffix_refl _

variable [FrameLimit]

omit [BodyCodec] [OutboundClient] [DecoderText] in
theorem GatewayClient.outputs_ended (calls : Nat) (frames : List Frame) :
    client.outputs .ended calls frames = [] := by
  induction frames with
  | nil => rfl
  | cons frame later induction => exact induction

omit [TextCase] [TextOf] [BodyCodec] [OutboundClient] [DecoderText] [NumberText] in
theorem GatewayClient.frame_of_ask {capability refusal operationId : String}
    {frame : String → Frame} {calls later : Nat} {asked : Frame}
    (ok : client.ask capability refusal frame calls = (.ok (operationId, asked), later)) :
    asked = frame operationId := by
  unfold GatewayClient.ask at ok
  split at ok
  · cases ok
  · dsimp only at ok
    split at ok
    · cases ok
      rfl
    · cases ok

def GatewayClient.Attends (client : GatewayClient) (cut : Prop) (sent : List Frame)
    (connection : ModuleConnection) : Prop :=
  ∃ calls later, sent = later.reverse ++ connection.written ∧
    Arrives cut connection.incoming (client.outputs .serving calls later)

def ReadLoop.Concludes (loop : ReadLoop) (cut : Prop) (sent : List Frame)
    (client : GatewayClient) (result : Frame) : Prop :=
  loop.ending = .unfinished ∧ loop.connection.incoming = [] ∧ cut ∨
    (∃ reason, loop.ending = .value (.error reason)) ∨
    loop.ending = .value (.ok result) ∧ client.Attends cut sent loop.connection

theorem concludes_of_call {frame : Frame} {service : Service} {reaction : Reaction}
    {state : ModuleState} {calls : Nat} {result : Frame}
    (final : isFinal requestId frame = false)
    (served : server.serve frame = some (.ok service))
    (reacts : client.react state (.frame service.answer) calls = reaction)
    (all : sent = frames.reverse ++ connection.written)
    (delivers : Arrives cut incoming (frame :: client.outputs state calls frames))
    (part : (server.readUntilResponse requestId incoming connection).connection.written <:+ sent)
    (later : ∀ incoming connection frames, sent = frames.reverse ++ connection.written →
      Arrives cut incoming
        (reaction.written ++ client.outputs reaction.state reaction.calls frames) →
      (server.readUntilResponse requestId incoming connection).connection.written <:+ sent →
      (server.readUntilResponse requestId incoming connection).Concludes cut sent client result) :
    (server.readUntilResponse requestId incoming connection).Concludes cut sent client result := by
  cases delivers with
  | stops stopped => exact .inl ⟨rfl, rfl, stopped⟩
  | fails _ reason => exact .inr (.inl ⟨reason, rfl⟩)
  | @next _ rest _ remaining =>
      cases taken : { connection with incoming := rest }.write service.answer with
      | error reason =>
          rw [loop_serve_fails final served taken]
          exact .inr (.inl ⟨reason, rfl⟩)
      | ok written =>
          rw [loop_serve final served taken] at part ⊢
          have grown := ModuleConnection.written_of_write taken
          dsimp only at grown
          have front : service.answer :: connection.written <:+
              frames.reverse ++ connection.written :=
            all ▸ (grown ▸ GatewayServer.suffix_loop).trans part
          rcases exists_of_suffix front with ⟨unread, same⟩
          rw [same] at remaining all
          apply later rest written unread
          · rw [grown, all]
            simp
          · rw [← reacts]
            exact remaining
          · exact part

theorem concludes_of_run (run : HandlerRun) (calls : Nat) (incoming : List Incoming)
    (connection : ModuleConnection) (frames : List Frame)
    (all : sent = frames.reverse ++ connection.written)
    (delivers : Arrives cut incoming ((client.proceed (.string requestId) run calls).written ++
      client.outputs (client.proceed (.string requestId) run calls).state
        (client.proceed (.string requestId) run calls).calls frames))
    (short : cut ∨ FrameLimit.fits
      (resultFrame (.string requestId) (run.direct server client calls)) = true)
    (part : (server.readUntilResponse requestId incoming connection).connection.written <:+ sent) :
    (server.readUntilResponse requestId incoming connection).Concludes cut sent client
      (resultFrame (.string requestId) (run.direct server client calls)) := by
  induction run generalizing calls incoming connection frames with
  | ended result =>
      rw [GatewayClient.proceed, GatewayClient.send] at delivers
      split at delivers
      · cases delivers with
        | stops stopped => exact .inl ⟨rfl, rfl, stopped⟩
        | fails _ reason => exact .inr (.inl ⟨reason, rfl⟩)
        | next _ remaining =>
            rw [loop_final (isFinal_resultFrame requestId result)]
            exact .inr (.inr ⟨rfl, calls, frames, all, remaining⟩)
      · next long =>
          have stopped : cut := short.resolve_right long
          rw [List.nil_append, GatewayClient.outputs_ended] at delivers
          cases delivers with
          | done => exact .inl ⟨rfl, rfl, stopped⟩
          | stops => exact .inl ⟨rfl, rfl, stopped⟩
          | fails _ reason => exact .inr (.inl ⟨reason, rfl⟩)
  | sign data next induction =>
      rw [GatewayClient.proceed] at delivers
      rw [HandlerRun.direct] at short ⊢
      rcases asked : client.askSign data calls with ⟨failure | ⟨operationId, frame⟩, later⟩
      · simp only [asked] at delivers short ⊢
        exact induction _ later incoming connection frames all delivers short part
      · simp only [asked] at delivers short ⊢
        rw [GatewayClient.frame_of_ask asked] at delivers
        have reacts : client.react (.signing (.string requestId) operationId next)
            (.frame (handleSignRequest server.signingService (signFrame operationId data)).answer)
            later = client.proceed (.string requestId) (next (server.signed data)) later := by
          rw [GatewayClient.react, GatewayClient.received, readSignature_answer]
        exact concludes_of_call rfl rfl reacts all delivers part
          fun incoming connection frames all delivers =>
            induction _ later incoming connection frames all delivers short
  | fetch call next induction =>
      rw [GatewayClient.proceed] at delivers
      rw [HandlerRun.direct] at short ⊢
      rcases asked : client.askFetch call calls with ⟨failure | ⟨operationId, frame⟩, later⟩
      · simp only [asked] at delivers short ⊢
        exact induction _ later incoming connection frames all delivers short part
      · simp only [asked] at delivers short ⊢
        rw [GatewayClient.frame_of_ask asked] at delivers
        rcases readOutbound_answer server operationId call with ⟨service, served, read⟩
        have reacts : client.react (.fetching (.string requestId) operationId next)
            (.frame service.answer) later =
              client.proceed (.string requestId) (next (fetched call)) later := by
          rw [GatewayClient.react, GatewayClient.received, read]
        exact concludes_of_call rfl served reacts all delivers part
          fun incoming connection frames all delivers =>
            induction _ later incoming connection frames all delivers short

/-! ## Requests are answered as by a call of their handler -/

def GatewayClient.resultOf (client : GatewayClient) (server : GatewayServer)
    (request : Dispatched) (calls : Nat) : Handled :=
  (client.runOf request.requestId request.context).direct server client calls

/-- How a dispatch ends: it waits for what the cut took away, the connection is dropped, or
it is told what the handler of its request ends with. -/
inductive Served (cut : Prop) (server : GatewayServer) (client : GatewayClient)
    (request : Dispatched) (exchange : Exchange) : Prop
  | waiting (stopped : cut) (unfinished : exchange.ending = .unfinished)
  | dropped (reason : String)
      (told : exchange.ending = .value
        (server.unavailable ("gateway connection failed mid-request: " ++ reason)))
      (closed : exchange.connection.closed = true)
  | answered (calls : Nat)
      (told : exchange.ending = .value (seen (client.resultOf server request calls)))

def GatewayClient.Steady (client : GatewayClient) (cut : Prop) (sent : List Frame)
    (connection : ModuleConnection) : Prop :=
  connection.closed = true ∨ connection.incoming = [] ∧ cut ∨
    client.Attends cut sent connection

def GatewayClient.Short (client : GatewayClient) (cut : Prop) (server : GatewayServer)
    (request : Dispatched) : Prop :=
  ∀ calls, cut ∨ FrameLimit.fits
    (resultFrame (.string request.requestId) (client.resultOf server request calls)) = true

theorem served_exchange (request : Dispatched) (short : client.Short cut server request)
    (steady : client.Steady cut sent connection)
    (part : (server.exchange request connection).connection.written <:+ sent) :
    Served cut server client request (server.exchange request connection) ∧
      client.Steady cut sent (server.exchange request connection).connection := by
  cases taken : connection.write (requestFrame request.requestId request.context) with
  | error reason =>
      rw [exchange_of_write_error taken]
      exact ⟨.dropped reason rfl rfl, .inl rfl⟩
  | ok written =>
      have sends := ModuleConnection.eq_of_write taken
      rw [GatewayServer.written_exchange taken] at part
      have concluded : ∃ calls, (server.readUntilResponse request.requestId written.incoming
          written).Concludes cut sent client (resultFrame (.string request.requestId)
            (client.resultOf server request calls)) := by
        rcases steady with closed | ⟨empty, stopped⟩ | ⟨calls, frames, all, delivers⟩
        · rcases ModuleConnection.write_of_closed closed with ⟨reason, lost⟩
          cases lost.symm.trans taken
        · rw [sends, show connection.incoming = [] from empty]
          exact ⟨0, .inl ⟨rfl, rfl, stopped⟩⟩
        · have front : requestFrame request.requestId request.context :: connection.written <:+
              frames.reverse ++ connection.written :=
            all ▸ (ModuleConnection.written_of_write taken ▸ GatewayServer.suffix_loop).trans part
          rcases exists_of_suffix front with ⟨unread, same⟩
          rw [same, GatewayClient.outputs] at delivers
          simp only [GatewayClient.react, serve_requestFrame] at delivers
          refine ⟨calls, concludes_of_run _ calls _ written unread ?_ ?_ (short calls) part⟩
          · rw [ModuleConnection.written_of_write taken, all, same]
            simp
          · rw [sends]
            exact delivers
      rcases concluded with ⟨calls, concluded⟩
      simp only [GatewayServer.exchange, taken]
      rcases concluded with ⟨ending, unread, stopped⟩ | ⟨reason, ending⟩ | ⟨ending, attends⟩
      · rw [ending]
        exact ⟨.waiting stopped rfl, .inr (.inl ⟨unread, stopped⟩)⟩
      · rw [ending]
        exact ⟨.dropped reason rfl rfl, .inl rfl⟩
      · rw [ending]
        refine ⟨.answered calls ?_, .inr (.inr attends)⟩
        simp only [decode_resultFrame]

theorem steady_after (events : List Event)
    (short : ∀ request, .dispatched request ∈ events → client.Short cut server request)
    (steady : client.Steady cut sent connection)
    (part : (server.after events connection).written <:+ sent) :
    client.Steady cut sent (server.after events connection) := by
  induction events generalizing connection with
  | nil => exact steady
  | cons event rest induction =>
      apply induction (fun request member => short request (.tail event member)) _ part
      cases event with
      | closed => exact .inl rfl
      | dispatched request =>
          exact (served_exchange request (short request (.head rest)) steady
            ((GatewayServer.suffix_after rest).trans part)).2

/-- Whatever handlers a module binds, and whatever they ask the daemon for while they run:
over any sequence of requests on a connection, each caller is told what the handler of its
own request ends with where the services of the daemon are plain calls, unless the
connection is lost. It waits only if the delivery is cut. -/
theorem answered_as_called (server : GatewayServer) (client : GatewayClient)
    (connection : ModuleConnection) (events : List Event) (cut : Prop)
    (attends : client.Attends cut (server.after events connection).written connection)
    (short : ∀ request, .dispatched request ∈ events → client.Short cut server request)
    (earlier later : List Event) (request : Dispatched)
    (split : events = earlier ++ .dispatched request :: later) :
    Served cut server client request
      (server.exchange request (server.after earlier connection)) := by
  have after : server.after events connection = server.after later
      (server.exchange request (server.after earlier connection)).connection := by
    rw [split, GatewayServer.after, List.foldl_append]
    rfl
  have part : (server.exchange request (server.after earlier connection)).connection.written <:+
      (server.after events connection).written :=
    after ▸ GatewayServer.suffix_after later
  have steady : client.Steady cut (server.after events connection).written
      (server.after earlier connection) := by
    apply steady_after earlier _ (.inr (.inr attends))
      ((GatewayServer.suffix_exchange request).trans part)
    intro other member
    apply short other
    rw [split]
    exact List.mem_append_left _ member
  have member : .dispatched request ∈ events := by
    rw [split]
    exact List.mem_append_right _ (.head later)
  exact (served_exchange request (short request member) steady part).1

end Conversation

namespace ModuleSamples

open scoped Plain PlainServing PlainGateway
open GatewaySamples

def signing (_ : ModuleContext) : HandlerRun :=
  .sign [0] fun
    | .error (.daemonError message code) => .ended (.refused ⟨code, message, none⟩)
    | _ => .ended (.responded ⟨[], 200, [], none⟩)

def signer : GatewayClient where
  bindings := Dict.empty.set ("BOOK", "/room") signing
  daemonCapabilities := [.string "sign_request"]
  drawn := fun calls => if calls = 0 then "a" else "b"

def toSigner : List Frame :=
  [requestFrame "req-1" (request "req-1").context,
    (handleSignRequest none (signFrame "op-a" [0])).answer]

def signerConnection : ModuleConnection :=
  sending (signer.outputs .serving 0 toSigner)

theorem signer_answers_as_called :
    Served False daemon signer (request "req-1")
      (daemon.exchange (request "req-1") signerConnection) :=
  answered_as_called daemon signer signerConnection [.dispatched (request "req-1")] False
    ⟨0, toSigner, rfl, arrives_all False _⟩ (fun _ _ _ => .inr rfl) [] [] (request "req-1") rfl

end ModuleSamples

end Agtp.Gateway
