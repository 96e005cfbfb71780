import Agtp.Foundation.Computation
import Agtp.Presence.Records
import Agtp.Server.HookRegistry
import Mathlib.Data.List.Infix

/-! # The gateway server

`GatewayServer`: the connection to a runtime module, its handshake, and the dispatch of
requests to it. A module is whatever is at the other end of the socket. All that the
daemon sees of it is what the socket delivers, which is a list of arbitrary frames. -/

namespace Agtp

namespace Json

def isText (text : String) : Json → Bool
  | string other => other = text
  | _ => false

def holdsText (text : String) : Json → Except Raised Bool
  | array values => .ok (values.any (isText text))
  | string whole => .ok (decide (text.toList <:+: whole.toList))
  | object members => .ok (member members text).isSome
  | _ => .error .typeError

def orNone (value : Json) : Option Json :=
  if value.truthy then some value else none

end Json

namespace Gateway

abbrev Frame := List (String × Json)

def gatewayVersion : String := "1.0"

def isType (name : String) (frame : Frame) : Bool :=
  Json.isText name (Json.get frame "type")

def belongsTo (requestId : String) (frame : Frame) : Bool :=
  Json.isText requestId (Json.get frame "request_id")

/-! ## Connections -/

/-- What a read from the socket comes to. The connection fails with a `GatewayError`
or an `OSError`. Any other exception of `json.loads` is raised behind a whole frame. -/
inductive Incoming where
  | frame (frame : Frame)
  | failed (reason : String)
  | raised

/-- The socket of a module: what it will deliver, what was written to it, latest first,
and why a frame does not go out to it, if it does not. -/
structure ModuleConnection where
  moduleId : String
  moduleVersion : String
  capabilities : List Json
  closed : Bool
  incoming : List Incoming
  written : List Frame
  failure : List Frame → Frame → Option String

namespace ModuleConnection

def close (connection : ModuleConnection) : ModuleConnection :=
  { connection with closed := true }

def write (frame : Frame) (connection : ModuleConnection) :
    Except String ModuleConnection :=
  match connection.failure connection.written frame with
  | some reason => .error reason
  | none =>
      if connection.closed then .error "[Errno 32] Broken pipe"
      else .ok { connection with written := frame :: connection.written }

end ModuleConnection

/-! ## Services -/

structure OutboundCall where
  uri : String
  method : String
  path : String
  headers : List (String × Json)
  body : Bytes

inductive Operation where
  | signed (data : Bytes)
  | called (call : OutboundCall)

/-- What servicing a frame comes to: what is done, and the frame that answers. -/
structure Service where
  performed : List Operation
  answer : Frame

structure Upstream where
  status : Int
  headers : List (String × Json)
  body : Bytes

/-- The AGTP client: whether it can be imported, and how a call ends that its `fetch`
accepts. -/
class OutboundClient where
  importError : Option String
  fetch : OutboundCall → Except String Upstream

class DecoderText where
  failure : String → String

namespace PlainGateway

scoped instance : OutboundClient := ⟨none, fun _ => .error "unreachable"⟩

scoped instance : DecoderText := ⟨fun _ => "Incorrect padding"⟩

end PlainGateway

def operationError (type operationId code message : String) : Frame := [
  ("type", .string type),
  ("operation_id", .string operationId),
  ("code", .string code),
  ("message", .string message)]

section Services

variable [TextCase] [TextOf] [BodyCodec] [OutboundClient] [DecoderText]

def handleSignRequest (service : Option Audit.SigningService) (frame : Frame) : Service :=
  let operationId := Json.textOr frame "operation_id" ""
  match service with
  | none => ⟨[], operationError "sign_error" operationId "signing_unavailable"
      "daemon has no signing service configured; set [signing].enabled in agtp-server.toml"⟩
  | some service =>
      let text := Json.textOr frame "data_b64" ""
      match Base64Url.decode text.toList with
      | none => ⟨[], operationError "sign_error" operationId "sign_failure"
          ("could not decode data_b64: " ++ DecoderText.failure text)⟩
      | some data => ⟨[.signed data], [
          ("type", .string "sign_response"),
          ("operation_id", .string operationId),
          ("kid", .string service.keyId),
          ("alg", .string "Ed25519"),
          ("signature_b64",
            .string (String.ofList (Base64Url.encode (service.sign data))))]⟩

def fetchKeywords : List String :=
  ["fmt", "registry_url", "insecure", "insecure_skip_verify", "verbose"]

def passedKeywords : List String := ["method", "path", "headers", "body"]

/-- `_fetch(uri, method=…, path=…, headers=…, body=…)`. A keyword that the function does
not have is a `TypeError`, before anything is sent. -/
def callFetch (call : OutboundCall) : Except String Upstream × List Operation :=
  match passedKeywords.find? fun keyword => !fetchKeywords.contains keyword with
  | some keyword =>
      (.error ("fetch() got an unexpected keyword argument " ++ TextOf.quoted keyword), [])
  | none => (OutboundClient.fetch call, [.called call])

def outboundBody : Json → Bytes
  | .string text => text.toUTF8.toList
  | .array values => BodyCodec.dumps (.array values)
  | .object members => BodyCodec.dumps (.object members)
  | _ => []

def upstreamAnswer (operationId uri : String) (upstream : Upstream) : Frame :=
  let answer (body : Json) : Frame := [
    ("type", .string "outbound_response"),
    ("operation_id", .string operationId),
    ("status", .int upstream.status),
    ("headers", .object upstream.headers),
    ("body", body)]
  if upstream.body = [] then answer .null
  else
    match BodyCodec.loadsStrict upstream.body with
    | some body => answer body
    | none => operationError "outbound_error" operationId "upstream_malformed"
        "upstream returned non-JSON body" ++
        [("details", .object [("status", .int upstream.status), ("uri", .string uri)])]

/-- `_handle_outbound_request`. Headers that are no dictionary raise before anything is
answered. -/
def handleOutboundRequest (frame : Frame) : Except Raised Service := do
  let operationId := Json.textOr frame "operation_id" ""
  let uri := Json.textOr frame "uri" ""
  let headers ← (Json.getOr frame "headers" (.object [])).toDict
  let refused (code message : String) :=
    operationError "outbound_error" operationId code message
  if uri = "" then
    return ⟨[], refused "outbound_failure" "outbound_request requires a non-empty uri"⟩
  match OutboundClient.importError with
  | some reason =>
      return ⟨[], refused "outbound_failure" ("AGTP client unavailable: " ++ reason)⟩
  | none =>
      let (result, performed) := callFetch {
        uri
        method := upper (Json.textOr frame "method" "QUERY")
        path := Json.textOr frame "path" "/"
        headers
        body := outboundBody (Json.get frame "body") }
      match result with
      | .error reason =>
          return ⟨performed,
            refused "upstream_unreachable" ("upstream call failed: " ++ reason)⟩
      | .ok upstream => return ⟨performed, upstreamAnswer operationId uri upstream⟩

end Services

/-! ## The server -/

structure GatewayEndpoint where
  method : String
  path : String
  handlerReference : String
  inputSchema : Json
  outputSchema : Json
  errors : List String
  requiredScopes : List String

structure GatewayServer where
  socketPath : String
  serverId : String
  daemonVersion : String
  catalogVersion : String
  endpoints : Dict (String × String) GatewayEndpoint
  signingService : Option Audit.SigningService
  outboundEnabled : Bool
  module : Option ModuleConnection

/-! ## Handshake -/

/-- Why a handshake does not register the module. The connection is closed where it is
refused or fails. An exception that nobody catches only ends the thread. -/
inductive HandshakeFailure where
  | refused
  | aborted
  | raised
  | waiting

abbrev Handshaking := ExceptT HandshakeFailure (StateM ModuleConnection)

namespace Handshaking

def readFrame : Handshaking Frame := do
  let connection ← get
  match connection.incoming with
  | [] => throw .waiting
  | delivered :: rest =>
      set { connection with incoming := rest }
      match delivered with
      | .frame frame => return frame
      | .failed _ => throw .aborted
      | .raised => throw .raised

def writeFrame (frame : Frame) : Handshaking Unit := do
  match (← get).write frame with
  | .ok connection => set connection
  | .error _ => throw .aborted

def require (condition : Bool) : Handshaking Unit :=
  if condition then return () else throw .refused

def uncaught {Value : Type} : Except Raised Value → Handshaking Value
  | .ok value => return value
  | .error _ => throw .raised

def sendError (code message : String) : Handshaking Unit :=
  tryCatch (writeFrame [
      ("type", .string "error"), ("code", .string code), ("message", .string message)])
    fun _ => return ()

def negotiateVersion [TextOf] (hello : Frame) : Handshaking Unit := do
  let versions := Json.getOr hello "gateway_versions" (.array [])
  let spoken ← uncaught (versions.holdsText gatewayVersion)
  if spoken then return ()
  else
    sendError "gateway_version_unsupported"
      ("module supports " ++ versions.repr ++ "; daemon speaks " ++ gatewayVersion)
    throw .refused

def moduleBlock (hello : Frame) : Except Raised Frame :=
  match Json.getOr hello "module" (.object []) with
  | .object members => .ok members
  | _ => .error .attributeError

end Handshaking

/-- `_build_register_blocks`. The schemas are shared under the names that the endpoints
refer to them by. -/
def registerBlocks (endpoints : List GatewayEndpoint) : List Json × Frame :=
  let named (endpoint : GatewayEndpoint) (side : String) : String :=
    String.ofList ((endpoint.method ++ "_" ++ endpoint.path ++ side).toList.map
      fun character => if character = '/' then '_' else character)
  (endpoints.map fun endpoint => .object [
      ("method", .string endpoint.method),
      ("path", .string endpoint.path),
      ("handler_reference", .string endpoint.handlerReference),
      ("input_schema_ref", .string ("#/schemas/" ++ named endpoint ".input")),
      ("output_schema_ref", .string ("#/schemas/" ++ named endpoint ".output")),
      ("errors", Status.texts endpoint.errors),
      ("required_scopes", Status.texts endpoint.requiredScopes)],
    endpoints.foldl (fun schemas endpoint =>
      Dict.setEntries (named endpoint ".output") endpoint.outputSchema
        (Dict.setEntries (named endpoint ".input") endpoint.inputSchema schemas)) [])

namespace GatewayServer

def daemonCapabilities (server : GatewayServer) : List String :=
  ["registered_function"] ++
    (if server.signingService.isSome then ["sign_request"] else []) ++
    (if server.outboundEnabled then ["outbound_call"] else [])

def welcome (server : GatewayServer) : Frame := [
  ("type", .string "welcome"),
  ("gateway_version", .string gatewayVersion),
  ("daemon", .object ([
    ("version",
      .string (if server.daemonVersion = "" then "agtpd" else server.daemonVersion)),
    ("server_id", .string server.serverId)] ++
    if server.catalogVersion = "" then []
    else [("catalog_version", .string server.catalogVersion)])),
  ("capabilities", Status.texts server.daemonCapabilities)]

def registration [JsonCodec] [Digest] (server : GatewayServer) (cachedHash : String) :
    Frame :=
  let (endpoints, schemas) := registerBlocks (server.endpoints.entries.map Prod.snd)
  let manifestHash := "sha256:" ++ Digest.sha256 (JsonCodec.canonical
    (.object [("endpoints", .array endpoints), ("schemas", .object schemas)]))
  if cachedHash ≠ "" ∧ cachedHash = manifestHash then [
    ("type", .string "register_resume"),
    ("manifest_hash", .string manifestHash)]
  else [
    ("type", .string "register"),
    ("manifest_hash", .string manifestHash),
    ("endpoints", .array endpoints),
    ("schemas", .object schemas)]

open Handshaking in
def doHandshake [TextOf] [JsonCodec] [Digest] (server : GatewayServer) :
    Handshaking Unit := do
  let hello ← readFrame
  require (isType "hello" hello)
  negotiateVersion hello
  let members ← uncaught (moduleBlock hello)
  let capabilities ← uncaught (Json.getOr hello "capabilities" (.array [])).iterate
  modify fun connection => { connection with
    moduleId := Json.textOr members "id" ""
    moduleVersion := Json.textOr members "version" ""
    capabilities }
  writeFrame server.welcome
  writeFrame (server.registration (Json.textOr hello "cached_manifest_hash" ""))
  let acknowledged ← readFrame
  require (isType "register_ack" acknowledged)
  require (Json.get acknowledged "ok").truthy

end GatewayServer

/-! ## Decoding -/

/-- What a `response` frame is decoded to. -/
structure GatewayResponse where
  body : List (String × Json)
  status : Int
  headers : Option Json

inductive Reply where
  | response (response : GatewayResponse)
  | error (error : EndpointError)

def endpointError [TextOf] (members : List (String × Json)) (message : String) : Reply :=
  .error {
    code := Json.textOr members "code" "handler_exception"
    message := Json.textOr members "message" message
    details := (Json.get members "details").orNone }

def decodeEnvelope [TextOf] [NumberText] (frame : Frame) : Except Raised Reply := do
  let .object envelope := Json.getOr frame "envelope" (.object [])
    | .error .typeError
  if (Json.member envelope "endpoint_error").isSome then
    let .object error := Json.getOr envelope "endpoint_error" (.object [])
      | .error .attributeError
    return endpointError error ""
  let body ← (Json.getOr envelope "body" (.object [])).toDict
  let some status := (Json.getOr envelope "status" (.int 200)).toInt?
    | .error .valueError
  return .response ⟨body, status, (Json.get envelope "headers").orNone⟩

def mismatchedRequestId [TextOf] (frame : Frame) (requestId : String) : EndpointError where
  code := "handler_exception"
  message := "module response had mismatched request_id (" ++
    (Json.get frame "request_id").repr ++ " != " ++ TextOf.quoted requestId ++ ")"
  details := none

def decodeResponseFrame [TextOf] [NumberText] (frame : Frame) (requestId : String) :
    Except Raised Reply :=
  if isType "error" frame then .ok (endpointError frame "module reported an error")
  else if !isType "response" frame then
    .ok (.error {
      code := "handler_exception"
      message := "unexpected frame type from module: " ++ (Json.get frame "type").repr
      details := none })
  else if !belongsTo requestId frame then
    .ok (.error (mismatchedRequestId frame requestId))
  else decodeEnvelope frame

/-! ## Dispatch -/

/-- A frame that ends the read loop: a response, whatever request it names, or an error
that names the request. -/
def isFinal (requestId : String) (frame : Frame) : Bool :=
  isType "response" frame || isType "error" frame && belongsTo requestId frame

def phaseViolation [TextOf] (frame : Frame) : Frame := [
  ("type", .string "error"),
  ("code", .string "phase_violation"),
  ("message", .string ("unexpected frame type " ++ (Json.get frame "type").repr ++
    " during dispatch"))]

def unexpectedFrame [TextOf] (requestId : String) (frame : Frame) : Frame := [
  ("type", .string "error"),
  ("request_id", .string requestId),
  ("code", .string "handler_exception"),
  ("message", .string ("module sent unexpected frame type " ++
    (Json.get frame "type").repr))]

/-- A run of the read loop: how it ends, where an error is a failure of the connection,
the frame that it ended at, and the frames that were serviced. -/
structure ReadLoop where
  ending : Ending (Except String Frame)
  connection : ModuleConnection
  received : Option Frame
  serviced : List (Frame × Except Raised Service)

/-- A request of the daemon: what is dispatched, and the id that is drawn for it. -/
structure Dispatched where
  context : EndpointContext
  requestId : String

structure Exchange where
  ending : Ending Reply
  connection : ModuleConnection
  received : Option Frame
  serviced : List (Frame × Except Raised Service)

namespace GatewayServer

section Dispatch

variable [TextCase] [TextOf] [BodyCodec] [OutboundClient] [DecoderText]

def serve (server : GatewayServer) (frame : Frame) : Option (Except Raised Service) :=
  if isType "sign_request" frame then
    some (.ok (handleSignRequest server.signingService frame))
  else if isType "outbound_request" frame then some (handleOutboundRequest frame)
  else none

def readUntilResponse (server : GatewayServer) (requestId : String) :
    List Incoming → ModuleConnection → ReadLoop
  | [], connection => ⟨.unfinished, { connection with incoming := [] }, none, []⟩
  | .failed reason :: rest, connection =>
      ⟨.value (.error reason), { connection with incoming := rest }, none, []⟩
  | .raised :: rest, connection =>
      ⟨.raised, { connection with incoming := rest }, none, []⟩
  | .frame frame :: rest, connection =>
      let connection := { connection with incoming := rest }
      if isFinal requestId frame then ⟨.value (.ok frame), connection, some frame, []⟩
      else
        match server.serve frame with
        | some (.error raised) => ⟨.raised, connection, none, [(frame, .error raised)]⟩
        | some (.ok service) =>
            match connection.write service.answer with
            | .error reason =>
                ⟨.value (.error reason), connection, none, [(frame, .ok service)]⟩
            | .ok connection =>
                let later := server.readUntilResponse requestId rest connection
                { later with serviced := (frame, .ok service) :: later.serviced }
        | none =>
            match connection.write (phaseViolation frame) with
            | .error reason => ⟨.value (.error reason), connection, some frame, []⟩
            | .ok connection =>
                ⟨.value (.ok (unexpectedFrame requestId frame)), connection, some frame, []⟩

def unavailable (server : GatewayServer) (message : String) : Reply :=
  .error {
    code := "gateway_unavailable"
    message
    details := some (.object [("socket", .string server.socketPath)]) }

variable [NumberText]

/-- A dispatch on a connection, from the frame that is written on. A connection that
fails is dropped. -/
def exchange (server : GatewayServer) (request : Dispatched)
    (connection : ModuleConnection) : Exchange :=
  let failed (reason : String) : Ending Reply :=
    .value (server.unavailable ("gateway connection failed mid-request: " ++ reason))
  match connection.write (requestFrame request.requestId request.context) with
  | .error reason => ⟨failed reason, connection.close, none, []⟩
  | .ok connection =>
      let loop := server.readUntilResponse request.requestId connection.incoming connection
      match loop.ending with
      | .value (.error reason) =>
          ⟨failed reason, loop.connection.close, loop.received, loop.serviced⟩
      | .value (.ok frame) =>
          ⟨match decodeResponseFrame frame request.requestId with
            | .ok reply => .value reply
            | .error _ => .raised,
            loop.connection, loop.received, loop.serviced⟩
      | .raised => ⟨.raised, loop.connection, loop.received, loop.serviced⟩
      | .unfinished => ⟨.unfinished, loop.connection, loop.received, loop.serviced⟩

def dispatch (request : Dispatched) (server : GatewayServer) :
    Ending Reply × GatewayServer :=
  match server.module.filter fun connection => !connection.closed with
  | none =>
      (.value (server.unavailable
        "no runtime module is currently connected to the gateway socket; the request cannot be served"),
        server)
  | some connection =>
      let exchange := server.exchange request connection
      (exchange.ending, { server with
        module := if exchange.connection.closed then none else some exchange.connection })

end Dispatch

def handleConnection [TextOf] [JsonCodec] [Digest] (connection : ModuleConnection)
    (server : GatewayServer) : GatewayServer :=
  match server.doHandshake.run connection with
  | (.ok _, registered) => { server with module := some registered }
  | (.error _, _) => server

end GatewayServer

end Gateway

end Agtp
