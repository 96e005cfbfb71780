import Agtp.Foundation.Fallible
import Agtp.Server.GatewayRuns

/-! # Capabilities of modules

Which frames of a module the daemon services, against what the module claimed in its
`hello` frame and what the daemon offers. -/

namespace Agtp.Gateway

def claims (hello : Frame) (capability : String) : Bool :=
  match (Json.getOr hello "capabilities" (.array [])).iterate with
  | .ok values => values.any (Json.isText capability)
  | .error _ => false

def ModuleConnection.holds (connection : ModuleConnection) (capability : String) : Bool :=
  connection.capabilities.any (Json.isText capability)

def exercised (frame : Frame) : Option String :=
  if isType "sign_request" frame then some "sign_request"
  else if isType "outbound_request" frame then some "outbound_call"
  else none

def Refused (outcome : Except Raised Service) : Prop :=
  ∃ service, outcome = .ok service ∧ service.performed = [] ∧
    (isType "sign_error" service.answer = true ∨
      isType "outbound_error" service.answer = true)

/-! ## Handshake -/

section Handshake

variable {Value : Type} {connection registered : ModuleConnection}

theorem run_bind_ok {Result : Type} {first : Handshaking Value}
    {next : Value → Handshaking Result} {result : Result}
    (ended : (first >>= next).run connection = (.ok result, registered)) :
    ∃ value middle, first.run connection = (.ok value, middle) ∧
      (next value).run middle = (.ok result, registered) := by
  rw [ExceptT.run_bind] at ended
  rcases run : first.run connection with ⟨outcome, middle⟩
  simp only [bind, StateT.bind, run] at ended
  cases outcome with
  | ok value => exact ⟨value, middle, rfl, ended⟩
  | error failure => cases ended

def Keeps (step : Handshaking Value) : Prop :=
  ∀ connection value reached, step.run connection = (.ok value, reached) →
    reached.capabilities = connection.capabilities

theorem Keeps.andThen {Result : Type} {first : Handshaking Value}
    {next : Value → Handshaking Result} (keeps : Keeps first)
    (later : ∀ value, Keeps (next value)) : Keeps (first >>= next) := by
  intro connection result reached ended
  rcases run_bind_ok ended with ⟨value, middle, begun, rest⟩
  exact (later value middle result reached rest).trans (keeps connection value middle begun)

theorem readFrame_ok {frame : Frame}
    (ended : Handshaking.readFrame.run connection = (.ok frame, registered)) :
    ∃ rest, connection.incoming = .frame frame :: rest ∧
      registered = { connection with incoming := rest } := by
  unfold Handshaking.readFrame at ended
  rcases run_bind_ok ended with ⟨value, middle, begun, ended⟩
  cases begun
  cases incoming : connection.incoming with
  | nil =>
      rw [incoming] at ended
      cases ended
  | cons delivered rest =>
      rw [incoming] at ended
      cases delivered with
      | frame delivered =>
          cases ended
          exact ⟨rest, rfl, rfl⟩
      | failed reason => cases ended
      | raised => cases ended

theorem keeps_readFrame : Keeps Handshaking.readFrame := by
  intro connection frame reached ended
  rcases readFrame_ok ended with ⟨rest, -, rfl⟩
  rfl

theorem keeps_writeFrame (frame : Frame) : Keeps (Handshaking.writeFrame frame) := by
  intro connection value reached ended
  unfold Handshaking.writeFrame at ended
  rcases run_bind_ok ended with ⟨value, middle, begun, ended⟩
  cases begun
  cases sent : connection.write frame with
  | error reason =>
      rw [sent] at ended
      cases ended
  | ok written =>
      rw [sent] at ended
      cases ended
      rw [ModuleConnection.eq_of_write sent]

theorem keeps_require (condition : Bool) : Keeps (Handshaking.require condition) := by
  intro connection value reached ended
  cases condition with
  | true =>
      cases ended
      rfl
  | false => cases ended

theorem uncaught_ok {outcome : Except Raised Value} {value : Value}
    (ended : (Handshaking.uncaught outcome).run connection = (.ok value, registered)) :
    outcome = .ok value ∧ registered = connection := by
  cases outcome with
  | ok result =>
      cases ended
      exact ⟨rfl, rfl⟩
  | error raised => cases ended

end Handshake

variable [TextOf] [JsonCodec] [Digest] in
theorem capabilities_of_doHandshake {server : GatewayServer}
    {connection registered : ModuleConnection} {hello : Frame} {rest : List Incoming}
    (first : connection.incoming = .frame hello :: rest)
    (ended : server.doHandshake.run connection = (.ok (), registered)) :
    (Json.getOr hello "capabilities" (.array [])).iterate = .ok registered.capabilities := by
  unfold GatewayServer.doHandshake at ended
  rcases run_bind_ok ended with ⟨frame, opened, read, ended⟩
  rcases readFrame_ok read with ⟨others, delivered, -⟩
  rw [first] at delivered
  cases delivered
  rcases run_bind_ok ended with ⟨_, greeted, -, ended⟩
  rcases run_bind_ok ended with ⟨_, versioned, -, ended⟩
  rcases run_bind_ok ended with ⟨members, described, -, ended⟩
  rcases run_bind_ok ended with ⟨capabilities, listed, claimed, ended⟩
  rcases run_bind_ok ended with ⟨_, kept, modified, ended⟩
  rw [(uncaught_ok claimed).1]
  have held : kept.capabilities = capabilities := by
    cases modified
    rfl
  -- Behind this step the connection is only read from and written to.
  have keeps := Keeps.andThen (keeps_writeFrame server.welcome) fun _ =>
    Keeps.andThen
      (keeps_writeFrame (server.registration (Json.textOr hello "cached_manifest_hash" "")))
      fun _ => Keeps.andThen keeps_readFrame fun acknowledged =>
        Keeps.andThen (keeps_require (isType "register_ack" acknowledged)) fun _ =>
          keeps_require (Json.get acknowledged "ok").truthy
  rw [keeps kept () registered ended, held]

/-! ## Services -/

section Services

variable [TextCase] [TextOf] [BodyCodec] [OutboundClient] [DecoderText]

omit [TextCase] [BodyCodec] [OutboundClient] in
theorem refused_handleSignRequest_iff (service : Option Audit.SigningService)
    (frame : Frame) :
    Refused (.ok (handleSignRequest service frame)) ↔
      service = none ∨
        Base64Url.decode (Json.textOr frame "data_b64" "").toList = none := by
  unfold handleSignRequest
  cases service with
  | none => exact iff_of_true ⟨_, rfl, rfl, .inl rfl⟩ (.inl rfl)
  | some service =>
      dsimp only
      cases Base64Url.decode (Json.textOr frame "data_b64" "").toList with
      | none => exact iff_of_true ⟨_, rfl, rfl, .inl rfl⟩ (.inr rfl)
      | some data =>
          constructor
          · rintro ⟨_, equal, performed, -⟩
            cases equal
            cases performed
          · rintro (missing | undecoded)
            · cases missing
            · cases undecoded

omit [TextCase] [BodyCodec] [DecoderText] in
theorem callFetch_eq (call : OutboundCall) :
    callFetch call =
      (.error ("fetch() got an unexpected keyword argument " ++ TextOf.quoted "method"), []) :=
  rfl

omit [DecoderText] in
/-- Every outbound request whose headers are a dictionary is answered with an error,
whoever sends it. -/
theorem refused_handleOutboundRequest_iff (frame : Frame) :
    Refused (handleOutboundRequest frame) ↔
      Fallible.Succeeds (Json.getOr frame "headers" (.object [])).toDict := by
  unfold handleOutboundRequest
  cases (Json.getOr frame "headers" (.object [])).toDict with
  | error raised =>
      apply iff_of_false
      · rintro ⟨_, equal, -⟩
        cases equal
      · exact Fallible.not_succeeds_error raised
  | ok headers =>
      apply iff_of_true _ (Fallible.succeeds_ok headers)
      simp only [callFetch_eq, bind, Except.bind]
      by_cases missing : Json.textOr frame "uri" "" = ""
      · rw [if_pos missing]
        exact ⟨_, rfl, rfl, .inr rfl⟩
      · rw [if_neg missing]
        cases OutboundClient.importError with
        | some reason => exact ⟨_, rfl, rfl, .inr rfl⟩
        | none => exact ⟨_, rfl, rfl, .inr rfl⟩

end Services

namespace GatewayServer

def offers (server : GatewayServer) (capability : String) : Bool :=
  server.daemonCapabilities.contains capability

theorem offers_sign_request (server : GatewayServer) :
    server.offers "sign_request" = server.signingService.isSome := by
  unfold offers daemonCapabilities
  cases server.signingService <;> cases server.outboundEnabled <;> rfl

theorem offers_outbound_call (server : GatewayServer) :
    server.offers "outbound_call" = server.outboundEnabled := by
  unfold offers daemonCapabilities
  cases server.signingService <;> cases server.outboundEnabled <;> rfl

/-- The frame is serviced only for a module that claimed the capability, and only if the
daemon offers it. Otherwise it is answered with an error, and nothing is done. -/
def Guarded (server : GatewayServer) (hello : Frame)
    (entry : Frame × Except Raised Service) : Prop :=
  ∀ capability, exercised entry.1 = some capability →
    claims hello capability = true ∧ server.offers capability = true ∨ Refused entry.2

/-- What keeps an unclaimed capability from being exercised: there is no key, or the
data to sign are no base64. An outbound request is never granted, but one whose headers
are no dictionary is not answered either. -/
def Contained [TextOf] (server : GatewayServer) (connection : ModuleConnection)
    (frame : Frame) : Prop :=
  if isType "sign_request" frame then
    connection.holds "sign_request" = true ∨ server.signingService = none ∨
      Base64Url.decode (Json.textOr frame "data_b64" "").toList = none
  else
    connection.holds "outbound_call" = true ∧ server.outboundEnabled = true ∨
      Fallible.Succeeds (Json.getOr frame "headers" (.object [])).toDict

variable [TextCase] [TextOf] [BodyCodec] [OutboundClient] [DecoderText]

theorem serve_of_mem_serviced {server : GatewayServer} {requestId : String}
    {incoming : List Incoming} {connection : ModuleConnection}
    {entry : Frame × Except Raised Service}
    (serviced : entry ∈ (server.readUntilResponse requestId incoming connection).serviced) :
    server.serve entry.1 = some entry.2 := by
  induction incoming generalizing connection with
  | nil => cases serviced
  | cons delivered rest induction =>
      cases delivered with
      | failed reason => cases serviced
      | raised => cases serviced
      | frame head =>
          rw [readUntilResponse] at serviced
          cases final : isFinal requestId head with
          | true =>
              rw [final] at serviced
              cases serviced
          | false =>
              simp only [final, Bool.false_eq_true, if_false] at serviced
              cases served : server.serve head with
              | none =>
                  simp only [served] at serviced
                  split at serviced <;> cases serviced
              | some outcome =>
                  simp only [served] at serviced
                  cases outcome with
                  | error raised =>
                      rw [List.mem_singleton.mp serviced]
                      exact served
                  | ok service =>
                      dsimp only at serviced
                      split at serviced
                      · rw [List.mem_singleton.mp serviced]
                        exact served
                      · rcases List.mem_cons.mp serviced with rfl | later
                        · exact served
                        · exact induction later

variable [NumberText]

theorem serve_of_mem_exchange {server : GatewayServer} {request : Dispatched}
    {connection : ModuleConnection} {entry : Frame × Except Raised Service}
    (serviced : entry ∈ (server.exchange request connection).serviced) :
    server.serve entry.1 = some entry.2 := by
  cases sent : connection.write (requestFrame request.requestId request.context) with
  | error reason =>
      rw [exchange_of_write_error sent] at serviced
      cases serviced
  | ok written =>
      rw [(exchange_of_write sent).2.1] at serviced
      exact serve_of_mem_serviced serviced

omit [NumberText] in
theorem serve_cases {server : GatewayServer} {frame : Frame}
    {outcome : Except Raised Service} (served : server.serve frame = some outcome) :
    (isType "sign_request" frame = true ∧
        outcome = .ok (handleSignRequest server.signingService frame)) ∨
      (isType "sign_request" frame = false ∧ isType "outbound_request" frame = true ∧
        outcome = handleOutboundRequest frame) := by
  unfold serve at served
  cases sign : isType "sign_request" frame with
  | true =>
      rw [if_pos sign] at served
      exact .inl ⟨rfl, (Option.some.inj served).symm⟩
  | false =>
      rw [if_neg (Bool.eq_false_iff.mp sign)] at served
      split at served
      · next outbound => exact .inr ⟨rfl, outbound, (Option.some.inj served).symm⟩
      · cases served

/-- Of every frame that is serviced in a run of a registered module: it is serviced as
the negotiation allows exactly if it is contained. -/
theorem guarded_iff [JsonCodec] [Digest] {server : GatewayServer}
    {connection registered : ModuleConnection} {hello : Frame} {rest : List Incoming}
    (first : connection.incoming = .frame hello :: rest)
    (ended : server.doHandshake.run connection = (.ok (), registered))
    (events : List Event) (request : Dispatched) {entry : Frame × Except Raised Service}
    (serviced : entry ∈
      (server.exchange request (server.after events registered)).serviced) :
    server.Guarded hello entry ↔ server.Contained registered entry.1 := by
  have claimed (capability : String) :
      claims hello capability = registered.holds capability := by
    rw [claims, capabilities_of_doHandshake first ended]
    rfl
  unfold Guarded Contained exercised
  rcases serve_cases (serve_of_mem_exchange serviced) with
    ⟨sign, answered⟩ | ⟨noSign, outbound, answered⟩
  · rw [if_pos sign, if_pos sign, answered, refused_handleSignRequest_iff]
    simp only [Option.some.injEq, forall_eq', claimed, offers_sign_request]
    cases server.signingService with
    | none => simp
    | some service => simp
  · rw [if_neg (Bool.eq_false_iff.mp noSign), if_pos outbound,
      if_neg (Bool.eq_false_iff.mp noSign), answered, refused_handleOutboundRequest_iff]
    simp only [Option.some.injEq, forall_eq', claimed, offers_outbound_call]

end GatewayServer

/-! ## Samples -/

namespace GatewaySamples

open scoped Plain PlainServing PlainGateway

scoped instance : JsonCodec := ⟨fun _ => [], fun _ => .error .valueError⟩

scoped instance : Digest := ⟨fun _ => ""⟩

def signingDaemon : GatewayServer :=
  { daemon with signingService := some ⟨"key-1", fun _ => [0]⟩ }

def hello (capabilities : List String) : Frame := [
  ("type", .string "hello"),
  ("gateway_versions", Status.texts ["1.0"]),
  ("capabilities", Status.texts capabilities)]

def registerAck : Frame := [("type", .string "register_ack"), ("ok", .bool true)]

def asking (capabilities : List String) : ModuleConnection :=
  sending [hello capabilities, registerAck, signRequest, response "req-1"]

def registered (capabilities : List String) : ModuleConnection :=
  (signingDaemon.doHandshake.run (asking capabilities)).2

def signature : Frame × Except Raised Service :=
  (signRequest, .ok (handleSignRequest signingDaemon.signingService signRequest))

theorem claimed_signature_is_guarded :
    signingDaemon.Guarded (hello ["sign_request"]) signature ↔
      signingDaemon.Contained (registered ["sign_request"]) signRequest := by
  have first : (asking ["sign_request"]).incoming =
      .frame (hello ["sign_request"]) ::
        [registerAck, signRequest, response "req-1"].map .frame := rfl
  have ended : signingDaemon.doHandshake.run (asking ["sign_request"]) =
      (.ok (), registered ["sign_request"]) := rfl
  have serviced : signature ∈ (signingDaemon.exchange (request "req-1")
      (signingDaemon.after [] (registered ["sign_request"]))).serviced := .head _
  exact GatewayServer.guarded_iff first ended [] (request "req-1") serviced

/-- A module that claims nothing has its data signed. -/
theorem unclaimed_signature_is_served :
    ¬∀ (server : GatewayServer) (connection registered : ModuleConnection) (hello : Frame)
        (rest : List Incoming), connection.incoming = .frame hello :: rest →
        server.doHandshake.run connection = (.ok (), registered) →
        ∀ events request entry,
          entry ∈ (server.exchange request (server.after events registered)).serviced →
          server.Guarded hello entry := by
  intro all
  have guarded := all signingDaemon (asking []) (registered []) (hello []) _ rfl rfl []
    (request "req-1") signature (.head _)
  rcases guarded "sign_request" rfl with ⟨claimed, -⟩ | ⟨service, answered, performed, -⟩
  · cases claimed
  · cases answered
    cases performed

end GatewaySamples

end Agtp.Gateway
