import Agtp.Server.GatewayServer

/-! # Runs of a module connection

What a sequence of dispatches does to one connection. The lock of a connection lets one
dispatch through at a time, so whatever the interleaving of the threads is, a connection
sees a sequence of exchanges, between which another thread may close it. -/

namespace Agtp.Gateway

/-- What happens to a connection: a request is dispatched on it, or it is closed for a
newer one or by `stop`. -/
inductive Event where
  | dispatched (request : Dispatched)
  | closed

def Event.requestId? : Event → Option String
  | dispatched request => some request.requestId
  | closed => none

def requestIds (events : List Event) : List String :=
  events.filterMap Event.requestId?

theorem eq_of_belongsTo {left right : String} {frame : Frame}
    (first : belongsTo left frame = true) (second : belongsTo right frame = true) :
    left = right := by
  unfold belongsTo at first second
  cases id : Json.get frame "request_id" with
  | string text =>
      rw [id] at first second
      exact (of_decide_eq_true first).symm.trans (of_decide_eq_true second)
  | _ =>
      rw [id] at first
      cases first

theorem isFinal_of_response {requestId : String} {frame : Frame}
    (response : isType "response" frame = true) : isFinal requestId frame = true := by
  rw [isFinal, response, Bool.true_or]

namespace ModuleConnection

variable {connection written : ModuleConnection} {frame : Frame}

theorem eq_of_write (sent : connection.write frame = .ok written) :
    written = { connection with written := frame :: connection.written } := by
  unfold write at sent
  split at sent
  · cases sent
  · split at sent
    · cases sent
    · exact (Except.ok.inj sent).symm

theorem write_of_closed (closed : connection.closed = true) :
    ∃ reason, connection.write frame = .error reason := by
  unfold write
  cases connection.failure connection.written frame with
  | some reason => exact ⟨reason, rfl⟩
  | none => exact ⟨_, if_pos closed⟩

end ModuleConnection

namespace GatewayServer

variable [TextCase] [TextOf] [BodyCodec] [OutboundClient] [DecoderText]

/-! ## The read loop -/

section Loop

variable {server : GatewayServer} {requestId : String} {incoming rest : List Incoming}
  {connection : ModuleConnection} {frame : Frame}

/-- What a module sends, where it answers the requests in their order: to each request
the frames that it asks for services with, and then one final frame that carries the
request's id. It may stop answering, and the connection may fail. -/
def Orderly (server : GatewayServer) : List String → List Incoming → Prop
  | [], _ => True
  | _ :: _, [] => True
  | _ :: _, .failed _ :: _ => True
  | _ :: _, .raised :: _ => False
  | requestId :: later, .frame frame :: rest =>
      if isFinal requestId frame then
        belongsTo requestId frame = true ∧ Orderly server later rest
      else
        match server.serve frame with
        | some (.ok _) => Orderly server (requestId :: later) rest
        | _ => False

theorem orderly_nil (server : GatewayServer) (ids : List String) :
    server.Orderly ids [] := by
  cases ids <;> trivial

theorem orderly_final {later : List String} (final : isFinal requestId frame = true) :
    server.Orderly (requestId :: later) (.frame frame :: rest) ↔
      belongsTo requestId frame = true ∧ server.Orderly later rest := by
  rw [Orderly, if_pos final]

theorem orderly_serve {later : List String} (final : isFinal requestId frame = false)
    (orderly : server.Orderly (requestId :: later) (.frame frame :: rest)) :
    ∃ service, server.serve frame = some (.ok service) ∧
      server.Orderly (requestId :: later) rest := by
  rw [Orderly, if_neg (Bool.eq_false_iff.mp final)] at orderly
  cases served : server.serve frame with
  | none =>
      rw [served] at orderly
      cases orderly
  | some outcome =>
      rw [served] at orderly
      cases outcome with
      | error => cases orderly
      | ok service => exact ⟨service, rfl, orderly⟩

theorem loop_final (final : isFinal requestId frame = true) :
    server.readUntilResponse requestId (.frame frame :: rest) connection =
      ⟨.value (.ok frame), { connection with incoming := rest }, some frame, []⟩ := by
  rw [readUntilResponse]
  exact if_pos final

theorem loop_serve {service : Service} {written : ModuleConnection}
    (final : isFinal requestId frame = false)
    (served : server.serve frame = some (.ok service))
    (sent : { connection with incoming := rest }.write service.answer = .ok written) :
    server.readUntilResponse requestId (.frame frame :: rest) connection =
      { server.readUntilResponse requestId rest written with
        serviced := (frame, .ok service) ::
          (server.readUntilResponse requestId rest written).serviced } := by
  rw [readUntilResponse]
  simp only [final, served, sent]
  rfl

theorem loop_serve_fails {service : Service} {reason : String}
    (final : isFinal requestId frame = false)
    (served : server.serve frame = some (.ok service))
    (lost : { connection with incoming := rest }.write service.answer = .error reason) :
    server.readUntilResponse requestId (.frame frame :: rest) connection =
      ⟨.value (.error reason), { connection with incoming := rest }, none,
        [(frame, .ok service)]⟩ := by
  rw [readUntilResponse]
  simp only [final, served, lost]
  rfl

theorem ending_of_received (response : isType "response" frame = true)
    (received : (server.readUntilResponse requestId incoming connection).received =
      some frame) :
    (server.readUntilResponse requestId incoming connection).ending = .value (.ok frame) := by
  induction incoming generalizing connection with
  | nil => cases received
  | cons delivered rest induction =>
      cases delivered with
      | failed reason => cases received
      | raised => cases received
      | frame head =>
          cases final : isFinal requestId head with
          | true =>
              rw [loop_final final] at received ⊢
              rw [Option.some.inj received]
          | false =>
              rw [readUntilResponse] at received ⊢
              simp only [final, Bool.false_eq_true, if_false] at received ⊢
              -- A frame that is no response and is not serviced is received as well.
              have other : head ≠ frame := by
                intro equal
                rw [equal, isFinal_of_response response] at final
                cases final
              cases served : server.serve head with
              | none =>
                  simp only [served] at received
                  split at received
                  · exact absurd (Option.some.inj received) other
                  · exact absurd (Option.some.inj received) other
              | some outcome =>
                  simp only [served] at received ⊢
                  cases outcome with
                  | error => cases received
                  | ok service =>
                      dsimp only at received ⊢
                      split at received
                      · cases received
                      · exact induction received

/-- A module that answers the request has its response read, and is left at its answer
to the next one, unless the connection fails. -/
theorem orderly_loop {later : List String}
    (orderly : server.Orderly (requestId :: later) incoming) :
    let loop := server.readUntilResponse requestId incoming connection
    (∀ frame, loop.received = some frame → belongsTo requestId frame = true) ∧
      ((∃ reason, loop.ending = .value (.error reason)) ∨
        server.Orderly later loop.connection.incoming) := by
  induction incoming generalizing connection with
  | nil => exact ⟨nofun, .inr (orderly_nil server later)⟩
  | cons delivered rest induction =>
      cases delivered with
      | failed reason => exact ⟨nofun, .inl ⟨reason, rfl⟩⟩
      | raised => cases orderly
      | frame head =>
          cases final : isFinal requestId head with
          | true =>
              rw [loop_final final]
              rcases (orderly_final final).mp orderly with ⟨belongs, remaining⟩
              refine ⟨fun frame received => ?_, .inr remaining⟩
              rw [← Option.some.inj received]
              exact belongs
          | false =>
              rcases orderly_serve final orderly with ⟨service, served, remaining⟩
              cases sent : { connection with incoming := rest }.write service.answer with
              | error reason =>
                  rw [loop_serve_fails final served sent]
                  exact ⟨nofun, .inl ⟨reason, rfl⟩⟩
              | ok written =>
                  rw [loop_serve final served sent]
                  exact induction remaining

end Loop

/-! ## Exchanges -/

variable [NumberText] {server : GatewayServer} {request : Dispatched}
  {connection written : ModuleConnection}

theorem exchange_of_write_error {reason : String}
    (lost : connection.write (requestFrame request.requestId request.context) =
      .error reason) :
    server.exchange request connection =
      ⟨.value (server.unavailable ("gateway connection failed mid-request: " ++ reason)),
        connection.close, none, []⟩ := by
  rw [exchange, lost]

theorem exchange_of_write
    (sent : connection.write (requestFrame request.requestId request.context) =
      .ok written) :
    let loop := server.readUntilResponse request.requestId connection.incoming written
    (server.exchange request connection).received = loop.received ∧
      (server.exchange request connection).serviced = loop.serviced ∧
      (server.exchange request connection).connection.incoming =
        loop.connection.incoming ∧
      ((∃ reason, loop.ending = .value (.error reason)) →
        (server.exchange request connection).connection.closed = true) := by
  have same : written.incoming = connection.incoming := by
    rw [ModuleConnection.eq_of_write sent]
  simp only [exchange, sent, same]
  rcases server.readUntilResponse request.requestId connection.incoming written with
    ⟨ending, reached, received, serviced⟩
  cases ending with
  | value outcome =>
      cases outcome with
      | error reason => exact ⟨rfl, rfl, rfl, fun _ => rfl⟩
      | ok frame => exact ⟨rfl, rfl, rfl, nofun⟩
  | raised => exact ⟨rfl, rfl, rfl, nofun⟩
  | unfinished => exact ⟨rfl, rfl, rfl, nofun⟩

theorem exchange_of_closed (closed : connection.closed = true) :
    (server.exchange request connection).received = none ∧
      (server.exchange request connection).connection.closed = true := by
  rcases ModuleConnection.write_of_closed closed with ⟨reason, lost⟩
  rw [exchange_of_write_error lost]
  exact ⟨rfl, rfl⟩

theorem orderly_exchange {later : List String}
    (orderly : server.Orderly (request.requestId :: later) connection.incoming) :
    (∀ frame, (server.exchange request connection).received = some frame →
      belongsTo request.requestId frame = true) ∧
    ((server.exchange request connection).connection.closed = true ∨
      server.Orderly later (server.exchange request connection).connection.incoming) := by
  cases sent : connection.write (requestFrame request.requestId request.context) with
  | error reason =>
      rw [exchange_of_write_error sent]
      exact ⟨nofun, .inl rfl⟩
  | ok written =>
      rcases exchange_of_write sent with ⟨received, -, incoming, fails⟩
      rcases orderly_loop orderly with ⟨belongs, remaining⟩
      rw [received, incoming]
      exact ⟨belongs, remaining.imp fails id⟩

theorem ending_of_mismatch {frame : Frame} (response : isType "response" frame = true)
    (received : (server.exchange request connection).received = some frame)
    (mismatch : belongsTo request.requestId frame = false) :
    (server.exchange request connection).ending =
      .value (.error (mismatchedRequestId frame request.requestId)) := by
  have notError : isType "error" frame = false := by
    unfold isType at response ⊢
    cases type : Json.get frame "type" with
    | string text =>
        rw [type] at response
        rw [Json.isText, of_decide_eq_true response]
        rfl
    | _ => rfl
  have decoded : decodeResponseFrame frame request.requestId =
      .ok (.error (mismatchedRequestId frame request.requestId)) := by
    unfold decodeResponseFrame
    simp only [notError, response, mismatch, Bool.false_eq_true, Bool.not_true, if_false,
      Bool.not_false, if_true]
  cases sent : connection.write (requestFrame request.requestId request.context) with
  | error reason =>
      rw [exchange_of_write_error sent] at received
      cases received
  | ok written =>
      have same : written.incoming = connection.incoming := by
        rw [ModuleConnection.eq_of_write sent]
      rw [(exchange_of_write sent).1] at received
      have ended := ending_of_received response received
      simp only [exchange, sent, same, ended, decoded]

/-! ## Runs -/

def advance (server : GatewayServer) (connection : ModuleConnection) :
    Event → ModuleConnection
  | .dispatched request => (server.exchange request connection).connection
  | .closed => connection.close

def after (server : GatewayServer) (events : List Event) (connection : ModuleConnection) :
    ModuleConnection :=
  events.foldl server.advance connection

/-- The dispatches of a run stay in step with the module. -/
structure InStep (server : GatewayServer) (connection : ModuleConnection)
    (events : List Event) : Prop where
  /-- When a dispatch has returned, the connection is dropped, or the next response that
  is read from it belongs to the next request. -/
  next : ∀ earlier previous next later,
    events = earlier ++ .dispatched previous :: .dispatched next :: later →
    (server.exchange previous (server.after earlier connection)).ending.Finished →
    (server.exchange previous (server.after earlier connection)).connection.closed = true ∨
      ∀ frame, (server.exchange next
          (server.exchange previous (server.after earlier connection)).connection).received =
          some frame → isType "response" frame = true →
        belongsTo next.requestId frame = true
  /-- A caller whose dispatch reads the response to an earlier request is told so, and
  nothing of that response. -/
  own : ∀ earlier current later past frame,
    events = earlier ++ .dispatched current :: later → .dispatched past ∈ earlier →
    (server.exchange current (server.after earlier connection)).received = some frame →
    isType "response" frame = true → belongsTo past.requestId frame = true →
    (server.exchange current (server.after earlier connection)).ending =
      .value (.error (mismatchedRequestId frame current.requestId))

theorem orderly_after {later : List Event} (events : List Event)
    (orderly : connection.closed = true ∨
      server.Orderly (requestIds (events ++ later)) connection.incoming) :
    (server.after events connection).closed = true ∨
      server.Orderly (requestIds later) (server.after events connection).incoming := by
  induction events generalizing connection with
  | nil => exact orderly
  | cons event rest induction =>
      apply induction
      cases event with
      | closed => exact .inl rfl
      | dispatched request =>
          rcases orderly with closed | orderly
          · exact .inl (exchange_of_closed closed).2
          · exact (orderly_exchange orderly).2

omit [TextCase] [TextOf] [BodyCodec] [OutboundClient] [DecoderText] [NumberText] in
theorem mem_requestIds {events : List Event} {past : Dispatched}
    (member : .dispatched past ∈ events) : past.requestId ∈ requestIds events :=
  List.mem_filterMap.mpr ⟨_, member, rfl⟩

/-- With ids that are not drawn twice, and a module that answers each request once and in
order, every dispatch stays in step, however many services the module asks for in
between and wherever the connection breaks. -/
theorem inStep_of_orderly (server : GatewayServer) (connection : ModuleConnection)
    (events : List Event) (fresh : (requestIds events).Nodup)
    (orderly : server.Orderly (requestIds events) connection.incoming) :
    server.InStep connection events where
  next := by
    intro earlier previous next later split _
    rw [split] at orderly
    rcases orderly_after earlier (.inr orderly) with closed | remaining
    · exact .inl (exchange_of_closed closed).2
    · rcases (orderly_exchange remaining).2 with closed | answered
      · exact .inl closed
      · exact .inr fun frame received _ => (orderly_exchange answered).1 frame received
  own := by
    intro earlier current later past frame split member received response belongs
    apply ending_of_mismatch response received
    apply Bool.eq_false_iff.mpr
    intro current_belongs
    have same : past.requestId = current.requestId :=
      eq_of_belongsTo belongs current_belongs
    rw [split, requestIds, List.filterMap_append] at fresh
    exact List.disjoint_of_nodup_append fresh (mem_requestIds member)
      (same ▸ List.mem_cons_self)

end GatewayServer

/-! ## Samples -/

namespace GatewaySamples

open scoped Plain PlainServing PlainGateway

def daemon : GatewayServer where
  socketPath := "/run/agtpd.sock"
  serverId := ""
  daemonVersion := ""
  catalogVersion := ""
  endpoints := .empty
  signingService := none
  outboundEnabled := true
  module := none

def sending (frames : List Frame) : ModuleConnection where
  moduleId := "mod_python"
  moduleVersion := ""
  capabilities := []
  closed := false
  incoming := frames.map .frame
  written := []
  failure := fun _ _ => none

def request (requestId : String) : Dispatched where
  requestId
  context := {
    input := []
    agentId := ""
    principalId := ""
    agentScopes := []
    authorityScope := []
    sessionId := none
    taskId := none
    requestId := ""
    method := "BOOK"
    path := "/room"
    headers := .empty
    agentVerified := false
    agentCertFingerprint := none
    agentCertExtensions := .absent }

def ping : Frame := [("type", .string "ping")]

def signRequest : Frame := [("type", .string "sign_request"), ("data_b64", .string "AA")]

def response (requestId : String) : Frame :=
  [("type", .string "response"), ("request_id", .string requestId)]

def twoRequests : List Event :=
  [.dispatched (request "req-1"), .dispatched (request "req-2")]

theorem orderly_module_stays_in_step :
    daemon.InStep (sending [signRequest, response "req-1", response "req-2"]) twoRequests :=
  GatewayServer.inStep_of_orderly daemon
    (sending [signRequest, response "req-1", response "req-2"]) twoRequests
    (by decide +kernel) ⟨rfl, rfl, trivial⟩

/-- A module that pings during a dispatch is read one response behind from then on. -/
theorem ping_breaks_the_step :
    ¬∀ (server : GatewayServer) (connection : ModuleConnection) (events : List Event),
      (requestIds events).Nodup → server.InStep connection events := by
  intro stays
  have inStep := stays daemon (sending [ping, response "req-1", response "req-2"])
    twoRequests (by decide +kernel)
  rcases inStep.next [] (request "req-1") (request "req-2") [] rfl trivial with
    closed | belongs
  · cases closed
  · cases belongs (response "req-1") rfl rfl

end GatewaySamples

end Agtp.Gateway
