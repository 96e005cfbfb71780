import Agtp.Server.EndpointRegistration
import Agtp.Server.GatewayCapabilities

/-! # Outbound calls

The daemon calls other servers in two places: for a module that asks it to, and for an endpoint
that is a proxy. -/

namespace Agtp.Gateway

open Registration (HandlerBinding startsWith)

variable [TextCase] [TextOf] [BodyCodec] [OutboundClient]

/-! ## Proxies -/

/-- A proxy that was resolved, with the pair of its endpoint. -/
structure ProxyHandler where
  upstream : String
  endpointMethod : String
  endpointPath : String
  agtp : (startsWith upstream "agtp://" || startsWith upstream "agtps://") = true

omit [TextCase] [TextOf] [BodyCodec] [OutboundClient] in
def resolveProxy (binding : HandlerBinding) (spec : EndpointSpec) : Except Raised ProxyHandler :=
  if Registration.hasType binding "proxy" then
    if binding.url.truthy then
      match binding.url with
      | .string upstream =>
          if agtp : (startsWith upstream "agtp://" || startsWith upstream "agtps://") = true then
            .ok ⟨upstream, spec.name, spec.shownPath, agtp⟩
          else .error .valueError
      | _ => .error .attributeError
    else .error .valueError
  else .error .valueError

def givenHeader (name value : String) : List (String × Json) :=
  if value = "" then [] else [(name, .string value)]

namespace ProxyHandler

/-- What the proxy asks of the server that it stands for. -/
def forwarded (handler : ProxyHandler) (context : EndpointContext) : OutboundCall where
  uri := handler.upstream
  method := handler.endpointMethod
  path := handler.endpointPath
  headers := ("Agent-ID", .string context.agentId) ::
    (givenHeader "Principal-ID" context.principalId ++
      givenHeader "Session-ID" (context.sessionId.getD "") ++
      givenHeader "Task-ID" (context.taskId.getD "") ++
      givenHeader "Authority-Scope" (String.intercalate "," context.authorityScope))
  body := BodyCodec.dumps (.object context.input)

def errorMessage (status : Int) (payload : Json) : String :=
  match payload with
  | .object members =>
      match Json.get members "error" with
      | .object error =>
          match Json.member error "message" with
          | some message => message.str
          | none => s!"upstream returned status {status}"
      | _ => s!"upstream returned status {status}"
  | _ => s!"upstream returned status {status}"

def proxied (handler : ProxyHandler) (upstream : Upstream) : EndpointResult :=
  let status := if upstream.status = 0 then 500 else upstream.status
  match BodyCodec.loadsStrict upstream.body with
  | none => .error ⟨"proxy_upstream_malformed",
      s!"upstream returned non-JSON body (status {status})",
      some (.object [("upstream", .string handler.upstream), ("status", .int status)])⟩
  | some payload =>
      if 400 ≤ status then
        .error ⟨"proxy_upstream_error", errorMessage status payload,
          some (.object [("upstream", .string handler.upstream), ("status", .int status),
            ("upstream_body", payload)])⟩
      else
        match payload with
        | .object members => .response ⟨members, status, [], none⟩
        | value => .response ⟨[("result", value)], status, [], none⟩

/-- `proxy_handler`. -/
def serve (handler : ProxyHandler) (context : EndpointContext) :
    EndpointResult × List Operation :=
  match OutboundClient.importError with
  | some reason => (.error ⟨"proxy_unavailable",
      "AGTP client unavailable on this daemon: " ++ reason,
      some (.object [("upstream", .string handler.upstream)])⟩, [])
  | none =>
      match callFetch (handler.forwarded context) with
      | (.error reason, performed) =>
          (.error ⟨"proxy_upstream_unreachable", "upstream call failed: " ++ reason,
            some (.object [("upstream", .string handler.upstream)])⟩, performed)
      | (.ok upstream, performed) => (handler.proxied upstream, performed)

end ProxyHandler

/-! ## What is asked of other servers -/

/-- The call that a module asks for, if its frame names a server. -/
def requested (frame : Frame) : Option OutboundCall :=
  match (Json.getOr frame "headers" (.object [])).toDict with
  | .error _ => none
  | .ok headers =>
      if Json.textOr frame "uri" "" = "" then none
      else some {
        uri := Json.textOr frame "uri" ""
        method := upper (Json.textOr frame "method" "QUERY")
        path := Json.textOr frame "path" "/"
        headers
        body := outboundBody (Json.get frame "body") }

def Answers (call : OutboundCall) (upstream : Upstream) : Prop :=
  OutboundClient.importError = none ∧ OutboundClient.fetch call = .ok upstream

def Delivers (operationId : String) (upstream : Upstream) (answer : Frame) : Prop :=
  ∃ body, (upstream.body = [] ∧ body = .null ∨ BodyCodec.loadsStrict upstream.body = some body) ∧
    answer = [("type", .string "outbound_response"), ("operation_id", .string operationId),
      ("status", .int upstream.status), ("headers", .object upstream.headers), ("body", body)]

def HandsOn (upstream : Upstream) : EndpointResult → Prop
  | .response response => response.status = upstream.status ∧
      upstream.headers = response.headers.map (fun header => (header.1, .string header.2)) ∧
      BodyCodec.loadsStrict upstream.body = some (.object response.body)
  | _ => False

/-- An answered call is the one that the module asked for, and its answer is delivered. An
unanswered one only is reported as unreachable. -/
structure RequestFaithful (frame : Frame) : Prop where
  delivered : ∀ call upstream, requested frame = some call → Answers call upstream →
    ∃ answer, handleOutboundRequest frame = .ok ⟨[.called call], answer⟩ ∧
      Delivers (Json.textOr frame "operation_id" "") upstream answer
  unreachable : ∀ service, handleOutboundRequest frame = .ok service →
    Json.get service.answer "code" = .string "upstream_unreachable" →
      ∀ call upstream, requested frame = some call → ¬Answers call upstream

structure ProxyFaithful (handler : ProxyHandler) (context : EndpointContext) : Prop where
  delivered : ∀ upstream, Answers (handler.forwarded context) upstream →
    ∃ result, handler.serve context = (result, [.called (handler.forwarded context)]) ∧
      HandsOn upstream result
  unreachable : ∀ error performed, handler.serve context = (.error error, performed) →
    error.code = "proxy_upstream_unreachable" →
      ∀ upstream, ¬Answers (handler.forwarded context) upstream

theorem handleOutboundRequest_of_requested {frame : Frame} {call : OutboundCall}
    (asks : requested frame = some call) (imported : OutboundClient.importError = none) :
    handleOutboundRequest frame = .ok ⟨[], operationError "outbound_error"
      (Json.textOr frame "operation_id" "") "upstream_unreachable"
      ("upstream call failed: fetch() got an unexpected keyword argument " ++
        TextOf.quoted "method")⟩ := by
  unfold requested at asks
  unfold handleOutboundRequest
  cases read : (Json.getOr frame "headers" (.object [])).toDict with
  | error raised =>
      rw [read] at asks
      cases asks
  | ok headers =>
      rw [read] at asks
      dsimp only at asks
      by_cases addressless : Json.textOr frame "uri" "" = ""
      · rw [if_pos addressless] at asks
        cases asks
      · simp only [bind, Except.bind]
        rw [if_neg addressless, imported]
        simp only [callFetch_eq]
        rfl

omit [TextCase] in
theorem serve_of_imported (handler : ProxyHandler) (context : EndpointContext)
    (imported : OutboundClient.importError = none) :
    handler.serve context = (.error ⟨"proxy_upstream_unreachable",
      "upstream call failed: " ++
        ("fetch() got an unexpected keyword argument " ++ TextOf.quoted "method"),
      some (.object [("upstream", .string handler.upstream)])⟩, []) := by
  unfold ProxyHandler.serve
  rw [imported]
  dsimp only
  rw [callFetch_eq]

theorem requestFaithful_iff (frame : Frame) :
    RequestFaithful frame ↔
      ∀ call upstream, requested frame = some call → ¬Answers call upstream := by
  constructor
  · intro faithful call upstream asks answers
    rcases faithful.delivered call upstream asks answers with ⟨answer, handled, _⟩
    rw [handleOutboundRequest_of_requested asks answers.1] at handled
    cases handled
  · intro unanswered
    exact ⟨fun call upstream asks answers => absurd answers (unanswered call upstream asks),
      fun _ _ _ => unanswered⟩

omit [TextCase] in
theorem proxyFaithful_iff (handler : ProxyHandler) (context : EndpointContext) :
    ProxyFaithful handler context ↔
      ∀ upstream, ¬Answers (handler.forwarded context) upstream := by
  constructor
  · intro faithful upstream answers
    rcases faithful.delivered upstream answers with ⟨result, handled, _⟩
    rw [serve_of_imported handler context answers.1] at handled
    cases handled
  · intro unanswered
    exact ⟨fun upstream answers => absurd answers (unanswered upstream),
      fun _ _ _ _ => unanswered⟩

/-- Outbound calls are faithful exactly where no server would answer them. -/
theorem outbound_faithful_iff :
    (∀ frame : Frame, RequestFaithful frame ↔
      ∀ call upstream, requested frame = some call → ¬Answers call upstream) ∧
    ∀ (handler : ProxyHandler) (context : EndpointContext), ProxyFaithful handler context ↔
      ∀ upstream, ¬Answers (handler.forwarded context) upstream :=
  ⟨requestFaithful_iff, proxyFaithful_iff⟩

end Agtp.Gateway

namespace Agtp.Gateway.OutboundSamples

open scoped Plain

scoped instance : OutboundClient := ⟨none, fun _ => .ok ⟨200, [], []⟩⟩

def asking : Frame := [("type", .string "outbound_request"), ("uri", .string "agtp://rooms.example")]

/-- A server that would answer is reported as unreachable. -/
theorem answer_lost : ¬RequestFaithful asking := by
  intro faithful
  exact (requestFaithful_iff asking).mp faithful _ ⟨200, [], []⟩ rfl ⟨rfl, rfl⟩

end Agtp.Gateway.OutboundSamples
