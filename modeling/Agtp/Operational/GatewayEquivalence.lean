import Agtp.Server.Destination

/-! # Two front ends

An HTTP request and the AGTP request that it stands for, up to the dispatcher that
the two listeners share. -/

/-! ## The HTTP gateway

`mod_http_gateway`: a listener for HTTP requests that translates each of them to
an AGTP request and hands it to the dispatcher. -/

namespace Agtp.HttpGateway

inductive HttpVerb where
  | get
  | post
  | put
  | delete
  | patch
  | head

def HttpVerb.name : HttpVerb → String
  | get => "GET"
  | post => "POST"
  | put => "PUT"
  | delete => "DELETE"
  | patch => "PATCH"
  | head => "HEAD"

/-- A request as `BaseHTTPRequestHandler` leaves it: the header fields in their
order, and what the connection holds behind them. The path is the target in one
piece. -/
structure HttpRequest where
  verb : HttpVerb
  path : String
  fields : List (String × String)
  content : Bytes

/-- What becomes of an HTTP request before the response is written back. The
handler class answers 500 to whatever is raised. -/
inductive Translation where
  | crashed
  | replied (error : ErrorResponse)
  | dispatched (request : Request) (agent : AgentDocument)

variable [TextCase]

def HttpRequest.field (http : HttpRequest) (name : String) : String :=
  match http.fields.find? fun field => Wire.named name field.1 with
  | some (_, value) => value
  | none => ""

/-! ## Headers -/

/-- The HTTP headers that are carried over, with their AGTP names. All others are
dropped. -/
def forwards : List (String × String) := [
  ("x-request-id", "Request-ID"),
  ("x-task-id", "Task-ID"),
  ("x-session-id", "Session-ID"),
  ("x-contract-synthesized", "Contract-Synthesized"),
  ("contract-synthesized", "Contract-Synthesized"),
  ("x-synthesis-id", "Synthesis-Id"),
  ("x-idempotency-key", "Idempotency-Key"),
  ("idempotency-key", "Idempotency-Key"),
  ("rcns-idempotency-key", "RCNS-Idempotency-Key"),
  ("content-type", "Content-Type")]

def forward (http : HttpRequest) (headers : Headers) (names : String × String) :
    Headers :=
  if http.field names.1 = "" then headers
  else headers.set names.2 (http.field names.1)

def agtpHeaders (http : HttpRequest) (agentId : String) (length : Int) : Headers :=
  (forwards.foldl (forward http) (Dict.ofList
    [("Agent-ID", agentId), ("Content-Length", toString length)])).erase "Allow-RCNS"

/-! ## Translation -/

def HttpRequest.contentLength [NumberText] (http : HttpRequest) : Option Int :=
  NumberText.intOfText
    (if http.field "Content-Length" = "" then "0" else http.field "Content-Length")

def HttpRequest.agentIdRaw (http : HttpRequest) (pinned : String) : String :=
  if http.field "X-Agent-Id" ≠ "" then http.field "X-Agent-Id"
  else if http.field "Agent-ID" ≠ "" then http.field "Agent-ID"
  else pinned

omit [TextCase] in
def missingAgentId : ErrorResponse where
  status := 401
  statusText := "Unauthorized"
  error := [("code", .string "missing-agent-id"),
    ("detail", .string ("REST gateway requires an X-Agent-Id header or " ++
      "AGTP_HTTP_GATEWAY_AGENT_ID operator-pinned value"))]

omit [TextCase] in
def agentNotFound [TextOf] (agentId : String) : ErrorResponse where
  status := 404
  statusText := "Not Found"
  error := [("code", .string "agent-not-found"),
    ("detail", .string s!"no agent with id {TextOf.quoted agentId} on this server"),
    ("agent_id", .string agentId)]

/-- `AGTPRequest(...)` of `_translate_and_dispatch`. -/
def agtpRequest (http : HttpRequest) (agentId : String) (length : Int) : Request where
  method := http.verb.name
  headers := agtpHeaders http agentId length
  body := http.content.take length.toNat
  path := http.path
  query := .empty
  verifiedCert := none
  aliasedFrom := ""
  actingPrincipalId := ""

def resolveAgentDoc (registry : AgentRegistry) (agentId : String) :
    Option AgentDocument :=
  registry.lookup (lower (Text.strip agentId))

/-- `_translate_and_dispatch` up to the dispatcher. -/
def translate [TextOf] [NumberText] (registry : AgentRegistry) (pinned : String)
    (http : HttpRequest) : Translation :=
  match http.contentLength with
  | none => .crashed
  | some length =>
      let agentId := http.agentIdRaw pinned
      if agentId = "" then .replied missingAgentId
      else
        match resolveAgentDoc registry agentId with
        | none => .replied (agentNotFound agentId)
        | some agent => .dispatched (agtpRequest http agentId length) agent

end Agtp.HttpGateway

namespace Agtp.HttpGateway

open Connection

variable [TextCase]

/-! ## Carried headers -/

omit [TextCase] in
def carriedNames : List String := [
  "Agent-ID", "Content-Length", "Request-ID", "Task-ID", "Session-ID",
  "Contract-Synthesized", "Synthesis-Id", "Idempotency-Key", "RCNS-Idempotency-Key",
  "Content-Type"]

omit [TextCase] in
def OnlyCarried (headers : Headers) : Prop :=
  ∀ key ∈ headers.keys, key ∈ carriedNames

theorem onlyCarried_forward {http : HttpRequest} {headers : Headers}
    {names : String × String} (carried : names.2 ∈ carriedNames)
    (before : OnlyCarried headers) : OnlyCarried (forward http headers names) := by
  unfold forward
  split
  · exact before
  · intro key member
    rcases Dict.mem_keys_set member with held | rfl
    · exact before key held
    · exact carried

theorem onlyCarried_foldl {http : HttpRequest} {headers : Headers}
    (names : List (String × String)) (carried : ∀ pair ∈ names, pair.2 ∈ carriedNames)
    (before : OnlyCarried headers) : OnlyCarried (names.foldl (forward http) headers) := by
  induction names generalizing headers with
  | nil => exact before
  | cons pair rest induction =>
      apply induction fun other member => carried other (List.mem_cons_of_mem pair member)
      exact onlyCarried_forward (carried pair List.mem_cons_self) before

theorem onlyCarried_agtpHeaders (http : HttpRequest) (agentId : String) (length : Int) :
    OnlyCarried (agtpHeaders http agentId length) := by
  intro key member
  apply onlyCarried_foldl forwards (by decide) ?_ key (Dict.mem_keys_of_erase member)
  intro held first
  rcases Dict.mem_keys_set first with earlier | rfl
  · rcases Dict.mem_keys_set earlier with none | rfl
    · cases none
    · exact (by decide : "Agent-ID" ∈ carriedNames)
  · exact (by decide : "Content-Length" ∈ carriedNames)

theorem header_uncarried {headers : Headers} (only : OnlyCarried headers) {name : String}
    (ascii : Text.isAscii name)
    (uncarried : ∀ key ∈ carriedNames, Text.isAscii key ∧
      Text.asciiLower key ≠ Text.asciiLower name) :
    Wire.header headers name = "" := by
  have absent : headers.first? (Wire.named name) = none := by
    apply List.find?_eq_none.mpr
    intro entry member
    have carried := only entry.1 (List.mem_map_of_mem member)
    rcases uncarried entry.1 carried with ⟨keyAscii, different⟩
    simp [Wire.named_ascii ascii keyAscii, different]
  unfold Wire.header
  rw [absent]

/-! ## The AGTP request -/

/-- The AGTP request with the agent, the method, the target and the body of an HTTP
request, and with the headers that are carried over, in any case and order. -/
structure StandsFor (wire : WireRequest) (http : HttpRequest) (seen : Request)
    (agent : AgentDocument) : Prop where
  method : wire.method = http.verb.name
  target : wire.target = http.path
  body : wire.body = seen.body
  agentId : Wire.header wire.headers "Agent-ID" = agent.agentId
  headers : ∀ name, Wire.named "Agent-ID" name = false →
    Wire.header wire.headers name = Wire.header seen.headers name

/-- A path that the listener takes as it is: without a query, a fragment or the name
of an agent. -/
structure PlainPath (path : String) : Prop where
  noQuery : '?' ∉ path.toList
  noFragment : '#' ∉ path.toList
  noHandle : agentHandle path = none

/-! ## The listener's checks -/

section Listener

variable [TextOf] {EndpointHandler MethodHandler : Type}
  {server : Server EndpointHandler MethodHandler}

omit [TextOf] in
theorem upper_name (verb : HttpVerb) : upper verb.name = verb.name := by
  rw [TextCase.upper_ascii _ (by cases verb <;> decide)]
  cases verb <;> decide

omit [TextOf] in
theorem name_unapproved (verb : HttpVerb) :
    agtpCatalog.isApprovedVerb verb.name = false := by
  unfold Catalog.isApprovedVerb
  rw [upper_name]
  cases verb <;> decide +kernel

theorem softDenied_verb (catalog : server.catalog = agtpCatalog)
    (isSynthesis : String → Bool) {request : Request} (agent : AgentDocument)
    (verb : HttpVerb) (method : request.method = verb.name) :
    softDenied server isSynthesis request agent = none := by
  have unknown : server.methods.contains verb.name = false := by
    unfold MethodRegistry.contains
    cases found : server.methods.lookup verb.name with
    | none => rfl
    | some spec =>
        have approved := (MethodRegistry.facts_of_lookup found).2.2
        rw [catalog, name_unapproved] at approved
        cases approved
  unfold softDenied softDenyCheck
  simp [method, upper_name, unknown]

/-- A request without a certificate that names its agent, and that no check
refuses, is dispatched as it is. -/
theorem handle_dispatched {hooks : Hooks} {registry : AgentRegistry}
    {isSynthesis : String → Bool} {request : Request} {agent : AgentDocument}
    (uncertified : request.verifiedCert = none)
    (named : Wire.readAgentId request.headers ≠ "")
    (delegation : delegationGate request = none)
    (handleFree : agentHandle request.path = none)
    (unanswered : hookAnswer hooks request = none)
    (selected : selectTarget registry request = .ok agent)
    (permitted : softDenied server isSynthesis request agent = none) :
    handle server hooks registry isSynthesis .absent request =
      .dispatched request agent := by
  have same : { request with verifiedCert := none } = request := by
    rw [← uncertified]
  have bound : bindIdentity server .absent request =
      .ok ⟨request, Wire.readAgentId request.headers⟩ := by
    unfold bindIdentity
    rw [same]
  have resolved : resolveHandle registry ⟨request, Wire.readAgentId request.headers⟩ =
      .ok ⟨request, Wire.readAgentId request.headers⟩ := by
    simp only [resolveHandle, handleFree]
  simp only [handle, bound, delegation, resolved, route, unanswered, named, and_false,
    if_false, selected, permitted]

theorem listen_dispatches [UrlText] (hooks : Hooks) (own : OwnMethods hooks)
    (registry : AgentRegistry) (isSynthesis : String → Bool)
    (catalog : server.catalog = agtpCatalog) {wire : WireRequest} {http : HttpRequest}
    {agentId : String} {length : Int} {agent : AgentDocument}
    (hosted : registry.lookup agent.agentId = some agent) (named : agent.agentId ≠ "")
    (plain : PlainPath http.path)
    (stands : StandsFor wire http (agtpRequest http agentId length) agent) :
    ∃ listened, listen server hooks registry isSynthesis .absent wire =
        .dispatched listened agent ∧
      Gates.Alike listened (agtpRequest http agentId length) ∧
      Wire.readSynthesisId listened.headers =
        Wire.readSynthesisId (agtpHeaders http agentId length) := by
  let listened : Request := {
    method := wire.method
    headers := wire.headers
    body := wire.body
    path := if http.path = "" then "/" else http.path
    query := .empty
    verifiedCert := none
    aliasedFrom := ""
    actingPrincipalId := "" }
  have received : Wire.receive wire = .ok listened := by
    unfold Wire.receive
    rw [stands.target, Wire.splitTarget_path plain.noQuery plain.noFragment]
    rfl
  have carries (name : String) (other : Wire.named "Agent-ID" name = false) :
      Wire.header wire.headers name =
        Wire.header (agtpHeaders http agentId length) name := stands.headers name other
  have other {name : String} (ascii : Text.isAscii name)
      (different : Text.asciiLower name ≠ Text.asciiLower "Agent-ID") :
      Wire.named "Agent-ID" name = false := by
    rw [Wire.named_ascii (by decide) ascii]
    exact decide_eq_false different
  have read : Wire.readAgentId listened.headers = agent.agentId := by
    change Wire.headerOrLegacy wire.headers "Agent-ID" "Target-Agent" = _
    unfold Wire.headerOrLegacy
    rw [stands.agentId]
    exact if_pos named
  have delegation : delegationGate listened = none := by
    unfold delegationGate
    have absent : Wire.header listened.headers "Delegation-Chain" = "" := by
      change Wire.header wire.headers "Delegation-Chain" = ""
      rw [carries _ (other (by decide) (by decide))]
      exact header_uncarried (onlyCarried_agtpHeaders http agentId length) (by decide)
        (by decide)
    simp [absent]
  have handleFree : agentHandle listened.path = none := by
    by_cases empty : http.path = ""
    · have root : listened.path = "/" := if_pos empty
      rw [root]
      decide
    · have kept : listened.path = http.path := if_neg empty
      rw [kept]
      exact plain.noHandle
  have verb : upper listened.method = http.verb.name := by
    change upper wire.method = _
    rw [stands.method, upper_name]
  have answered : hookAnswer hooks listened = none := by
    apply hookAnswer_none own
    rw [verb]
    cases http.verb <;> decide
  have selected : selectTarget registry listened = .ok agent := by
    unfold selectTarget
    rw [read]
    simp only [named, if_false, hosted]
  refine ⟨listened, ?_, ?_, ?_⟩
  · simp only [Connection.listen, received]
    apply handle_dispatched rfl (by rwa [read]) delegation handleFree answered selected
    exact softDenied_verb catalog isSynthesis agent http.verb stands.method
  · exact {
      method := stands.method
      path := by
        unfold Request.requestPath
        by_cases empty : http.path = "" <;> simp [listened, agtpRequest, empty]
      body := stands.body
      query := rfl
      scopes := carries _ (other (by decide) (by decide))
      token := carries _ (other (by decide) (by decide)) }
  · change Wire.readSynthesisId wire.headers = _
    unfold Wire.readSynthesisId Wire.headerOrLegacy
    rw [carries "Contract-Synthesized" (other (by decide) (by decide)),
      carries "Synthesis-Id" (other (by decide) (by decide))]

end Listener

/-! ## Equivalence -/

section Equivalence

variable {App : Type} [TextOf] [UrlText] [BodyCodec] [SchemaValidator] [Digest]
  [ContractCodec] [Tokens] [NumberText] [Clock]

/-- Where the listener refuses the AGTP request, no handler runs for the HTTP request,
and where it dispatches it, the two go to one destination. -/
structure Equivalent (server : RunningServer App) (hooks : Hooks)
    (registry : AgentRegistry) (isSynthesis : String → Bool) (wire : WireRequest)
    (seen : Request) (agent : AgentDocument) : Prop where
  refused : ∀ refusal,
    listen server hooks registry isSynthesis .absent wire = .refused refusal →
      ∀ depth state call,
        .called call ∉ (Dispatch.dispatch server depth seen agent state).log
  together : ∀ listened other,
    listen server hooks registry isSynthesis .absent wire = .dispatched listened other →
      ∀ state : State App,
        Gates.destination server (state.document other) listened =
          Gates.destination server (state.document agent) seen

/-- For a plain path and the headers that are carried over, the listener dispatches
the AGTP request for the agent of the HTTP request, and to the same destination. -/
theorem dispatched_together {server : RunningServer App} {hooks : Hooks}
    (own : OwnMethods hooks) (catalog : server.catalog = agtpCatalog)
    {registry : AgentRegistry} (isSynthesis : String → Bool) {pinned : String}
    {http : HttpRequest} {seen : Request} {agent : AgentDocument}
    (translated : translate registry pinned http = .dispatched seen agent)
    (named : agent.agentId ≠ "") (plain : PlainPath http.path) {wire : WireRequest}
    (stands : StandsFor wire http seen agent) :
    (∃ listened, listen server hooks registry isSynthesis .absent wire =
      .dispatched listened agent) ∧
    Equivalent server hooks registry isSynthesis wire seen agent := by
  unfold translate at translated
  split at translated
  · cases translated
  · next length _ =>
      simp only at translated
      split at translated
      · cases translated
      · split at translated
        · cases translated
        · next found =>
            cases translated
            have hosted : registry.lookup agent.agentId = some agent := by
              rw [AgentRegistry.agentId_of_lookup found]
              exact found
            rcases listen_dispatches hooks own registry isSynthesis catalog hosted named
              plain stands with ⟨listened, dispatched, alike, synthesisId⟩
            refine ⟨⟨listened, dispatched⟩, ?_, ?_⟩
            · intro refusal refused
              rw [dispatched] at refused
              cases refused
            · intro other otherAgent same state
              rw [dispatched] at same
              cases same
              exact Gates.destination_congr alike synthesisId

end Equivalence

def asWritten (http : HttpRequest) (agent : AgentDocument) (body : Bytes) :
    WireRequest where
  method := http.verb.name
  target := http.path
  headers := Dict.ofList (("Agent-ID", agent.agentId) :: http.fields.filter fun field =>
    !Wire.named "X-Agent-Id" field.1 && !Wire.named "Agent-ID" field.1)
  body := body

end Agtp.HttpGateway

namespace Agtp.HttpGateway.Samples

open Connection
open scoped Plain PlainServing

scoped instance : NumberText where
  intOfText text := if text = "0" then some 0 else none
  intOfFloat _ := none

/-- Serves `GET` as `BOOK`, which is bound at `/room`. -/
def restServer : RunningServer Unit :=
  { Server.bare (EndpointHandler Unit) (MethodHandler Unit) with
    methodsPolicy :=
      { MethodsPolicy.allowEverything with aliases := .ofList [("GET", "BOOK")] }
    endpoints := .single ⟨"BOOK", "/room", [], [], []⟩
      (some (.function fun _ state => (some ⟨200, "OK", [], .null⟩, state)))
      (by decide +kernel) (by decide +kernel) }

def guest : AgentDocument := .active "guest" ⟨[], [], false⟩

def getRoom (fields : List (String × String)) : HttpRequest :=
  ⟨.get, "/room", ("X-Agent-Id", "guest") :: fields, []⟩

def translated (fields : List (String × String)) : Request :=
  agtpRequest (getRoom fields) "guest" 0

def isEndpoint {EndpointHandler MethodHandler : Type} :
    Destination EndpointHandler MethodHandler → Bool
  | .endpoint _ _ _ _ => true
  | _ => false

theorem endpoint_of_isEndpoint {EndpointHandler MethodHandler : Type}
    {destination : Destination EndpointHandler MethodHandler}
    (goes : isEndpoint destination = true) :
    ∃ method path handler input, destination = .endpoint method path handler input := by
  cases destination with
  | endpoint method path handler input => exact ⟨method, path, handler, input, rfl⟩
  | _ => cases goes

def isRefused : Outcome → Bool
  | .refused _ => true
  | _ => false

theorem refused_of_isRefused {outcome : Outcome} (shown : isRefused outcome = true) :
    ∃ refusal, outcome = .refused refusal := by
  cases outcome with
  | refused refusal => exact ⟨refusal, rfl⟩
  | _ => cases shown

def nativeRequest : WireRequest :=
  ⟨"GET", "/room", .ofList [("Agent-ID", "guest"), ("Content-Length", "0")], []⟩

theorem standsFor_nativeRequest :
    StandsFor nativeRequest (getRoom []) (translated []) guest := by
  have headers : nativeRequest.headers.entries = (translated []).headers.entries := by
    decide +kernel
  refine ⟨rfl, rfl, rfl, by decide +kernel, ?_⟩
  intro name _
  simp only [Wire.header, Dict.first?, headers]

/-- A plain `GET /room` reaches the endpoint of the room on either way. -/
theorem plain_request_booked :
    translate (.sole guest) "" (getRoom []) = .dispatched (translated []) guest ∧
      Equivalent restServer [] (.sole guest) (fun _ => false) nativeRequest
        (translated []) guest := by
  have made : translate (.sole guest) "" (getRoom []) =
      .dispatched (translated []) guest := by rfl
  have own : OwnMethods [] := fun _ member => absurd member List.not_mem_nil
  refine ⟨made, (dispatched_together own rfl _ made (by decide) ?_
    standsFor_nativeRequest).2⟩
  exact ⟨by decide, by decide, by decide⟩

/-- The gateway drops the delegation chain that the listener refuses. -/
theorem delegated_request_handled :
    translate (.sole guest) "" (getRoom [("Delegation-Chain", "a")]) =
        .dispatched (translated [("Delegation-Chain", "a")]) guest ∧
      ¬Equivalent restServer [] (.sole guest) (fun _ => false)
        (asWritten (getRoom [("Delegation-Chain", "a")]) guest [])
        (translated [("Delegation-Chain", "a")]) guest := by
  refine ⟨rfl, ?_⟩
  intro equivalent
  have shown : isRefused (listen restServer [] (.sole guest) (fun _ => false) .absent
      (asWritten (getRoom [("Delegation-Chain", "a")]) guest [])) = true := by
    decide +kernel
  rcases refused_of_isRefused shown with ⟨refusal, refused⟩
  have goes : isEndpoint (Gates.destination restServer guest
      (translated [("Delegation-Chain", "a")])) = true := by decide +kernel
  rcases endpoint_of_isEndpoint goes with ⟨method, path, handler, input, endpoint⟩
  let state : State Unit := .boot (.sole guest) 0 ()
  have current : state.document guest = guest := by rfl
  rw [← current] at endpoint
  rcases Dispatch.called_of_endpoint endpoint 0 with ⟨call, _, rest, logged, _⟩
  apply equivalent.refused refusal refused 1 state call
  rw [logged]
  exact List.mem_cons_self

end Agtp.HttpGateway.Samples
