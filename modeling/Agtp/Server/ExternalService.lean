import Agtp.Foundation.Renaming
import Agtp.Server.EndpointRegistration
import Agtp.Server.GatewayServer

/-! # External services

Endpoints that the daemon serves by calling an HTTP service: how the fields of a request and of
an answer are renamed, and what errors such a handler and its siblings return. -/

namespace Agtp.ExternalService

open Registration (HandlerBinding externalLaw textIn isOneOf)

/-! ## Translation -/

def translateInput (body : Dict String Json) (inputMap : Dict String String) :
    Dict String Json :=
  if inputMap.entries = [] then body else body.rename inputMap.renamed

def translateOutput (body : Json) (outputMap : Dict String String) : Dict String Json :=
  match body with
  | .object members =>
      if outputMap.entries = [] then .ofList members
      else (Dict.ofList members).rename outputMap.restored
  | value => .ofList [("result", value)]

def answerBody (parsed : Json) (outputMap : Dict String String) : Dict String Json :=
  translateOutput (if parsed.truthy then parsed else .object []) outputMap

theorem translateInput_eq (body : Dict String Json) (inputMap : Dict String String) :
    translateInput body inputMap = body.rename inputMap.renamed := by
  unfold translateInput
  split
  · next empty =>
      refine (Dict.rename_id fun name => ?_).symm
      rw [Dict.renamed, Dict.get?, empty]
      rfl
  · rfl

theorem translateOutput_object (members : List (String × Json)) (outputMap : Dict String String) :
    translateOutput (.object members) outputMap =
      (Dict.ofList members).rename outputMap.restored := by
  unfold translateOutput
  dsimp only
  split
  · next empty =>
      refine (Dict.rename_id fun name => ?_).symm
      rw [Dict.restored, Dict.inverted, empty]
      rfl
  · rfl

/-! ## The handler -/

structure HttpStatus where
  code : Nat
  least : 100 ≤ code
  most : code ≤ 999

structure HttpRequest where
  method : String
  url : String
  headers : Dict String String
  body : Bytes
  timeout : Double

inductive FailureKind where
  | timeout
  | connection

def FailureKind.code : FailureKind → String
  | timeout => "upstream_timeout"
  | connection => "upstream_connection_error"

inductive RequestOutcome where
  | failed (kind : FailureKind) (detail : String)
  | answered (status : HttpStatus) (body : Bytes)
  | raised

/-- A binding that was resolved. Registration checks that mapped errors are declared. -/
structure Service (declared : List String) where
  url : String
  method : String
  timeout : Double
  headers : Dict String String
  inputMap : Dict String String
  outputMap : Dict String String
  errorMap : Dict String String
  mapped : ∀ entry ∈ errorMap.entries, entry.2 ∈ declared

def membersIn : Json → List (String × Json)
  | .object members => members
  | _ => []

section Resolving

variable [TextCase] [TextOf] [Floats]

omit [TextCase] in
theorem mapped_of_externalLaw {declared : List String} {binding : HandlerBinding}
    (passes : (externalLaw declared binding).passes) :
    ∀ entry ∈ (Dict.ofList ((membersIn binding.errorMap).map fun entry =>
      (entry.1, entry.2.str))).entries, entry.2 ∈ declared := by
  intro entry member
  rcases List.mem_map.mp (Dict.mem_of_ofList member) with ⟨source, held, same⟩
  have errors := Registration.errorMapLaw_passes_iff.mp passes.2.2.2.2
  cases isMap : binding.errorMap with
  | object members =>
      rw [isMap] at held errors
      have truthy : (Json.object members).truthy = true := by
        cases members with
        | nil => exact absurd held List.not_mem_nil
        | cons => rfl
      rcases errors truthy with ⟨others, equal, all⟩
      cases equal
      have declares := all source held
      rw [← same]
      cases value : source.2 with
      | string text =>
          rw [value] at declares
          exact List.contains_iff_mem.mp declares
      | _ =>
          rw [value] at declares
          cases declares
  | _ =>
      rw [isMap] at held
      exact absurd held List.not_mem_nil

/-- `resolve_external_service`, behind its checks, of a binding that is registered. -/
def resolved {declared : List String} (binding : HandlerBinding)
    (headers inputMap outputMap : Dict String String)
    (passes : (externalLaw declared binding).passes) : Service declared where
  url := textIn binding.url
  method := upper (textIn binding.method)
  timeout := binding.timeoutSeconds.number?.getD .nan
  headers := headers
  inputMap := inputMap
  outputMap := outputMap
  errorMap := .ofList ((membersIn binding.errorMap).map fun entry => (entry.1, entry.2.str))
  mapped := mapped_of_externalLaw passes

end Resolving

namespace Service

variable [TextCase] [BodyCodec] {declared : List String}

def request (service : Service declared) (input : Dict String Json) : HttpRequest :=
  let httpInput := translateInput input service.inputMap
  let body := if httpInput.entries = [] then [] else BodyCodec.dumps (.object httpInput.entries)
  {
    method := service.method
    url := service.url
    headers :=
      if body ≠ [] ∧ ∀ name ∈ service.headers.keys, lower name ≠ "content-type" then
        service.headers.set "Content-Type" "application/json"
      else service.headers
    body
    timeout := service.timeout }

omit [TextCase] in
def readBody (body : Bytes) : Option Json :=
  if body = [] then some .null else BodyCodec.loadsStrict body

omit [TextCase] [BodyCodec] in
def codeOf (service : Service declared) (status : HttpStatus) : String :=
  match service.errorMap.get? (toString status.code) with
  | some mapped => mapped
  | none =>
      if status.code = 401 ∨ status.code = 403 then "upstream_authentication_failed"
      else "upstream_error"

omit [TextCase] in
/-- How the outcome of the request is answered. Other exceptions are not caught here. -/
def answer (service : Service declared) : RequestOutcome → Option EndpointResult
  | .raised => none
  | .failed kind detail => some (.error ⟨kind.code,
      "external service request failed: " ++ (if detail = "" then kind.code else detail),
      some (.object [("upstream_url", .string service.url),
        ("upstream_method", .string service.method)])⟩)
  | .answered status body =>
      match readBody body with
      | none => some (.error ⟨"upstream_malformed_response",
          "external service returned a body that is not valid JSON",
          some (.object [("upstream_status", .int status.code),
            ("upstream_url", .string service.url)])⟩)
      | some parsed =>
          if 400 ≤ status.code then
            some (.error ⟨service.codeOf status, s!"upstream returned HTTP {status.code}",
              some (.object [("upstream_status", .int status.code),
                ("upstream_url", .string service.url), ("upstream_body", parsed)])⟩)
          else some (.response ⟨(answerBody parsed service.outputMap).entries, status.code, [], none⟩)

def handle (service : Service declared) (transport : HttpRequest → RequestOutcome)
    (input : Dict String Json) : Option EndpointResult :=
  service.answer (transport (service.request input))

end Service

/-! ## Translation without loss -/

/-- Nothing of a request and of an answer is lost. -/
structure Lossless {declared : List String} (service : Service declared)
    (input : Dict String Json) (parsed : Json) : Prop where
  sent : ∀ name value, input.get? name = some value →
    (translateInput input service.inputMap).get? (service.inputMap.renamed name) = some value
  delivered : ∀ members, parsed = .object members → ∀ name value,
    (Dict.ofList members).get? name = some value →
      (answerBody parsed service.outputMap).get? (service.outputMap.restored name) = some value
  inverse : ∀ name, (translateOutput (.object (translateInput input service.inputMap).entries)
    service.inputMap).get? name = input.get? name
  result : (∀ members, parsed ≠ .object members) →
    (answerBody parsed service.outputMap).get? "result" = some parsed

/-- Every input field comes back under its own name, no two fields of the answer that differ come
to one name, and a value that is no object counts as true. -/
structure Separable {declared : List String} (service : Service declared)
    (input : Dict String Json) (parsed : Json) : Prop where
  comesBack : ∀ name ∈ input.keys,
    service.inputMap.restored (service.inputMap.renamed name) = name
  apart : ∀ members, parsed = .object members →
    (Dict.ofList members).Apart service.outputMap.restored
  counts : (∀ members, parsed ≠ .object members) → parsed.truthy = true

theorem answerBody_object (members : List (String × Json)) (outputMap : Dict String String) :
    answerBody (.object members) outputMap = (Dict.ofList members).rename outputMap.restored := by
  unfold answerBody
  split
  · exact translateOutput_object members outputMap
  · next falsy =>
      cases members with
      | nil => exact translateOutput_object [] outputMap
      | cons => exact absurd rfl falsy

theorem answerBody_result_iff {parsed : Json} (outputMap : Dict String String)
    (plain : ∀ members, parsed ≠ .object members) :
    (answerBody parsed outputMap).get? "result" = some parsed ↔ parsed.truthy = true := by
  unfold answerBody
  by_cases counts : parsed.truthy = true
  · rw [if_pos counts]
    refine ⟨fun _ => counts, fun _ => ?_⟩
    cases parsed with
    | object members => exact absurd rfl (plain members)
    | _ => rfl
  · rw [if_neg counts, translateOutput_object]
    exact ⟨nofun, fun own => absurd own counts⟩

theorem inverse_iff (input : Dict String Json) (inputMap : Dict String String) :
    (∀ name, (translateOutput (.object (translateInput input inputMap).entries) inputMap).get?
      name = input.get? name) ↔
      ∀ name ∈ input.keys, inputMap.restored (inputMap.renamed name) = name := by
  rw [translateInput_eq, translateOutput_object, Dict.ofList_entries]
  exact Dict.rename_restored_iff input inputMap

/-- Translation loses nothing exactly if what it renames can be told apart. -/
theorem lossless_iff {declared : List String} (service : Service declared)
    (input : Dict String Json) (parsed : Json) :
    Lossless service input parsed ↔ Separable service input parsed := by
  have delivered_iff (members : List (String × Json)) :
      (∀ name value, (Dict.ofList members).get? name = some value →
        (answerBody (.object members) service.outputMap).get?
          (service.outputMap.restored name) = some value) ↔
        (Dict.ofList members).Apart service.outputMap.restored := by
    rw [answerBody_object]
    exact Dict.rename_keeps_iff _ _
  constructor
  · intro lossless
    refine ⟨(inverse_iff input service.inputMap).mp lossless.inverse, fun members same => ?_,
      fun plain => (answerBody_result_iff _ plain).mp (lossless.result plain)⟩
    have delivered := lossless.delivered members same
    rw [same] at delivered
    exact (delivered_iff members).mp delivered
  · intro separable
    have inverse := (inverse_iff input service.inputMap).mpr separable.comesBack
    refine ⟨?_, fun members same => ?_, inverse,
      fun plain => (answerBody_result_iff _ plain).mpr (separable.counts plain)⟩
    · rw [translateInput_eq]
      refine (Dict.rename_keeps_iff input _).mpr fun first second left right heldLeft heldRight
        same => ?_
      have back := separable.comesBack first (Dict.mem_keys_of_get? _ heldLeft)
      rw [same, separable.comesBack second (Dict.mem_keys_of_get? _ heldRight)] at back
      rw [back, heldLeft] at heldRight
      exact Option.some.inj heldRight
    · have apart := (delivered_iff members).mpr (separable.apart members same)
      rw [same]
      exact apart

/-! ## Declared errors -/

def translateError [TextOf] (spec : EndpointSpec) (error : EndpointError) : ErrorResponse :=
  if error.code ∈ spec.errors then {
    status := 422
    statusText := "Unprocessable"
    error := [
      ("code", .string error.code),
      ("method", .string spec.name),
      ("path", .string spec.shownPath),
      ("message", .string error.message)] ++
        (error.details.map fun details => ("details", details)).toList }
  else Status.errorResponse 500 "Internal Server Error" "undeclared-error-code"
    (s!"handler returned undeclared error code {TextOf.quoted error.code}; declared: " ++
      HandlerResolution.orNone spec.errors) []

theorem status_translateError [TextOf] (spec : EndpointSpec) (error : EndpointError) :
    (translateError spec error).status = if error.code ∈ spec.errors then 422 else 500 := by
  unfold translateError
  split <;> rfl

/-- The handlers that the daemon itself makes for an endpoint. That of a composition is only
made if its error is declared. -/
inductive DaemonHandler (spec : EndpointSpec) where
  | gateway
  | composition (declares : "composition_failed" ∈ spec.errors)
  | external (service : Service spec.errors)

section Closure

variable [TextCase] [TextOf] [BodyCodec] [Gateway.OutboundClient] [Gateway.DecoderText]
  [NumberText]

def Returns {spec : EndpointSpec} : DaemonHandler spec → EndpointError → Prop
  | .gateway, error => ∃ (server : Gateway.GatewayServer) (request : Gateway.Dispatched)
      (later : Gateway.GatewayServer), server.dispatch request = (.value (.error error), later)
  | .composition _, error => error.code = "composition_failed"
  | .external service, error => ∃ transport input, service.handle transport input =
      some (.error error)

/-- No error is answered with a 500, and an unavailable gateway is one with a 503. -/
structure Closed {spec : EndpointSpec} (handler : DaemonHandler spec) : Prop where
  declared : ∀ error, Returns handler error → (translateError spec error).status ≠ 500
  unavailable : handler = .gateway → ∀ error, Returns handler error →
    error.code = "gateway_unavailable" → (translateError spec error).status = 503

structure DeclaresUpstream {spec : EndpointSpec} (service : Service spec.errors) : Prop where
  timeout : "upstream_timeout" ∈ spec.errors
  connection : "upstream_connection_error" ∈ spec.errors
  malformed : (∃ body, body ≠ [] ∧ BodyCodec.loadsStrict body = none) →
    "upstream_malformed_response" ∈ spec.errors
  authentication : (∃ status, (status = 401 ∨ status = 403) ∧
    service.errorMap.get? (toString status) = none) →
      "upstream_authentication_failed" ∈ spec.errors
  other : (∃ status, 400 ≤ status ∧ status ≤ 999 ∧ status ≠ 401 ∧ status ≠ 403 ∧
    service.errorMap.get? (toString status) = none) → "upstream_error" ∈ spec.errors

def DeclaresAll {spec : EndpointSpec} : DaemonHandler spec → Prop
  | .gateway => False
  | .composition _ => True
  | .external service => DeclaresUpstream service

omit [TextCase] [TextOf] [Gateway.OutboundClient] [Gateway.DecoderText] [NumberText] in
theorem codeOf_declared {spec : EndpointSpec} {service : Service spec.errors}
    (declares : DeclaresUpstream service) (status : HttpStatus) (failed : 400 ≤ status.code) :
    service.codeOf status ∈ spec.errors := by
  unfold Service.codeOf
  cases mapped : service.errorMap.get? (toString status.code) with
  | some code =>
      exact service.mapped _ ((Dict.get?_eq_some_iff service.errorMap).mp mapped)
  | none =>
      dsimp only
      split
      · next unauthorized => exact declares.authentication ⟨status.code, unauthorized, mapped⟩
      · next other =>
          exact declares.other ⟨status.code, failed, status.most,
            fun same => other (.inl same), fun same => other (.inr same), mapped⟩

omit [TextOf] [Gateway.OutboundClient] [Gateway.DecoderText] [NumberText] in
theorem declared_of_handle {spec : EndpointSpec} {service : Service spec.errors}
    (declares : DeclaresUpstream service) {transport : HttpRequest → RequestOutcome}
    {input : Dict String Json} {error : EndpointError}
    (handled : service.handle transport input = some (.error error)) :
    error.code ∈ spec.errors := by
  unfold Service.handle at handled
  generalize transport (service.request input) = outcome at handled
  cases outcome with
  | raised => cases handled
  | failed kind detail =>
      cases handled
      cases kind with
      | timeout => exact declares.timeout
      | connection => exact declares.connection
  | answered status body =>
      unfold Service.answer at handled
      dsimp only at handled
      cases read : Service.readBody body with
      | none =>
          rw [read] at handled
          cases handled
          unfold Service.readBody at read
          split at read
          · cases read
          · next nonempty => exact declares.malformed ⟨body, nonempty, read⟩
      | some parsed =>
          rw [read] at handled
          dsimp only at handled
          split at handled
          · next failed =>
              cases handled
              exact codeOf_declared declares status failed
          · cases handled

theorem declares_of_closed {spec : EndpointSpec} {service : Service spec.errors}
    (closed : Closed (.external service)) : DeclaresUpstream service := by
  have returned (outcome : RequestOutcome) {error : EndpointError}
      (answers : service.answer outcome = some (.error error)) : error.code ∈ spec.errors := by
    have status := closed.declared error ⟨fun _ => outcome, Dict.empty, answers⟩
    rw [status_translateError] at status
    by_contra undeclared
    rw [if_neg undeclared] at status
    exact status rfl
  have answered (status : HttpStatus) (failed : 400 ≤ status.code) :
      service.codeOf status ∈ spec.errors := by
    have answers : service.answer (.answered status []) = some (.error _) := if_pos failed
    exact returned _ answers
  have unmapped {status : HttpStatus}
      (missing : service.errorMap.get? (toString status.code) = none) : service.codeOf status =
        if status.code = 401 ∨ status.code = 403 then "upstream_authentication_failed"
        else "upstream_error" := by
    unfold Service.codeOf
    rw [missing]
  refine ⟨returned (.failed .timeout "") rfl,
    returned (.failed .connection "") rfl, fun ⟨body, nonempty, unread⟩ => ?_,
    fun ⟨status, unauthorized, missing⟩ => ?_, fun ⟨status, least, most, other, another, missing⟩ => ?_⟩
  · have read : Service.readBody body = none := by rw [Service.readBody, if_neg nonempty, unread]
    have answers : service.answer (.answered ⟨200, by decide, by decide⟩ body) = some (.error
        ⟨"upstream_malformed_response", "external service returned a body that is not valid JSON",
          some (.object [("upstream_status", .int 200),
            ("upstream_url", .string service.url)])⟩) := by
      unfold Service.answer
      dsimp only
      rw [read]
      rfl
    exact returned _ answers
  · have bounds : 400 ≤ status ∧ status ≤ 999 := by omega
    have code := answered ⟨status, by omega, bounds.2⟩ bounds.1
    rwa [unmapped missing, if_pos unauthorized] at code
  · have code := answered ⟨status, by omega, most⟩ least
    rwa [unmapped missing, if_neg (not_or.mpr ⟨other, another⟩)] at code

theorem returns_unavailable (spec : EndpointSpec) :
    ∃ error, Returns (.gateway : DaemonHandler spec) error ∧ error.code = "gateway_unavailable" := by
  let server : Gateway.GatewayServer := ⟨"", "", "", "", .empty, none, true, none⟩
  let context : EndpointContext :=
    ⟨[], "", "", [], [], none, none, "", "", "", .empty, false, none, .absent⟩
  exact ⟨_, ⟨server, ⟨context, ""⟩, server, rfl⟩, rfl⟩

/-- The errors of the daemon's own handlers are declared exactly for compositions, and for
external services that declare those which they do not map. -/
theorem errors_closed_iff {spec : EndpointSpec} (handler : DaemonHandler spec) :
    Closed handler ↔ DeclaresAll handler := by
  cases handler with
  | gateway =>
      refine ⟨fun closed => ?_, False.elim⟩
      rcases returns_unavailable spec with ⟨error, returns, isCode⟩
      have status := closed.unavailable rfl error returns isCode
      rw [status_translateError] at status
      split at status
      · cases status
      · cases status
  | composition declares =>
      refine ⟨fun _ => trivial, fun _ => ⟨fun error returns => ?_, nofun⟩⟩
      have declared : error.code ∈ spec.errors := by
        rw [returns]
        exact declares
      rw [status_translateError, if_pos declared]
      decide
  | external service =>
      refine ⟨declares_of_closed, fun declares => ⟨fun error returns => ?_, nofun⟩⟩
      rcases returns with ⟨transport, input, handled⟩
      rw [status_translateError, if_pos (declared_of_handle declares handled)]
      decide

end Closure

end Agtp.ExternalService

namespace Agtp.ExternalService.Samples

open scoped Plain PlainServing Gateway.PlainGateway

def booking : Service [] where
  url := "https://rooms.example/book"
  method := "POST"
  timeout := .finite 10
  headers := .empty
  inputMap := .ofList [("guest", "name")]
  outputMap := .empty
  errorMap := .empty
  mapped := nofun

/-- The guest is replaced by the name. -/
theorem guest_lost : ¬Lossless booking
    (.ofList [("guest", .string "ada"), ("name", .string "suite")]) (.object []) := by
  intro lossless
  have sent := lossless.sent "guest" (.string "ada") rfl
  exact absurd (Json.string.inj (Option.some.inj sent)) (by decide)

/-- A timeout that the endpoint does not declare. -/
theorem timeout_undeclared :
    ¬Closed (.external booking : DaemonHandler ⟨"BOOK", "/room", [], [], []⟩) := by
  intro closed
  cases (declares_of_closed closed).timeout

end Agtp.ExternalService.Samples
