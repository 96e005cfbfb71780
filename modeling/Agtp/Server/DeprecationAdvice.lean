import Agtp.Server.DispatchLaws

/-! # Warnings of deprecated endpoints

The dispatcher answers, and then the endpoint of the wire's method and path is looked up for its
deprecation. -/

namespace Agtp.Advice

open Computation Dispatch

/-! ## Deprecations -/

structure Deprecation where
  successorMethod : Option String
  successorPath : Option String
  removedIn : Option String

def Deprecation.successor (deprecation : Deprecation) : List String :=
  match deprecation.successorMethod.filter (· ≠ ""), deprecation.successorPath.filter (· ≠ "") with
  | some method, some path => ["successor=" ++ method ++ " " ++ path]
  | some method, none => ["successor=" ++ method]
  | none, some path => ["successor=" ++ path]
  | none, none => []

def Deprecation.warning (deprecation : Deprecation) : String :=
  "; ".intercalate (["deprecated"] ++ deprecation.successor ++
    ((deprecation.removedIn.filter (· ≠ "")).map ("removed_in=" ++ ·)).toList)

/-! ## Two lookups -/

section

variable {App : Type} [TextCase] [TextOf] [BodyCodec] [SchemaValidator]
  (deprecated : EndpointSpec → Option Deprecation)

def warningOf (entry : Option (EndpointSpec × Option (EndpointHandler App))) : Option String :=
  (entry.bind fun entry => deprecated entry.1).map Deprecation.warning

def wireEndpoint (server : RunningServer App) (request : Request) :
    Option (EndpointSpec × Option (EndpointHandler App)) :=
  server.endpoints.lookup (upper request.method) request.requestPath

def warningHeader : String := "AGTP-Endpoint-Warning"

def stamp (server : RunningServer App) (request : Request) (response : Response) : Response :=
  match warningOf deprecated (wireEndpoint server request) with
  | some warning =>
      { response with headers := Dict.setEntries warningHeader warning response.headers }
  | none => response

def reachesLookup (server : RunningServer App) (agent : AgentDocument) (request : Request) :
    Bool :=
  let method := Gates.aliasedMethod server.methodsPolicy request
  (Gates.lifecycleGate agent (upper request.method)).isNone &&
    Wire.readSynthesisId request.headers = "" &&
    (Gates.scopeGate agent request.headers).isNone &&
    (match OAuth.gate server.oauth server.validators agent
        (Gates.applyAlias server.methodsPolicy request) method with
      | .ok _ => true
      | .error _ => false) &&
    (Gates.catalogGate server method).isNone &&
    (Gates.pathGate server request.requestPath).isNone &&
    (Gates.policyGate server method).isNone

def rewrittenEndpoint (server : RunningServer App) (request : Request) :
    Option (EndpointSpec × Option (EndpointHandler App)) :=
  let target := Gates.redirected server (Gates.aliasedMethod server.methodsPolicy request)
    request.requestPath
  server.endpoints.lookup target.1 target.2

def servingEndpoint (server : RunningServer App) (agent : AgentDocument) (request : Request) :
    Option (EndpointSpec × Option (EndpointHandler App)) :=
  if reachesLookup server agent request then rewrittenEndpoint server request else none

/-- Where the request is looked up, its pair before and after rewriting carry the same
warning; where it is not, the pair on the wire carries none. -/
structure AdviceFits (server : RunningServer App) (agent : AgentDocument) (request : Request) :
    Prop where
  rewritten : reachesLookup server agent request = true →
    warningOf deprecated (rewrittenEndpoint server request) =
      warningOf deprecated (wireEndpoint server request)
  unserved : reachesLookup server agent request = false →
    warningOf deprecated (wireEndpoint server request) = none

/-! ## Dispatch with warnings -/

variable [Digest] [ContractCodec] [Tokens] [NumberText] [Clock]

def dispatchAdvised (server : RunningServer App) (depth : Nat) : Dispatcher App :=
  fun request agent => andThen (dispatch server depth request agent) fun response =>
    result (stamp deprecated server request response)

def endpointWarning (response : Response) : Option String :=
  response.headers.lookup warningHeader

omit [TextCase] [TextOf] [BodyCodec] [SchemaValidator] [Digest] [ContractCodec] [Tokens]
  [NumberText] [Clock] in
theorem lookup_setEntries (name value : String) (headers : List (String × String)) :
    (Dict.setEntries name value headers).lookup name = some value := by
  induction headers with
  | nil => simp [Dict.setEntries]
  | cons entry rest induction =>
      rcases entry with ⟨key, held⟩
      rw [Dict.setEntries]
      split
      · simp
      · next different =>
          have unequal : (name == key) = false := by
            simpa using fun equal : name = key => different equal.symm
          rw [List.lookup_cons, unequal]
          exact induction

omit [BodyCodec] [SchemaValidator] [Digest] [ContractCodec] [Tokens] [NumberText] [Clock] in
theorem endpointWarning_stamp (server : RunningServer App) (request : Request)
    {response : Response} (silent : endpointWarning response = none) :
    endpointWarning (stamp deprecated server request response) =
      warningOf deprecated (wireEndpoint server request) := by
  rw [stamp]
  cases warningOf deprecated (wireEndpoint server request) with
  | none => exact silent
  | some warning => exact lookup_setEntries _ _ _

/-- A response carries the warning of the endpoint that served the request exactly if the
pair on the wire carries the same. -/
theorem advice_follows_iff {server : RunningServer App} {depth : Nat} {request : Request}
    {agent : AgentDocument} {state : State App} {response : Response}
    (answered : (dispatch server depth request agent state).ending = .value response)
    (silent : endpointWarning response = none) :
    ∃ advised, (dispatchAdvised deprecated server depth request agent state).ending =
        .value advised ∧
      (endpointWarning advised =
          warningOf deprecated (servingEndpoint server (state.document agent) request) ↔
        AdviceFits deprecated server (state.document agent) request) := by
  refine ⟨stamp deprecated server request response, ?_, ?_⟩
  · rw [dispatchAdvised, andThen_value answered]
    rfl
  · rw [endpointWarning_stamp deprecated server request silent, servingEndpoint]
    cases reaches : reachesLookup server (state.document agent) request with
    | true =>
        rw [if_pos rfl]
        constructor
        · exact fun same => ⟨fun _ => same.symm, fun refused =>
            (nomatch reaches.symm.trans refused)⟩
        · exact fun fits => (fits.rewritten reaches).symm
    | false =>
        rw [if_neg Bool.false_ne_true]
        constructor
        · exact fun none => ⟨fun passed => (nomatch reaches.symm.trans passed), fun _ => none⟩
        · exact fun fits => fits.unserved reaches

end

/-! ## A redirect to a deprecated endpoint -/

namespace AdviceSamples

open scoped Plain PlainServing

def deprecations (spec : EndpointSpec) : Option Deprecation :=
  if spec.name = "QUERY" then some ⟨none, none, some "3.0.0"⟩ else none

def redirected : RunningServer Unit :=
  redirectingServer (.ofList [("BOOK", ("QUERY", none))]) "QUERY" (by decide +kernel)

def answered : Ending Response → Option (Option String)
  | .value response => some (endpointWarning response)
  | _ => none

theorem value_of_answered {ending : Ending Response}
    (silent : answered ending = some none) :
    ∃ response, ending = .value response ∧ endpointWarning response = none := by
  cases ending with
  | value response => exact ⟨response, rfl, Option.some.inj silent⟩
  | _ => cases silent

/-- A request that is not rewritten is answered with the warning of its endpoint. -/
theorem unrewritten_advised : ∃ advised,
    (dispatchAdvised deprecations (redirectingServer .empty "BOOK" approved_book) 1
      (Gates.bookRoom []) Gates.reader roomState).ending = .value advised ∧
    (endpointWarning advised = warningOf deprecations (servingEndpoint
        (redirectingServer .empty "BOOK" approved_book)
        (roomState.document Gates.reader) (Gates.bookRoom [])) ↔
      AdviceFits deprecations (redirectingServer .empty "BOOK" approved_book)
        (roomState.document Gates.reader) (Gates.bookRoom [])) := by
  have silent : answered (dispatch (redirectingServer .empty "BOOK" approved_book) 1
      (Gates.bookRoom []) Gates.reader roomState).ending = some none := by decide +kernel
  rcases value_of_answered silent with ⟨response, value, none⟩
  exact advice_follows_iff deprecations value none

/-- The redirected request is served by a deprecated endpoint, without a warning. -/
theorem redirected_unadvised :
    warningOf deprecations (servingEndpoint redirected (roomState.document Gates.reader)
        (Gates.bookRoom [])) = some "deprecated; removed_in=3.0.0" ∧
      ∃ advised, (dispatchAdvised deprecations redirected 1 (Gates.bookRoom []) Gates.reader
        roomState).ending = .value advised ∧ endpointWarning advised = none := by
  have silent : answered (dispatchAdvised deprecations redirected 1 (Gates.bookRoom [])
      Gates.reader roomState).ending = some none := by decide +kernel
  exact ⟨by decide +kernel, value_of_answered silent⟩

end AdviceSamples

end Agtp.Advice
