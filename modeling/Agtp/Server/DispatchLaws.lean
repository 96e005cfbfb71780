import Agtp.Server.Destination
import Agtp.Server.Steps

/-! # What the dispatcher guarantees of a handler's call

Two laws of every handler that a dispatched request reaches, directly or as the
step of a plan: which gates its method and path passed, and that a step reaches
no handler that the same request would not reach on its own. -/

namespace Agtp

open Computation Serving

/-! ## Calls of a run -/

section Calls

variable {App : Type} [TextCase] [TextOf] [BodyCodec] [SchemaValidator] [Digest]
  [ContractCodec] [Tokens] [NumberText] [Clock]

/-- A handler is called for the agent that the request was dispatched for, and
for a request that passed the gates in the state before the call. -/
theorem admitted_of_called {server : RunningServer App} {depth : Nat}
    {request : Request} {agent : AgentDocument} {state : State App}
    {before after : List (Event App)} {call : Call App}
    (logged : (Dispatch.dispatch server depth request agent state).log =
      before ++ .called call :: after) :
    call.agent.agentId = agent.agentId ∧
      Admitted server (state.replay before) call := by
  have obeys : Obeys server ⟨Eq agent.agentId, True⟩
      (Dispatch.dispatch server depth request agent) :=
    Obeys.dispatch trivial depth rfl request
  have trace := (obeys state).trace
  rw [logged] at trace
  have permitted := permitted_of_trace trace
  exact ⟨permitted.1.symm, permitted.2⟩

end Calls

/-! ## Rewriting

Aliases are resolved ahead of the gates, redirects behind them. -/

section Rewriting

variable {App : Type} [TextCase] [TextOf] [BodyCodec] [SchemaValidator]

/-- The gates that a handler's method and path passed. -/
structure GatesPassed (server : RunningServer App) (call : Call App) : Prop where
  wire : Gates.lifecycleGate call.agent (upper call.request.method) = none
  lifecycle : Gates.lifecycleExempt (upper call.request.method) = false →
    ∀ method, Gates.lifecycleGate call.agent method = none
  oauth : ∃ admitted, OAuth.gate server.oauth server.validators call.agent
    (Gates.applyAlias server.methodsPolicy call.request)
    (Gates.aliasedMethod server.methodsPolicy call.request) = .ok admitted
  catalog : Gates.catalogGate server
    (Gates.aliasedMethod server.methodsPolicy call.request) = none
  policy : Gates.policyGate server
    (Gates.aliasedMethod server.methodsPolicy call.request) = none
  path : Gates.pathGate server call.request.requestPath = none
  pair : (call.admission.method, call.admission.path) =
    Gates.redirected server (Gates.aliasedMethod server.methodsPolicy call.request)
      call.request.requestPath
  endpoint : ∀ handler context,
    call.admission.target = .endpoint handler context →
      server.catalog.isApprovedVerb (upper call.admission.method) = true ∧
      PathGrammar.validatePath server.catalog call.admission.path = .ok ()
  embedded : ∀ handler, call.admission.target = .embedded handler →
    server.catalog.isApprovedVerb call.admission.method = true ∧
      call.agent.acceptsMethod call.admission.method = true

omit [TextOf] [BodyCodec] [SchemaValidator] in
theorem lifecycleGate_none {agent : AgentDocument} {verb : String}
    (notExempt : Gates.lifecycleExempt verb = false)
    (passed : Gates.lifecycleGate agent verb = none) (method : String) :
    Gates.lifecycleGate agent method = none := by
  unfold Gates.lifecycleGate at passed ⊢
  simp only [notExempt, Bool.false_eq_true, if_false] at passed
  split
  · rfl
  · exact passed

theorem gatesPassed_of_admitted {server : RunningServer App} {state : State App}
    {call : Call App} (admitted : Admitted server state call) :
    GatesPassed server call := by
  have passed := Gates.admit_ok.mp admitted.admitted
  refine {
    wire := admitted.lifecycle
    lifecycle := fun notExempt => lifecycleGate_none notExempt admitted.lifecycle
    oauth := ⟨_, passed.oauth⟩
    catalog := passed.catalog
    policy := passed.policy
    path := passed.path
    pair := passed.pair
    endpoint := ?_
    embedded := ?_ }
  · intro handler context reached
    have selected := passed.target
    rw [reached] at selected
    rcases Gates.endpoint_of_selectTarget selected with ⟨entry, found, _⟩
    have facts := EndpointRegistry.admitted_of_lookup found
    exact ⟨facts.2.2.1, facts.2.2.2⟩
  · intro handler reached
    have selected := passed.target
    rw [reached] at selected
    have facts := Gates.embedded_of_selectTarget selected
    exact ⟨facts.2.1, facts.2.2.1⟩

variable [Digest] [ContractCodec] [Tokens] [NumberText] [Clock]

/-- Whatever handler a dispatched request reaches, the gates passed for the
alias-resolved verb and the path of the wire; a redirect replaces both without
passing the gates again. -/
theorem called_handler_passed_gates {server : RunningServer App} {depth : Nat}
    {request : Request} {agent : AgentDocument} {state : State App}
    {call : Call App}
    (called : .called call ∈ (Dispatch.dispatch server depth request agent state).log) :
    GatesPassed server call := by
  rcases List.append_of_mem called with ⟨before, after, logged⟩
  exact gatesPassed_of_admitted (admitted_of_called logged).2

end Rewriting

section RewritingSamples

open scoped Plain PlainServing

theorem approved_book : agtpCatalog.isApprovedVerb (upper "BOOK") = true := by
  decide +kernel

theorem grammatical_room : PathGrammar.validatePath agtpCatalog "/room" = .ok () := by
  decide +kernel

/-- Binds `METHOD /room` to a handler that does nothing, where nobody may call
`RESERVE` and `BOOK` may be redirected to it. -/
def redirectingServer (redirects : Dict String (String × Option String))
    (method : String)
    (approved : agtpCatalog.isApprovedVerb (upper method) = true) :
    RunningServer Unit :=
  { Server.bare (EndpointHandler Unit) (MethodHandler Unit) with
    endpoints := .single ⟨method, "/room", [], [], []⟩
      (some (.function fun _ state => (some ⟨200, "OK", [], .null⟩, state)))
      approved (by
        change PathGrammar.validatePath agtpCatalog "/room" = .ok ()
        decide +kernel)
    methodsPolicy :=
      { MethodsPolicy.allowEverything with
        disallow := ["RESERVE"]
        redirects := redirects } }

def calledPair : Event Unit → Option (String × String)
  | .called call => some (call.admission.method, call.admission.path)
  | _ => none

theorem called_of_pair {log : List (Event Unit)} {pair : String × String}
    (member : pair ∈ log.filterMap calledPair) :
    ∃ call, .called call ∈ log ∧ (call.admission.method, call.admission.path) = pair := by
  rcases List.mem_filterMap.mp member with ⟨event, logged, shown⟩
  cases event with
  | called call => exact ⟨call, logged, Option.some.inj shown⟩
  | _ => cases shown

def roomState : State Unit := .boot (.sole Gates.reader) 0 ()

theorem direct_call_passed_gates :
    ∃ call, .called call ∈ (Dispatch.dispatch
        (redirectingServer .empty "BOOK" (by decide +kernel)) 1 (Gates.bookRoom [])
        Gates.reader roomState).log ∧
      GatesPassed (redirectingServer .empty "BOOK" (by decide +kernel)) call := by
  have shown : ("BOOK", "/room") ∈ ((Dispatch.dispatch
      (redirectingServer .empty "BOOK" (by decide +kernel)) 1 (Gates.bookRoom [])
      Gates.reader roomState).log.filterMap calledPair) := by
    decide +kernel
  rcases called_of_pair shown with ⟨call, called, _⟩
  exact ⟨call, called, called_handler_passed_gates called⟩

/-- `BOOK` reaches the handler of `RESERVE`, which the policy disallows. -/
theorem redirect_reaches_disallowed_handler :
    ∃ call, .called call ∈ (Dispatch.dispatch
        (redirectingServer (Dict.ofList [("BOOK", "RESERVE", none)]) "RESERVE"
          (by decide +kernel)) 1 (Gates.bookRoom []) Gates.reader roomState).log ∧
      (call.admission.method, call.admission.path) = ("RESERVE", "/room") ∧
      Gates.policyGate
        (redirectingServer (Dict.ofList [("BOOK", "RESERVE", none)]) "RESERVE"
          (by decide +kernel)) "RESERVE" ≠ none := by
  have shown : ("RESERVE", "/room") ∈ ((Dispatch.dispatch
      (redirectingServer (Dict.ofList [("BOOK", "RESERVE", none)]) "RESERVE"
        (by decide +kernel)) 1 (Gates.bookRoom [])
      Gates.reader roomState).log.filterMap calledPair) := by
    decide +kernel
  rcases called_of_pair shown with ⟨call, called, pair⟩
  refine ⟨call, called, pair, ?_⟩
  have refused : Gates.policyAdmits
      (redirectingServer (Dict.ofList [("BOOK", "RESERVE", none)]) "RESERVE"
        (by decide +kernel)) "RESERVE" = false := by
    decide +kernel
  simp [Gates.policyGate, refused]

end RewritingSamples

/-! ## Authority of steps

The step of a plan passes the gates as a request of its own. -/

namespace Gates

section Invocations

variable [TextCase] {EndpointHandler MethodHandler : Type}

/-- One request made twice: with the same method, path and parameters, and with
the same authority headers. -/
structure SameInvocation (request other : Request) : Prop where
  method : other.method = request.method
  path : other.path = request.path
  query : other.query = request.query
  body : other.body = request.body
  scopes : Wire.header other.headers "Authority-Scope" =
    Wire.header request.headers "Authority-Scope"
  token : Wire.header other.headers "Authorization" =
    Wire.header request.headers "Authorization"

omit [TextCase] in
def Target.handler : Target EndpointHandler MethodHandler →
    Option (EndpointHandler ⊕ MethodHandler)
  | .endpoint handler _ => some (.inl handler)
  | .embedded handler => some (.inr handler)
  | .negotiate => none

variable [TextOf] [BodyCodec] [SchemaValidator]

omit [TextCase] [TextOf] [BodyCodec] [SchemaValidator] in
theorem handler_destination (admission : Admission EndpointHandler MethodHandler) :
    admission.destination.handler = admission.target.handler := by
  rcases admission with ⟨_, _, _, target⟩
  cases target <;> rfl

theorem admit_congr {server : Server EndpointHandler MethodHandler}
    {agent : AgentDocument} {request other : Request}
    {admission : Admission EndpointHandler MethodHandler}
    (same : SameInvocation request other)
    (admitted : admitRequest server agent request = .ok admission) :
    ∃ again, admitRequest server agent other = .ok again ∧
      again.method = admission.method ∧ again.path = admission.path ∧
      again.target.handler = admission.target.handler := by
  have alike : Alike request other := {
    method := same.method.symm
    path := by unfold Request.requestPath; rw [same.path]
    body := same.body.symm
    query := same.query.symm
    scopes := same.scopes.symm
    token := same.token.symm }
  rcases admitRequest_congr alike admitted with ⟨again, readmitted, method, path, goes⟩
  refine ⟨again, readmitted, method, path, ?_⟩
  rw [← handler_destination, ← handler_destination, goes]

end Invocations

end Gates

section Authority

variable {App : Type} [TextCase] [TextOf] [BodyCodec] [SchemaValidator] [Digest]
  [ContractCodec] [Tokens] [NumberText] [Clock]

def Reaches (server : RunningServer App) (state : State App)
    (agent : AgentDocument) (request : Request)
    (handler : EndpointHandler App ⊕ MethodHandler App) : Prop :=
  ∃ admission rest,
    (Dispatch.dispatch server 1 request agent state).log =
      .called ⟨agent, request, admission⟩ :: rest ∧
    admission.target.handler = some handler

theorem reaches_of_admit {server : RunningServer App} {state : State App}
    {agent : AgentDocument} {request : Request}
    {admission : Gates.Admission (EndpointHandler App) (MethodHandler App)}
    {handler : EndpointHandler App ⊕ MethodHandler App}
    (current : state.document agent = agent)
    (lifecycle : Gates.lifecycleGate agent (upper request.method) = none)
    (outside : Wire.readSynthesisId request.headers = "")
    (admitted : Gates.admitRequest server agent request = .ok admission)
    (handled : admission.target.handler = some handler) :
    Reaches server state agent request handler := by
  have dispatched : Dispatch.dispatch server 1 request agent state =
      Dispatch.serve (Dispatch.dispatch server 0) server agent request admission
        state := by
    rw [← current] at lifecycle admitted
    unfold Dispatch.dispatch
    rw [Dispatch.dispatchWith_direct lifecycle outside]
    unfold Dispatch.dispatchDirect
    rw [admitted, current]
    rfl
  refine ⟨admission, ?_⟩
  rw [dispatched]
  unfold Dispatch.serve
  rcases reached : admission.target with ⟨held, context⟩ | held | _
  · exact ⟨_, rfl, by rw [← reached]; exact handled⟩
  · exact ⟨_, rfl, by rw [← reached]; exact handled⟩
  · rw [reached] at handled
    cases handled

/-- A synthesis launders no authority: a handler that a dispatched request
reaches, itself or through the steps of plans, is reached just as well by that
step's request sent directly, for the same agent and with the same authority
headers. -/
theorem step_reaches_no_more {server : RunningServer App} {depth : Nat}
    {request direct : Request} {agent : AgentDocument} {state : State App}
    {before after : List (Event App)} {call : Call App}
    (logged : (Dispatch.dispatch server depth request agent state).log =
      before ++ .called call :: after)
    (same : Gates.SameInvocation call.request direct)
    (outside : Wire.readSynthesisId direct.headers = "") :
    call.agent.agentId = agent.agentId ∧
      ∃ handler, call.admission.target.handler = some handler ∧
        Reaches server (state.replay before) call.agent direct handler := by
  rcases admitted_of_called logged with ⟨sameAgent, admitted⟩
  rcases Gates.admit_congr same admitted.admitted with
    ⟨admission, again, _, _, sameHandler⟩
  have lifecycle : Gates.lifecycleGate call.agent (upper direct.method) = none := by
    rw [same.method]
    exact admitted.lifecycle
  have hasHandler : ∃ handler, call.admission.target.handler = some handler := by
    rcases reached : call.admission.target with ⟨held, context⟩ | held | _
    · exact ⟨_, rfl⟩
    · exact ⟨_, rfl⟩
    · exact absurd reached admitted.handled
  rcases hasHandler with ⟨handler, handled⟩
  exact ⟨sameAgent, handler, handled, reaches_of_admit admitted.current lifecycle
    outside again (sameHandler.trans handled)⟩

end Authority

section AuthoritySamples

open scoped Plain PlainServing

def strictServer : RunningServer Unit :=
  { Server.bare (EndpointHandler Unit) (MethodHandler Unit) with
    methods := .single ⟨"BOOK", [], [],
        some (.other fun _ _ state => (some ⟨200, "OK", [], .null⟩, state))⟩
      (by decide) (by decide +kernel)
    wildcardsAccepted := false }

def guest : AgentDocument := .active "guest" ⟨[], [], true⟩

def bookPlan : SynthesisPlan where
  proposedMethod := ⟨"BOOK", none, [], []⟩
  steps := [⟨"BOOK", [], none⟩]
  steps_ne := List.cons_ne_nil _ _
  outputAggregation := .last
  description := none
  policyName := none
  recipeName := none
  recipeVersion := none

def contractState (agent : AgentDocument) (id : String) : State Unit :=
  { State.boot (.sole agent) 0 () with
    runtime := SynthesisRuntime.empty.instantiate id bookPlan
      ⟨none, false, some agent.agentId, none, "rcns-confirmed"⟩ }

def viaSynthesis (header : String) : Request := .toRoot "BOOK" [(header, "s")]

def stepMethod : Event Unit → Option String
  | .called call => some call.request.method
  | _ => none

theorem called_via_synthesis :
    ∃ before call after,
      (Dispatch.dispatch strictServer 2 (viaSynthesis "Synthesis-Id") guest
        (contractState guest "s")).log = before ++ .called call :: after ∧
      call.request.method = "BOOK" := by
  have shown : (Dispatch.dispatch strictServer 2 (viaSynthesis "Synthesis-Id") guest
      (contractState guest "s")).log.filterMap stepMethod = ["BOOK"] := by
    decide +kernel
  have member : "BOOK" ∈ (Dispatch.dispatch strictServer 2
      (viaSynthesis "Synthesis-Id") guest
      (contractState guest "s")).log.filterMap stepMethod := by
    rw [shown]
    exact List.mem_singleton_self _
  rcases List.mem_filterMap.mp member with ⟨event, logged, method⟩
  cases event with
  | called call =>
      rcases List.append_of_mem logged with ⟨before, after, split⟩
      exact ⟨before, call, after, split, Option.some.inj method⟩
  | _ => cases method

theorem book_step_reaches_no_more :
    ∃ (before : List (Event Unit)) (call : Call Unit)
      (handler : EndpointHandler Unit ⊕ MethodHandler Unit),
      Wire.readSynthesisId call.request.headers = "" ∧
      Reaches strictServer ((contractState guest "s").replay before) call.agent
        call.request handler := by
  rcases called_via_synthesis with ⟨before, call, after, logged, _⟩
  have outside := (admitted_of_called logged).2.outside
  rcases step_reaches_no_more logged ⟨rfl, rfl, rfl, rfl, rfl, rfl⟩ outside with
    ⟨_, handler, _, reached⟩
  exact ⟨before, call, handler, outside, reached⟩

/-- The step's handler runs, but the connection refuses the step's request when
it is sent directly: the soft-deny gate is not asked about syntheses. -/
theorem synthesis_skips_soft_deny :
    ∃ before call after,
      (Dispatch.dispatch strictServer 2 (viaSynthesis "Synthesis-Id") guest
        (contractState guest "s")).log = before ++ .called call :: after ∧
      Connection.softDenied strictServer (· = "s") (viaSynthesis "Synthesis-Id")
        guest = none ∧
      Connection.softDenied strictServer (· = "s") call.request guest ≠ none := by
  rcases called_via_synthesis with ⟨before, call, after, logged, method⟩
  have outside := (admitted_of_called logged).2.outside
  refine ⟨before, call, after, logged, by decide +kernel, ?_⟩
  have refused : (softDenyCheck strictServer (upper "BOOK") guest).isSome = true := by
    decide +kernel
  intro passed
  unfold Connection.softDenied at passed
  rw [outside, method] at passed
  have notRefused : softDenyCheck strictServer (upper "BOOK") guest = none := passed
  rw [notRefused] at refused
  cases refused

end AuthoritySamples

end Agtp
