import Agtp.Server.EventRules

/-! # Steps of a server

What a server may do from a state, event by event, and that it does nothing
else: the log of every run is a trace of these steps. -/

namespace Agtp

open Computation Serving

variable {App : Type} [TextCase] [TextOf] [BodyCodec] [SchemaValidator]

/-! ## Permitted events -/

def MethodHandler.effect? :
    MethodHandler App → Option (Request → AgentDocument → Effect App)
  | .suspend => none
  | .revoke run | .inspect run | .propose _ run | .other run => some run

/-- The handlers that the deployment registered, applied to what they are
called with. -/
inductive Registered (server : RunningServer App) : Effect App → Prop where
  | endpoint {entry} {run : EndpointContext → Effect App}
      (member : entry ∈ server.endpoints.entries.entries)
      (handler : entry.2.2 = some (.function run)) (context : EndpointContext) :
      Registered server (run context)
  | method {entry} {handler : MethodHandler App}
      {run : Request → AgentDocument → Effect App}
      (member : entry ∈ server.methods.methods.entries)
      (registered : entry.2.handler = some handler)
      (effect : handler.effect? = some run)
      (request : Request) (agent : AgentDocument) :
      Registered server (run request agent)

/-- A handler is called for a request that passed the gates as it stands: its
agent's document is the current one, and it presents no synthesis. -/
structure Admitted (server : RunningServer App) (state : State App)
    (call : Call App) : Prop where
  current : state.document call.agent = call.agent
  lifecycle : Gates.lifecycleGate call.agent (upper call.request.method) = none
  outside : Wire.readSynthesisId call.request.headers = ""
  admitted : Gates.admitRequest server call.agent call.request = .ok call.admission
  handled : call.admission.target ≠ .negotiate

def Permitted (server : RunningServer App) (scope : Scope) (state : State App) :
    Event App → Prop
  | .called call => scope.acting call.agent.agentId ∧ Admitted server state call
  | .ran effect => Registered server effect
  | .executed _ | .stepped _ _ => scope.nesting
  | .evicted id => state.runtime.isOverdue state.now id = true
  | .suspended agent _ => scope.acting agent.agentId
  | .revoked agent id => scope.acting agent.agentId ∧
      mayRevoke agent ((state.runtime.originatingAgentId id).getD "") = true
  | .swept agent _ => scope.acting agent.agentId ∧ agent.isOperator = true
  | .negotiated negotiation => scope.acting negotiation.agentId
  | _ => True

variable [Digest] [ContractCodec] [Tokens]

def Step (server : RunningServer App) (scope : Scope) (state : State App)
    (event : Event App) (next : State App) : Prop :=
  Permitted server scope state event ∧ next = state.after event

/-- The log of every run from every state is a trace of permitted events, and
without plans the computation returns. -/
abbrev Obeys (server : RunningServer App) (scope : Scope)
    (computation : Serving App Value) : Prop :=
  Follows (Step server scope) scope.nesting computation

theorem state_of_trace {server : RunningServer App} {scope : Scope}
    {state final : State App}
    {log : List (Event App)} (trace : Trace (Step server scope) state log final) :
    final = state.replay log :=
  replay_of_happens trace

theorem trace_preserves {server : RunningServer App} {scope : Scope}
    (invariant : State App → Prop)
    (preserved : ∀ state event, Permitted server scope state event → invariant state →
      invariant (state.after event))
    {state final : State App} {log : List (Event App)}
    (trace : Trace (Step server scope) state log final) (holds : invariant state) :
    invariant final :=
  preserved_of_happens invariant preserved trace holds

theorem permitted_of_trace {server : RunningServer App} {scope : Scope}
    {state final : State App}
    {before after : List (Event App)} {event : Event App}
    (trace : Trace (Step server scope) state (before ++ event :: after) final) :
    Permitted server scope (state.replay before) event :=
  permitted_of_happens trace

/-! ## Computations -/

omit [Digest] [ContractCodec] [Tokens] in
theorem allows_permitted (server : RunningServer App) (scope : Scope) :
    Allows (Permitted server scope) scope where
  drew _ := trivial
  bookkeeping _ _ := trivial
  answered _ _ := trivial
  proposed _ _ _ _ := trivial
  executed nests _ _ := nests
  stepped nests _ _ _ := nests
  evicted _ _ overdue := overdue
  suspended _ _ _ acts := acts
  revoked _ _ _ acts allowed := ⟨acts, allowed⟩
  swept _ _ _ acts operator := ⟨acts, operator⟩
  negotiated _ _ acts := acts

namespace Obeys

variable {server : RunningServer App} {scope : Scope}

theorem run {effect : Effect App} (registered : Registered server effect) :
    Obeys server scope (Serving.run effect) :=
  fun _ => Allows.run registered

theorem refuse (refusal : Refusal) :
    Obeys server scope (Serving.refuse refusal : Serving App _) := by
  cases refusal with
  | answer response => exact follows_result _
  | crash => exact follows_raise

theorem obtain {agent : AgentDocument} (acts : scope.acting agent.agentId)
    (mode : RcnsMode) (key method path : String) :
    Obeys server scope (Rcns.obtain server mode agent key method path) :=
  (allows_permitted server scope).obtain acts mode key method path

theorem callMethod [NumberText] [Clock] {handler : MethodHandler App}
    (registered : ∀ run, handler.effect? = some run →
      ∀ request agent, Registered server (run request agent))
    {agent : AgentDocument} (acts : scope.acting agent.agentId) (request : Request) :
    Obeys server scope (Dispatch.callMethod server request agent handler) := by
  have allows := allows_permitted server scope
  cases handler with
  | suspend => exact allows.suspend acts request
  | revoke lifecycle =>
      exact fun state => allows.revoke acts (registered lifecycle rfl _ _) _ _
  | inspect answer => exact allows.inspect fun state => registered answer rfl _ _
  | propose attempt answer =>
      exact allows.propose (fun state => registered answer rfl _ _) _ _ _
  | other answer => exact run (registered answer rfl _ _)

/-! ## Dispatch -/

omit [Digest] [ContractCodec] [Tokens] in
theorem registered_of_endpoint {agent : AgentDocument} {request : Request}
    {method path : String} {run : EndpointContext → Effect App}
    {shown : EndpointContext}
    (selected : Gates.selectTarget server agent request method path =
      .ok (.endpoint (.function run) shown)) (context : EndpointContext) :
    Registered server (run context) := by
  rcases Gates.endpoint_of_selectTarget selected with ⟨entry, found, called⟩
  rcases Option.map_eq_some_iff.mp found with ⟨bound, boundFound, value⟩
  have handler := (context_of_admitEndpoint called).1
  rw [← value] at handler
  exact .endpoint (List.mem_of_find?_eq_some boundFound) handler context

omit [Digest] [ContractCodec] [Tokens] in
theorem registered_of_embedded {agent : AgentDocument} {request : Request}
    {method path : String} {handler : MethodHandler App}
    {run : Request → AgentDocument → Effect App}
    (selected : Gates.selectTarget server agent request method path =
      .ok (.embedded handler)) (effect : handler.effect? = some run)
    (served : Request) (caller : AgentDocument) :
    Registered server (run served caller) := by
  rcases (Gates.embedded_of_selectTarget selected).2.2.2 with
    ⟨spec, found, registered⟩
  rcases Option.map_eq_some_iff.mp found with ⟨bound, boundFound, value⟩
  rw [← value] at registered
  exact .method (List.mem_of_find?_eq_some boundFound) registered effect served caller

omit [TextCase] [TextOf] [BodyCodec] [SchemaValidator] [Digest] [ContractCodec]
  [Tokens] in
theorem document_document (state : State App) (named : AgentDocument) :
    state.document (state.document named) = state.document named := by
  unfold State.document
  cases found : state.agents.lookup named.agentId with
  | none => simp [found]
  | some held => simp [AgentRegistry.agentId_of_lookup found, found]

section Dispatching

variable [NumberText] [Clock] {next : Dispatcher App}

/-- In the state whose document the gates saw, serving an admitted request is
permitted, if compositions and optimistic contracts are. -/
theorem serve {state : State App} {agent : AgentDocument} {request : Request}
    {admission : Gates.Admission (EndpointHandler App) (MethodHandler App)}
    (acts : scope.acting agent.agentId) (current : state.document agent = agent)
    (lifecycle : Gates.lifecycleGate agent (upper request.method) = none)
    (outside : Wire.readSynthesisId request.headers = "")
    (admitted : Gates.admitRequest server agent request = .ok admission)
    (composes : ∀ spec recipe plan context,
      admission.target = .endpoint (.composition spec recipe plan) context →
        scope.acting context.agentId →
        Obeys server scope (Serving.serveComposition next spec recipe plan context))
    (executes : admission.target = .negotiate →
      Rcns.parseAllowRcns admission.request.headers = some .optimistic →
        ∀ id, Obeys server scope (Serving.execute next id admission.request agent)) :
    FollowsFrom (Step server scope) scope.nesting state
      (Dispatch.serve next server agent request admission) := by
  have selected := (Gates.admit_ok.mp admitted).target
  unfold Dispatch.serve
  split
  · next handler context target =>
      rw [target] at selected
      refine Allows.emit_andThen ⟨acts, current, lifecycle, outside, admitted, ?_⟩ ?_
      · simp [target]
      · cases handler with
        | function answer => exact run (registered_of_endpoint selected context) _
        | composition spec recipe plan =>
            refine composes spec recipe plan context target ?_ _
            rcases Gates.endpoint_of_selectTarget selected with ⟨entry, _, called⟩
            rcases (context_of_admitEndpoint called).2 with ⟨input, built⟩
            rw [built]
            exact acts
  · next handler target =>
      rw [target] at selected
      refine Allows.emit_andThen ⟨acts, current, lifecycle, outside, admitted, ?_⟩
        (callMethod (fun run effect => registered_of_embedded selected effect) acts _ _)
      simp [target]
  · next target =>
      refine follows_andThen ((allows_permitted server scope).tryRcns acts (executes target)
        _ _) (fun answer => ?_) state
      split <;> exact follows_result _

theorem dispatchWith (nests : scope.nesting)
    (obeys : ∀ request agent, scope.acting agent.agentId →
      Obeys server scope (next request agent))
    {named : AgentDocument} (acts : scope.acting named.agentId) (request : Request) :
    Obeys server scope (Dispatch.dispatchWith next server request named) := by
  have allows := allows_permitted server scope
  apply allows.dispatchWith nests obeys acts
  intro state admission lifecycle outside admitted
  have present : scope.acting (state.document named).agentId := by
    rw [State.agentId_document]
    exact acts
  exact serve present (document_document state named) lifecycle outside admitted
    (fun _ _ _ _ _ acts => allows.serveComposition nests obeys acts _ _ _)
    fun _ _ id => allows.execute nests obeys present id _

end Dispatching

theorem dispatch [NumberText] [Clock] (nests : scope.nesting) (depth : Nat)
    {agent : AgentDocument} (acts : scope.acting agent.agentId) (request : Request) :
    Obeys server scope (Dispatch.dispatch server depth request agent) := by
  induction depth generalizing request agent with
  | zero => exact follows_exhausted nests
  | succ depth induction =>
      exact dispatchWith nests (fun request _ acts => induction acts request) acts
        request

def everyone : Scope := ⟨fun _ => True, True⟩

theorem serveAll [NumberText] [Clock] (server : RunningServer App)
    (arrivals : List (Dispatch.Arrival App)) :
    Obeys server everyone (Dispatch.serveAll server arrivals) := by
  induction arrivals with
  | nil => exact follows_result _
  | cons arrival rest induction =>
      refine follows_andThen ?_ fun _ => induction
      cases arrival with
      | request depth request agent =>
          exact follows_settle (dispatch trivial depth trivial request)
      | elapse seconds agents app => exact Allows.emit fun _ => trivial

end Obeys

end Agtp
