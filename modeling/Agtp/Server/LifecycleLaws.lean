import Agtp.Server.DispatchLaws
import Agtp.Server.Lifecycle

/-! # The life of an agent

What requests make of the status of an agent. -/

/-! ## Lifecycle methods behind the dispatcher

The handlers of the lifecycle methods as the dispatcher calls them. They change the
status of the document that the lifecycle gate looks at. -/

namespace Agtp

namespace AgentRegistry

def withStatus (registry : AgentRegistry) (agentId status : String) : AgentRegistry where
  agents :=
    match registry.lookup agentId with
    | some agent => registry.agents.set agentId { agent with status := status }
    | none => registry.agents
  keyed := by
    cases found : registry.lookup agentId with
    | none => exact registry.keyed
    | some agent =>
        intro entry member
        rcases Dict.mem_of_set member with held | rfl
        · exact registry.keyed entry held
        · exact (agentId_of_lookup found).symm

def statusOf (registry : AgentRegistry) (agentId : String) : Option String :=
  (registry.lookup agentId).map AgentDocument.status

variable {registry : AgentRegistry} {agentId other status : String}

theorem statusOf_withStatus_same {agent : AgentDocument}
    (found : registry.lookup agentId = some agent) :
    (registry.withStatus agentId status).statusOf agentId = some status := by
  unfold statusOf withStatus lookup at *
  simp only [found, Dict.get?_set_same, Option.map_some]

theorem lookup_withStatus_other (different : other ≠ agentId) :
    (registry.withStatus agentId status).lookup other = registry.lookup other := by
  change (match registry.lookup agentId with
    | some agent => registry.agents.set agentId { agent with status := status }
    | none => registry.agents).get? other = registry.agents.get? other
  cases registry.lookup agentId with
  | none => rfl
  | some agent => exact Dict.get?_set_other _ different _

end AgentRegistry

/-- What the lifecycle methods of a server are set up with: who may call them, what each
agent's Genesis is, and what the steps behind a change of status make of the
deployment's data: persisting, the hooks, and the lifecycle stream. -/
structure LifecycleSetting (App : Type) where
  config : LifecycleConfig
  genesis : String → Option Genesis
  auditId : String → LifecycleRecord → String
  committed : String → LifecycleRecord → App → App

namespace LifecycleSetting

variable {App : Type} [TextCase] [TextOf] [BodyCodec] [IssuerKeys] [Clock]

def callOf (event : LifecycleEvent) (request : Request) (agent : AgentDocument)
    (now : Nat) : LifecycleCall where
  agentId := agent.agentId
  event
  request
  issuedAt := Clock.timestamp now
  auditId := ""

/-- `_lifecycle_transition`, on the document that the dispatcher hands over. -/
def effect (setting : LifecycleSetting App) (event : LifecycleEvent) (request : Request)
    (agent : AgentDocument) : Effect App := fun state =>
  let call := callOf event request agent state.now
  match Lifecycle.admitCall setting.config (setting.genesis agent.agentId) call with
  | .error (.answer refusal) => (some refusal.toResponse, state)
  | .error .crash => (none, state)
  | .ok params =>
      if agent.status = event.newStatus then
        (some (Lifecycle.noop call agent.status), state)
      else
        let record := Lifecycle.recordOf call agent.status params
        (some (Lifecycle.confirmation call record
            (setting.auditId agent.agentId record)),
          { state with
            agents := state.agents.withStatus agent.agentId event.newStatus
            app := setting.committed agent.agentId record state.app })

def handler (setting : LifecycleSetting App) : LifecycleEvent → MethodHandler App
  | .revocation => .revoke (setting.effect .revocation)
  | .activation => .other (setting.effect .activation)
  | .deactivation => .other (setting.effect .deactivation)
  | .reinstatement => .other (setting.effect .reinstatement)
  | .deprecation => .other (setting.effect .deprecation)

theorem agents_effect (setting : LifecycleSetting App) (event : LifecycleEvent)
    (request : Request) (agent : AgentDocument) (state : State App) :
    (setting.effect event request agent state).2.agents = state.agents ∨
      (setting.effect event request agent state).2.agents =
        state.agents.withStatus agent.agentId event.newStatus := by
  unfold effect
  dsimp only
  cases Lifecycle.admitCall setting.config (setting.genesis agent.agentId)
      (callOf event request agent state.now) with
  | error refusal => cases refusal <;> exact .inl rfl
  | ok params =>
      dsimp only
      split
      · exact .inl rfl
      · exact .inr rfl

end LifecycleSetting

/-! ## The server -/

section Server

variable {App : Type} [TextCase] [TextOf] [BodyCodec] [IssuerKeys] [Clock]

def MethodHandler.KeepsAgents (handler : MethodHandler App) : Prop :=
  ∀ run, handler.effect? = some run →
    ∀ request agent state, (run request agent state).2.agents = state.agents

/-- The lifecycle methods are registered with their handlers, and nothing else that is
registered changes the document of an agent. -/
structure HostsLifecycle (setting : LifecycleSetting App) (server : RunningServer App) :
    Prop where
  methods : ∀ name spec handler, server.methods.lookup name = some spec →
    spec.handler = some handler →
    (∃ event : LifecycleEvent, name = event.method ∧ handler = setting.handler event) ∨
      handler.KeepsAgents
  endpoints : ∀ entry ∈ server.endpoints.entries.entries, ∀ run,
    entry.2.2 = some (.function run) →
    ∀ context state, (run context state).2.agents = state.agents

end Server

end Agtp

namespace Agtp

open Computation Serving

theorem LifecycleEvent.not_exempt (event : LifecycleEvent) :
    Gates.lifecycleExempt event.method = false := by
  cases event <;> rfl

variable {App : Type} [TextCase] [TextOf] [BodyCodec]

/-! ## Events -/

def Gates.Operational (agent : AgentDocument) : Prop :=
  ∀ method, Gates.lifecycleGate agent method = none

section Permitted

variable [SchemaValidator]

def KeepsIntrospection (server : RunningServer App) : Prop :=
  ∀ request : Request, Gates.lifecycleExempt (upper request.method) = true →
    Gates.lifecycleExempt (Gates.redirected server
      (Gates.aliasedMethod server.methodsPolicy request) request.requestPath).1 = true

theorem operational_of_admitted {server : RunningServer App}
    (introspects : KeepsIntrospection server) {agent : AgentDocument} {request : Request}
    {admission : Gates.Admission (EndpointHandler App) (MethodHandler App)}
    (lifecycle : Gates.lifecycleGate agent (upper request.method) = none)
    (admitted : Gates.admitRequest server agent request = .ok admission)
    {event : LifecycleEvent} (method : admission.method = event.method) :
    Gates.Operational agent := by
  cases exempt : Gates.lifecycleExempt (upper request.method) with
  | false => exact lifecycleGate_none exempt lifecycle
  | true =>
      have kept := introspects request exempt
      rw [← (Gates.admit_ok.mp admitted).pair, method, event.not_exempt] at kept
      cases kept

variable [IssuerKeys] [Clock]

/-- Documents change in the transitions of agents that are operational, and otherwise
they stay. -/
def LifecyclePermitted (setting : LifecycleSetting App) (server : RunningServer App)
    (state : State App) : Event App → Prop
  | .called call => Admitted server state call
  | .ran effect =>
      (∀ before, (effect before).2.agents = before.agents) ∨
        ∃ event request agent, effect = setting.effect event request agent ∧
          state.document agent = agent ∧ Gates.Operational agent
  | .elapsed _ _ _ => False
  | _ => True

theorem allows_lifecycle (setting : LifecycleSetting App) (server : RunningServer App)
    (scope : Scope) : Allows (LifecyclePermitted setting server) scope where
  drew _ := trivial
  bookkeeping _ _ := trivial
  answered _ _ := trivial
  proposed _ _ _ _ := trivial
  executed _ _ _ := trivial
  stepped _ _ _ _ := trivial
  evicted _ _ _ := trivial
  suspended _ _ _ _ := trivial
  revoked _ _ _ _ _ := trivial
  swept _ _ _ _ _ := trivial
  negotiated _ _ _ := trivial

variable [Digest] [ContractCodec] [Tokens] [NumberText] {setting : LifecycleSetting App}
  {server : RunningServer App} {scope : Scope}

theorem HostsLifecycle.callMethod (hosts : HostsLifecycle setting server)
    {state : State App} {agent : AgentDocument} (acts : scope.acting agent.agentId)
    (current : state.document agent = agent) {name : String}
    {spec : MethodSpec (MethodHandler App)} {handler : MethodHandler App}
    (found : server.methods.lookup name = some spec)
    (registered : spec.handler = some handler)
    (operational : ∀ event : LifecycleEvent, name = event.method →
      Gates.Operational agent) (request : Request) :
    WithinFrom (LifecyclePermitted setting server) scope.nesting state
      (Dispatch.callMethod server request agent handler) := by
  have allows := allows_lifecycle setting server scope
  rcases hosts.methods name spec handler found registered with
    ⟨event, named, rfl⟩ | keeps
  · have here : LifecyclePermitted setting server state
        (.ran (setting.effect event request agent)) :=
      .inr ⟨event, request, agent, rfl, current, operational event named⟩
    cases event with
    | revocation => exact allows.revoke acts here _ _
    | activation | deactivation | reinstatement | deprecation => exact Allows.run here
  · have always (run : Request → AgentDocument → Effect App)
        (effect : handler.effect? = some run) (state : State App) :
        LifecyclePermitted setting server state (.ran (run request agent)) :=
      .inl (keeps run effect request agent)
    cases handler with
    | suspend => exact allows.suspend acts request state
    | revoke lifecycle => exact allows.revoke acts (always lifecycle rfl state) _ _
    | inspect answer => exact allows.inspect (always answer rfl) state
    | propose attempt answer => exact allows.propose (always answer rfl) _ _ _ state
    | other answer => exact Allows.run (always answer rfl state)

theorem HostsLifecycle.serve (hosts : HostsLifecycle setting server)
    (introspects : KeepsIntrospection server) {next : Dispatcher App}
    (nests : scope.nesting)
    (inner : ∀ request agent, scope.acting agent.agentId →
      Within (LifecyclePermitted setting server) scope.nesting (next request agent))
    {state : State App} {agent : AgentDocument} (acts : scope.acting agent.agentId)
    (current : state.document agent = agent) {request : Request}
    (lifecycle : Gates.lifecycleGate agent (upper request.method) = none)
    (outside : Wire.readSynthesisId request.headers = "")
    {admission : Gates.Admission (EndpointHandler App) (MethodHandler App)}
    (admitted : Gates.admitRequest server agent request = .ok admission) :
    WithinFrom (LifecyclePermitted setting server) scope.nesting state
      (Dispatch.serve next server agent request admission) := by
  have allows := allows_lifecycle setting server scope
  have selected := (Gates.admit_ok.mp admitted).target
  unfold Dispatch.serve
  split
  · next handler context target =>
      rw [target] at selected
      refine Allows.emit_andThen ⟨current, lifecycle, outside, admitted, by simp [target]⟩ ?_
      rcases Gates.endpoint_of_selectTarget selected with ⟨entry, found, called⟩
      rcases context_of_admitEndpoint called with ⟨registered, input, built⟩
      cases handler with
      | function answer =>
          rcases Option.map_eq_some_iff.mp found with ⟨bound, boundFound, value⟩
          rw [← value] at registered
          exact Allows.run (.inl (hosts.endpoints bound
            (List.mem_of_find?_eq_some boundFound) answer registered context))
      | composition spec recipe plan =>
          refine allows.serveComposition nests inner ?_ spec recipe plan _
          rw [built]
          exact acts
  · next handler target =>
      rw [target] at selected
      rcases Gates.embedded_of_selectTarget selected with ⟨_, _, _, spec, found, registered⟩
      exact Allows.emit_andThen ⟨current, lifecycle, outside, admitted, by simp [target]⟩
        (hosts.callMethod acts current found registered
          (fun event => operational_of_admitted introspects lifecycle admitted) _)
  · refine follows_andThen (allows.tryRcns acts
      (fun _ id => allows.execute nests inner acts id _) _ _) (fun answer => ?_) state
    split <;> exact follows_result _

theorem HostsLifecycle.dispatch (hosts : HostsLifecycle setting server)
    (introspects : KeepsIntrospection server) (nests : scope.nesting) (depth : Nat)
    {agent : AgentDocument} (acts : scope.acting agent.agentId) (request : Request) :
    Within (LifecyclePermitted setting server) scope.nesting
      (Dispatch.dispatch server depth request agent) := by
  induction depth generalizing request agent with
  | zero => exact follows_exhausted nests
  | succ depth induction =>
      have inner (request : Request) (agent : AgentDocument)
          (acts : scope.acting agent.agentId) := induction acts request
      apply (allows_lifecycle setting server scope).dispatchWith nests inner acts
      intro state admission lifecycle outside admitted
      have present : scope.acting (state.document agent).agentId := by
        rw [State.agentId_document]
        exact acts
      exact hosts.serve introspects nests inner present
        (Obeys.document_document state agent) lifecycle outside admitted

end Permitted

/-! ## Transitions -/

section Transitions

omit [TextOf] [BodyCodec]

/-- The documented transitions: into the status that a lifecycle method sets, and out of
every status but `retired`. -/
def Documented (previous next : String) : Prop :=
  lower previous ≠ "retired" ∧ ∃ event : LifecycleEvent, next = event.newStatus

def MovesAlong (before after : AgentRegistry) : Prop :=
  ∀ agentId status, before.statusOf agentId = some status →
    ∃ later, after.statusOf agentId = some later ∧
      Relation.ReflTransGen Documented status later

theorem MovesAlong.refl (registry : AgentRegistry) : MovesAlong registry registry :=
  fun _ status hosted => ⟨status, hosted, .refl⟩

theorem MovesAlong.trans {first second third : AgentRegistry}
    (left : MovesAlong first second) (right : MovesAlong second third) :
    MovesAlong first third := by
  intro agentId status hosted
  rcases left agentId status hosted with ⟨middle, held, before⟩
  rcases right agentId middle held with ⟨later, reached, after⟩
  exact ⟨later, reached, before.trans after⟩

theorem eq_of_retired {status later : String} (retired : lower status = "retired")
    (moves : Relation.ReflTransGen Documented status later) : later = status := by
  rcases Relation.ReflTransGen.cases_head moves with same | ⟨next, first, _⟩
  · exact same.symm
  · exact absurd retired first.1

theorem not_retired_of_operational {agent : AgentDocument}
    (operational : Gates.Operational agent) : lower agent.status ≠ "retired" := by
  intro retired
  have passed := operational "ACTIVATE"
  have present : agent.status ≠ "" := by
    intro empty
    rw [empty, TextCase.lower_ascii "" (by decide)] at retired
    exact absurd retired (by decide)
  simp [Gates.lifecycleGate, Gates.lifecycleStatus, Gates.lifecycleExempt, present,
    retired] at passed

theorem movesAlong_withStatus {registry : AgentRegistry} {agent : AgentDocument}
    (operational : Gates.Operational agent)
    (current : (registry.lookup agent.agentId).getD agent = agent)
    (event : LifecycleEvent) :
    MovesAlong registry (registry.withStatus agent.agentId event.newStatus) := by
  intro agentId status hosted
  by_cases same : agentId = agent.agentId
  · subst same
    rcases Option.map_eq_some_iff.mp hosted with ⟨held, found, rfl⟩
    rw [found, Option.getD_some] at current
    subst current
    exact ⟨event.newStatus, AgentRegistry.statusOf_withStatus_same found,
      .single ⟨not_retired_of_operational operational, event, rfl⟩⟩
  · refine ⟨status, ?_, .refl⟩
    unfold AgentRegistry.statusOf
    rw [AgentRegistry.lookup_withStatus_other same]
    exact hosted

end Transitions

variable [SchemaValidator] [IssuerKeys] [Clock] [Digest] [ContractCodec] [Tokens]
  {setting : LifecycleSetting App} {server : RunningServer App}

omit [TextCase] [TextOf] [BodyCodec] [SchemaValidator] [IssuerKeys] [Clock] in
theorem agents_negotiate (state : State App) (negotiation : Negotiation) :
    (state.negotiate negotiation).agents = state.agents := by
  unfold State.negotiate State.bindKey
  split <;> rfl

theorem movesAlong_after {state : State App} {event : Event App}
    (allowed : LifecyclePermitted setting server state event) :
    MovesAlong state.agents (state.after event).agents := by
  cases event with
  | ran effect =>
      rcases allowed with keeps | ⟨event, request, agent, rfl, current, operational⟩
      · change MovesAlong state.agents (effect state).2.agents
        rw [keeps]
        exact .refl _
      · change MovesAlong state.agents (setting.effect event request agent state).2.agents
        rcases setting.agents_effect event request agent state with kept | moved
        · rw [kept]
          exact .refl _
        · rw [moved]
          exact movesAlong_withStatus operational current event
  | negotiated negotiation =>
      change MovesAlong state.agents (state.negotiate negotiation).agents
      rw [agents_negotiate]
      exact .refl _
  | elapsed seconds agents app => exact allowed.elim
  | _ => exact .refl _

variable [NumberText]

theorem HostsLifecycle.trace (hosts : HostsLifecycle setting server)
    (introspects : KeepsIntrospection server) (depth : Nat) (request : Request)
    (agent : AgentDocument) (state : State App) :
    Trace (Happens (LifecyclePermitted setting server)) state
      (Dispatch.dispatch server depth request agent state).log
      (Dispatch.dispatch server depth request agent state).state :=
  have within : Within (LifecyclePermitted setting server) Obeys.everyone.nesting
      (Dispatch.dispatch server depth request agent) :=
    hosts.dispatch introspects trivial depth trivial request
  (within state).trace

theorem HostsLifecycle.movesAlong (hosts : HostsLifecycle setting server)
    (introspects : KeepsIntrospection server) (depth : Nat) (request : Request)
    (agent : AgentDocument) (state : State App) :
    MovesAlong state.agents
      (Dispatch.dispatch server depth request agent state).state.agents :=
  preserved_of_happens (fun reached => MovesAlong state.agents reached.agents)
    (fun _ _ allowed held => held.trans (movesAlong_after allowed))
    (hosts.trace introspects depth request agent state) (.refl _)

theorem HostsLifecycle.serves_introspection (hosts : HostsLifecycle setting server)
    (introspects : KeepsIntrospection server) {depth : Nat} {request : Request}
    {agent : AgentDocument} {state : State App} {call : Call App}
    (called : .called call ∈ (Dispatch.dispatch server depth request agent state).log)
    {status : String} (retired : lower status = "retired")
    (hosted : state.agents.statusOf call.agent.agentId = some status) :
    Gates.lifecycleExempt (upper call.request.method) = true := by
  rcases List.append_of_mem called with ⟨before, after, logged⟩
  have trace := hosts.trace introspects depth request agent state
  rw [logged] at trace
  have admitted : Admitted server (state.replay before) call := permitted_of_happens trace
  rcases trace.split with ⟨middle, first, _⟩
  have moves : MovesAlong state.agents middle.agents :=
    preserved_of_happens (fun reached => MovesAlong state.agents reached.agents)
      (fun _ _ allowed held => held.trans (movesAlong_after allowed)) first (.refl _)
  rw [replay_of_happens first] at moves
  rcases moves _ status hosted with ⟨later, reached, chain⟩
  rcases Option.map_eq_some_iff.mp reached with ⟨held, found, rfl⟩
  have same : held = call.agent := by
    have current := admitted.current
    unfold State.document at current
    rwa [found, Option.getD_some] at current
  cases exempt : Gates.lifecycleExempt (upper call.request.method) with
  | true => rfl
  | false =>
      have operational : Gates.Operational call.agent :=
        lifecycleGate_none exempt admitted.lifecycle
      refine absurd ?_ (not_retired_of_operational operational)
      rw [← same, eq_of_retired retired chain]
      exact retired

/-! ## Runs -/

/-- A request to an agent, and for how long nothing happens before it. -/
structure Visit (App : Type) where
  wait : Nat
  depth : Nat
  request : Request
  agent : AgentDocument

namespace Visit

def arrival (visit : Visit App) (state : State App) : State App :=
  state.after (.elapsed visit.wait state.agents state.app)

def serve (server : RunningServer App) (visit : Visit App) (state : State App) :
    Run (State App) (Event App) Response :=
  Dispatch.dispatch server visit.depth visit.request visit.agent (visit.arrival state)

def reached (server : RunningServer App) (state : State App)
    (visits : List (Visit App)) : State App :=
  visits.foldl (fun state visit => (visit.serve server state).state) state

omit [IssuerKeys] in
theorem reached_append (server : RunningServer App) (state : State App)
    (before after : List (Visit App)) :
    reached server state (before ++ after) =
      reached server (reached server state before) after :=
  List.foldl_append

end Visit

/-- A request to reactivate an agent that is suspended, which every check other than the
lifecycle gate lets through: the dispatcher would hand it to the lifecycle handler, and
the handler finds it authorised. -/
structure Reactivates (setting : LifecycleSetting App) (server : RunningServer App)
    (state : State App) (visit : Visit App) : Prop where
  deep : 0 < visit.depth
  suspended : ∃ held, state.agents.lookup visit.agent.agentId = some held ∧
    Gates.lifecycleStatus held = "suspended"
  reactivation : ∃ event : LifecycleEvent, event.newStatus = "active" ∧
    upper visit.request.method = event.method ∧
    ∃ admission params,
      Gates.admitRequest server (state.document visit.agent) visit.request =
        .ok admission ∧
      admission.target = .embedded (setting.handler event) ∧
      Lifecycle.admitCall setting.config (setting.genesis visit.agent.agentId)
        (LifecycleSetting.callOf event admission.request (state.document visit.agent)
          (visit.arrival state).now) = .ok params
  outside : Wire.readSynthesisId visit.request.headers = ""

/-- What the lifecycle table says of every run: each request moves the agents along the
documented transitions, an agent that is retired stays so and is served introspection
only, and a suspended agent comes back. -/
structure KeepsLifecycle (setting : LifecycleSetting App) (server : RunningServer App)
    (state : State App) (visits : List (Visit App)) : Prop where
  moves : ∀ before visit, before ++ [visit] <+: visits →
    MovesAlong (Visit.reached server state before).agents
      (Visit.reached server state (before ++ [visit])).agents
  retired : ∀ before later visit, before ++ later ++ [visit] <+: visits →
    ∀ agentId status, lower status = "retired" →
      (Visit.reached server state before).agents.statusOf agentId = some status →
      (Visit.reached server state (before ++ later ++ [visit])).agents.statusOf agentId =
        some status ∧
      ∀ call, .called call ∈
          (visit.serve server (Visit.reached server state (before ++ later))).log →
        call.agent.agentId = agentId →
        Gates.lifecycleExempt (upper call.request.method) = true
  recovers : ∀ before visit, before ++ [visit] <+: visits →
    Reactivates setting server (Visit.reached server state before) visit →
      (Visit.reached server state (before ++ [visit])).agents.statusOf
        visit.agent.agentId = some "active"

theorem HostsLifecycle.movesAlong_reached (hosts : HostsLifecycle setting server)
    (introspects : KeepsIntrospection server) (state : State App)
    (visits : List (Visit App)) :
    MovesAlong state.agents (Visit.reached server state visits).agents := by
  induction visits generalizing state with
  | nil => exact .refl _
  | cons visit rest induction =>
      have first : MovesAlong state.agents (visit.serve server state).state.agents :=
        hosts.movesAlong introspects visit.depth visit.request visit.agent
          (visit.arrival state)
      exact first.trans (induction (visit.serve server state).state)

omit [IssuerKeys] in
theorem agents_of_suspended {visit : Visit App} {state : State App}
    {held : AgentDocument}
    (found : state.agents.lookup visit.agent.agentId = some held)
    (suspended : Gates.lifecycleStatus held = "suspended")
    (looked : Gates.lifecycleExempt (upper visit.request.method) = false) :
    (visit.serve server state).state.agents = state.agents := by
  have document : (visit.arrival state).document visit.agent = held := by
    change (state.agents.lookup visit.agent.agentId).getD visit.agent = held
    rw [found, Option.getD_some]
  unfold Visit.serve
  cases visit.depth with
  | zero => rfl
  | succ depth =>
      rw [Dispatch.dispatch_succ]
      cases refused : Gates.lifecycleGate held (upper visit.request.method) with
      | some refusal =>
          rw [Dispatch.dispatchWith_refused (by rw [document]; exact refused)]
          rfl
      | none => simp [Gates.lifecycleGate, looked, suspended] at refused

theorem not_active_of_reactivates {visit : Visit App} {state : State App}
    (reactivates : Reactivates setting server state visit) :
    (visit.serve server state).state.agents.statusOf visit.agent.agentId ≠
      some "active" := by
  rcases reactivates with ⟨_, ⟨held, found, suspended⟩, ⟨event, _, method, _⟩, _⟩
  rw [agents_of_suspended found suspended (by rw [method]; exact event.not_exempt)]
  unfold AgentRegistry.statusOf
  rw [found, Option.map_some]
  intro active
  rw [Gates.lifecycleStatus, Option.some.inj active,
    TextCase.lower_ascii _ (by decide)] at suspended
  exact absurd suspended (by decide)

/-- A run keeps to the lifecycle table exactly if no request in it is to reactivate an
agent that is suspended. -/
theorem keepsLifecycle_iff (hosts : HostsLifecycle setting server)
    (introspects : KeepsIntrospection server) (state : State App)
    (visits : List (Visit App)) :
    KeepsLifecycle setting server state visits ↔
      ∀ before visit, before ++ [visit] <+: visits →
        ¬ Reactivates setting server (Visit.reached server state before) visit := by
  constructor
  · intro keeps before visit within reactivates
    have active := keeps.recovers before visit within reactivates
    rw [Visit.reached_append] at active
    exact not_active_of_reactivates reactivates active
  · intro none
    refine {
      moves := fun before visit _ => ?_
      retired := fun before later visit _ agentId status retired hosted => ⟨?_, ?_⟩
      recovers := fun before visit within reactivates =>
        absurd reactivates (none before visit within) }
    · rw [Visit.reached_append]
      exact hosts.movesAlong_reached introspects _ [visit]
    · rw [List.append_assoc, Visit.reached_append]
      rcases hosts.movesAlong_reached introspects (Visit.reached server state before)
        (later ++ [visit]) agentId status hosted with ⟨last, held, chain⟩
      rw [held, eq_of_retired retired chain]
    · intro call called named
      subst named
      rcases hosts.movesAlong_reached introspects (Visit.reached server state before) later
        _ status hosted with ⟨last, held, chain⟩
      rw [eq_of_retired retired chain, ← Visit.reached_append] at held
      exact hosts.serves_introspection introspects called retired held

end Agtp

namespace Agtp.LifecycleSamples

open scoped Plain PlainServing

scoped instance : IssuerKeys where
  fingerprint := fun _ => .error "no key"

def openSetting : LifecycleSetting Unit where
  config := ⟨"open", false, false⟩
  genesis := fun _ => none
  auditId := fun _ _ => ""
  committed := fun _ _ app => app

def activatingServer : RunningServer Unit :=
  { Server.bare (EndpointHandler Unit) (MethodHandler Unit) with
    methods := .single ⟨"ACTIVATE", [], ["reason"],
        some (openSetting.handler .activation)⟩
      (by decide) (by decide +kernel) }

theorem hosts_activatingServer : HostsLifecycle openSetting activatingServer where
  methods := by
    intro name spec handler found registered
    rcases Option.map_eq_some_iff.mp found with ⟨bound, boundFound, rfl⟩
    have sole := List.mem_singleton.mp (List.mem_of_find?_eq_some boundFound)
    have named := List.find?_some boundFound
    subst sole
    cases registered
    exact .inl ⟨.activation, (beq_iff_eq.mp named).symm, rfl⟩
  endpoints := by
    intro entry member
    exact absurd member List.not_mem_nil

theorem keepsIntrospection_activatingServer : KeepsIntrospection activatingServer :=
  fun _ exempt => exempt

def clerk (status : String) : AgentDocument :=
  { AgentDocument.active "clerk" ⟨[], [], true⟩ with status := status }

def hosting (status : String) : State Unit := .boot (.sole (clerk status)) 0 ()

def activation : Visit Unit := ⟨0, 1, .toRoot "ACTIVATE" [], clerk "suspended"⟩

theorem admitted_activation :
    Gates.admitRequest activatingServer (clerk "suspended") activation.request =
      .ok ⟨activation.request, "ACTIVATE", "/",
        .embedded (openSetting.handler .activation)⟩ :=
  Gates.admit_ok.mpr {
    scopes := by decide +kernel
    oauth := by rfl
    catalog := by rfl
    path := by rfl
    policy := by rfl
    pair := by rfl
    target := by rfl }

theorem reactivates_suspended :
    Reactivates openSetting activatingServer (hosting "suspended") activation where
  deep := by decide
  suspended := ⟨clerk "suspended", rfl, by decide⟩
  reactivation :=
    ⟨.activation, rfl, by decide, _, _, admitted_activation, rfl, rfl⟩
  outside := by decide

/-- An agent that is suspended stays so, whatever is sent to reactivate it. -/
theorem suspended_stays_suspended :
    Reactivates openSetting activatingServer (hosting "suspended") activation ∧
      ((activation.serve activatingServer (hosting "suspended")).state.agents.statusOf
        "clerk" = some "suspended") ∧
      ¬KeepsLifecycle openSetting activatingServer (hosting "suspended") [activation] := by
  have stays : (activation.serve activatingServer (hosting "suspended")).state.agents.statusOf
      "clerk" = some "suspended" := by rfl
  refine ⟨reactivates_suspended, stays, fun keeps => ?_⟩
  have active := keeps.recovers [] activation (List.prefix_refl _) reactivates_suspended
  rw [show Visit.reached activatingServer (hosting "suspended") ([] ++ [activation]) =
    (activation.serve activatingServer (hosting "suspended")).state from rfl] at active
  exact absurd (stays.symm.trans active) (by decide)

/-- An agent that is active may be activated. -/
theorem active_keeps_lifecycle :
    KeepsLifecycle openSetting activatingServer (hosting "active") [activation] :=
  (keepsLifecycle_iff hosts_activatingServer keepsIntrospection_activatingServer
    (hosting "active") [activation]).mpr (by
      intro before visit within reactivates
      have first : before = [] := by
        have short := within.length_le
        simpa using short
      subst first
      cases List.singleton_prefix_cons_iff.mp within
      rcases reactivates.suspended with ⟨held, found, suspended⟩
      cases found
      exact absurd suspended (by decide))

end Agtp.LifecycleSamples
