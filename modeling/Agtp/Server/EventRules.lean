import Agtp.Server.Dispatch
import Agtp.Server.GateLaws

/-! # Rules for computations of a server

A set of events that are permitted in a state is a step relation on the server's states.
The computations of the dispatcher follow every such relation that allows the events
which they emit by themselves. What handlers do is left to the relation. -/

namespace Agtp

open Computation Serving

/-- The agents that are served, and whether plans may be executed for them. -/
structure Scope where
  acting : String → Prop
  nesting : Prop

variable {App : Type}

section Relation

variable [Digest] [ContractCodec] [Tokens]

def Happens (permitted : State App → Event App → Prop) (state : State App)
    (event : Event App) (next : State App) : Prop :=
  permitted state event ∧ next = state.after event

theorem replay_of_happens {permitted : State App → Event App → Prop}
    {state final : State App} {log : List (Event App)}
    (trace : Trace (Happens permitted) state log final) : final = state.replay log := by
  induction trace with
  | nil => rfl
  | cons taken _ induction =>
      rw [induction, taken.2]
      rfl

theorem preserved_of_happens {permitted : State App → Event App → Prop}
    (invariant : State App → Prop)
    (preserved : ∀ state event, permitted state event → invariant state →
      invariant (state.after event))
    {state final : State App} {log : List (Event App)}
    (trace : Trace (Happens permitted) state log final) (holds : invariant state) :
    invariant final := by
  refine trace.preserves ?_ holds
  rintro state event _ ⟨allowed, rfl⟩ held
  exact preserved state event allowed held

theorem permitted_of_happens {permitted : State App → Event App → Prop}
    {state final : State App} {before after : List (Event App)} {event : Event App}
    (trace : Trace (Happens permitted) state (before ++ event :: after) final) :
    permitted (state.replay before) event := by
  rcases trace.split with ⟨middle, first, rest⟩
  cases rest with
  | cons taken _ =>
      rw [← replay_of_happens first]
      exact taken.1

/-- The log of every run from every state is a trace of permitted events, and unless
plans nest the computation returns. -/
abbrev Within (permitted : State App → Event App → Prop) (nesting : Prop)
    (computation : Serving App Value) : Prop :=
  Follows (Happens permitted) nesting computation

abbrev WithinFrom (permitted : State App → Event App → Prop) (nesting : Prop)
    (state : State App) (computation : Serving App Value) : Prop :=
  FollowsFrom (Happens permitted) nesting state computation

end Relation

/-- The events are permitted that computations emit for the agents of the scope, other
than the calls of handlers and what the handlers do. -/
structure Allows (permitted : State App → Event App → Prop) (scope : Scope) : Prop where
  drew : ∀ state, permitted state .drew
  bookkeeping : ∀ state operation, permitted state (.bookkeeping operation)
  answered : ∀ state answer, permitted state (.answered answer)
  proposed : ∀ state plan expiresAt persistent,
    permitted state (.proposed plan expiresAt persistent)
  executed : scope.nesting → ∀ state id, permitted state (.executed id)
  stepped : scope.nesting → ∀ state id index, permitted state (.stepped id index)
  evicted : ∀ state id, state.runtime.isOverdue state.now id = true →
    permitted state (.evicted id)
  suspended : ∀ state agent id, scope.acting agent.agentId →
    permitted state (.suspended agent id)
  revoked : ∀ state agent id, scope.acting agent.agentId →
    mayRevoke agent ((state.runtime.originatingAgentId id).getD "") = true →
    permitted state (.revoked agent id)
  swept : ∀ state agent policies, scope.acting agent.agentId → agent.isOperator = true →
    permitted state (.swept agent policies)
  negotiated : ∀ state negotiation, scope.acting negotiation.agentId →
    permitted state (.negotiated negotiation)

namespace Allows

variable [Digest] [ContractCodec] [Tokens] {permitted : State App → Event App → Prop}
  {scope : Scope}

/-! ## Elementary computations -/

theorem emit {nesting : Prop} {event : Event App}
    (always : ∀ state, permitted state event) :
    Within permitted nesting (Serving.emit event) :=
  follows_perform (fun state => ⟨always state, rfl⟩) fun _ => trivial

theorem emit_andThen {nesting : Prop} {event : Event App} {state : State App}
    {next : PUnit → Serving App Value} (here : permitted state event)
    (rest : WithinFrom permitted nesting (state.after event) (next .unit)) :
    WithinFrom permitted nesting state (andThen (Serving.emit event) next) :=
  ⟨.cons ⟨here, rfl⟩ rest.trace, rest.returns⟩

theorem run {nesting : Prop} {effect : Effect App} {state : State App}
    (here : permitted state (.ran effect)) :
    WithinFrom permitted nesting state (Serving.run effect) := by
  have reached : (Serving.run effect state).state = state.after (.ran effect) := by
    simp only [Serving.run, perform, State.after]
    rcases effect state with ⟨response | _, after⟩ <;> rfl
  have returned : (Serving.run effect state).ending.Finished := by
    simp only [Serving.run, perform]
    rcases effect state with ⟨response | _, after⟩ <;> trivial
  exact ⟨.single ⟨here, reached⟩, .inr returned⟩

theorem withBody [BodyCodec] {nesting : Prop} {request : Request}
    {state : State App} {next : List (String × Json) → Serving App Response}
    (rest : ∀ params, WithinFrom permitted nesting state (next params)) :
    WithinFrom permitted nesting state (Serving.withBody request next) := by
  unfold Serving.withBody
  split
  · next refusal _ =>
      cases refusal with
      | answer response => exact follows_result _ state
      | crash => exact follows_raise state
  · exact rest _

variable (allows : Allows permitted scope)

include allows

theorem draw : Within permitted scope.nesting (Serving.draw : Serving App Nat) :=
  follows_andThen follows_read fun _ =>
    follows_andThen (emit allows.drew) fun _ => follows_result _

theorem getPlan (id : String) :
    Within permitted scope.nesting (Serving.getPlan id : Serving App _) := by
  apply follows_andThen_read
  intro state
  split
  · next overdue =>
      exact emit_andThen (allows.evicted state id overdue) (follows_result _ _)
  · exact follows_result _ state

theorem refuseAttempt (reason explanation method path : String)
    (details : List (String × Json)) :
    Within permitted scope.nesting (Rcns.refuseAttempt reason explanation method path
      details : Serving App _) :=
  follows_andThen allows.draw fun _ => follows_result _

theorem limited (config : RcnsConfig) (agentId : String) :
    Within permitted scope.nesting (Rcns.limited config agentId : Serving App _) := by
  have books (operation : RcnsOperation) (state : State App) :
      permitted state (.bookkeeping operation) := allows.bookkeeping state operation
  unfold Rcns.limited
  simp only
  split
  · exact follows_result _
  · split
    · refine follows_andThen (emit (books _)) fun _ =>
        follows_andThen follows_read fun state => ?_
      split
      · exact follows_result _
      · exact follows_andThen (emit (books _)) fun _ => follows_result _
    · exact follows_andThen follows_read fun _ => follows_result _

theorem lookupKey (config : RcnsConfig) (agentId key : String) :
    Within permitted scope.nesting (Rcns.lookupKey config agentId key : Serving App _) := by
  have books (operation : RcnsOperation) (state : State App) :
      permitted state (.bookkeeping operation) := allows.bookkeeping state operation
  refine follows_andThen follows_read fun state => ?_
  simp only
  split
  · exact follows_result _
  · split
    · exact follows_andThen (emit (books _)) fun _ => follows_result _
    · split
      · exact follows_andThen (emit (books _)) fun _ => follows_result _
      · exact follows_result _

/-! ## Handlers -/

theorem propose {answer : Request → AgentDocument → Effect App} {request : Request}
    {agent : AgentDocument} (always : ∀ state, permitted state (.ran (answer request agent)))
    (config : SynthesisConfig) (available : List AvailableMethod)
    (attempt : Request → AgentDocument → State App → Option Attempt) :
    Within permitted scope.nesting
      (Serving.propose config available attempt answer request agent) := by
  refine follows_andThen follows_read fun state => ?_
  split
  · exact fun state => run (always state)
  · split
    · exact follows_result _
    · exact follows_andThen (emit fun state => allows.proposed state _ _ _)
        fun _ => follows_result _

variable [TextOf]

theorem release {agent : AgentDocument} (acts : scope.acting agent.agentId)
    (named : Json) :
    Within permitted scope.nesting (Serving.release agent named : Serving App _) := by
  unfold Serving.release
  split
  · refine follows_andThen (allows.getPlan _) fun _ =>
      follows_andThen follows_read fun _ => ?_
    exact follows_andThen (emit fun state => allows.suspended state agent _ acts)
      fun _ => follows_result _
  · exact follows_result _

theorem revokeContract [Clock] {agent : AgentDocument}
    (acts : scope.acting agent.agentId) (params : List (String × Json)) :
    Within permitted scope.nesting
      (Serving.revokeContract params agent : Serving App _) := by
  unfold Serving.revokeContract
  simp only
  split
  · exact follows_result _
  · refine follows_andThen (allows.getPlan _) fun plan => ?_
    split
    · exact follows_result _
    · apply follows_andThen_read
      intro state
      split
      · next allowed =>
          exact emit_andThen (allows.revoked state agent _ acts allowed)
            (follows_result _ _)
      · exact follows_result _ state

variable [TextCase]

theorem revokeStaleContracts [Clock] {agent : AgentDocument}
    (acts : scope.acting agent.agentId) (onPolicyChange : String)
    (policies : List CompositionPolicy) (params : List (String × Json)) :
    Within permitted scope.nesting (Serving.revokeStaleContracts onPolicyChange policies
      params agent : Serving App _) := by
  unfold Serving.revokeStaleContracts
  simp only
  split
  · next operator =>
      refine follows_andThen follows_read fun state => ?_
      split
      · exact follows_result _
      · split
        · exact follows_andThen (emit fun state => allows.swept state agent _ acts operator)
            fun _ => follows_result _
        · exact follows_result _
  · exact follows_result _

variable [BodyCodec]

omit [TextCase] in
theorem suspend [NumberText] [Clock] {agent : AgentDocument}
    (acts : scope.acting agent.agentId) (request : Request) :
    Within permitted scope.nesting (Serving.suspend request agent : Serving App _) := by
  intro state
  apply withBody
  intro params
  split
  · exact follows_raise state
  · refine follows_andThen allows.draw (fun _ => follows_andThen (allows.release acts _)
      fun _ => follows_andThen follows_read fun _ => ?_) state
    split
    · exact follows_raise
    · exact follows_result _

theorem revoke [Clock] {lifecycle : Request → AgentDocument → Effect App}
    {agent : AgentDocument} (acts : scope.acting agent.agentId) {state : State App}
    {request : Request} (here : permitted state (.ran (lifecycle request agent)))
    (onPolicyChange : String) (policies : List CompositionPolicy) :
    WithinFrom permitted scope.nesting state
      (Serving.revoke onPolicyChange policies lifecycle request agent) := by
  apply withBody
  intro params
  simp only
  split
  · exact allows.revokeContract acts _ state
  · split
    · exact allows.revokeStaleContracts acts _ _ _ state
    · exact run here

theorem inspect {answer : Request → AgentDocument → Effect App} {request : Request}
    {agent : AgentDocument} (always : ∀ state, permitted state (.ran (answer request agent)))
    (state : State App) :
    WithinFrom permitted scope.nesting state (Serving.inspect answer request agent) := by
  apply withBody
  intro params
  simp only
  split
  · exact follows_andThen (allows.getPlan _) (fun _ state => run (always state)) state
  · exact run (always state)

/-! ## Plans -/

section Plans

variable {next : Dispatcher App} (nests : scope.nesting)
  (inner : ∀ request agent, scope.acting agent.agentId →
    Within permitted scope.nesting (next request agent))

include nests inner

theorem runSteps {agent : AgentDocument} (acts : scope.acting agent.agentId)
    (plan : SynthesisPlan) (id : String) (original : Request) (index : Nat)
    (captured : List (String × Json))
    (records : List Execution.StepRecord) (steps : List CompositionStep) :
    Within permitted scope.nesting (Serving.runSteps next plan id original agent index
      captured records steps) := by
  induction steps generalizing index captured records with
  | nil => exact follows_result _
  | cons step rest induction =>
      unfold Serving.runSteps
      split
      · exact follows_result _
      · refine follows_andThen (emit fun state => allows.stepped nests state _ _) fun _ =>
          follows_andThen (inner _ _ acts) fun response => ?_
        split
        · exact induction _ _ _
        · exact follows_result _

theorem executePlan {agent : AgentDocument} (acts : scope.acting agent.agentId)
    (plan : SynthesisPlan) (id : String) (request : Request) :
    Within permitted scope.nesting (Serving.executePlan next plan id request agent) :=
  follows_andThen (emit fun state => allows.executed nests state _) fun _ =>
    allows.runSteps nests inner acts _ _ _ _ _ _ _

theorem execute {agent : AgentDocument} (acts : scope.acting agent.agentId) (id : String)
    (request : Request) :
    Within permitted scope.nesting (Serving.execute next id request agent) := by
  refine follows_andThen (allows.getPlan id) fun plan => ?_
  split
  · exact follows_result _
  · exact allows.executePlan nests inner acts _ _ _

variable [SchemaValidator]

theorem serveComposition {context : EndpointContext}
    (acts : scope.acting context.agentId) (spec : EndpointSpec) (recipe : String)
    (plan : SynthesisPlan) :
    Within permitted scope.nesting
      (Serving.serveComposition next spec recipe plan context) := by
  refine follows_andThen follows_read fun state => ?_
  split
  · exact follows_result _
  · next agent hosted =>
      rw [← AgentRegistry.agentId_of_lookup hosted] at acts
      exact follows_recover (follows_andThen (allows.executePlan nests inner acts _ _ _)
        fun _ => follows_result _) _

end Plans

/-! ## Negotiation -/

variable {server : RunningServer App}

omit [BodyCodec] in
theorem negotiate {agent : AgentDocument} (acts : scope.acting agent.agentId)
    (mode : RcnsMode) (key method path : String) :
    Within permitted scope.nesting (Rcns.negotiate server mode agent key method path) := by
  refine follows_andThen ?_ fun _ => ?_
  · split
    · exact follows_result _
    · exact emit fun state => allows.bookkeeping state _
  · split
    · exact follows_andThen (allows.refuseAttempt _ _ _ _ _) fun _ => follows_result _
    · exact follows_andThen follows_read fun _ =>
        follows_andThen (emit fun state => allows.negotiated state _ acts)
          fun _ => follows_result _

omit [BodyCodec] in
theorem obtain {agent : AgentDocument} (acts : scope.acting agent.agentId)
    (mode : RcnsMode) (key method path : String) :
    Within permitted scope.nesting (Rcns.obtain server mode agent key method path) := by
  refine follows_andThen (allows.lookupKey _ _ _) fun cached => ?_
  split
  · exact allows.negotiate acts _ _ _ _
  · refine follows_andThen (allows.getPlan _) fun plan => ?_
    split
    · exact follows_result _
    · exact allows.negotiate acts _ _ _ _

theorem tryRcns {next : Dispatcher App} {agent : AgentDocument}
    (acts : scope.acting agent.agentId) {request : Request}
    (executes : Rcns.parseAllowRcns request.headers = some .optimistic →
      ∀ id, Within permitted scope.nesting (Serving.execute next id request agent))
    (method path : String) :
    Within permitted scope.nesting
      (Rcns.tryRcns next server request agent method path) := by
  unfold Rcns.tryRcns
  split
  · next mode _ allowed =>
      have deliver (deal : Rcns.Deal) : Within permitted scope.nesting
          (Rcns.deliver next mode request agent method path deal) := by
        unfold Rcns.deliver
        refine follows_andThen (emit fun state => allows.answered state _) fun _ => ?_
        cases mode with
        | confirm => exact follows_result _
        | optimistic =>
            exact follows_andThen (executes allowed _) fun _ => follows_result _
      refine follows_andThen ?_ fun _ => follows_result _
      split
      · exact allows.refuseAttempt _ _ _ _ _
      · split
        · exact follows_result _
        · split
          · exact allows.refuseAttempt _ _ _ _ _
          · refine follows_andThen (allows.limited _ _) fun atLimit => ?_
            split
            · exact follows_result _
            · refine follows_andThen (allows.obtain acts _ _ _ _) fun deal => ?_
              split
              · exact follows_result _
              · exact deliver _
  · exact follows_result _

/-! ## Dispatch -/

variable [SchemaValidator]

theorem dispatchWith {next : Dispatcher App} (nests : scope.nesting)
    (inner : ∀ request agent, scope.acting agent.agentId →
      Within permitted scope.nesting (next request agent))
    [NumberText] [Clock] {named : AgentDocument} (acts : scope.acting named.agentId)
    {request : Request}
    (serves : ∀ state admission,
      Gates.lifecycleGate (state.document named) (upper request.method) = none →
      Wire.readSynthesisId request.headers = "" →
      Gates.admitRequest server (state.document named) request = .ok admission →
      WithinFrom permitted scope.nesting state
        (Dispatch.serve next server (state.document named) request admission)) :
    Within permitted scope.nesting (Dispatch.dispatchWith next server request named) := by
  apply follows_andThen_read
  intro state
  simp only
  split
  · exact follows_result _ state
  · next lifecycle =>
      split
      · next outside =>
          unfold Dispatch.dispatchDirect
          split
          · next refusal _ =>
              cases refusal with
              | answer response => exact follows_result _ state
              | crash => exact follows_raise state
          · next admission admitted => exact serves state admission lifecycle outside admitted
      · rw [← State.agentId_document state named] at acts
        refine follows_andThen (allows.getPlan _) (fun plan => ?_) state
        split
        · exact follows_result _
        · refine follows_andThen follows_read fun state => ?_
          split
          · exact allows.execute nests inner acts _ _
          · exact follows_result _

end Allows

end Agtp
