import Agtp.Server.HandlerResolution
import Agtp.Server.StepAuthority
import Agtp.Server.Recursion
import Mathlib.Data.List.Perm.Subperm

/-! # Compositions that lead to compositions

The steps of a composition are dispatched at the root path, where an alias, a redirect or the
registry may hand them to another composition, or to the same one. -/

namespace Agtp

open Computation Serving

/-! ## The graph of compositions -/

section Graph

variable {App : Type} [TextCase] [TextOf]

namespace Server

def compositionAt (server : RunningServer App) (pair : String × String) :
    Option SynthesisPlan :=
  match server.endpoints.entries.get? pair with
  | some (_, some (.composition _ _ plan)) => some plan
  | _ => none

def registryPair (server : RunningServer App) (request : Request) : String × String :=
  let pair := Gates.redirected server
    (Gates.aliasedMethod server.methodsPolicy request) request.requestPath
  (upper pair.1, pair.2)

def stepPair (server : RunningServer App) (methodName : String) : String × String :=
  server.registryPair (.toRoot methodName [])

/-- A step of the composition at the first pair is handed to the one at the
second. -/
def Leads (server : RunningServer App) (pair other : String × String) : Prop :=
  ∃ plan, server.compositionAt pair = some plan ∧
    (∃ step ∈ plan.steps, server.stepPair step.methodName = other) ∧
    (server.compositionAt other).isSome

def Acyclic (server : RunningServer App) : Prop :=
  ∀ pair, ¬Relation.TransGen server.Leads pair pair

theorem mem_keys_of_compositionAt {server : RunningServer App}
    {pair : String × String} {plan : SynthesisPlan}
    (bound : server.compositionAt pair = some plan) :
    pair ∈ server.endpoints.entries.keys := by
  unfold compositionAt at bound
  split at bound
  · next found =>
      rcases Option.map_eq_some_iff.mp found with ⟨entry, entryFound, _⟩
      have key : entry.1 = pair := by simpa using List.find?_some entryFound
      exact List.mem_map.mpr ⟨entry, List.mem_of_find?_eq_some entryFound, key⟩
  · cases bound

/-- Compositions that are bound at different pairs are at most as many as the
endpoints. -/
theorem length_le_count {server : RunningServer App}
    {executing : List (String × String)} (nodup : executing.Nodup)
    (bound : ∀ pair ∈ executing, (server.compositionAt pair).isSome) :
    executing.length ≤ server.endpoints.count := by
  have within : executing ⊆ server.endpoints.entries.keys := by
    intro pair member
    rcases Option.isSome_iff_exists.mp (bound pair member) with ⟨plan, found⟩
    exact mem_keys_of_compositionAt found
  have short := (List.subperm_of_subset nodup within).length_le
  rwa [Dict.keys, List.length_map] at short

theorem registryPair_buildStepRequest [BodyCodec] (server : RunningServer App)
    (original : Request) (methodName : String) (params : List (String × Json)) :
    server.registryPair (Execution.buildStepRequest original methodName params) =
      server.stepPair methodName := rfl

end Server

end Graph

/-! ## The compositions being executed -/

section Entering

variable {App : Type} [TextCase] [TextOf] [BodyCodec] [SchemaValidator]

/-- The dispatcher hands the request to the composition at the pair. -/
structure Enters (server : RunningServer App) (state : State App)
    (agent : AgentDocument) (request : Request) (pair : String × String)
    (plan : SynthesisPlan) (context : EndpointContext) : Prop where
  lifecycle : Gates.lifecycleGate (state.document agent) (upper request.method) = none
  outside : Wire.readSynthesisId request.headers = ""
  admitted : ∃ admission spec recipe,
    Gates.admitRequest server (state.document agent) request = .ok admission ∧
      admission.target = .endpoint (.composition spec recipe plan) context ∧
      (upper admission.method, admission.path) = pair

/-- The pair of the composition that the request is handed to, if it is handed to
one. -/
def enteredPair (server : RunningServer App) (state : State App)
    (agent : AgentDocument) (request : Request) : Option (String × String) :=
  if Gates.lifecycleGate (state.document agent) (upper request.method) = none ∧
      Wire.readSynthesisId request.headers = "" then
    match Gates.admitRequest server (state.document agent) request with
    | .ok ⟨_, method, path, .endpoint (.composition _ _ _) _⟩ =>
        some (upper method, path)
    | _ => none
  else none

theorem enteredPair_eq_some_iff {server : RunningServer App} {state : State App}
    {agent : AgentDocument} {request : Request} {pair : String × String} :
    enteredPair server state agent request = some pair ↔
      ∃ plan context, Enters server state agent request pair plan context := by
  unfold enteredPair
  constructor
  · intro entered
    split at entered
    · next open_ =>
        split at entered
        · next seen method path spec recipe plan context admitted =>
            cases entered
            exact ⟨plan, context, open_.1, open_.2, _, spec, recipe, admitted, rfl, rfl⟩
        · cases entered
    · cases entered
  · intro ⟨plan, context, enters⟩
    rcases enters.admitted with ⟨⟨seen, method, path, target⟩, spec, recipe, admitted,
      reached, named⟩
    have reachedTarget : target = .endpoint (.composition spec recipe plan) context :=
      reached
    subst reachedTarget
    rw [if_pos ⟨enters.lifecycle, enters.outside⟩, admitted]
    exact congrArg some named

theorem Enters.bound {server : RunningServer App} {state : State App}
    {agent : AgentDocument} {request : Request} {pair : String × String}
    {plan : SynthesisPlan} {context : EndpointContext}
    (enters : Enters server state agent request pair plan context) :
    pair = server.registryPair request ∧ server.compositionAt pair = some plan ∧
      ∃ seen input, context =
        buildEndpointContext seen input (state.document agent) := by
  rcases enters.admitted with ⟨admission, spec, recipe, admitted, reached, named⟩
  have passed := Gates.admit_ok.mp admitted
  have selected := passed.target
  rw [reached] at selected
  rcases Gates.endpoint_of_selectTarget selected with ⟨entry, found, called⟩
  rcases context_of_admitEndpoint called with ⟨handler, input, built⟩
  refine ⟨?_, ?_, _, input, built⟩
  · have pairs := passed.pair
    unfold Server.registryPair
    rw [← pairs, ← named]
  · unfold EndpointRegistry.lookup at found
    rw [named] at found
    unfold Server.compositionAt
    rw [found]
    rcases entry with ⟨bound, held⟩
    have same : held = some (.composition spec recipe plan) := handler
    subst same
    rfl

variable [Digest] [ContractCodec] [Tokens] [NumberText] [Clock]

/-- `dispatch` with the compositions that are being executed. One of them that is
entered again does not return. -/
def watched (server : RunningServer App) :
    (depth : Nat) → (executing : List (String × String)) → Dispatcher App
  | 0, _ => fun _ _ => exhausted
  | depth + 1, executing => fun request agent state =>
      match enteredPair server state agent request with
      | none =>
          Dispatch.dispatchWith (watched server depth executing) server request agent
            state
      | some pair =>
          if pair ∈ executing then exhausted state
          else
            Dispatch.dispatchWith (watched server depth (pair :: executing)) server
              request agent state

theorem watched_succ (server : RunningServer App) (depth : Nat)
    (executing : List (String × String)) :
    watched server (depth + 1) executing = fun request agent state =>
      match enteredPair server state agent request with
      | none => Dispatch.dispatchWith (watched server depth executing) server request agent state
      | some pair =>
          if pair ∈ executing then exhausted state
          else
            Dispatch.dispatchWith (watched server depth (pair :: executing)) server request
              agent state := rfl

/-- The run returns, and enters no composition that is being executed. -/
structure NestsOnce (server : RunningServer App) (depth : Nat)
    (executing : List (String × String)) (request : Request) (agent : AgentDocument)
    (state : State App) : Prop where
  returns : (Dispatch.dispatch server depth request agent state).ending.Finished
  once : watched server depth executing request agent state =
    Dispatch.dispatch server depth request agent state

end Entering

/-! ## Requests that enter no composition -/

section Direct

variable {App : Type} [TextCase] [TextOf] [BodyCodec] [SchemaValidator] [Digest]
  [ContractCodec] [Tokens] [NumberText] [Clock]

/-- Outside syntheses and negotiations, the steps' dispatcher is asked for
compositions only. -/
theorem direct_of_notEntered {server : RunningServer App} {state : State App}
    {agent : AgentDocument} {request : Request}
    (outside : Wire.readSynthesisId request.headers = "")
    (closed : Rcns.parseAllowRcns request.headers = none)
    (notEntered : enteredPair server state agent request = none)
    (next other : Dispatcher App) :
    (Dispatch.dispatchWith next server request agent state).ending.Finished ∧
      Dispatch.dispatchWith other server request agent state =
        Dispatch.dispatchWith next server request agent state := by
  cases lifecycle : Gates.lifecycleGate (state.document agent)
      (upper request.method) with
  | some refusal =>
      rw [Dispatch.dispatchWith_refused lifecycle, Dispatch.dispatchWith_refused lifecycle]
      exact ⟨trivial, rfl⟩
  | none =>
      rw [Dispatch.dispatchWith_direct lifecycle outside,
        Dispatch.dispatchWith_direct lifecycle outside]
      unfold Dispatch.dispatchDirect
      rcases admitted : Gates.admitRequest server (state.document agent) request with
        refusal | admission
      · have refused : Obeys server ⟨fun _ => True, False⟩ (refuse refusal) :=
          Obeys.refuse refusal
        exact ⟨(quiet_of_follows (refused state)).returns, rfl⟩
      · have noComposition (spec : EndpointSpec) (recipe : String)
            (plan : SynthesisPlan) (context : EndpointContext)
            (target : admission.target =
              .endpoint (.composition spec recipe plan) context) : False := by
          have entered := enteredPair_eq_some_iff.mpr ⟨plan, context, lifecycle,
            outside, admission, spec, recipe, admitted, target, rfl⟩
          rw [notEntered] at entered
          cases entered
        have closedNow : Rcns.parseAllowRcns admission.request.headers = none := by
          rw [(Gates.admit_ok.mp admitted).headers]
          exact closed
        constructor
        · have serves : FollowsFrom (Step server ⟨fun _ => True, False⟩) False state
              (Dispatch.serve next server (state.document agent) request admission) := by
            refine Obeys.serve trivial (Obeys.document_document state agent) lifecycle
              outside admitted (fun spec recipe plan context target _ => ?_)
              fun _ optimistic => ?_
            · exact (noComposition spec recipe plan context target).elim
            · rw [closedNow] at optimistic
              cases optimistic
          exact (quiet_of_follows serves).returns
        · show Dispatch.serve other server (state.document agent) request admission
              state = Dispatch.serve next server (state.document agent) request
              admission state
          unfold Dispatch.serve
          rcases target : admission.target with ⟨handler, context⟩ | handler | _
          · cases handler with
            | function answer => rfl
            | composition spec recipe plan =>
                exact (noComposition spec recipe plan context target).elim
          · rfl
          · have noRcns (dispatcher : Dispatcher App) :
                Rcns.tryRcns dispatcher server admission.request (state.document agent)
                  admission.method admission.path = result none := by
              unfold Rcns.tryRcns
              rw [closedNow]
              cases server.rcns.enabled <;> rfl
            simp only [noRcns]

end Direct

/-! ## Steps of compositions -/

section Steps

variable {App : Type} [TextCase] [TextOf] [BodyCodec]

omit [TextOf] in
theorem header_compositionRequest {name : String} (ascii : Text.isAscii name)
    (other : ∀ key ∈ compositionHeaderNames,
      Text.isAscii key = true ∧ Text.asciiLower key ≠ Text.asciiLower name)
    (context : EndpointContext) :
    Wire.header (compositionRequest context).headers name = "" := by
  have none : (compositionRequest context).headers.matching (Wire.named name) = [] := by
    apply Dict.matching_eq_nil
    intro key held
    rcases other key (keys_compositionHeaders context key held) with
      ⟨keyAscii, different⟩
    exact Wire.named_disjoint keyAscii ascii different (Wire.named_self key)
  have shown := Request.header_eq_spellings (compositionRequest context) name
  rw [shown, Request.spellings, none]
  rfl

omit [TextOf] in
theorem outside_compositionStep (context : EndpointContext) (methodName : String)
    (params : List (String × Json)) :
    Wire.readSynthesisId (Execution.buildStepRequest (compositionRequest context)
      methodName params).headers = "" := by
  rw [Execution.readSynthesisId_buildStepRequest]
  exact header_compositionRequest (by decide) (by decide) context

omit [TextOf] in
theorem closed_compositionStep (context : EndpointContext) (methodName : String)
    (params : List (String × Json)) :
    Rcns.parseAllowRcns (Execution.buildStepRequest (compositionRequest context)
      methodName params).headers = none := by
  have absent : Wire.header (Execution.buildStepRequest (compositionRequest context)
      methodName params).headers "Allow-RCNS" = "" := by
    rw [Execution.header_buildStepRequest]
    · exact header_compositionRequest (by decide) (by decide) context
    · intro key matched equal
      simp only [Wire.named, decide_eq_true_eq] at matched
      rw [matched, TextCase.lower_ascii _ (by decide)] at equal
      exact absurd equal (by decide)
    · exact Wire.named_disjoint (by decide) (by decide) (by decide)
        (Wire.named_self "Content-Type")
  unfold Rcns.parseAllowRcns
  rw [absent]
  have blank : lower (Text.strip "") = "" := by
    rw [TextCase.lower_ascii _ (by decide)]
    decide
  rw [blank]
  rfl

omit [TextCase] [TextOf] [BodyCodec] in
theorem finished_andThen {computation : Serving App Value}
    {next : Value → Serving App Result} {state : State App}
    (first : (computation state).ending.Finished)
    (second : ∀ value state, (next value state).ending.Finished) :
    (andThen computation next state).ending.Finished := by
  cases ended : (computation state).ending with
  | value value =>
      rw [andThen_value ended]
      exact second value _
  | raised => simp only [andThen, ended, Ending.Finished]
  | unfinished =>
      rw [ended] at first
      exact first.elim

omit [TextCase] [TextOf] [BodyCodec] in
theorem finished_recover {computation : Serving App Value} {state : State App}
    (returns : (computation state).ending.Finished) (caught : Value) :
    (recover computation caught state).ending.Finished := by
  cases ended : (computation state).ending with
  | value value => simp only [recover, ended, Ending.Finished]
  | raised => simp only [recover, ended, Ending.Finished]
  | unfinished =>
      rw [ended] at returns
      exact returns.elim

variable [Digest] [ContractCodec] [Tokens]

theorem runSteps_finished {next : Dispatcher App} {original : Request}
    {steps : List CompositionStep} {agent : AgentDocument}
    (returns : ∀ step ∈ steps, ∀ params state,
      (next (Execution.buildStepRequest original step.methodName params) agent
        state).ending.Finished)
    (plan : SynthesisPlan) (id : String) (index : Nat)
    (captured : List (String × Json)) (records : List Execution.StepRecord)
    (state : State App) :
    (runSteps next plan id original agent index captured records steps
      state).ending.Finished := by
  induction steps generalizing index captured records state with
  | nil => trivial
  | cons step rest induction =>
      cases resolution : Execution.resolveParameters (Execution.requestParams original)
          captured step.parameterSource [] with
      | error name =>
          rw [runSteps_unresolved resolution]
          trivial
      | ok params =>
          rw [runSteps_resolved resolution]
          refine finished_andThen ?_ fun _ state => ?_
          · exact trivial
          refine finished_andThen (returns step List.mem_cons_self params state)
            fun response state => ?_
          split
          · exact induction (fun step member => returns step
              (List.mem_cons_of_mem _ member)) _ _ _ state
          · trivial

variable [SchemaValidator]

theorem serveComposition_finished {next : Dispatcher App} {plan : SynthesisPlan}
    {context : EndpointContext}
    (returns : ∀ step ∈ plan.steps, ∀ params agent state,
      (next (Execution.buildStepRequest (compositionRequest context) step.methodName
        params) agent state).ending.Finished)
    (spec : EndpointSpec) (recipe : String) (state : State App) :
    (serveComposition next spec recipe plan context state).ending.Finished := by
  unfold serveComposition
  rw [andThen_read]
  cases state.agents.lookup context.agentId with
  | none => exact trivial
  | some agent =>
      apply finished_recover
      refine finished_andThen ?_ fun response state => ?_
      · refine finished_andThen ?_ fun _ state => ?_
        · exact trivial
        · exact runSteps_finished (fun step member params => returns step member params
            agent) plan "" 0 [] [] state
      · exact trivial

theorem serveComposition_agree {next other : Dispatcher App} {plan : SynthesisPlan}
    {context : EndpointContext}
    (agree : ∀ step ∈ plan.steps, ∀ params agent,
      next (Execution.buildStepRequest (compositionRequest context) step.methodName
          params) agent =
        other (Execution.buildStepRequest (compositionRequest context) step.methodName
          params) agent) (spec : EndpointSpec) (recipe : String) :
    serveComposition next spec recipe plan context =
      serveComposition other spec recipe plan context := by
  have same (agent : AgentDocument) :
      executePlan next plan "" (compositionRequest context) agent =
        executePlan other plan "" (compositionRequest context) agent :=
    executePlan_congr (fun step member params => agree step member params agent) ""
  unfold serveComposition
  simp only [same]

end Steps

/-! ## Requests that enter a composition -/

section Nesting

variable {App : Type} [TextCase] [TextOf] [BodyCodec] [SchemaValidator] [Digest]
  [ContractCodec] [Tokens] [NumberText] [Clock] {server : RunningServer App}

/-- Whatever dispatcher the steps are sent to, the handler is called with the
composition's context. -/
theorem dispatchWith_entered {state : State App} {agent : AgentDocument}
    {request : Request} {pair : String × String} {plan : SynthesisPlan}
    {context : EndpointContext}
    (enters : Enters server state agent request pair plan context) :
    ∃ call spec recipe, ∀ next : Dispatcher App,
      Dispatch.dispatchWith next server request agent state =
        andThen (emit (.called call))
          (fun _ => serveComposition next spec recipe plan context) state := by
  rcases enters.admitted with ⟨admission, spec, recipe, admitted, reached, _⟩
  refine ⟨⟨state.document agent, request, admission⟩, spec, recipe, fun next => ?_⟩
  rw [Dispatch.dispatchWith_direct enters.lifecycle enters.outside]
  unfold Dispatch.dispatchDirect
  rw [admitted]
  show Dispatch.serve next server (state.document agent) request admission state = _
  unfold Dispatch.serve
  rw [reached]
  rfl

theorem nestsOnce_of_steps {state : State App} {agent : AgentDocument}
    {request : Request} {pair : String × String} {plan : SynthesisPlan}
    {context : EndpointContext} {depth : Nat} {executing : List (String × String)}
    (enters : Enters server state agent request pair plan context)
    (fresh : pair ∉ executing)
    (steps : ∀ step ∈ plan.steps, ∀ params agent state,
      NestsOnce server depth (pair :: executing) (Execution.buildStepRequest
        (compositionRequest context) step.methodName params) agent state) :
    NestsOnce server (depth + 1) executing request agent state := by
  rcases dispatchWith_entered enters with ⟨call, spec, recipe, dispatched⟩
  have entered : enteredPair server state agent request = some pair :=
    enteredPair_eq_some_iff.mpr ⟨plan, context, enters⟩
  have agree := serveComposition_agree (fun step member params agent =>
    funext fun state => (steps step member params agent state).once) spec recipe
  constructor
  · rw [Dispatch.dispatch_succ, dispatched]
    refine finished_andThen ?_ fun _ state => ?_
    · exact trivial
    exact serveComposition_finished (fun step member params agent state =>
      (steps step member params agent state).returns) spec recipe state
  · rw [watched_succ]
    simp only [entered, fresh, if_false]
    rw [Dispatch.dispatch_succ, dispatched, dispatched, agree]

/-- Where no composition leads back to itself, the nesting ends with the
compositions: all that are being executed lead to the one that is entered. -/
theorem nestsOnce_of_led (acyclic : server.Acyclic) {depth : Nat}
    {executing : List (String × String)} {request : Request}
    (deep : server.endpoints.count < depth + executing.length)
    (nodup : executing.Nodup)
    (bound : ∀ pair ∈ executing, (server.compositionAt pair).isSome)
    (outside : Wire.readSynthesisId request.headers = "")
    (closed : Rcns.parseAllowRcns request.headers = none)
    (led : (server.compositionAt (server.registryPair request)).isSome →
      ∀ pair ∈ executing,
        Relation.TransGen server.Leads pair (server.registryPair request))
    (agent : AgentDocument) (state : State App) :
    NestsOnce server depth executing request agent state := by
  induction depth generalizing executing request agent state with
  | zero =>
      have short := Server.length_le_count nodup bound
      omega
  | succ depth induction =>
      cases entered : enteredPair server state agent request with
      | none =>
          have direct := direct_of_notEntered outside closed entered
            (Dispatch.dispatch server depth) (watched server depth executing)
          refine ⟨direct.1, ?_⟩
          rw [watched_succ]
          simp only [entered]
          exact direct.2
      | some pair =>
          rcases enteredPair_eq_some_iff.mp entered with ⟨plan, context, enters⟩
          rcases enters.bound with ⟨named, held, _⟩
          subst named
          have isBound : (server.compositionAt (server.registryPair request)).isSome :=
            Option.isSome_iff_exists.mpr ⟨plan, held⟩
          have fresh : server.registryPair request ∉ executing := fun member =>
            acyclic _ (led isBound _ member)
          refine nestsOnce_of_steps enters fresh fun step member params agent state => ?_
          have leads (target : (server.compositionAt (server.stepPair
              step.methodName)).isSome) :
              server.Leads (server.registryPair request)
                (server.stepPair step.methodName) :=
            ⟨plan, held, ⟨step, member, rfl⟩, target⟩
          apply induction
          · simp only [List.length_cons]
            omega
          · exact List.nodup_cons.mpr ⟨fresh, nodup⟩
          · intro other within
            rcases List.mem_cons.mp within with rfl | within
            · exact isBound
            · exact bound other within
          · exact outside_compositionStep context step.methodName params
          · exact closed_compositionStep context step.methodName params
          · intro target other within
            rw [Server.registryPair_buildStepRequest] at target ⊢
            rcases List.mem_cons.mp within with rfl | within
            · exact .single (leads target)
            · exact (led isBound other within).tail (leads target)

/-! ## Compositions that lead round -/

omit [TextCase] [TextOf] [BodyCodec] [SchemaValidator] [Digest] [ContractCodec]
  [Tokens] [NumberText] [Clock] in
theorem unfinished_andThen {computation : Serving App Value}
    {next : Value → Serving App Result} {state : State App}
    (first : (computation state).ending = .unfinished) :
    (andThen computation next state).ending = .unfinished := by
  simp only [andThen, first]

omit [TextCase] [TextOf] [BodyCodec] [SchemaValidator] [Digest] [ContractCodec]
  [Tokens] [NumberText] [Clock] in
theorem unfinished_recover {computation : Serving App Value} {state : State App}
    (endless : (computation state).ending = .unfinished) (caught : Value) :
    (recover computation caught state).ending = .unfinished := by
  simp only [recover, endless]

omit [NumberText] [Clock] in
theorem serveComposition_unfinished {next : Dispatcher App} {plan : SynthesisPlan}
    {context : EndpointContext} {state : State App} {agent : AgentDocument}
    {params : List (String × Json)}
    (known : state.agents.lookup context.agentId = some agent)
    (resolved : Execution.resolveParameters
      (Execution.requestParams (compositionRequest context)) []
      plan.firstStep.parameterSource [] = .ok params)
    (endless : (next (Execution.buildStepRequest (compositionRequest context)
      plan.firstStep.methodName params) agent state).ending = .unfinished)
    (spec : EndpointSpec) (recipe : String) :
    (serveComposition next spec recipe plan context state).ending = .unfinished := by
  have steps : plan.steps = plan.firstStep :: plan.steps.tail :=
    (List.cons_head_tail plan.steps_ne).symm
  have first : (runSteps next plan "" (compositionRequest context) agent 0 [] []
      plan.steps state).ending = .unfinished := by
    rw [steps, runSteps_resolved resolved, emit_andThen]
    exact unfinished_andThen endless
  unfold serveComposition
  rw [andThen_read]
  simp only [known]
  apply unfinished_recover
  apply unfinished_andThen
  unfold executePlan
  rw [emit_andThen]
  exact first

/-- The agent is known, and the composition that a request of the loop enters has a
first step whose request is in the loop again. -/
structure Loops (server : RunningServer App) (state : State App)
    (agent : AgentDocument) (loop : Request → Prop) : Prop where
  known : state.agents.lookup agent.agentId = some agent
  again : ∀ request, loop request → ∃ pair plan context params,
    Enters server state agent request pair plan context ∧
      Execution.resolveParameters
        (Execution.requestParams (compositionRequest context)) []
        plan.firstStep.parameterSource [] = .ok params ∧
      loop (Execution.buildStepRequest (compositionRequest context)
        plan.firstStep.methodName params)

theorem unfinished_of_loops {state : State App} {agent : AgentDocument}
    {loop : Request → Prop} (loops : Loops server state agent loop)
    {request : Request} (within : loop request) (depth : Nat) :
    (Dispatch.dispatch server depth request agent state).ending = .unfinished := by
  induction depth generalizing request with
  | zero => rfl
  | succ depth induction =>
      rcases loops.again request within with
        ⟨pair, plan, context, params, enters, resolved, again⟩
      rcases dispatchWith_entered enters with ⟨call, spec, recipe, dispatched⟩
      rcases enters.bound with ⟨_, _, seen, input, built⟩
      have sameAgent : context.agentId = agent.agentId := by
        rw [built]
        exact State.agentId_document state agent
      have known : state.agents.lookup context.agentId = some agent := by
        rw [sameAgent]
        exact loops.known
      rw [Dispatch.dispatch_succ, dispatched, emit_andThen]
      exact serveComposition_unfinished known resolved (induction again) spec recipe

/-- Where no composition leads back to itself, every request that enters one
returns, nested no deeper than there are endpoints, and enters none of them again
while it is being executed. Where the first steps of compositions lead round, it
never returns. -/
theorem composition_terminates (server : RunningServer App) :
    (server.Acyclic →
      ∀ request agent state pair plan context,
        Enters server state agent request pair plan context →
        ∀ depth, server.endpoints.count < depth →
          NestsOnce server depth [] request agent state) ∧
    (∀ state agent loop, Loops server state agent loop →
      ∀ request, loop request → ∀ depth,
        (Dispatch.dispatch server depth request agent state).ending = .unfinished) := by
  constructor
  · intro acyclic request agent state pair plan context enters depth deep
    rcases Nat.exists_eq_add_one_of_ne_zero (Nat.ne_of_gt (Nat.zero_lt_of_lt deep)) with
      ⟨steps, rfl⟩
    rcases enters.bound with ⟨_, held, _⟩
    apply nestsOnce_of_steps enters List.not_mem_nil
    intro step member params agent state
    have isBound : (server.compositionAt pair).isSome :=
      Option.isSome_iff_exists.mpr ⟨plan, held⟩
    apply nestsOnce_of_led acyclic
    · simp only [List.length_cons, List.length_nil]
      omega
    · exact List.nodup_singleton pair
    · intro other within
      rw [List.mem_singleton.mp within]
      exact isBound
    · exact outside_compositionStep context step.methodName params
    · exact closed_compositionStep context step.methodName params
    · intro target other within
      rw [Server.registryPair_buildStepRequest] at target ⊢
      rw [List.mem_singleton.mp within]
      exact .single ⟨plan, held, ⟨step, member, rfl⟩, target⟩
  · intro state agent loop loops request within depth
    exact unfinished_of_loops loops within depth

end Nesting

end Agtp

namespace Agtp.CompositionSamples

open scoped Plain PlainServing

theorem bookSteps_ne : [(⟨"BOOK", [], none⟩ : CompositionStep)] ≠ [] := List.cons_ne_nil _ _

def bookAgain : Recipe where
  name := "again"
  description := ""
  steps := [⟨"BOOK", [], none⟩]
  steps_ne := bookSteps_ne
  outputAggregation := .last

def bookAt (path : String) : EndpointSpec :=
  ⟨"BOOK", path, [], ["composition_failed"], []⟩

theorem upper_book : upper "BOOK" = "BOOK" := by
  decide +kernel

theorem approved_plain_book : agtpCatalog.isApprovedVerb "BOOK" = true := by
  decide +kernel

/-- `BOOK` is a method, and at the path it is a composition that calls `BOOK`. -/
def composedServer (path : String)
    (grammar : PathGrammar.validatePath agtpCatalog path = .ok ()) :
    RunningServer Unit :=
  { Server.bare (EndpointHandler Unit) (MethodHandler Unit) with
    methods := .single ⟨"BOOK", [], [],
        some (.other fun _ _ state => (some ⟨200, "OK", [], .null⟩, state))⟩
      upper_book approved_plain_book
    endpoints := .single (bookAt path) (some (.composition (bookAt path) "again"
        (HandlerResolution.recipePlan (bookAt path) bookAgain)))
      approved_book
      grammar }

def guestState : State Unit := .boot (.sole guest) 0 ()

theorem resolved_composedServer (path : String)
    (grammar : PathGrammar.validatePath agtpCatalog path = .ok ()) :
    HandlerResolution.Resolved (some [bookAgain]) (composedServer path grammar) := by
  intro entry member spec recipe plan handler
  have sole := List.mem_singleton.mp member
  subst sole
  cases handler
  rfl

structure Books (path : String) (request : Request) : Prop where
  method : request.method = "BOOK"
  path : request.requestPath = path
  body : request.body = []
  query : request.query = .empty
  scopes : Wire.header request.headers "Authority-Scope" = ""
  outside : Wire.readSynthesisId request.headers = ""

theorem selectTarget_book {path : String}
    {grammar : PathGrammar.validatePath agtpCatalog path = .ok ()} {request : Request}
    (books : Books path request) (agent : AgentDocument) :
    Gates.selectTarget (composedServer path grammar) agent request "BOOK" path =
      .ok (.endpoint (.composition (bookAt path) "again"
        (HandlerResolution.recipePlan (bookAt path) bookAgain))
        (buildEndpointContext request [] agent)) := by
  have found : (composedServer path grammar).endpoints.lookup "BOOK" path =
      some (bookAt path, some (.composition (bookAt path) "again"
        (HandlerResolution.recipePlan (bookAt path) bookAgain))) := by
    simp [EndpointRegistry.lookup, composedServer, EndpointRegistry.single, Dict.get?,
      bookAt, upper_book]
  have input : endpointInput (bookAt path) request = .ok [] := by
    unfold endpointInput parseBody
    rw [if_pos books.body, books.query]
    rfl
  have scopes : checkRequiredScopes (bookAt path) agent = none := by
    have none : (bookAt path).requiredScopes.dedup = [] := rfl
    simp [checkRequiredScopes, none]
  unfold Gates.selectTarget
  simp only [found, admitEndpoint, input, scopes]
  rfl

theorem enters_of_books {path : String}
    {grammar : PathGrammar.validatePath agtpCatalog path = .ok ()} {request : Request}
    (books : Books path request) :
    ∃ context, Enters (composedServer path grammar) guestState guest request
      ("BOOK", path) (HandlerResolution.recipePlan (bookAt path) bookAgain) context := by
  have verb : upper request.method = "BOOK" := by
    rw [books.method, upper_book]
  have noAlias : Gates.aliasTarget (composedServer path grammar).methodsPolicy
      (upper request.method) = none := rfl
  have aliased : Gates.aliasedMethod (composedServer path grammar).methodsPolicy
      request = "BOOK" := by
    unfold Gates.aliasedMethod
    rw [noAlias, verb]
    rfl
  have applied : Gates.applyAlias (composedServer path grammar).methodsPolicy request =
      request := by
    unfold Gates.applyAlias
    rw [noAlias]
  have approved : agtpCatalog.isApprovedVerb "BOOK" = true := by
    decide +kernel
  refine ⟨buildEndpointContext request [] guest, ?_, books.outside,
    ⟨request, "BOOK", path, _⟩, bookAt path, "again", Gates.admit_ok.mpr ?_, rfl, ?_⟩
  · rw [verb]
    decide +kernel
  · constructor
    · rw [Gates.scopeGate_none_iff, books.scopes]
      intro scope member
      cases member
    · rw [applied]
      rfl
    · rw [aliased]
      simp [Gates.catalogGate, Gates.catalogAdmits, composedServer, Server.bare, approved]
    · unfold Gates.pathGate
      rw [books.path]
      simp only [composedServer, Server.bare, grammar]
    · rw [aliased]
      rfl
    · rw [aliased, books.path]
      rfl
    · exact selectTarget_book books guest
  · show (upper "BOOK", path) = ("BOOK", path)
    rw [upper_book]

theorem books_step (context : EndpointContext) :
    Books "/" (Execution.buildStepRequest (Serving.compositionRequest context) "BOOK"
      []) where
  method := rfl
  path := rfl
  body := rfl
  query := rfl
  scopes := by
    rw [Execution.header_buildStepRequest]
    · exact header_compositionRequest (by decide) (by decide) context
    · intro key matched
      exact (kept_of_authorityHeader (by decide)).1 key matched
    · exact (kept_of_authorityHeader (by decide)).2
  outside := outside_compositionStep context "BOOK" []

theorem root_grammar : PathGrammar.validatePath agtpCatalog "/" = .ok () := by
  decide +kernel

/-- The recipe resolves at the root path, where its step comes back to it. -/
theorem root_composition_reenters :
    HandlerResolution.Resolved (some [bookAgain]) (composedServer "/" root_grammar) ∧
      ∀ depth,
        (Dispatch.dispatch (composedServer "/" root_grammar) depth (.toRoot "BOOK" [])
          guest guestState).ending = .unfinished ∧
        ¬NestsOnce (composedServer "/" root_grammar) depth [] (.toRoot "BOOK" []) guest
          guestState := by
  refine ⟨resolved_composedServer "/" root_grammar, fun depth => ?_⟩
  have loops : Loops (composedServer "/" root_grammar) guestState guest (Books "/") := by
    refine ⟨rfl, fun request books => ?_⟩
    rcases enters_of_books books with ⟨context, enters⟩
    exact ⟨_, _, context, [], enters, rfl, books_step context⟩
  have endless := unfinished_of_loops loops
    (show Books "/" (.toRoot "BOOK" []) from
      ⟨rfl, rfl, rfl, rfl, by decide +kernel, by decide +kernel⟩) depth
  refine ⟨endless, fun nests => ?_⟩
  have returns := nests.returns
  rw [endless] at returns
  exact returns

theorem room_grammar : PathGrammar.validatePath agtpCatalog "/room" = .ok () := by
  decide +kernel

theorem compositionAt_composedServer {path : String}
    {grammar : PathGrammar.validatePath agtpCatalog path = .ok ()}
    {pair : String × String} {plan : SynthesisPlan}
    (bound : (composedServer path grammar).compositionAt pair = some plan) :
    pair = ("BOOK", path) ∧
      plan = HandlerResolution.recipePlan (bookAt path) bookAgain := by
  have key : (composedServer path grammar).endpoints.entries.keys = [("BOOK", path)] := by
    simp [composedServer, EndpointRegistry.single, Dict.keys, bookAt, upper_book]
  have member := Server.mem_keys_of_compositionAt bound
  rw [key] at member
  have named := List.mem_singleton.mp member
  subst named
  refine ⟨rfl, ?_⟩
  simp [Server.compositionAt, composedServer, EndpointRegistry.single, Dict.get?, bookAt,
    upper_book] at bound
  exact bound.symm

theorem acyclic_roomServer : (composedServer "/room" room_grammar).Acyclic := by
  have noLead (pair other : String × String) :
      ¬(composedServer "/room" room_grammar).Leads pair other := by
    intro ⟨plan, held, ⟨step, member, target⟩, bound⟩
    rcases Option.isSome_iff_exists.mp bound with ⟨otherPlan, otherHeld⟩
    have named := (compositionAt_composedServer otherHeld).1
    rw [(compositionAt_composedServer held).2] at member
    rw [List.mem_singleton.mp member, named] at target
    have path : "/" = "/room" := congrArg Prod.snd target
    exact absurd path (by decide)
  intro pair cycle
  cases cycle with
  | single leads => exact noLead _ _ leads
  | tail _ leads => exact noLead _ _ leads

theorem room_composition_terminates :
    NestsOnce (composedServer "/room" room_grammar) 2 []
      { Request.toRoot "BOOK" [] with path := "/room" } guest guestState := by
  have books : Books "/room" { Request.toRoot "BOOK" [] with path := "/room" } :=
    ⟨rfl, by decide, rfl, rfl, by decide +kernel, by decide +kernel⟩
  rcases enters_of_books books with ⟨context, enters⟩
  exact (composition_terminates (composedServer "/room" room_grammar)).1
    acyclic_roomServer _ _ _ _ _ _ enters 2 (by decide)

end Agtp.CompositionSamples
