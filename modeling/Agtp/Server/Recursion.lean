import Agtp.Server.DispatchLaws

/-! # Executions of a synthesis

The steps of a plan are dispatched with the headers of the original request, without
`Synthesis-Id`. -/

namespace Agtp

open Computation Serving

/-! ## Events of plans -/

section Events

variable {App : Type}

def Event.isExecution (id : String) : Event App → Bool
  | .executed other => other = id
  | _ => false

def Event.isStep (id : String) (index : Nat) : Event App → Bool
  | .stepped other place => other = id && place = index
  | _ => false

def Event.ofPlan : Event App → Bool
  | .executed _ | .stepped _ _ => true
  | _ => false

/-- A run that returns without having executed a plan. -/
structure Quiet (run : Run (State App) (Event App) Response) : Prop where
  returns : run.ending.Finished
  quiet : ∀ event ∈ run.log, event.ofPlan = false

theorem countP_isExecution_quiet {log : List (Event App)}
    (quiet : ∀ event ∈ log, event.ofPlan = false) (id : String) :
    log.countP (Event.isExecution id) = 0 := by
  rw [List.countP_eq_zero]
  intro event member
  have notPlan := quiet event member
  cases event <;> simp_all [Event.isExecution, Event.ofPlan]

theorem countP_isStep_quiet {log : List (Event App)}
    (quiet : ∀ event ∈ log, event.ofPlan = false) (id : String) (index : Nat) :
    log.countP (Event.isStep id index) = 0 := by
  rw [List.countP_eq_zero]
  intro event member
  have notPlan := quiet event member
  cases event <;> simp_all [Event.isStep, Event.ofPlan]

/-- The run returns, and executes the synthesis and each of its steps at most
once. -/
structure RunsOnce (id : String) (run : Run (State App) (Event App) Response) :
    Prop where
  returns : run.ending.Finished
  executed : run.log.countP (Event.isExecution id) ≤ 1
  stepped : ∀ index, run.log.countP (Event.isStep id index) ≤ 1

theorem Quiet.runsOnce {run : Run (State App) (Event App) Response}
    (quiet : Quiet run) (id : String) : RunsOnce id run where
  returns := quiet.returns
  executed := by rw [countP_isExecution_quiet quiet.quiet]; exact Nat.zero_le 1
  stepped index := by rw [countP_isStep_quiet quiet.quiet]; exact Nat.zero_le 1

structure RunsFrom (id : String) (index : Nat)
    (run : Run (State App) (Event App) Response) : Prop where
  returns : run.ending.Finished
  executed : run.log.countP (Event.isExecution id) = 0
  stepped : ∀ place, run.log.countP (Event.isStep id place) ≤
    if index ≤ place then 1 else 0

theorem Quiet.runsFrom {run : Run (State App) (Event App) Response}
    (quiet : Quiet run) (id : String) (index : Nat) : RunsFrom id index run where
  returns := quiet.returns
  executed := countP_isExecution_quiet quiet.quiet id
  stepped place := by rw [countP_isStep_quiet quiet.quiet]; exact Nat.zero_le _

theorem RunsFrom.stepped_cons {run : Run (State App) (Event App) Response}
    {id : String} {index : Nat} (later : RunsFrom id (index + 1) run) :
    RunsFrom id index ⟨run.ending, run.state, .stepped id index :: run.log⟩ where
  returns := later.returns
  executed := by
    rw [List.countP_cons, later.executed]
    rfl
  stepped place := by
    have bound := later.stepped place
    rw [List.countP_cons]
    by_cases here : index = place
    · subst here
      rw [if_neg (Nat.not_succ_le_self index)] at bound
      simpa [Event.isStep] using bound
    · simp only [Event.isStep, here, decide_false, Bool.and_false,
        Bool.false_eq_true, if_false, Nat.add_zero]
      refine bound.trans ?_
      split <;> split <;> omega

end Events

/-! ## Steps that execute no plan -/

section Steps

variable {App : Type} [TextCase] [TextOf] [BodyCodec] [SchemaValidator] [Digest]
  [ContractCodec] [Tokens]

/-- Whoever sends the request, it is handed neither to a composition nor to an
optimistic negotiation. -/
def StaysDirect (server : RunningServer App) (request : Request) : Prop :=
  ∀ agent admission, Gates.admitRequest server agent request = .ok admission →
    (∀ spec recipe plan context,
      admission.target ≠ .endpoint (.composition spec recipe plan) context) ∧
    (admission.target = .negotiate →
      Rcns.parseAllowRcns admission.request.headers ≠ some .optimistic)

omit [Digest] [ContractCodec] [Tokens] in
theorem staysDirect_of_noEndpoints {server : RunningServer App}
    (none : server.endpoints.entries.entries = []) (request : Request) :
    StaysDirect server request := by
  intro agent admission admitted
  have selected := (Gates.admit_ok.mp admitted).target
  have unbound (method path : String) : server.endpoints.lookup method path =
      Option.none := by
    unfold EndpointRegistry.lookup Dict.get?
    rw [none]
    rfl
  constructor
  · intro spec recipe plan context target
    rw [target] at selected
    rcases Gates.endpoint_of_selectTarget selected with ⟨entry, found, _⟩
    rw [unbound] at found
    cases found
  · intro target
    rw [target] at selected
    unfold Gates.selectTarget Gates.embeddedTarget EndpointRegistry.count at selected
    rw [unbound, none] at selected
    simp only [List.length_nil, true_or, if_true] at selected
    split at selected
    · cases selected
    · split at selected <;> cases selected

theorem quiet_of_follows {server : RunningServer App} {state : State App}
    {computation : Serving App Response}
    (follows : FollowsFrom (Step server ⟨fun _ => True, False⟩) False state
      computation) : Quiet (computation state) where
  returns := follows.returns.resolve_left id
  quiet event member := by
    rcases List.append_of_mem member with ⟨before, after, split⟩
    have trace := follows.trace
    rw [split] at trace
    have permitted := permitted_of_trace trace
    cases event with
    | executed id => exact permitted.elim
    | stepped id index => exact permitted.elim
    | _ => rfl

omit [TextCase] [TextOf] [BodyCodec] [SchemaValidator] [Digest] [ContractCodec]
  [Tokens] in
theorem quiet_result (response : Response) (state : State App) :
    Quiet ((result response : Serving App Response) state) :=
  ⟨trivial, fun _ member => absurd member List.not_mem_nil⟩

variable [NumberText] [Clock]

theorem quiet_dispatch {server : RunningServer App} {request : Request}
    (outside : Wire.readSynthesisId request.headers = "")
    (direct : StaysDirect server request) (depth : Nat) (agent : AgentDocument)
    (state : State App) :
    Quiet (Dispatch.dispatch server (depth + 1) request agent state) := by
  rw [Dispatch.dispatch_succ]
  cases lifecycle :
      Gates.lifecycleGate (state.document agent) (upper request.method) with
  | some refusal =>
      rw [Dispatch.dispatchWith_refused lifecycle]
      exact quiet_result _ state
  | none =>
      rw [Dispatch.dispatchWith_direct lifecycle outside]
      unfold Dispatch.dispatchDirect
      rcases admitted : Gates.admitRequest server (state.document agent) request with
        refusal | admission
      · have refused : Obeys server ⟨fun _ => True, False⟩ (refuse refusal) :=
          Obeys.refuse refusal
        exact quiet_of_follows (refused state)
      · have stays := direct _ _ admitted
        apply quiet_of_follows
        exact Obeys.serve trivial (Obeys.document_document state agent) lifecycle
          outside admitted
          (fun _ _ _ _ target _ => absurd target (stays.1 _ _ _ _))
          fun target allowed => absurd allowed (stays.2 target)

end Steps

/-! ## Runs of a plan -/

section Plans

variable {App : Type} [TextCase] [TextOf] [BodyCodec] [Digest] [ContractCodec]
  [Tokens]

omit [TextCase] [TextOf] [BodyCodec] [Digest] [ContractCodec] [Tokens] in
theorem runsFrom_andThen {computation : Serving App Response}
    {next : Response → Serving App Response} {state : State App} {id : String}
    {index : Nat} (quiet : Quiet (computation state))
    (rest : ∀ response state, RunsFrom id index (next response state)) :
    RunsFrom id index (andThen computation next state) := by
  cases ended : (computation state).ending with
  | value response =>
      have later := rest response (computation state).state
      rw [andThen_value ended]
      refine ⟨later.returns, ?_, fun place => ?_⟩
      · rw [List.countP_append, countP_isExecution_quiet quiet.quiet, later.executed]
      · rw [List.countP_append, countP_isStep_quiet quiet.quiet, Nat.zero_add]
        exact later.stepped place
  | raised =>
      have same : andThen computation next state =
          ⟨.raised, (computation state).state, (computation state).log⟩ := by
        simp [andThen, ended]
      rw [same]
      have stopped : Quiet (⟨.raised, (computation state).state,
          (computation state).log⟩ : Run (State App) (Event App) Response) :=
        ⟨trivial, quiet.quiet⟩
      exact stopped.runsFrom id index
  | unfinished =>
      have returns := quiet.returns
      rw [ended] at returns
      exact returns.elim

theorem runSteps_runsFrom {next : Dispatcher App} {original : Request}
    {steps : List CompositionStep}
    (quiet : ∀ step ∈ steps, ∀ params agent state, Quiet
      (next (Execution.buildStepRequest original step.methodName params) agent state))
    (plan : SynthesisPlan) (id : String) (agent : AgentDocument) (index : Nat)
    (captured : List (String × Json)) (records : List Execution.StepRecord)
    (state : State App) :
    RunsFrom id index
      (runSteps next plan id original agent index captured records steps state) := by
  induction steps generalizing index captured records state with
  | nil => exact (quiet_result _ state).runsFrom id index
  | cons step rest induction =>
      rcases resolution : Execution.resolveParameters
          (Execution.requestParams original) captured step.parameterSource [] with
        name | params
      · rw [runSteps_unresolved resolution]
        exact (quiet_result _ state).runsFrom id index
      · have stepQuiet := quiet step List.mem_cons_self params agent
        have restQuiet := fun later member =>
          quiet later (List.mem_cons_of_mem step member)
        rw [runSteps_resolved resolution, emit_andThen]
        have later : RunsFrom id (index + 1) _ := runsFrom_andThen
          (stepQuiet (state.after (.stepped id index))) fun response reached => by
            show RunsFrom id (index + 1) ((if response.status = 200 then
              runSteps next plan id original agent (index + 1)
                (capture step response.body captured)
                (records ++ [⟨step.methodName, response.status, response.body⟩]) rest
              else result (Execution.failureResponse plan id index step response
                captured (records ++ [⟨step.methodName, response.status, .null⟩])))
              reached)
            split
            · exact induction restQuiet _ _ _ _
            · exact (quiet_result _ reached).runsFrom id (index + 1)
        exact later.stepped_cons

theorem executePlan_runsOnce {next : Dispatcher App} {plan : SynthesisPlan}
    {id : String} {request : Request} {agent : AgentDocument} {state : State App}
    (steps : RunsFrom id 0
      (runSteps next plan id request agent 0 [] [] plan.steps state)) :
    RunsOnce id (executePlan next plan id request agent state) := by
  unfold executePlan
  rw [emit_andThen]
  refine ⟨steps.returns, ?_, fun index => ?_⟩
  · rw [List.countP_cons]
    have none : List.countP (Event.isExecution id) _ = 0 := steps.executed
    simp only [State.after, none]
    split <;> omega
  · rw [List.countP_cons]
    have atMost := steps.stepped index
    rw [if_pos (Nat.zero_le index)] at atMost
    simpa [Event.isStep, State.after] using atMost

end Plans

/-! ## Presented syntheses -/

section Presented

variable {App : Type} [TextCase] [TextOf] [BodyCodec] [Digest] [ContractCodec]
  [Tokens]

/-- What the dispatcher and the runtime ask before they dispatch the first step
of the plan, and what its own gate asks. -/
structure ReachesFirstStep (state : State App) (request : Request)
    (agent : AgentDocument) (id : String) (plan : SynthesisPlan) : Prop where
  wire : Gates.lifecycleGate (state.document agent) (upper request.method) = none
  owned : Dispatch.ownedBy state.runtime id agent.agentId = true
  resolved : ∃ params,
    Execution.resolveParameters [] [] plan.firstStep.parameterSource [] = .ok params
  step : Gates.lifecycleGate (state.document agent)
    (upper plan.firstStep.methodName) = none

/-- Beyond some depth the run of the request does not change any more, and
executes the synthesis and its steps at most once. -/
def Terminates [SchemaValidator] [NumberText] [Clock] (server : RunningServer App)
    (request : Request) (agent : AgentDocument) (state : State App) (id : String) :
    Prop :=
  ∃ bound, ∀ depth, bound ≤ depth →
    RunsOnce id (Dispatch.dispatch server depth request agent state)

variable [SchemaValidator] [NumberText] [Clock] {server : RunningServer App}
  {request : Request} {agent : AgentDocument} {state : State App} {id : String}
  {plan : SynthesisPlan}

/-- A request that presents an active synthesis of its agent executes the
plan. -/
theorem dispatch_executes
    (active : state.runtime.get state.now id = some plan)
    (presented : Wire.readSynthesisId request.headers = id) (present : id ≠ "")
    (wire : Gates.lifecycleGate (state.document agent) (upper request.method) = none)
    (owned : Dispatch.ownedBy state.runtime id agent.agentId = true) (depth : Nat) :
    Dispatch.dispatch server (depth + 1) request agent state =
      executePlan (Dispatch.dispatch server depth) plan id request
        (state.document agent) state := by
  have ownedNow : Dispatch.ownedBy state.runtime id
      (state.document agent).agentId = true := by
    rw [State.agentId_document]
    exact owned
  rw [Dispatch.dispatch_succ, Dispatch.dispatchWith_synthesis wire presented present]
  unfold Dispatch.dispatchSynthesis
  rw [andThen_value (congrArg Run.ending (getPlan_active active))]
  simp only [getPlan_active active, andThen_read, ownedNow, if_true, execute,
    List.nil_append]
  rw [andThen_value (congrArg Run.ending (getPlan_active active))]
  simp only [getPlan_active active, List.nil_append]

theorem dispatch_answers
    (active : state.runtime.get state.now id = some plan)
    (presented : Wire.readSynthesisId request.headers = id) (present : id ≠ "")
    (refused : ¬(Gates.lifecycleGate (state.document agent) (upper request.method) =
      none ∧ Dispatch.ownedBy state.runtime id agent.agentId = true)) (depth : Nat) :
    Quiet (Dispatch.dispatch server (depth + 1) request agent state) := by
  rw [Dispatch.dispatch_succ]
  cases wire : Gates.lifecycleGate (state.document agent) (upper request.method) with
  | some refusal =>
      rw [Dispatch.dispatchWith_refused wire]
      exact quiet_result _ state
  | none =>
      have foreign : Dispatch.ownedBy state.runtime id
          (state.document agent).agentId = false := by
        rw [State.agentId_document]
        simpa [wire] using refused
      rw [Dispatch.dispatchWith_synthesis wire presented present]
      unfold Dispatch.dispatchSynthesis
      rw [andThen_value (congrArg Run.ending (getPlan_active active))]
      simp only [getPlan_active active, andThen_read, foreign, Bool.false_eq_true,
        if_false, List.nil_append]
      exact quiet_result _ state

omit [TextCase] [TextOf] [BodyCodec] [Digest] [ContractCodec] [Tokens]
  [SchemaValidator] [NumberText] [Clock] in
/-- Whether the first step's parameters resolve does not depend on the
request. -/
theorem firstStep_resolves {params : List (String × Json)}
    (resolved : Execution.resolveParameters [] [] plan.firstStep.parameterSource [] =
      .ok params) (proposal : List (String × Json)) :
    ∃ others, Execution.resolveParameters proposal []
      plan.firstStep.parameterSource [] = .ok others := by
  rcases resolution : Execution.resolveParameters proposal []
      plan.firstStep.parameterSource [] with name | others
  · have failed : Execution.resolveParameters [] [] plan.firstStep.parameterSource [] =
        .error name := Execution.resolveParameters_error_congr resolution
    rw [resolved] at failed
    cases failed
  · exact ⟨others, rfl⟩

/-- A request that presents the synthesis as `Contract-Synthesized` and reaches
the first step does so again with the step's request, at every depth. -/
theorem reentry_unfinished
    (active : state.runtime.get state.now id = some plan) (present : id ≠ "")
    (presented : Wire.header request.headers "Contract-Synthesized" = id)
    (reaches : ReachesFirstStep state request agent id plan) (depth : Nat) :
    (Dispatch.dispatch server depth request agent state).ending = .unfinished := by
  induction depth generalizing request agent with
  | zero => rfl
  | succ depth induction =>
      have read : Wire.readSynthesisId request.headers = id := by
        unfold Wire.readSynthesisId Wire.headerOrLegacy
        rw [presented, if_pos present]
      rw [dispatch_executes active read present reaches.wire reaches.owned]
      rcases reaches.resolved with ⟨_, resolved⟩
      rcases firstStep_resolves resolved (Execution.requestParams request) with
        ⟨params, resolution⟩
      -- The step's request is in the same position as the request.
      have again : (Dispatch.dispatch server depth
          (Execution.buildStepRequest request plan.firstStep.methodName params)
          (state.document agent) state).ending = .unfinished := induction
        ((Execution.contractSynthesized_kept _ _ _).trans presented)
        { wire := by
            rw [Obeys.document_document]
            exact reaches.step
          owned := by
            rw [State.agentId_document]
            exact reaches.owned
          resolved := reaches.resolved
          step := by
            rw [Obeys.document_document]
            exact reaches.step }
      unfold executePlan
      rw [emit_andThen]
      have steps : plan.steps = plan.firstStep :: plan.steps.tail :=
        (List.cons_head_tail plan.steps_ne).symm
      rw [steps, runSteps_resolved resolution, emit_andThen]
      unfold andThen
      simp only [State.after, again]

theorem terminates_of_blocked
    (active : state.runtime.get state.now id = some plan)
    (presented : Wire.readSynthesisId request.headers = id) (present : id ≠ "")
    (blocked : ¬ReachesFirstStep state request agent id plan) (depth : Nat) :
    RunsOnce id (Dispatch.dispatch server (depth + 2) request agent state) := by
  by_cases starts : Gates.lifecycleGate (state.document agent)
      (upper request.method) = none ∧
        Dispatch.ownedBy state.runtime id agent.agentId = true
  · rw [dispatch_executes active presented present starts.1 starts.2]
    apply executePlan_runsOnce
    have steps : plan.steps = plan.firstStep :: plan.steps.tail :=
      (List.cons_head_tail plan.steps_ne).symm
    rw [steps]
    rcases resolution : Execution.resolveParameters
        (Execution.requestParams request) [] plan.firstStep.parameterSource [] with
      name | params
    · rw [runSteps_unresolved resolution]
      exact (quiet_result _ state).runsFrom id 0
    · have resolves : ∃ params, Execution.resolveParameters [] []
          plan.firstStep.parameterSource [] = .ok params := by
        rcases empty : Execution.resolveParameters [] []
            plan.firstStep.parameterSource [] with name | others
        · have failed : Execution.resolveParameters
              (Execution.requestParams request) [] plan.firstStep.parameterSource [] =
              .error name := Execution.resolveParameters_error_congr empty
          rw [resolution] at failed
          cases failed
        · exact ⟨others, rfl⟩
      rcases step : Gates.lifecycleGate (state.document (state.document agent))
          (upper plan.firstStep.methodName) with _ | refusal
      · rw [Obeys.document_document] at step
        exact absurd ⟨starts.1, starts.2, resolves, step⟩ blocked
      · have refused : Dispatch.dispatch server (depth + 1)
            (Execution.buildStepRequest request plan.firstStep.methodName params)
            (state.document agent) state = ⟨.value refusal.toResponse, state, []⟩ :=
          Dispatch.dispatchWith_refused step
        rw [runSteps_resolved resolution, emit_andThen]
        have unchanged : state.after (.stepped id 0) = state := rfl
        refine RunsFrom.stepped_cons ?_
        rw [unchanged, andThen_value (congrArg Run.ending refused)]
        simp only [refused, List.nil_append]
        rw [if_neg (Gates.status_of_lifecycleGate step)]
        exact (quiet_result _ state).runsFrom id 1
  · exact (dispatch_answers active presented present starts (depth + 1)).runsOnce id

/-- Presented as `Synthesis-Id`, the synthesis is executed once, if its steps
lead to no other one. -/
theorem terminates_of_legacy
    (active : state.runtime.get state.now id = some plan)
    (presented : Wire.readSynthesisId request.headers = id) (present : id ≠ "")
    (legacy : Wire.header request.headers "Contract-Synthesized" = "")
    (direct : ∀ step ∈ plan.steps, ∀ params, StaysDirect server
      (Execution.buildStepRequest request step.methodName params)) (depth : Nat) :
    RunsOnce id (Dispatch.dispatch server (depth + 2) request agent state) := by
  by_cases starts : Gates.lifecycleGate (state.document agent)
      (upper request.method) = none ∧
        Dispatch.ownedBy state.runtime id agent.agentId = true
  · rw [dispatch_executes active presented present starts.1 starts.2]
    apply executePlan_runsOnce
    apply runSteps_runsFrom
    intro step member params agent state
    refine quiet_dispatch ?_ (direct step member params) depth agent state
    rw [Execution.readSynthesisId_buildStepRequest, legacy]
  · exact (dispatch_answers active presented present starts (depth + 1)).runsOnce id

end Presented

/-! ## Both headers -/

section PresentedSamples

open scoped Plain PlainServing

theorem contractState_active :
    (contractState guest "s").runtime.get (contractState guest "s").now "s" =
      some bookPlan := rfl

end PresentedSamples

end Agtp
