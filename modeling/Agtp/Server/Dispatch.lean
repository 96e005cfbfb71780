import Agtp.Server.Rcns

/-! # The dispatcher

`_dispatch_inner` as a computation. The steps of a plan come back to it, so it
is defined on a bound of their nesting; a computation that is unfinished for
every bound is one that does not return. -/

namespace Agtp

abbrev RunningServer (App : Type) [TextCase] [TextOf] :=
  Server (EndpointHandler App) (MethodHandler App)

namespace Dispatch

open Computation Serving

variable {App : Type} [TextCase] [TextOf] [BodyCodec] [SchemaValidator] [Digest]
  [ContractCodec] [Tokens] [NumberText] [Clock]

/-! ## Handlers -/

def callMethod (server : RunningServer App) (request : Request)
    (agent : AgentDocument) : MethodHandler App → Serving App Response
  | .suspend => suspend request agent
  | .revoke lifecycle =>
      revoke server.rcns.onPolicyChange server.synthesis.policies lifecycle request
        agent
  | .inspect answer => inspect answer request agent
  | .propose attempt answer =>
      propose server.synthesis (availableMethods server.methods) attempt answer
        request agent
  | .other answer => run (answer request agent)

def callEndpoint (next : Dispatcher App) (context : EndpointContext) :
    EndpointHandler App → Serving App Response
  | .function answer => run (answer context)
  | .composition spec recipe plan => serveComposition next spec recipe plan context

/-- An admitted request is handed to its handler, or to the negotiation gate. -/
def serve (next : Dispatcher App) (server : RunningServer App)
    (agent : AgentDocument) (request : Request)
    (admission : Gates.Admission (EndpointHandler App) (MethodHandler App)) :
    Serving App Response :=
  match admission.target with
  | .endpoint handler context =>
      andThen (emit (.called ⟨agent, request, admission⟩)) fun _ =>
        callEndpoint next context handler
  | .embedded handler =>
      andThen (emit (.called ⟨agent, request, admission⟩)) fun _ =>
        callMethod server admission.request agent handler
  | .negotiate =>
      andThen (Rcns.tryRcns next server admission.request agent admission.method
        admission.path) fun
        | some response => result response
        | none =>
            result (Status.notFound admission.method admission.path
              (TextOf.quoted admission.path)).toResponse

def dispatchDirect (next : Dispatcher App) (server : RunningServer App)
    (agent : AgentDocument) (request : Request) : Serving App Response :=
  match Gates.admitRequest server agent request with
  | .error refusal => refuse refusal
  | .ok admission => serve next server agent request admission

/-! ## Syntheses -/

def contractNotYours (synthesisId agentId : String) : ErrorResponse :=
  Status.rcnsNoContract "contract-not-yours"
    ("this synthesis_id was negotiated for a different Agent-ID and is not " ++
     "transferable") none
    [("synthesis_id", .string synthesisId), ("presenter_agent_id", .string agentId)]

def ownedBy (runtime : SynthesisRuntime) (synthesisId agentId : String) : Bool :=
  let originator := (runtime.originatingAgentId synthesisId).getD ""
  originator = "" || originator = agentId

def dispatchSynthesis (next : Dispatcher App) (synthesisId : String)
    (agent : AgentDocument) (request : Request) : Serving App Response :=
  andThen (getPlan synthesisId) fun
    | none => result (synthesisNotFound "detail" synthesisId).toResponse
    | some _ =>
        andThen read fun state =>
          if ownedBy state.runtime synthesisId agent.agentId then
            execute next synthesisId request agent
          else result (contractNotYours synthesisId agent.agentId).toResponse

/-! ## Dispatch -/

def dispatchWith (next : Dispatcher App) (server : RunningServer App) :
    Dispatcher App := fun request named =>
  andThen read fun state =>
    let agent := state.document named
    match Gates.lifecycleGate agent (upper request.method) with
    | some refusal => result refusal.toResponse
    | none =>
        let synthesisId := Wire.readSynthesisId request.headers
        if synthesisId = "" then dispatchDirect next server agent request
        else dispatchSynthesis next synthesisId agent request

def dispatch (server : RunningServer App) : (depth : Nat) → Dispatcher App
  | 0 => fun _ _ => exhausted
  | depth + 1 => dispatchWith (dispatch server depth) server

theorem dispatch_succ (server : RunningServer App) (depth : Nat) :
    dispatch server (depth + 1) = dispatchWith (dispatch server depth) server := rfl

section Cases

variable {next : Dispatcher App} {server : RunningServer App} {state : State App}
  {request : Request} {agent : AgentDocument}

theorem dispatchWith_refused {refusal : ErrorResponse}
    (lifecycle : Gates.lifecycleGate (state.document agent) (upper request.method) =
      some refusal) :
    dispatchWith next server request agent state =
      ⟨.value refusal.toResponse, state, []⟩ := by
  unfold dispatchWith
  rw [andThen_read]
  simp only [lifecycle]
  rfl

theorem dispatchWith_direct
    (lifecycle : Gates.lifecycleGate (state.document agent) (upper request.method) =
      none) (outside : Wire.readSynthesisId request.headers = "") :
    dispatchWith next server request agent state =
      dispatchDirect next server (state.document agent) request state := by
  unfold dispatchWith
  rw [andThen_read]
  simp only [lifecycle, outside, if_true]

theorem dispatchWith_synthesis {synthesisId : String}
    (lifecycle : Gates.lifecycleGate (state.document agent) (upper request.method) =
      none) (presented : Wire.readSynthesisId request.headers = synthesisId)
    (present : synthesisId ≠ "") :
    dispatchWith next server request agent state =
      dispatchSynthesis next synthesisId (state.document agent) request state := by
  unfold dispatchWith
  rw [andThen_read]
  simp only [lifecycle, presented, present, if_false]

end Cases

/-! ## Runs of a server -/

/-- What happens to a server: a request for an agent, or the passing of time,
in which agents and the deployment's own data may change. -/
inductive Arrival (App : Type) where
  | request (depth : Nat) (request : Request) (agent : AgentDocument)
  | elapse (seconds : Nat) (agents : AgentRegistry) (app : App)

def handle (server : RunningServer App) : Arrival App → Serving App PUnit
  | .request depth request agent => settle (dispatch server depth request agent)
  | .elapse seconds agents app => emit (.elapsed seconds agents app)

def serveAll (server : RunningServer App) : List (Arrival App) → Serving App PUnit
  | [] => result .unit
  | arrival :: rest => andThen (handle server arrival) fun _ => serveAll server rest

end Dispatch

end Agtp
