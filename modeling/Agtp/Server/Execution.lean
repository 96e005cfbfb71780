import Agtp.Server.State

/-! # Execution of plans

`execute_plan` over a dispatcher for its steps, and its two callers: an active
synthesis, and an endpoint that is bound to a composition. -/

namespace Agtp.Serving

open Computation

variable {App : Type} [TextCase] [TextOf] [BodyCodec] [Digest] [ContractCodec]
  [Tokens]

/-! ## Steps -/

def capture (step : CompositionStep) (output : Json)
    (captured : List (String × Json)) : List (String × Json) :=
  match step.captureOutputAs.filter (· ≠ "") with
  | some name => Dict.setEntries name output captured
  | none => captured

/-- The steps that are left of a plan. The first one that does not answer 200
ends it. -/
def runSteps (next : Dispatcher App) (plan : SynthesisPlan) (synthesisId : String)
    (original : Request) (agent : AgentDocument) :
    (index : Nat) → (captured : List (String × Json)) →
      (records : List Execution.StepRecord) → List CompositionStep → Serving App Response
  | _, _, records, [] =>
      result (Execution.successResponse plan synthesisId records)
  | index, captured, records, step :: rest =>
      match Execution.resolveParameters (Execution.requestParams original) captured
          step.parameterSource [] with
      | .error name =>
          result (Execution.badReference synthesisId index step name).toResponse
      | .ok params =>
          andThen (emit (.stepped synthesisId index)) fun _ =>
          andThen (next (Execution.buildStepRequest original step.methodName params)
            agent) fun response =>
          if response.status = 200 then
            runSteps next plan synthesisId original agent (index + 1)
              (capture step response.body captured)
              (records ++ [⟨step.methodName, response.status, response.body⟩]) rest
          else
            result (Execution.failureResponse plan synthesisId index step response
              captured (records ++ [⟨step.methodName, response.status, .null⟩]))

section Cases

variable {next : Dispatcher App} {plan : SynthesisPlan} {synthesisId : String}
  {original : Request} {agent : AgentDocument} {index : Nat}
  {captured : List (String × Json)} {records : List Execution.StepRecord}
  {step : CompositionStep} {rest : List CompositionStep}

theorem runSteps_unresolved {name : String}
    (unresolved : Execution.resolveParameters (Execution.requestParams original)
      captured step.parameterSource [] = .error name) :
    runSteps next plan synthesisId original agent index captured records
        (step :: rest) =
      result (Execution.badReference synthesisId index step name).toResponse := by
  simp only [runSteps, unresolved]

theorem runSteps_resolved {params : List (String × Json)}
    (resolved : Execution.resolveParameters (Execution.requestParams original)
      captured step.parameterSource [] = .ok params) :
    runSteps next plan synthesisId original agent index captured records
        (step :: rest) =
      andThen (emit (.stepped synthesisId index)) fun _ =>
        andThen (next (Execution.buildStepRequest original step.methodName params)
          agent) fun response =>
          if response.status = 200 then
            runSteps next plan synthesisId original agent (index + 1)
              (capture step response.body captured)
              (records ++ [⟨step.methodName, response.status, response.body⟩]) rest
          else
            result (Execution.failureResponse plan synthesisId index step response
              captured (records ++ [⟨step.methodName, response.status, .null⟩])) := by
  simp only [runSteps, resolved]

end Cases

def executePlan (next : Dispatcher App) (plan : SynthesisPlan)
    (synthesisId : String) (request : Request) (agent : AgentDocument) :
    Serving App Response :=
  andThen (emit (.executed synthesisId)) fun _ =>
    runSteps next plan synthesisId request agent 0 [] [] plan.steps

/-! ## Active syntheses -/

def synthesisNotFound (member synthesisId : String) : ErrorResponse where
  status := 404
  statusText := "Not Found"
  error := [
    ("code", .string "synthesis-not-found"),
    (member, .string
      s!"synthesis {TextOf.quoted synthesisId} is not active on this server"),
    ("synthesis_id", .string synthesisId)]

def execute (next : Dispatcher App) (synthesisId : String) (request : Request)
    (agent : AgentDocument) : Serving App Response :=
  andThen (getPlan synthesisId) fun
    | none => result (synthesisNotFound "explanation" synthesisId).toResponse
    | some plan => executePlan next plan synthesisId request agent

/-! ## Compositions -/

def compositionHeaders (context : EndpointContext) : Headers :=
  let passed := context.headers.entries.foldl
    (fun headers entry =>
      if entry.1 = "agent-id" ∨ entry.1 = "target-agent" then
        headers.set "Agent-ID" entry.2
      else if entry.1 = "host" then headers.set "Host" entry.2
      else headers)
    (Dict.ofList [("Accept", "application/json")])
  if context.input = [] then passed
  else passed.set "Content-Type" "application/json"

def compositionRequest (context : EndpointContext) : Request :=
  { Request.toRoot context.method [] with
    headers := compositionHeaders context
    body := Execution.stepBody context.input
    path := context.path }

def compositionFailed (spec : EndpointSpec) (message : String)
    (details : List (String × Json)) : Response where
  status := 422
  statusText := "Unprocessable"
  headers := []
  body := .object [("error", .object [
    ("code", .string "composition_failed"),
    ("method", .string spec.name),
    ("path", .string spec.shownPath),
    ("message", .string message),
    ("details", .object details)])]

def isText (value : Option Json) (text : String) : Bool :=
  match value with
  | some (.string held) => held = text
  | _ => false

def failureMember (payload : List (String × Json)) (name : String) :
    Option Json :=
  match Json.member payload "error" with
  | some (.object members) => Json.member members name
  | _ => none

def compositionError (spec : EndpointSpec) (recipe : String) (status : Nat)
    (payload : List (String × Json)) : Response :=
  let shown (name : String) (absent : Json) : String :=
    ((failureMember payload name).getD absent).str
  let held (name : String) : Json := (failureMember payload name).getD .null
  let failedStep := shown "failed_step" (.string "?")
  let method := shown "method" (.string "?")
  let underlying := shown "underlying_status" (.int status)
  compositionFailed spec
    s!"composition step {failedStep} ({method}) failed: status {underlying}"
    [("recipe", .string recipe),
      ("failed_step", held "failed_step"),
      ("step_method", held "method"),
      ("underlying_status", held "underlying_status"),
      ("underlying", held "underlying"),
      ("captured_outputs", held "captured_outputs")]

variable [SchemaValidator]

def compositionOutput (spec : EndpointSpec) (payload : List (String × Json)) :
    Response :=
  let output := (Json.member payload "output").getD .null
  let body : List (String × Json) :=
    match output with
    | .object members => members
    | other => [("result", other)]
  match SchemaValidator.validateOutput spec body with
  | some error =>
      (Status.errorResponse 500 "Internal Server Error" "output-validation-failed"
        ("handler response did not match the endpoint's output schema: " ++
         s!"{error.message}")
        [("field", .string error.field),
          ("schema_path", .string error.schemaPath)]).toResponse
  | none => ⟨200, "OK", [], .object body⟩

def compositionResponse (spec : EndpointSpec) (recipe : String)
    (response : Response) : Response :=
  match response.body with
  | .object payload =>
      if response.status = 200 ∧ isText (Json.member payload "outcome") "ok" then
        compositionOutput spec payload
      else compositionError spec recipe response.status payload
  | _ => compositionError spec recipe response.status []

def serveComposition (next : Dispatcher App) (spec : EndpointSpec)
    (recipe : String) (plan : SynthesisPlan) (context : EndpointContext) :
    Serving App Response :=
  andThen read fun state =>
    match state.agents.lookup context.agentId with
    | none =>
        result (compositionFailed spec
          ("composition handler could not resolve agent " ++
           s!"{TextOf.quoted context.agentId} on this server")
          [("recipe", .string recipe)])
    | some agent =>
        recover
          (andThen (executePlan next plan "" (compositionRequest context) agent)
            fun response => result (compositionResponse spec recipe response))
          (Status.errorResponse 500 "Internal Server Error" "handler-exception"
            "the composition raised" []).toResponse

end Agtp.Serving
