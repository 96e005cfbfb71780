import Agtp.Core.Status
import Agtp.Core.Wire

/-! # Synthesis plans

A plan fulfils a proposed method by a sequence of steps, each of which is a request of its own.
-/

namespace Agtp

/-- The proposed endpoint, with the body that proposed it. -/
structure Proposal where
  name : String
  path : Option String
  requiredParams : List String
  body : List (String × Json)

/-- What a policy sees of a method or an endpoint of the server. -/
structure AvailableMethod where
  name : String
  parameters : List String

inductive ParameterSource where
  | proposal (name : String)
  | constant (value : Json)
  | previousStep (captured : String)

structure CompositionStep where
  methodName : String
  parameterSource : List (String × ParameterSource)
  captureOutputAs : Option String

inductive OutputAggregation where
  | last
  | merge
  | list

structure SynthesisPlan where
  proposedMethod : Proposal
  steps : List CompositionStep
  steps_ne : steps ≠ []
  outputAggregation : OutputAggregation
  description : Option String
  policyName : Option String
  recipeName : Option String
  recipeVersion : Option String

def SynthesisPlan.boundPath (plan : SynthesisPlan) : String :=
  match plan.proposedMethod.path with
  | some path => if path = "" then "/" else path
  | none => "/"

def SynthesisPlan.firstStep (plan : SynthesisPlan) : CompositionStep :=
  plan.steps.head plan.steps_ne

namespace Execution

/-! ## Parameters of a step -/

/-- `_resolve_parameters`. A parameter that the proposal lacks is left out; an
output that no earlier step captured is an error that names it. -/
def resolveParameters (proposal captured : List (String × Json)) :
    List (String × ParameterSource) → List (String × Json) →
      Except String (List (String × Json))
  | [], resolved => .ok resolved
  | (target, .constant value) :: rest, resolved =>
      resolveParameters proposal captured rest
        (Dict.setEntries target value resolved)
  | (target, .proposal name) :: rest, resolved =>
      match Json.member proposal name with
      | some value =>
          resolveParameters proposal captured rest
            (Dict.setEntries target value resolved)
      | none => resolveParameters proposal captured rest resolved
  | (target, .previousStep name) :: rest, resolved =>
      match Json.member captured name with
      | some value =>
          resolveParameters proposal captured rest
            (Dict.setEntries target value resolved)
      | none => .error name

theorem resolveParameters_error_congr {proposal other captured : List (String × Json)}
    {sources : List (String × ParameterSource)}
    {resolved otherResolved : List (String × Json)} {name : String}
    (failed : resolveParameters proposal captured sources resolved = .error name) :
    resolveParameters other captured sources otherResolved = .error name := by
  induction sources generalizing resolved otherResolved with
  | nil => cases failed
  | cons entry rest induction =>
      rcases entry with ⟨target, source⟩
      cases source with
      | constant value => exact induction failed
      | proposal key =>
          simp only [resolveParameters] at failed ⊢
          split at failed <;> split <;> exact induction failed
      | previousStep key =>
          simp only [resolveParameters] at failed ⊢
          split at failed
          · exact induction failed
          · exact failed

/-! ## Requests of steps -/

variable [TextCase] [BodyCodec]

def requestParams (request : Request) : List (String × Json) :=
  if request.body = [] then []
  else
    match BodyCodec.loadsStrict request.body with
    | some (.object members) => members
    | _ => []

def stepBody (params : List (String × Json)) : Bytes :=
  if params = [] then [] else BodyCodec.dumps (.object params)

/-- `_build_step_request`: the headers of the original request, without
`Synthesis-Id`. -/
def buildStepRequest (original : Request) (methodName : String)
    (params : List (String × Json)) : Request :=
  let body := stepBody params
  let headers := original.headers.filterKeys fun key => lower key ≠ "synthesis-id"
  { method := methodName
    headers :=
      if body = [] then headers
      else headers.set "Content-Type" "application/json"
    body := body
    path := "/"
    query := .empty
    verifiedCert := none
    aliasedFrom := ""
    actingPrincipalId := "" }

/-! ## Responses of plans -/

structure StepRecord where
  method : String
  status : Nat
  output : Json

/-- `_aggregate`, on the outputs of the steps. -/
def aggregated (mode : OutputAggregation) (records : List StepRecord) : Json :=
  match mode with
  | .last => (records.getLast?.map StepRecord.output).getD .null
  | .merge =>
      .object (records.foldl
        (fun members record =>
          match record.output with
          | .object output => output.foldl
              (fun members entry => Dict.setEntries entry.1 entry.2 members) members
          | _ => members) [])
  | .list => .array (records.map StepRecord.output)

def stepSummaries (records : List StepRecord) : Json :=
  .array (records.map fun record =>
    .object [("method", .string record.method), ("status_code", .int record.status)])

def successResponse (plan : SynthesisPlan) (synthesisId : String)
    (records : List StepRecord) : Response where
  status := 200
  statusText := "OK"
  headers := []
  body := .object [
    ("method", .string plan.proposedMethod.name),
    ("synthesis_id", .string synthesisId),
    ("outcome", .string "ok"),
    ("output", aggregated plan.outputAggregation records),
    ("steps", stepSummaries records)]

def failureResponse (plan : SynthesisPlan) (synthesisId : String) (index : Nat)
    (step : CompositionStep) (underlying : Response)
    (captured : List (String × Json)) (records : List StepRecord) : Response where
  status := underlying.status
  statusText := if underlying.statusText = "" then "Error" else underlying.statusText
  headers := []
  body := .object [
    ("method", .string plan.proposedMethod.name),
    ("synthesis_id", .string synthesisId),
    ("outcome", .string "error"),
    ("error", .object [
      ("code", .string "synthesis-step-failed"),
      ("failed_step", .int index),
      ("method", .string step.methodName),
      ("underlying_status", .int underlying.status),
      ("underlying", underlying.body),
      ("captured_outputs", .object captured)]),
    ("steps", stepSummaries records)]

def badReference [TextOf] (synthesisId : String) (index : Nat)
    (step : CompositionStep) (name : String) : ErrorResponse where
  status := 500
  statusText := "Internal Server Error"
  error := [
    ("code", .string "synthesis-bad-reference"),
    ("explanation", .string
      (s!"step {index + 1} ({step.methodName}) references undefined output " ++
       s!"{TextOf.quoted name}")),
    ("failed_step", .int index),
    ("method", .string step.methodName)] ++
    if synthesisId = "" then [] else [("synthesis_id", .string synthesisId)]

/-! ## What a step request presents -/

omit [BodyCodec] in
theorem synthesisId_dropped (key : String)
    (matched : Wire.named "Synthesis-Id" key = true) :
    decide (lower key ≠ "synthesis-id") = false := by
  simp only [Wire.named, decide_eq_true_eq] at matched
  have lowered : lower "Synthesis-Id" = "synthesis-id" := by
    rw [TextCase.lower_ascii _ (by decide)]
    decide
  simp [matched, lowered]

theorem header_buildStepRequest {name : String}
    (kept : ∀ key, Wire.named name key = true → lower key ≠ "synthesis-id")
    (notSet : Wire.named name "Content-Type" = false)
    (original : Request) (methodName : String) (params : List (String × Json)) :
    Wire.header (buildStepRequest original methodName params).headers name =
      Wire.header original.headers name := by
  have filtered : Wire.header (original.headers.filterKeys fun key =>
      lower key ≠ "synthesis-id") name = Wire.header original.headers name := by
    unfold Wire.header
    rw [Dict.first?_filterKeys_kept]
    intro key matched
    simpa using kept key matched
  unfold buildStepRequest
  simp only
  split
  · exact filtered
  · rw [Wire.header_set_other _ notSet, filtered]

theorem contractSynthesized_kept (original : Request) (methodName : String)
    (params : List (String × Json)) :
    Wire.header (buildStepRequest original methodName params).headers
        "Contract-Synthesized" =
      Wire.header original.headers "Contract-Synthesized" := by
  apply header_buildStepRequest
  · intro key matched equal
    simp only [Wire.named, decide_eq_true_eq] at matched
    rw [matched, TextCase.lower_ascii _ (by decide)] at equal
    exact absurd equal (by decide)
  · exact Wire.named_disjoint (by decide) (by decide) (by decide)
      (Wire.named_self "Content-Type")

theorem synthesisId_removed (original : Request) (methodName : String)
    (params : List (String × Json)) :
    Wire.header (buildStepRequest original methodName params).headers
      "Synthesis-Id" = "" := by
  have filtered : Wire.header (original.headers.filterKeys fun key =>
      lower key ≠ "synthesis-id") "Synthesis-Id" = "" := by
    unfold Wire.header
    rw [Dict.first?_filterKeys_none]
    exact synthesisId_dropped
  unfold buildStepRequest
  simp only
  split
  · exact filtered
  · rw [Wire.header_set_other, filtered]
    exact Wire.named_disjoint (by decide) (by decide) (by decide)
      (Wire.named_self "Content-Type")

theorem readSynthesisId_buildStepRequest (original : Request) (methodName : String)
    (params : List (String × Json)) :
    Wire.readSynthesisId (buildStepRequest original methodName params).headers =
      Wire.header original.headers "Contract-Synthesized" := by
  unfold Wire.readSynthesisId Wire.headerOrLegacy
  rw [contractSynthesized_kept, synthesisId_removed]
  by_cases absent : Wire.header original.headers "Contract-Synthesized" = ""
  · simp [absent]
  · simp [absent]

end Execution

end Agtp
