import Agtp.Server.Hooks
import Agtp.Server.Dispatch

/-! # The authority of steps

What the request of a plan's step carries over from the request that the plan is
executed for: the certificate, the claimed scopes, the session and the task. -/

namespace Agtp

/-! ## Authority -/

/-- What gates and hooks read of a request's authority. The gates read the first
header of a name, the context the last. -/
structure Authority where
  verifiedCert : Option VerifiedCert
  claimedScopes : List String
  shownScopes : List String
  sessionId : Option String
  taskId : Option String

def Authority.none : Authority := ⟨.none, [], [], .none, .none⟩

namespace Request

variable [TextCase]

def spellings (request : Request) (name : String) : List (String × String) :=
  request.headers.matching (Wire.named name)

def shownHeader (request : Request) (name : String) : String :=
  ((request.spellings name).getLast?.map Prod.snd).getD ""

def authority (request : Request) : Authority where
  verifiedCert := request.verifiedCert
  claimedScopes := scopesOf (Wire.header request.headers "Authority-Scope")
  shownScopes := scopesOf (request.shownHeader "Authority-Scope")
  sessionId := (some (request.shownHeader "Session-ID")).filter (· ≠ "")
  taskId := (some (request.shownHeader "Task-ID")).filter (· ≠ "")

theorem header_eq_spellings (request : Request) (name : String) :
    Wire.header request.headers name =
      ((request.spellings name).head?.map Prod.snd).getD "" := by
  unfold Wire.header spellings
  rw [Dict.first?_eq_matching]
  cases (request.headers.matching (Wire.named name)).head? <;> rfl

def authorityHeaders : List String := ["Authority-Scope", "Session-ID", "Task-ID"]

theorem authority_of_spellings {request other : Request}
    (same : ∀ name ∈ authorityHeaders, other.spellings name = request.spellings name) :
    other.authority = { request.authority with verifiedCert := other.verifiedCert } := by
  have scopes := same "Authority-Scope" (by simp [authorityHeaders])
  have session := same "Session-ID" (by simp [authorityHeaders])
  have task := same "Task-ID" (by simp [authorityHeaders])
  simp only [authority, header_eq_spellings, shownHeader, scopes, session, task]

theorem authority_of_no_spellings {request : Request}
    (none : ∀ name ∈ authorityHeaders, request.spellings name = [])
    (uncertified : request.verifiedCert = .none) : request.authority = .none := by
  have scopes := none "Authority-Scope" (by simp [authorityHeaders])
  have session := none "Session-ID" (by simp [authorityHeaders])
  have task := none "Task-ID" (by simp [authorityHeaders])
  simp only [authority, header_eq_spellings, shownHeader, scopes, session, task,
    uncertified]
  rfl

end Request

/-! ## What reads the authority -/

section Reading

variable [TextCase]

end Reading

/-! ## Requests of steps -/

section Steps

variable [TextCase] [BodyCodec]

/-- The requests that are dispatched for the steps of a plan: one that is executed
for the request itself, or by a composition handler that serves it. -/
inductive StepOf (original : Request) : (composed : Bool) → Request → Prop where
  | plan (method : String) (params : List (String × Json)) :
      StepOf original false (Execution.buildStepRequest original method params)
  | composition (input : List (String × Json)) (agent : AgentDocument)
      (method : String) (params : List (String × Json)) :
      StepOf original true (Execution.buildStepRequest
        (Serving.compositionRequest (buildEndpointContext original input agent)) method
        params)

omit [BodyCodec] in
theorem kept_of_authorityHeader {name : String}
    (member : name ∈ Request.authorityHeaders) :
    (∀ key, Wire.named name key = true → lower key ≠ "synthesis-id") ∧
      Wire.named name "Content-Type" = false := by
  have ascii : Text.isAscii name ∧ Text.asciiLower name ≠ "synthesis-id" ∧
      Text.asciiLower "Content-Type" ≠ Text.asciiLower name := by
    simp only [Request.authorityHeaders, List.mem_cons, List.not_mem_nil,
      or_false] at member
    rcases member with rfl | rfl | rfl <;> decide
  rcases ascii with ⟨ascii, notSynthesis, notContent⟩
  refine ⟨?_, ?_⟩
  · intro key matched equal
    simp only [Wire.named, decide_eq_true_eq] at matched
    rw [matched, TextCase.lower_ascii _ ascii] at equal
    exact notSynthesis equal
  · exact Wire.named_disjoint (by decide) ascii notContent (Wire.named_self "Content-Type")

/-- A step spells the headers of authority as the request that it is built
from. -/
theorem spellings_buildStepRequest {name : String}
    (member : name ∈ Request.authorityHeaders) (original : Request) (method : String)
    (params : List (String × Json)) :
    (Execution.buildStepRequest original method params).spellings name =
      original.spellings name := by
  rcases kept_of_authorityHeader member with ⟨kept, notSet⟩
  have filtered : (original.headers.filterKeys fun key =>
      lower key ≠ "synthesis-id").matching (Wire.named name) =
        original.headers.matching (Wire.named name) :=
    Dict.matching_filterKeys_kept _ fun key matched => by simpa using kept key matched
  unfold Request.spellings Execution.buildStepRequest
  simp only
  split
  · exact filtered
  · rw [Dict.matching_set_other _ notSet, filtered]

theorem authority_buildStepRequest (original : Request) (method : String)
    (params : List (String × Json)) :
    (Execution.buildStepRequest original method params).authority =
      { original.authority with verifiedCert := none } :=
  Request.authority_of_spellings fun _ member =>
    spellings_buildStepRequest member original method params

def compositionHeaderNames : List String := ["Accept", "Agent-ID", "Host", "Content-Type"]

omit [TextCase] [BodyCodec] in
theorem keys_compositionHeaders (context : EndpointContext) :
    ∀ key ∈ (Serving.compositionHeaders context).keys, key ∈ compositionHeaderNames := by
  have setKnown {headers : Headers} {name value : String}
      (known : name ∈ compositionHeaderNames)
      (within : ∀ key ∈ headers.keys, key ∈ compositionHeaderNames) :
      ∀ key ∈ (headers.set name value).keys, key ∈ compositionHeaderNames := by
    intro key member
    rcases Dict.mem_keys_set member with held | rfl
    · exact within key held
    · exact known
  have passed (entries : List (String × String)) {headers : Headers}
      (within : ∀ key ∈ headers.keys, key ∈ compositionHeaderNames) :
      ∀ key ∈ (entries.foldl (fun headers entry =>
          if entry.1 = "agent-id" ∨ entry.1 = "target-agent" then
            headers.set "Agent-ID" entry.2
          else if entry.1 = "host" then headers.set "Host" entry.2
          else headers) headers).keys, key ∈ compositionHeaderNames := by
    induction entries generalizing headers with
    | nil => exact within
    | cons entry rest induction =>
        rw [List.foldl_cons]
        apply induction
        split
        · exact setKnown (by simp [compositionHeaderNames]) within
        · split
          · exact setKnown (by simp [compositionHeaderNames]) within
          · exact within
  have start : ∀ key ∈ (Dict.ofList [("Accept", "application/json")] : Headers).keys,
      key ∈ compositionHeaderNames := by
    decide
  unfold Serving.compositionHeaders
  simp only
  split
  · exact passed context.headers.entries start
  · exact setKnown (by simp [compositionHeaderNames])
      (passed context.headers.entries start)

omit [TextCase] [BodyCodec] in
theorem compositionHeader_other : ∀ key ∈ compositionHeaderNames,
    ∀ name ∈ Request.authorityHeaders, Text.isAscii key = true ∧
      Text.isAscii name = true ∧ Text.asciiLower key ≠ Text.asciiLower name := by
  decide

theorem authority_compositionRequest (context : EndpointContext) :
    (Serving.compositionRequest context).authority = .none := by
  refine Request.authority_of_no_spellings ?_ rfl
  intro name member
  apply Dict.matching_eq_nil
  intro key held
  rcases compositionHeader_other key (keys_compositionHeaders context key held) name
    member with ⟨keyAscii, nameAscii, different⟩
  exact Wire.named_disjoint keyAscii nameAscii different (Wire.named_self key)

/-- A step carries the authority of the request over exactly if that request has no
verified certificate, and for a composition if it has no authority at all. -/
theorem step_carries_iff {original step : Request} {composed : Bool}
    (issued : StepOf original composed step) :
    step.authority = original.authority ↔
      if composed then original.authority = .none else original.verifiedCert = none := by
  cases issued with
  | plan method params =>
      rw [authority_buildStepRequest]
      simp only [Bool.false_eq_true, if_false]
      constructor
      · intro same
        exact (congrArg Authority.verifiedCert same).symm
      · intro uncertified
        rw [← uncertified]
        rfl
  | composition input agent method params =>
      rw [authority_buildStepRequest, authority_compositionRequest]
      simp only [if_true]
      exact eq_comm

end Steps

/-! ## What is dispatched -/

section Dispatched

open Computation Serving

variable {App : Type} [TextCase] [TextOf] [BodyCodec] [Digest] [ContractCodec] [Tokens]
  {next other : Dispatcher App}

/-- The execution of a plan dispatches nothing but requests of its steps: it is the
same over dispatchers that agree on these. -/
theorem executePlan_congr {request : Request} {agent : AgentDocument}
    {plan : SynthesisPlan}
    (agree : ∀ step ∈ plan.steps, ∀ params,
      next (Execution.buildStepRequest request step.methodName params) agent =
        other (Execution.buildStepRequest request step.methodName params) agent)
    (id : String) :
    executePlan next plan id request agent = executePlan other plan id request agent := by
  have steps (rest : List CompositionStep) (within : ∀ step ∈ rest, step ∈ plan.steps)
      (index : Nat) (captured : List (String × Json))
      (records : List Execution.StepRecord) :
      runSteps next plan id request agent index captured records rest =
        runSteps other plan id request agent index captured records rest := by
    induction rest generalizing index captured records with
    | nil => rfl
    | cons step rest induction =>
        have here := agree step (within step List.mem_cons_self)
        have later := induction fun step member => within step (List.mem_cons_of_mem _ member)
        cases resolved : Execution.resolveParameters (Execution.requestParams request)
            captured step.parameterSource [] with
        | error name => rw [runSteps_unresolved resolved, runSteps_unresolved resolved]
        | ok params =>
            rw [runSteps_resolved resolved, runSteps_resolved resolved]
            simp only [here, later]
  unfold executePlan
  simp only [steps plan.steps fun _ member => member]

end Dispatched

end Agtp

namespace Agtp.StepAuthoritySamples

open scoped Plain

def readingCert : VerifiedCert :=
  ⟨"reader", "f1", { CertExtensions.absent with authorityScopes := some ["read"] },
    by decide, by decide⟩

def administrator : AgentDocument := .active "reader" ⟨[], ["read", "admin"], false⟩

def claiming (cert : Option VerifiedCert) : Request :=
  { Request.toRoot "BOOK" [("Authority-Scope", "admin")] with verifiedCert := cert }

def bookStep (cert : Option VerifiedCert) : Request :=
  Execution.buildStepRequest (claiming cert) "BOOK" []

theorem uncertified_step_carries :
    (bookStep none).authority = (claiming none).authority :=
  (step_carries_iff (.plan "BOOK" [])).mpr rfl

/-- The certificate hook refuses the request, and lets its step pass. -/
theorem certified_step_escapes_hook :
    StepOf (claiming readingCert) false (bookStep readingCert) ∧
      (bookStep readingCert).authority ≠ (claiming readingCert).authority ∧
      (AgentCertHook.beforeDispatch (buildEndpointContext (claiming readingCert) []
        administrator)).isSome = true ∧
      AgentCertHook.beforeDispatch (buildEndpointContext (bookStep readingCert) []
        administrator) = none := by
  refine ⟨.plan "BOOK" [], ?_, by decide +kernel, rfl⟩
  intro same
  cases congrArg Authority.verifiedCert same

end Agtp.StepAuthoritySamples
