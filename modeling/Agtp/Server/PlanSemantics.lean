import Agtp.Server.Execution

/-! # What executing a plan means

The steps of a plan are dispatched in turn. -/

namespace Agtp.Serving

open Computation

/-! ## Steps that were answered -/

abbrev Answered := CompositionStep × Response

def Succeeded (done : List Answered) : Prop :=
  ∀ answered ∈ done, answered.2.status = 200

def capturedAs (step : CompositionStep) : Option String :=
  step.captureOutputAs.filter (· ≠ "")

def latest (done : List Answered) (name : String) : Option Json :=
  (done.reverse.find? fun answered => capturedAs answered.1 = some name).map fun answered =>
    answered.2.body

def valueOf (proposal : List (String × Json)) (done : List Answered) :
    ParameterSource → Option Json
  | .constant value => some value
  | .proposal name => Json.member proposal name
  | .previousStep name => latest done name

def parameters (proposal : List (String × Json)) (done : List Answered)
    (step : CompositionStep) : List (String × Json) :=
  (Dict.ofList (step.parameterSource.filterMap fun entry =>
    (valueOf proposal done entry.2).map fun value => (entry.1, value))).entries

def unbound (done : List Answered) : ParameterSource → Option String
  | .previousStep name => if (latest done name).isSome then none else some name
  | _ => none

def missing (done : List Answered) (step : CompositionStep) : Option String :=
  step.parameterSource.findSome? fun entry => unbound done entry.2

def capturedBy (done : List Answered) : Dict String Json :=
  .ofList (done.filterMap fun answered =>
    (capturedAs answered.1).map fun name => (name, answered.2.body))

def recordsOf (done : List Answered) : List Execution.StepRecord :=
  done.map fun answered => ⟨answered.1.methodName, answered.2.status, answered.2.body⟩

/-! ## The declared output -/

def outputMembers : Json → List (String × Json)
  | .object members => members
  | _ => []

inductive Aggregates : OutputAggregation → List Json → Json → Prop where
  | last {outputs : List Json} {output : Json} (final : outputs.getLast? = some output) :
      Aggregates .last outputs output
  | merge {outputs : List Json} :
      Aggregates .merge outputs (.object (Dict.ofList (outputs.flatMap outputMembers)).entries)
  | list {outputs : List Json} : Aggregates .list outputs (.array outputs)

theorem foldl_setEntries (members : List (String × Json)) (dictionary : Dict String Json) :
    members.foldl (fun members entry => Dict.setEntries entry.1 entry.2 members)
        dictionary.entries =
      (members.foldl (fun dictionary entry => dictionary.set entry.1 entry.2)
        dictionary).entries := by
  induction members generalizing dictionary with
  | nil => rfl
  | cons entry members induction => exact induction (dictionary.set entry.1 entry.2)

theorem merged_eq (records : List Execution.StepRecord) (dictionary : Dict String Json) :
    records.foldl
        (fun members record =>
          match record.output with
          | .object output => output.foldl
              (fun members entry => Dict.setEntries entry.1 entry.2 members) members
          | _ => members) dictionary.entries =
      (((records.map Execution.StepRecord.output).flatMap outputMembers).foldl
        (fun dictionary entry => dictionary.set entry.1 entry.2) dictionary).entries := by
  induction records generalizing dictionary with
  | nil => rfl
  | cons record records induction =>
      rw [List.foldl_cons, List.map_cons, List.flatMap_cons, List.foldl_append, ← induction,
        ← foldl_setEntries]
      rcases record with ⟨method, status, output⟩
      cases output <;> rfl

theorem aggregates_aggregated (mode : OutputAggregation) {records : List Execution.StepRecord}
    (some : records ≠ []) :
    Aggregates mode (records.map Execution.StepRecord.output)
      (Execution.aggregated mode records) := by
  cases mode with
  | last =>
      apply Aggregates.last
      rw [List.getLast?_map, Execution.aggregated, List.getLast?_eq_some_getLast some]
      rfl
  | merge =>
      have merged := merged_eq records .empty
      rw [Execution.aggregated]
      exact merged ▸ Aggregates.merge
  | list => exact Aggregates.list

/-! ## The environment of a step -/

theorem latest_concat (done : List Answered) (answered : Answered) (name : String) :
    latest (done ++ [answered]) name =
      if capturedAs answered.1 = some name then some answered.2.body else latest done name := by
  rw [latest, List.reverse_concat, List.find?_cons]
  by_cases named : capturedAs answered.1 = some name
  · simp [named]
  · simp [named, latest]

theorem capturedBy_concat (done : List Answered) (answered : Answered) :
    capturedBy (done ++ [answered]) =
      match capturedAs answered.1 with
      | some name => (capturedBy done).set name answered.2.body
      | none => capturedBy done := by
  rw [capturedBy, List.filterMap_append, Dict.ofList, List.foldl_append, List.filterMap_cons]
  cases capturedAs answered.1 <;> rfl

theorem entries_capturedBy (done : List Answered) (answered : Answered) :
    (capturedBy (done ++ [answered])).entries =
      capture answered.1 answered.2.body (capturedBy done).entries := by
  rw [capturedBy_concat, capture, ← capturedAs]
  cases capturedAs answered.1 <;> rfl

theorem get?_capturedBy (done : List Answered) (name : String) :
    (capturedBy done).get? name = latest done name := by
  induction done using List.reverseRecOn with
  | nil => rfl
  | append_singleton done answered induction =>
      rw [latest_concat, capturedBy_concat, ← induction]
      cases capturedAs answered.1 with
      | none => rfl
      | some other =>
          by_cases same : name = other
          · rw [same, if_pos rfl]
            exact Dict.get?_set_same _ _ _
          · rw [if_neg fun equal => same (Option.some.inj equal).symm]
            exact Dict.get?_set_other _ same _

theorem member_capturedBy (done : List Answered) (name : String) :
    Json.member (capturedBy done).entries name = latest done name := by
  have first (entries : List (String × Json)) : Json.member entries name =
      (entries.find? fun entry => entry.1 = name).map Prod.snd := by
    induction entries with
    | nil => rfl
    | cons entry rest induction =>
        rw [Json.member, List.find?_cons]
        by_cases same : entry.1 = name
        · simp [same]
        · simp [same, induction]
  rw [first, ← get?_capturedBy]
  rfl

theorem resolve_sources (proposal : List (String × Json)) (done : List Answered)
    (sources : List (String × ParameterSource)) (resolved : Dict String Json) :
    Execution.resolveParameters proposal (capturedBy done).entries sources resolved.entries =
      match sources.findSome? fun entry => unbound done entry.2 with
      | some name => .error name
      | none => .ok ((sources.filterMap fun entry =>
          (valueOf proposal done entry.2).map fun value => (entry.1, value)).foldl
            (fun dictionary entry => dictionary.set entry.1 entry.2) resolved).entries := by
  induction sources generalizing resolved with
  | nil => rfl
  | cons entry sources induction =>
      rcases entry with ⟨target, source⟩
      rw [List.findSome?_cons, List.filterMap_cons]
      cases source with
      | constant value => exact induction (resolved.set target value)
      | proposal name =>
          rw [Execution.resolveParameters, valueOf]
          cases Json.member proposal name with
          | none => exact induction resolved
          | some value => exact induction (resolved.set target value)
      | previousStep name =>
          rw [Execution.resolveParameters, valueOf, unbound, member_capturedBy]
          cases latest done name with
          | none => rfl
          | some value => exact induction (resolved.set target value)

theorem resolveParameters_eq (proposal : List (String × Json)) (done : List Answered)
    (step : CompositionStep) :
    Execution.resolveParameters proposal (capturedBy done).entries step.parameterSource [] =
      match missing done step with
      | some name => .error name
      | none => .ok (parameters proposal done step) :=
  resolve_sources proposal done step.parameterSource .empty

/-! ## Runs -/

section

variable {App : Type} [TextCase] [TextOf] [BodyCodec] [Digest] [ContractCodec] [Tokens]

def requestOf (original : Request) (done : List Answered) (step : CompositionStep) : Request :=
  Execution.buildStepRequest original step.methodName
    (parameters (Execution.requestParams original) done step)

/-- A step is dispatched when every step before it answered 200 and its references are
bound. -/
structure Dispatchable (done : List Answered) (step : CompositionStep) : Prop where
  succeeded : Succeeded done
  bound : missing done step = none

/-- The steps that the dispatcher was sent, with its answers, and the state that this
leaves. -/
inductive Dispatched (next : Dispatcher App) (original : Request) (agent : AgentDocument)
    (start : State App) : List Answered → State App → Prop where
  | start : Dispatched next original agent start [] start
  | step {done : List Answered} {state : State App} {step : CompositionStep}
      {response : Response} (before : Dispatched next original agent start done state)
      (dispatchable : Dispatchable done step)
      (answered : (next (requestOf original done step) agent state).ending = .value response) :
      Dispatched next original agent start (done ++ [(step, response)])
        (next (requestOf original done step) agent state).state

/-- What a plan answers after the steps that were dispatched. -/
inductive Answers (plan : SynthesisPlan) (synthesisId : String) :
    List Answered → Response → Prop where
  | complete {done : List Answered} (all : done.map Prod.fst = plan.steps)
      (succeeded : Succeeded done)
      (declared : Aggregates plan.outputAggregation (done.map fun answered => answered.2.body)
        (Execution.aggregated plan.outputAggregation (recordsOf done))) :
      Answers plan synthesisId done
        (Execution.successResponse plan synthesisId (recordsOf done))
  | failed {done : List Answered} {step : CompositionStep} {response : Response}
      (succeeded : Succeeded done) (refused : response.status ≠ 200) :
      Answers plan synthesisId (done ++ [(step, response)])
        (Execution.failureResponse plan synthesisId done.length step response
          (capturedBy done).entries
          (recordsOf done ++ [⟨step.methodName, response.status, .null⟩]))
  | unbound {done : List Answered} {step : CompositionStep} {rest : List CompositionStep}
      {name : String} (left : plan.steps = done.map Prod.fst ++ step :: rest)
      (succeeded : Succeeded done) (lacks : missing done step = some name) :
      Answers plan synthesisId done
        (Execution.badReference synthesisId done.length step name).toResponse

/-- A plan ends with an answer, or with the exception of the dispatcher for the next step. -/
inductive Ends (next : Dispatcher App) (plan : SynthesisPlan) (synthesisId : String)
    (original : Request) (agent : AgentDocument) (done : List Answered) (state : State App) :
    Ending Response → State App → Prop where
  | answers {response : Response} (answers : Answers plan synthesisId done response) :
      Ends next plan synthesisId original agent done state (.value response) state
  | stops {step : CompositionStep} {rest : List CompositionStep}
      (left : plan.steps = done.map Prod.fst ++ step :: rest)
      (dispatchable : Dispatchable done step)
      (silent : ∀ response,
        (next (requestOf original done step) agent state).ending ≠ .value response) :
      Ends next plan synthesisId original agent done state
        (next (requestOf original done step) agent state).ending
        (next (requestOf original done step) agent state).state

variable {next : Dispatcher App} {plan : SynthesisPlan} {synthesisId : String}
  {original : Request} {agent : AgentDocument} {start : State App}

omit [TextCase] [TextOf] [BodyCodec] [Digest] [ContractCodec] [Tokens] in
theorem andThen_silent {first : Serving App Response} {after : Response → Serving App Response}
    {state : State App} (silent : ∀ response, (first state).ending ≠ .value response) :
    (andThen first after state).ending = (first state).ending ∧
      (andThen first after state).state = (first state).state := by
  cases ended : (first state).ending with
  | value response => exact absurd ended (silent response)
  | raised => simp [andThen, ended]
  | unfinished => simp [andThen, ended]

theorem runSteps_ends {done : List Answered} {state : State App}
    (rest : List CompositionStep) (dispatched : Dispatched next original agent start done state)
    (succeeded : Succeeded done) (left : plan.steps = done.map Prod.fst ++ rest) :
    ∃ further final, Dispatched next original agent start further final ∧
      further.map Prod.fst <+: plan.steps ∧
      Ends next plan synthesisId original agent further final
        (runSteps next plan synthesisId original agent done.length (capturedBy done).entries
          (recordsOf done) rest state).ending
        (runSteps next plan synthesisId original agent done.length (capturedBy done).entries
          (recordsOf done) rest state).state := by
  have prefix_ : done.map Prod.fst <+: plan.steps := ⟨rest, left.symm⟩
  induction rest generalizing done state with
  | nil =>
      rw [List.append_nil] at left
      refine ⟨done, state, dispatched, prefix_, ?_⟩
      have records : recordsOf done ≠ [] := by
        intro none
        have empty := List.map_eq_nil_iff.mp none
        rw [empty] at left
        exact plan.steps_ne left
      have declared := aggregates_aggregated plan.outputAggregation records
      rw [recordsOf, List.map_map] at declared
      exact .answers (.complete left.symm succeeded declared)
  | cons step rest induction =>
      have resolves := resolveParameters_eq (Execution.requestParams original) done step
      cases lacks : missing done step with
      | some name =>
          rw [lacks] at resolves
          rw [runSteps_unresolved resolves]
          exact ⟨done, state, dispatched, prefix_, .answers (.unbound left succeeded lacks)⟩
      | none =>
          rw [lacks] at resolves
          rw [runSteps_resolved resolves]
          have dispatchable : Dispatchable done step := ⟨succeeded, lacks⟩
          rw [emit_andThen]
          change ∃ further final, _ ∧ _ ∧ Ends next plan synthesisId original agent further final
            (andThen (next (requestOf original done step) agent) _ state).ending
            (andThen (next (requestOf original done step) agent) _ state).state
          by_cases answers : ∃ response,
              (next (requestOf original done step) agent state).ending = .value response
          · rcases answers with ⟨response, ended⟩
            have further := dispatched.step dispatchable ended
            have steps : plan.steps = (done ++ [(step, response)]).map Prod.fst ++ rest := by
              rw [left, List.map_append, List.append_assoc]
              rfl
            rw [andThen_value ended]
            by_cases ok : response.status = 200
            · -- the step succeeded: what is captured and recorded grows by it
              have later : Succeeded (done ++ [(step, response)]) :=
                List.forall_mem_append.mpr ⟨succeeded, List.forall_mem_singleton.mpr ok⟩
              have rest := induction further later steps ⟨rest, steps.symm⟩
              rw [List.length_append, List.length_singleton, entries_capturedBy, recordsOf,
                List.map_append] at rest
              dsimp only
              rw [if_pos ok]
              exact rest
            · dsimp only
              rw [if_neg ok]
              exact ⟨_, _, further, ⟨rest, steps.symm⟩, .answers (.failed succeeded ok)⟩
          · have silent : ∀ response,
                (next (requestOf original done step) agent state).ending ≠ .value response :=
              fun response ended => answers ⟨response, ended⟩
            rw [(andThen_silent silent).1, (andThen_silent silent).2]
            exact ⟨done, state, dispatched, prefix_, .stops left dispatchable silent⟩

def Longest (plan : SynthesisPlan) (done : List Answered) : Prop :=
  ∀ step rest, plan.steps = done.map Prod.fst ++ step :: rest → ¬Dispatchable done step

omit [TextCase] [BodyCodec] [Digest] [ContractCodec] [Tokens] in
theorem Answers.longest {done : List Answered} {response : Response}
    (answers : Answers plan synthesisId done response) : Longest plan done := by
  intro step rest left dispatchable
  cases answers with
  | complete all =>
      rw [all] at left
      have lengths := congrArg List.length left
      rw [List.length_append, List.length_cons] at lengths
      omega
  | failed _ refused =>
      exact refused (dispatchable.succeeded _ (List.mem_append_right _ List.mem_cons_self))
  | unbound next _ lacks =>
      rw [next] at left
      have same := (List.cons.inj (List.append_cancel_left left)).1
      rw [same] at lacks
      cases dispatchable.bound.symm.trans lacks

omit [Digest] [ContractCodec] [Tokens] in
theorem Ends.longest {done : List Answered} {state final : State App}
    {ending : Ending Response}
    (ends : Ends next plan synthesisId original agent done state ending final)
    {response : Response} (answered : ending = .value response) : Longest plan done := by
  cases ends with
  | answers answers => exact answers.longest
  | stops _ _ silent => exact absurd answered (silent response)

end

end Agtp.Serving
