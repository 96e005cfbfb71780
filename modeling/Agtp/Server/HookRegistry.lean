import Agtp.Server.AttributionExtras
import Agtp.Server.Hooks

/-! # Hooks around a handler

What handlers and hooks return, and `_serve_endpoint` from the context on: the
hooks before the handler, the handler, and the hooks after it. -/

namespace Agtp

/-! ## Results -/

structure SemanticBlock where
  impact : String
  isIdempotent : Bool

structure SemanticSpec extends EndpointSpec where
  semantic : Option SemanticBlock

structure EndpointResponse where
  body : List (String × Json)
  status : Int
  headers : List (String × String)
  attributionExtra : Option Attribution.Extras

structure EndpointError where
  code : String
  message : String
  details : Option Json

inductive EndpointResult where
  | response (response : EndpointResponse)
  | error (error : EndpointError)
  | wire (response : Response)

/-- The `attribution_extra` that `_translate_endpoint_result` hands on. An output
that its schema refuses is answered without one. -/
def recordedExtra [SchemaValidator] (spec : SemanticSpec) :
    EndpointResult → Option Attribution.Extras
  | .response response =>
      if (SchemaValidator.validateOutput spec.toEndpointSpec response.body).isSome then none
      else response.attributionExtra
  | .error _ | .wire _ => none

/-! ## Hooks -/

/-- How `before_dispatch` ends. -/
inductive BeforeOutcome where
  | passed
  | answered (result : EndpointResult)
  | raised
  | aborted

/-- How `after_dispatch` ends. What it returns is ignored. -/
inductive AfterOutcome where
  | returned
  | raised
  | aborted

structure DispatchHook (World : Type) where
  before : SemanticSpec → EndpointContext → World → BeforeOutcome × World
  after : SemanticSpec → EndpointContext → EndpointResult → World → AfterOutcome × World

namespace DispatchHook

def gate {World : Type} (refuses : EndpointContext → Option EndpointResult) :
    DispatchHook World where
  before := fun _ context world =>
    match refuses context with
    | some result => (.answered result, world)
    | none => (.passed, world)
  after := fun _ _ _ world => (.returned, world)

end DispatchHook

namespace HookRegistry

variable {World : Type}

def runBefore (spec : SemanticSpec) (context : EndpointContext) :
    List (DispatchHook World) → World → Except Unit (Option EndpointResult) × World
  | [], world => (.ok none, world)
  | hook :: rest, world =>
      match hook.before spec context world with
      | (.passed, after) => runBefore spec context rest after
      | (.answered result, after) => (.ok (some result), after)
      | (.raised, after) => runBefore spec context rest after
      | (.aborted, after) => (.error (), after)

/-- `run_after`; `false` is an abortion, which keeps the later hooks from
running. -/
def runAfter (spec : SemanticSpec) (context : EndpointContext) (result : EndpointResult) :
    List (DispatchHook World) → World → Bool × World
  | [], world => (true, world)
  | hook :: rest, world =>
      match hook.after spec context result world with
      | (.returned, after) => runAfter spec context result rest after
      | (.raised, after) => runAfter spec context result rest after
      | (.aborted, after) => (false, after)

theorem runBefore_append (spec : SemanticSpec) (context : EndpointContext)
    (first rest : List (DispatchHook World)) (world : World) :
    runBefore spec context (first ++ rest) world =
      match runBefore spec context first world with
      | (.ok none, after) => runBefore spec context rest after
      | ended => ended := by
  induction first generalizing world with
  | nil => rfl
  | cons hook first induction =>
      simp only [List.cons_append, runBefore]
      split
      · exact induction _
      · rfl
      · exact induction _
      · rfl

theorem runAfter_append (spec : SemanticSpec) (context : EndpointContext)
    (result : EndpointResult) (first rest : List (DispatchHook World)) (world : World) :
    runAfter spec context result (first ++ rest) world =
      match runAfter spec context result first world with
      | (true, after) => runAfter spec context result rest after
      | ended => ended := by
  induction first generalizing world with
  | nil => rfl
  | cons hook first induction =>
      simp only [List.cons_append, runAfter]
      split
      · exact induction _
      · exact induction _
      · rfl

theorem runBefore_append_none {spec : SemanticSpec} {context : EndpointContext}
    {first rest : List (DispatchHook World)} {world : World} :
    (runBefore spec context (first ++ rest) world).1 = .ok none ↔
      (runBefore spec context first world).1 = .ok none ∧
        (runBefore spec context rest (runBefore spec context first world).2).1 =
          .ok none := by
  rw [runBefore_append]
  split
  · next passed => simp [passed]
  · next stopped =>
      constructor
      · intro passed
        exact (stopped _ (Prod.ext passed rfl)).elim
      · rintro ⟨passed, _⟩
        exact (stopped _ (Prod.ext passed rfl)).elim

end HookRegistry

/-! ## Serving -/

/-- What becomes of a request in `_serve_endpoint`: it is answered, its handler
raises, or a hook aborts it. -/
inductive Handling where
  | answered (result : EndpointResult)
  | failed
  | aborted

abbrev ServingHandler (World : Type) := EndpointContext → World → Option EndpointResult × World

variable {World : Type}

def handling (hooks : List (DispatchHook World)) (handler : ServingHandler World)
    (spec : SemanticSpec) (context : EndpointContext) (world : World) : Handling × World :=
  match HookRegistry.runBefore spec context hooks world with
  | (.error _, after) => (.aborted, after)
  | (.ok (some result), after) => (.answered result, after)
  | (.ok none, after) =>
      match handler context after with
      | (some result, later) => (.answered result, later)
      | (none, later) => (.failed, later)

/-- `_serve_endpoint` from the context on. A handler that raises is answered at
once. -/
def serveWithHooks (hooks : List (DispatchHook World)) (handler : ServingHandler World)
    (spec : SemanticSpec) (context : EndpointContext) (world : World) : Handling × World :=
  match handling hooks handler spec context world with
  | (.answered result, after) =>
      match HookRegistry.runAfter spec context result hooks after with
      | (true, later) => (.answered result, later)
      | (false, later) => (.aborted, later)
  | ended => ended

end Agtp
