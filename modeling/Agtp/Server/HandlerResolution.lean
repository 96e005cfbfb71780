import Agtp.Server.Dispatch

/-! # Resolution of composition handlers

`resolve_composition`: the handler of an endpoint that is bound to a recipe, built
at startup from the recipes of the synthesis runtime. -/

namespace Agtp

structure Recipe where
  name : String
  description : String
  steps : List CompositionStep
  steps_ne : steps ≠ []
  outputAggregation : OutputAggregation

structure InvalidHandlerError where
  message : String
  detail : String
  deriving DecidableEq

namespace HandlerResolution

variable {App : Type} [TextCase] [TextOf] {catalog : Catalog}

def getRecipe (recipes : List Recipe) (name : String) : Option Recipe :=
  recipes.find? (·.name = name)

def missingStepMethods (methods : MethodRegistry catalog (MethodHandler App))
    (recipe : Recipe) : List String :=
  (recipe.steps.map CompositionStep.methodName).filter (!methods.contains ·)

/-- The plan that the handler captures. Of the proposed method, its execution reads
the name and the path. -/
def recipePlan (spec : EndpointSpec) (recipe : Recipe) : SynthesisPlan where
  proposedMethod := ⟨spec.name, some spec.path, [], []⟩
  steps := recipe.steps
  steps_ne := recipe.steps_ne
  outputAggregation := recipe.outputAggregation
  description := some recipe.description
  policyName := some "recipes"
  recipeName := none
  recipeVersion := none

def orNone (names : List String) : String :=
  if names = [] then "(none)" else Status.joined names

def resolveComposition (runtime : Option (List Recipe))
    (methods : MethodRegistry catalog (MethodHandler App)) (reference : String)
    (spec : Option EndpointSpec) :
    Except InvalidHandlerError (EndpointHandler App) :=
  if reference = "" then
    .error ⟨"composition handler reference is empty", "empty-reference"⟩
  else
    match spec, runtime with
    | none, _ => .error ⟨
        s!"resolve_composition for recipe {TextOf.quoted reference} requires " ++
        "the originating EndpointSpec — composition handlers " ++
        "build a SynthesisPlan whose proposed_method is the endpoint's spec",
        "composition-needs-spec"⟩
    | some _, none => .error ⟨
        s!"composition handler references recipe {TextOf.quoted reference}, " ++
        "but no synthesis runtime is attached to the server",
        "runtime-not-configured"⟩
    | some spec, some recipes =>
        match getRecipe recipes reference with
        | none => .error ⟨
            s!"composition handler references recipe {TextOf.quoted reference}, " ++
            "but no such recipe is registered. Available recipes: " ++
            orNone (recipes.map Recipe.name), "recipe-not-found"⟩
        | some recipe =>
            if missingStepMethods methods recipe ≠ [] then
              .error ⟨
                s!"composition recipe {TextOf.quoted reference} references step " ++
                "method(s) not registered on this server: " ++
                s!"{Status.joined (missingStepMethods methods recipe)}. " ++
                "Either register a handler for each, or remove the " ++
                "step from the recipe.", "recipe-step-method-missing"⟩
            else if "composition_failed" ∉ spec.errors then
              .error ⟨
                s!"composition endpoint ({spec.name}, {spec.path}) must " ++
                "declare 'composition_failed' in its errors list so the " ++
                "handler can surface step-failure shapes",
                "composition-missing-error-code"⟩
            else .ok (.composition spec reference (recipePlan spec recipe))

def Resolved (runtime : Option (List Recipe)) (server : RunningServer App) : Prop :=
  ∀ entry ∈ server.endpoints.entries.entries, ∀ spec recipe plan,
    entry.2.2 = some (.composition spec recipe plan) →
      resolveComposition runtime server.methods recipe (some entry.2.1) =
        .ok (.composition spec recipe plan)

end HandlerResolution

end Agtp
