import Agtp.Synthesis.Runtime

/-! # Which policy composes, and which recipe is current

Policies are asked in turn, and the first admissible plan is taken. A plan that does not
name its policy is built again, and loses the recipe it came from. The recipe that decides
whether a contract is stale is the last one of its name over all policies, while the one
that composes is the first. -/

namespace Agtp.Synthesis

/-! ## Policies -/

/-- A policy as the runtime calls it. Both calls may raise, and a policy may have no
name. -/
structure Policy where
  name : Option String
  canFulfill : Proposal → List AvailableMethod → Except Unit Bool
  compose : Proposal → List AvailableMethod → Except Unit (Option SynthesisPlan)

def Policy.composed (policy : Policy) (proposal : Proposal) (available : List AvailableMethod) :
    Option SynthesisPlan :=
  match policy.canFulfill proposal available with
  | .ok true =>
      match policy.compose proposal available with
      | .ok plan => plan
      | .error () => none
  | _ => none

def Policy.tag (policy : Policy) (plan : SynthesisPlan) : SynthesisPlan :=
  match plan.policyName with
  | some _ => plan
  | none =>
      { plan with
        policyName := policy.name
        recipeName := none
        recipeVersion := none }

def isAdmissible (maxSynthesisDepth : Int) (available : List AvailableMethod)
    (plan : SynthesisPlan) : Bool :=
  plan.steps.all ((available.map AvailableMethod.name).contains ·.methodName) &&
    !(0 < maxSynthesisDepth && maxSynthesisDepth < plan.steps.length)

def attempt (maxSynthesisDepth : Int) (proposal : Proposal) (available : List AvailableMethod) :
    List Policy → Option SynthesisPlan
  | [] => none
  | policy :: rest =>
      match policy.composed proposal available with
      | none => attempt maxSynthesisDepth proposal available rest
      | some plan =>
          if isAdmissible maxSynthesisDepth available (policy.tag plan) then
            some (policy.tag plan)
          else attempt maxSynthesisDepth proposal available rest

/-! ## Recipes -/

structure Proposed where
  name : String
  category : String
  parameterNames : List String
  path : Option String

/-- `re.match(pattern, text)`; `none` is an invalid pattern. -/
class PatternText where
  matchesStart : String → String → Option Bool

structure RecipePattern where
  nameExact : Option String
  nameRegex : Option String
  category : Option String
  hasParameters : Option (List String)
  pathExact : Option String
  pathRegex : Option String

structure Recipe where
  name : String
  description : String
  pattern : RecipePattern
  steps : List CompositionStep
  steps_ne : steps ≠ []
  outputAggregation : OutputAggregation
  version : String

section Recipes

variable [PatternText]

def matchesText (pattern : Option String) (text : String) : Except Unit Bool :=
  match pattern with
  | none => .ok true
  | some pattern => (PatternText.matchesStart pattern text).elim (.error ()) .ok

def Proposed.shownPath (proposed : Proposed) : String :=
  match proposed.path with
  | some path => if path = "" then "/" else path
  | none => "/"

def RecipePattern.matches (pattern : RecipePattern) (proposed : Proposed) : Except Unit Bool :=
  if pattern.nameExact.any (· ≠ proposed.name) then .ok false
  else
    match matchesText pattern.nameRegex proposed.name with
    | .ok true =>
        if pattern.category.any (· ≠ proposed.category) then .ok false
        else if !(pattern.hasParameters.all fun names =>
            names.all proposed.parameterNames.contains) then .ok false
        else if pattern.pathExact.any (· ≠ proposed.shownPath) then .ok false
        else matchesText pattern.pathRegex proposed.shownPath
    | other => other

def anyMatches (proposed : Proposed) : List Recipe → Except Unit Bool
  | [] => .ok false
  | recipe :: rest =>
      match recipe.pattern.matches proposed with
      | .ok false => anyMatches proposed rest
      | other => other

/-- The recipe's plan. It carries the recipe's name and version. -/
def Recipe.plan (recipe : Recipe) (proposal : Proposal) : SynthesisPlan where
  proposedMethod := proposal
  steps := recipe.steps
  steps_ne := recipe.steps_ne
  outputAggregation := recipe.outputAggregation
  description := some recipe.description
  policyName := some "recipes"
  recipeName := some recipe.name
  recipeVersion := some recipe.version

def composeRecipe (proposed : Proposed) (proposal : Proposal) (available : List AvailableMethod) :
    List Recipe → Except Unit (Option SynthesisPlan)
  | [] => .ok none
  | recipe :: rest =>
      match recipe.pattern.matches proposed with
      | .error failure => .error failure
      | .ok false => composeRecipe proposed proposal available rest
      | .ok true =>
          if recipe.steps.all ((available.map AvailableMethod.name).contains ·.methodName) then
            .ok (some (recipe.plan proposal))
          else composeRecipe proposed proposal available rest

def recipePolicy (recipes : List Recipe) (seen : Proposal → Proposed) : Policy where
  name := some "recipes"
  canFulfill := fun proposal _ => anyMatches (seen proposal) recipes
  compose := fun proposal available =>
    composeRecipe (seen proposal) proposal available recipes

theorem composeRecipe_eq_some {proposed : Proposed} {proposal : Proposal}
    {available : List AvailableMethod} {recipes : List Recipe} {plan : SynthesisPlan}
    (composed : composeRecipe proposed proposal available recipes = .ok (some plan)) :
    ∃ recipe ∈ recipes, plan = recipe.plan proposal := by
  induction recipes with
  | nil => cases composed
  | cons recipe rest induction =>
      rw [composeRecipe] at composed
      have later (found : composeRecipe proposed proposal available rest = .ok (some plan)) :
          ∃ other ∈ recipe :: rest, plan = other.plan proposal := by
        rcases induction found with ⟨other, member, same⟩
        exact ⟨other, List.mem_cons_of_mem recipe member, same⟩
      split at composed
      · cases composed
      · exact later composed
      · split at composed
        · cases composed
          exact ⟨recipe, List.mem_cons_self, rfl⟩
        · exact later composed

end Recipes

/-! ## The first admissible plan -/

structure Admits (maxSynthesisDepth : Int) (proposal : Proposal)
    (available : List AvailableMethod) (policy : Policy) (plan : SynthesisPlan) : Prop where
  fulfils : policy.canFulfill proposal available = .ok true
  composes : policy.compose proposal available = .ok (some plan)
  available : ∀ step ∈ plan.steps, step.methodName ∈ available.map AvailableMethod.name
  short : 0 < maxSynthesisDepth → plan.steps.length ≤ maxSynthesisDepth

/-- The first policy of a list that composes a plan that may be used. -/
inductive First (maxSynthesisDepth : Int) (proposal : Proposal)
    (available : List AvailableMethod) : List Policy → Policy → SynthesisPlan → Prop where
  | here {policy : Policy} {rest : List Policy} {plan : SynthesisPlan}
      (admits : Admits maxSynthesisDepth proposal available policy plan) :
      First maxSynthesisDepth proposal available (policy :: rest) policy plan
  | later {declines policy : Policy} {rest : List Policy} {plan : SynthesisPlan}
      (none : ∀ plan, ¬Admits maxSynthesisDepth proposal available declines plan)
      (first : First maxSynthesisDepth proposal available rest policy plan) :
      First maxSynthesisDepth proposal available (declines :: rest) policy plan

variable {maxSynthesisDepth : Int} {proposal : Proposal} {available : List AvailableMethod}

theorem composed_eq_some_iff {policy : Policy} {plan : SynthesisPlan} :
    policy.composed proposal available = some plan ↔
      policy.canFulfill proposal available = .ok true ∧
        policy.compose proposal available = .ok (some plan) := by
  rw [Policy.composed]
  split
  · next fulfils =>
      split
      · next composes =>
          simp only [fulfils, composes, Except.ok.injEq, true_and]
      · next raises => simp [raises]
  · next declines =>
      constructor
      · exact nofun
      · exact fun both => absurd both.1 declines

theorem tag_keeps (policy : Policy) (plan : SynthesisPlan) :
    (policy.tag plan).steps = plan.steps ∧
      (policy.tag plan).proposedMethod = plan.proposedMethod ∧
      (policy.tag plan).outputAggregation = plan.outputAggregation ∧
      (policy.tag plan).description = plan.description ∧
      (policy.tag plan).policyName = plan.policyName.or policy.name := by
  rw [Policy.tag]
  split
  · next named => exact ⟨rfl, rfl, rfl, rfl, by rw [named]; rfl⟩
  · next unnamed => exact ⟨rfl, rfl, rfl, rfl, by rw [unnamed]; rfl⟩

theorem isAdmissible_iff {plan : SynthesisPlan} :
    isAdmissible maxSynthesisDepth available plan = true ↔
      (∀ step ∈ plan.steps, step.methodName ∈ available.map AvailableMethod.name) ∧
        (0 < maxSynthesisDepth → plan.steps.length ≤ maxSynthesisDepth) := by
  simp only [isAdmissible, Bool.and_eq_true, List.all_eq_true, List.contains_iff_mem,
    Bool.not_eq_true', Bool.and_eq_false_iff, decide_eq_false_iff_not]
  apply and_congr_right
  intro _
  omega

theorem admits_iff {policy : Policy} {plan : SynthesisPlan} :
    Admits maxSynthesisDepth proposal available policy plan ↔
      policy.composed proposal available = some plan ∧
        isAdmissible maxSynthesisDepth available (policy.tag plan) = true := by
  rw [composed_eq_some_iff, isAdmissible_iff, (tag_keeps policy plan).1]
  constructor
  · exact fun ⟨fulfils, composes, available, short⟩ => ⟨⟨fulfils, composes⟩, available, short⟩
  · exact fun ⟨⟨fulfils, composes⟩, available, short⟩ => ⟨fulfils, composes, available, short⟩

theorem attempt_eq_some_iff {policies : List Policy} {result : SynthesisPlan} :
    attempt maxSynthesisDepth proposal available policies = some result ↔
      ∃ policy plan, First maxSynthesisDepth proposal available policies policy plan ∧
        result = policy.tag plan := by
  induction policies with
  | nil => exact iff_of_false nofun fun ⟨_, _, first, _⟩ => nomatch first
  | cons policy rest induction =>
      rw [attempt]
      have passes (declines : ∀ plan, ¬Admits maxSynthesisDepth proposal available policy plan) :
          attempt maxSynthesisDepth proposal available rest = some result ↔
            ∃ chosen plan,
              First maxSynthesisDepth proposal available (policy :: rest) chosen plan ∧
                result = chosen.tag plan := by
        rw [induction]
        constructor
        · exact fun ⟨chosen, plan, first, same⟩ => ⟨chosen, plan, .later declines first, same⟩
        · intro ⟨chosen, plan, first, same⟩
          cases first with
          | here admits => exact absurd admits (declines plan)
          | later _ first => exact ⟨chosen, plan, first, same⟩
      cases composed : policy.composed proposal available with
      | none =>
          apply passes
          intro plan admits
          cases composed.symm.trans (admits_iff.mp admits).1
      | some plan =>
          dsimp only
          split
          · next admissible =>
              have admits := admits_iff.mpr ⟨composed, admissible⟩
              constructor
              · exact fun same => ⟨policy, plan, .here admits, (Option.some.inj same).symm⟩
              · intro ⟨chosen, other, first, same⟩
                cases first with
                | here also =>
                    have equal := Option.some.inj (composed.symm.trans (admits_iff.mp also).1)
                    rw [same, equal]
                | later declines => exact absurd admits (declines plan)
          · next refused =>
              apply passes
              intro other admits
              rcases admits_iff.mp admits with ⟨same, admissible⟩
              rw [Option.some.inj (composed.symm.trans same)] at refused
              exact refused admissible

/-! ## What is kept of a plan -/

structure KeepsPlan (plan result : SynthesisPlan) : Prop where
  steps : result.steps = plan.steps
  aggregation : result.outputAggregation = plan.outputAggregation
  description : result.description = plan.description
  proposed : result.proposedMethod = plan.proposedMethod
  recipeName : result.recipeName = plan.recipeName
  recipeVersion : result.recipeVersion = plan.recipeVersion
  policyName : plan.policyName ≠ none → result.policyName = plan.policyName

def NamesPolicy (plan : SynthesisPlan) : Prop :=
  plan.policyName ≠ none ∨ (plan.recipeName = none ∧ plan.recipeVersion = none)

theorem keepsPlan_tag_iff (policy : Policy) (plan : SynthesisPlan) :
    KeepsPlan plan (policy.tag plan) ↔ NamesPolicy plan := by
  rw [Policy.tag, NamesPolicy]
  cases named : plan.policyName with
  | some name =>
      have kept : KeepsPlan plan plan := ⟨rfl, rfl, rfl, rfl, rfl, rfl, fun _ => rfl⟩
      exact iff_of_true kept (.inl (Option.some_ne_none name))
  | none =>
      constructor
      · exact fun keeps => .inr ⟨keeps.recipeName.symm, keeps.recipeVersion.symm⟩
      · intro plain
        rcases plain with absurd | ⟨noName, noVersion⟩
        · exact (absurd rfl).elim
        · exact ⟨rfl, rfl, rfl, rfl, noName.symm, noVersion.symm, fun some => (some named).elim⟩

/-- The synthesis is the plan of the first policy that admits one, and nothing where none
does. -/
def Selects (maxSynthesisDepth : Int) (proposal : Proposal) (available : List AvailableMethod)
    (policies : List Policy) (result : Option SynthesisPlan) : Prop :=
  (result = none ↔ ∀ policy ∈ policies, ∀ plan,
    ¬Admits maxSynthesisDepth proposal available policy plan) ∧
  ∀ selected, result = some selected → ∃ policy plan,
    First maxSynthesisDepth proposal available policies policy plan ∧ KeepsPlan plan selected

theorem exists_first_iff {policies : List Policy} :
    (∃ policy plan, First maxSynthesisDepth proposal available policies policy plan) ↔
      ∃ policy ∈ policies, ∃ plan, Admits maxSynthesisDepth proposal available policy plan := by
  induction policies with
  | nil => exact iff_of_false (fun ⟨_, _, first⟩ => nomatch first) fun ⟨_, member, _⟩ =>
      nomatch member
  | cons policy rest induction =>
      by_cases admits : ∃ plan, Admits maxSynthesisDepth proposal available policy plan
      · rcases admits with ⟨plan, admits⟩
        exact iff_of_true ⟨policy, plan, .here admits⟩ ⟨policy, List.mem_cons_self, plan, admits⟩
      · have declines : ∀ plan, ¬Admits maxSynthesisDepth proposal available policy plan :=
          fun plan held => admits ⟨plan, held⟩
        constructor
        · intro ⟨chosen, plan, first⟩
          cases first with
          | here held => exact absurd held (declines plan)
          | later _ first =>
              rcases induction.mp ⟨chosen, plan, first⟩ with ⟨other, member, held⟩
              exact ⟨other, List.mem_cons_of_mem policy member, held⟩
        · intro ⟨other, member, held⟩
          rcases List.mem_cons.mp member with rfl | later
          · exact absurd held admits
          · rcases induction.mpr ⟨other, later, held⟩ with ⟨chosen, plan, first⟩
            exact ⟨chosen, plan, .later declines first⟩

theorem First.unique {policies : List Policy} {policy other : Policy}
    {plan otherPlan : SynthesisPlan}
    (first : First maxSynthesisDepth proposal available policies policy plan)
    (also : First maxSynthesisDepth proposal available policies other otherPlan) :
    policy = other ∧ plan = otherPlan := by
  induction first with
  | here admits =>
      cases also with
      | here same =>
          have equal := admits.composes.symm.trans same.composes
          exact ⟨rfl, Option.some.inj (Except.ok.inj equal)⟩
      | later declines => exact absurd admits (declines _)
  | later declines _ induction =>
      cases also with
      | here admits => exact absurd admits (declines _)
      | later _ also => exact induction also

theorem attempt_eq_none_iff {policies : List Policy} :
    attempt maxSynthesisDepth proposal available policies = none ↔
      ∀ policy ∈ policies, ∀ plan,
        ¬Admits maxSynthesisDepth proposal available policy plan := by
  constructor
  · intro nothing policy member plan admits
    rcases exists_first_iff.mpr ⟨policy, member, plan, admits⟩ with ⟨chosen, other, first⟩
    cases nothing.symm.trans (attempt_eq_some_iff.mpr ⟨chosen, other, first, rfl⟩)
  · intro declined
    cases attempted : attempt maxSynthesisDepth proposal available policies with
    | none => rfl
    | some result =>
        rcases attempt_eq_some_iff.mp attempted with ⟨policy, plan, first, _⟩
        rcases exists_first_iff.mp ⟨policy, plan, first⟩ with ⟨other, member, held, admits⟩
        exact absurd admits (declined other member held)

/-- Selection returns the policy's own plan exactly if that names its policy, or comes from
no recipe. -/
theorem attempt_selects_iff (maxSynthesisDepth : Int) (proposal : Proposal)
    (available : List AvailableMethod) (policies : List Policy) :
    Selects maxSynthesisDepth proposal available policies
        (attempt maxSynthesisDepth proposal available policies) ↔
      ∀ policy plan, First maxSynthesisDepth proposal available policies policy plan →
        NamesPolicy plan := by
  constructor
  · intro ⟨_, selects⟩ policy plan first
    have selected := attempt_eq_some_iff.mpr ⟨policy, plan, first, rfl⟩
    rcases selects _ selected with ⟨other, otherPlan, also, keeps⟩
    rw [← (first.unique also).2] at keeps
    exact (keepsPlan_tag_iff policy plan).mp keeps
  · intro named
    refine ⟨attempt_eq_none_iff, ?_⟩
    intro selected attempted
    rcases attempt_eq_some_iff.mp attempted with ⟨policy, plan, first, same⟩
    exact ⟨policy, plan, first, same ▸ (keepsPlan_tag_iff policy plan).mpr (named policy plan first)⟩

theorem namesPolicy_of_recipes [PatternText] {recipes : List Recipe}
    {seen : Proposal → Proposed} {plan : SynthesisPlan}
    (admits : Admits maxSynthesisDepth proposal available (recipePolicy recipes seen) plan) :
    NamesPolicy plan := by
  rcases composeRecipe_eq_some admits.composes with ⟨recipe, _, same⟩
  rw [same]
  exact .inl (Option.some_ne_none "recipes")

/-! ## The policies of the runtime -/

def Policy.quiet (recipes : Policy → List (String × String)) (policy : Policy) :
    CompositionPolicy where
  name := policy.name.getD ""
  recipes := recipes policy
  compose := policy.composed

theorem attempt_eq_attemptSynthesis (recipes : Policy → List (String × String))
    {policies : List Policy} (named : ∀ policy ∈ policies, policy.name ≠ none) (maxDepth : Nat)
    (proposal : Proposal) (available : List AvailableMethod) :
    attempt maxDepth proposal available policies =
      attemptSynthesis (policies.map (Policy.quiet recipes)) maxDepth proposal available := by
  induction policies with
  | nil => rfl
  | cons policy rest induction =>
      have rest := induction fun other member => named other (List.mem_cons_of_mem policy member)
      rw [attempt, attemptSynthesis, List.map_cons, List.findSome?_cons, ← attemptSynthesis, ← rest]
      rcases Option.ne_none_iff_exists'.mp (named policy List.mem_cons_self) with ⟨name, named⟩
      cases composed : policy.composed proposal available with
      | none => simp [Policy.quiet, composed]
      | some plan =>
          have tagged : taggedPlan (policy.quiet recipes) plan = policy.tag plan := by
            rw [taggedPlan, Policy.tag, Policy.quiet, named]
            rfl
          have admissible : isAdmissible maxDepth available (policy.tag plan) =
              (plan.steps.all ((available.map AvailableMethod.name).contains ·.methodName) &&
                (maxDepth == 0 || decide (plan.steps.length ≤ maxDepth))) := by
            rw [isAdmissible, (tag_keeps policy plan).1]
            congr 1
            rw [Bool.eq_iff_iff]
            simp only [Bool.not_eq_true', Bool.and_eq_false_iff, decide_eq_false_iff_not,
              Bool.or_eq_true, beq_iff_eq, decide_eq_true_eq]
            omega
          have quiet : (policy.quiet recipes).compose proposal available = some plan := composed
          rw [quiet, Option.bind_some, tagged]
          dsimp only
          rw [admissible]
          split <;> rfl

/-! ## Sweeps -/

def composingVersion (policies : List CompositionPolicy) (name : String) : Option String :=
  ((policies.flatMap CompositionPolicy.recipes).find? (·.1 = name)).map Prod.snd

def sweptVersion (policies : List CompositionPolicy) (name : String) : Option String :=
  (policies.flatMap CompositionPolicy.recipes).reverse.lookup name

inductive SweepMode where
  | grandfather
  | invalidate

structure SweepRecord where
  synthesisId : String
  originatingAgentId : Option String
  contractHash : Option String
  negotiationOrigin : String
  method : String
  path : String
  recipeName : Option String
  capturedVersion : Option String
  currentVersion : Option String
  action : String

def SweepMode.action : SweepMode → String
  | .grandfather => "grandfathered"
  | .invalidate => "evicted"

def sweepRecord (policies : List CompositionPolicy) (mode : SweepMode)
    (runtime : SynthesisRuntime) (id : String) (plan : SynthesisPlan) : SweepRecord where
  synthesisId := id
  originatingAgentId := SynthesisRuntime.nonempty (runtime.originatingAgentId id)
  contractHash := SynthesisRuntime.nonempty (runtime.contractHash id)
  negotiationOrigin := runtime.negotiationOrigin id
  method := plan.proposedMethod.name
  path := plan.boundPath
  recipeName := plan.recipeName
  capturedVersion := plan.recipeVersion
  currentVersion := plan.recipeName.bind (sweptVersion policies)
  action := mode.action

def SweepMode.leaves (mode : SweepMode) (runtime : SynthesisRuntime) (id : String) :
    SynthesisRuntime :=
  match mode with
  | .grandfather => runtime
  | .invalidate => runtime.expire id

def sweepIds (policies : List CompositionPolicy) (mode : SweepMode) :
    List String → SynthesisRuntime → SynthesisRuntime × List SweepRecord
  | [], runtime => (runtime, [])
  | id :: rest, runtime =>
      match runtime.active.get? id with
      | none => sweepIds policies mode rest runtime
      | some plan =>
          if SynthesisRuntime.isStale (policies.flatMap CompositionPolicy.recipes) plan then
            let swept := sweepIds policies mode rest (mode.leaves runtime id)
            (swept.1, sweepRecord policies mode runtime id plan :: swept.2)
          else sweepIds policies mode rest runtime

def sweepForPolicyChange (policies : List CompositionPolicy) (mode : SweepMode)
    (runtime : SynthesisRuntime) : SynthesisRuntime × List SweepRecord :=
  sweepIds policies mode runtime.active.keys runtime

def reported (records : List SweepRecord) : List String :=
  records.map SweepRecord.synthesisId

def IsSwept (policies : List CompositionPolicy) (runtime : SynthesisRuntime) (id : String) :
    Prop :=
  ∃ plan name, runtime.active.get? id = some plan ∧ plan.recipeName = some name ∧
    sweptVersion policies name ≠ plan.recipeVersion

def HasDrifted (policies : List CompositionPolicy) (runtime : SynthesisRuntime) (id : String) :
    Prop :=
  ∃ plan name, runtime.active.get? id = some plan ∧ plan.recipeName = some name ∧
    composingVersion policies name ≠ plan.recipeVersion

/-- All tables agree on the id. -/
structure Alike (runtime other : SynthesisRuntime) (id : String) : Prop where
  active : other.active.get? id = runtime.active.get? id
  expiresAt : other.expiresAt.get? id = runtime.expiresAt.get? id
  persistent : id ∈ other.persistent ↔ id ∈ runtime.persistent
  originating : other.originating.get? id = runtime.originating.get? id
  contractHashes : other.contractHashes.get? id = runtime.contractHashes.get? id
  origin : other.origin.get? id = runtime.origin.get? id
  legacy : id ∈ other.legacy ↔ id ∈ runtime.legacy

theorem Alike.refl (runtime : SynthesisRuntime) (id : String) : Alike runtime runtime id :=
  ⟨rfl, rfl, Iff.rfl, rfl, rfl, rfl, Iff.rfl⟩

theorem Alike.trans {first second third : SynthesisRuntime} {id : String}
    (before : Alike first second id) (after : Alike second third id) : Alike first third id where
  active := after.active.trans before.active
  expiresAt := after.expiresAt.trans before.expiresAt
  persistent := after.persistent.trans before.persistent
  originating := after.originating.trans before.originating
  contractHashes := after.contractHashes.trans before.contractHashes
  origin := after.origin.trans before.origin
  legacy := after.legacy.trans before.legacy

theorem alike_leaves (mode : SweepMode) (runtime : SynthesisRuntime) {id other : String}
    (different : other ≠ id) : Alike runtime (mode.leaves runtime id) other := by
  cases mode with
  | grandfather => exact Alike.refl runtime other
  | invalidate =>
      exact {
        active := Dict.get?_erase_other _ different
        expiresAt := Dict.get?_erase_other _ different
        persistent := by simp [SweepMode.leaves, SynthesisRuntime.expire, different]
        originating := Dict.get?_erase_other _ different
        contractHashes := Dict.get?_erase_other _ different
        origin := Dict.get?_erase_other _ different
        legacy := by simp [SweepMode.leaves, SynthesisRuntime.expire, different] }

/-- No table knows the id. -/
structure Gone (runtime : SynthesisRuntime) (id : String) : Prop where
  unknown : runtime.Unknown id
  persistent : id ∉ runtime.persistent
  origin : runtime.origin.get? id = none
  legacy : id ∉ runtime.legacy

theorem gone_expire (runtime : SynthesisRuntime) (id : String) : Gone (runtime.expire id) id where
  unknown := ⟨Dict.get?_erase_same _ _, Dict.get?_erase_same _ _, Dict.get?_erase_same _ _,
    Dict.get?_erase_same _ _⟩
  persistent := by simp [SynthesisRuntime.expire]
  origin := Dict.get?_erase_same _ _
  legacy := by simp [SynthesisRuntime.expire]

theorem Gone.alike {runtime other : SynthesisRuntime} {id : String} (gone : Gone runtime id)
    (alike : Alike runtime other id) : Gone other id where
  unknown := ⟨alike.active.trans gone.unknown.active,
    alike.expiresAt.trans gone.unknown.expiresAt,
    alike.originating.trans gone.unknown.originating,
    alike.contractHashes.trans gone.unknown.contractHashes⟩
  persistent := fun member => gone.persistent (alike.persistent.mp member)
  origin := alike.origin.trans gone.origin
  legacy := fun member => gone.legacy (alike.legacy.mp member)

theorem isStale_iff {policies : List CompositionPolicy} {plan : SynthesisPlan} :
    SynthesisRuntime.isStale (policies.flatMap CompositionPolicy.recipes) plan = true ↔
      ∃ name, plan.recipeName = some name ∧ sweptVersion policies name ≠ plan.recipeVersion := by
  rw [SynthesisRuntime.isStale]
  cases plan.recipeName with
  | none => simp
  | some name => simp [sweptVersion]

theorem isSwept_iff {policies : List CompositionPolicy} {runtime : SynthesisRuntime}
    {id : String} {plan : SynthesisPlan} (active : runtime.active.get? id = some plan) :
    IsSwept policies runtime id ↔
      SynthesisRuntime.isStale (policies.flatMap CompositionPolicy.recipes) plan = true := by
  rw [isStale_iff, IsSwept, active]
  simp only [Option.some.injEq, exists_and_left, exists_eq_left']

theorem IsSwept.congr {policies : List CompositionPolicy} {runtime other : SynthesisRuntime}
    {id : String} (alike : Alike runtime other id) :
    IsSwept policies other id ↔ IsSwept policies runtime id := by
  rw [IsSwept, IsSwept, alike.active]

section

variable {policies : List CompositionPolicy}

theorem sweepIds_reports (mode : SweepMode) {ids : List String} (distinct : ids.Nodup)
    (runtime : SynthesisRuntime) :
    (∀ id, id ∈ reported (sweepIds policies mode ids runtime).2 ↔
      id ∈ ids ∧ IsSwept policies runtime id) ∧
    ∀ id, id ∉ reported (sweepIds policies mode ids runtime).2 →
      Alike runtime (sweepIds policies mode ids runtime).1 id := by
  induction ids generalizing runtime with
  | nil =>
      refine ⟨fun id => ?_, fun id _ => Alike.refl runtime id⟩
      exact iff_of_false nofun fun ⟨member, _⟩ => nomatch member
  | cons first rest induction =>
      rcases List.nodup_cons.mp distinct with ⟨fresh, distinct⟩
      -- an id that is not stale is passed over
      have passes (kept : ¬IsSwept policies runtime first) :
          (∀ id, id ∈ reported (sweepIds policies mode rest runtime).2 ↔
            id ∈ first :: rest ∧ IsSwept policies runtime id) ∧
          ∀ id, id ∉ reported (sweepIds policies mode rest runtime).2 →
            Alike runtime (sweepIds policies mode rest runtime).1 id := by
        refine ⟨fun id => ?_, (induction distinct runtime).2⟩
        rw [(induction distinct runtime).1, List.mem_cons]
        constructor
        · exact fun ⟨member, swept⟩ => ⟨.inr member, swept⟩
        · intro ⟨member, swept⟩
          rcases member with rfl | later
          · exact absurd swept kept
          · exact ⟨later, swept⟩
      rw [sweepIds]
      cases active : runtime.active.get? first with
      | none =>
          exact passes fun ⟨_, _, held, _⟩ => nomatch active.symm.trans held
      | some plan =>
          have stale : IsSwept policies runtime first ↔ _ := isSwept_iff active
          dsimp only
          split
          · next swept =>
              have swept := stale.mpr swept
              have other {id : String} (different : id ≠ first) :=
                alike_leaves mode runtime different
              rcases induction distinct (mode.leaves runtime first) with ⟨reports, touches⟩
              constructor
              · intro id
                rw [reported, List.map_cons, List.mem_cons, ← reported, reports, List.mem_cons]
                by_cases same : id = first
                · exact iff_of_true (.inl same) ⟨.inl same, same ▸ swept⟩
                · rw [IsSwept.congr (other same), or_iff_right, or_iff_right same]
                  exact same
              · intro id unreported
                rw [reported, List.map_cons, List.mem_cons, not_or] at unreported
                exact (other unreported.1).trans (touches id unreported.2)
          · next kept => exact passes fun swept => kept (stale.mp swept)

theorem grandfather_keeps (ids : List String) (runtime : SynthesisRuntime) :
    (sweepIds policies .grandfather ids runtime).1 = runtime := by
  induction ids with
  | nil => rfl
  | cons first rest induction =>
      rw [sweepIds]
      split
      · exact induction
      · split
        · exact induction
        · exact induction

theorem gone_of_reported {ids : List String} (distinct : ids.Nodup) (runtime : SynthesisRuntime)
    {id : String} (member : id ∈ reported (sweepIds policies .invalidate ids runtime).2) :
    Gone (sweepIds policies .invalidate ids runtime).1 id := by
  induction ids generalizing runtime with
  | nil => cases member
  | cons first rest induction =>
      rcases List.nodup_cons.mp distinct with ⟨fresh, distinct⟩
      rw [sweepIds] at member ⊢
      cases active : runtime.active.get? first with
      | none =>
          rw [active] at member
          exact induction distinct runtime member
      | some plan =>
          rw [active] at member
          dsimp only at member ⊢
          split at member
          · next swept =>
              rw [if_pos swept]
              rcases @sweepIds_reports policies .invalidate _ distinct
                (runtime.expire first) with ⟨reports, touches⟩
              rw [reported, List.map_cons, List.mem_cons] at member
              rcases member with rfl | later
              · have unreported : id ∉ reported
                    (sweepIds policies .invalidate rest (runtime.expire id)).2 :=
                  fun member => fresh ((reports id).mp member).1
                exact (gone_expire runtime id).alike (touches id unreported)
              · exact induction distinct (runtime.expire first) later
          · next kept =>
              rw [if_neg kept]
              exact induction distinct runtime member

/-! ## Sweeps by the recipes that compose -/

/-- Grandfathering changes nothing and reports the drifted contracts; invalidation removes
these and nothing else, and leaves nothing to report. -/
structure SweepsExactly (policies : List CompositionPolicy) (runtime : SynthesisRuntime) :
    Prop where
  keeps : (sweepForPolicyChange policies .grandfather runtime).1 = runtime
  reports : ∀ id, id ∈ reported (sweepForPolicyChange policies .grandfather runtime).2 ↔
    HasDrifted policies runtime id
  removes : ∀ id, HasDrifted policies runtime id →
    Gone (sweepForPolicyChange policies .invalidate runtime).1 id
  spares : ∀ id, ¬HasDrifted policies runtime id →
    Alike runtime (sweepForPolicyChange policies .invalidate runtime).1 id
  again : (sweepForPolicyChange policies .invalidate
    (sweepForPolicyChange policies .invalidate runtime).1).2 = []

/-- The first and the last version of a contract's recipe are both the captured one, or
neither is. -/
def SameVerdict (policies : List CompositionPolicy) (plan : SynthesisPlan) : Prop :=
  ∀ name, plan.recipeName = some name →
    (sweptVersion policies name = plan.recipeVersion ↔
      composingVersion policies name = plan.recipeVersion)

theorem sweep_reports_iff (mode : SweepMode) (runtime : SynthesisRuntime) (id : String) :
    id ∈ reported (sweepForPolicyChange policies mode runtime).2 ↔ IsSwept policies runtime id := by
  have distinct : runtime.active.keys.Nodup := runtime.active.nodup
  rw [sweepForPolicyChange, (sweepIds_reports mode distinct runtime).1]
  apply and_iff_right_of_imp
  intro ⟨plan, _, held, _⟩
  exact List.mem_map_of_mem (f := Prod.fst) ((Dict.get?_eq_some_iff _).mp held)

/-- A sweep goes by the recipes that compose exactly if the first and the last recipe of
each captured name agree on the captured version. -/
theorem sweep_exact_iff (policies : List CompositionPolicy) (runtime : SynthesisRuntime) :
    SweepsExactly policies runtime ↔
      ∀ id plan, runtime.active.get? id = some plan → SameVerdict policies plan := by
  constructor
  · intro exact_ id plan active name captured
    have verdict := (sweep_reports_iff .grandfather runtime id).symm.trans (exact_.reports id)
    rw [IsSwept, HasDrifted, active] at verdict
    simp only [Option.some.injEq, exists_and_left, exists_eq_left', captured] at verdict
    exact not_iff_not.mp verdict
  · intro same
    have verdict (id : String) : IsSwept policies runtime id ↔ HasDrifted policies runtime id := by
      constructor
      · intro ⟨plan, name, active, captured, differs⟩
        exact ⟨plan, name, active, captured, fun equal =>
          differs ((same id plan active name captured).mpr equal)⟩
      · intro ⟨plan, name, active, captured, differs⟩
        exact ⟨plan, name, active, captured, fun equal =>
          differs ((same id plan active name captured).mp equal)⟩
    have distinct : runtime.active.keys.Nodup := runtime.active.nodup
    refine ⟨grandfather_keeps _ runtime, ?_, ?_, ?_, ?_⟩
    · intro id
      rw [sweep_reports_iff, verdict]
    · intro id drifted
      apply gone_of_reported distinct
      exact (sweep_reports_iff .invalidate runtime id).mpr ((verdict id).mpr drifted)
    · intro id kept
      apply (sweepIds_reports .invalidate distinct runtime).2
      intro member
      exact kept ((verdict id).mp ((sweep_reports_iff .invalidate runtime id).mp member))
    · -- what is left is what the first sweep did not report
      have nothing : reported (sweepForPolicyChange policies .invalidate
          (sweepForPolicyChange policies .invalidate runtime).1).2 = [] := by
        apply List.eq_nil_iff_forall_not_mem.mpr
        intro id member
        have swept := (sweep_reports_iff .invalidate _ id).mp member
        by_cases before : IsSwept policies runtime id
        · have gone := gone_of_reported distinct runtime
            ((sweep_reports_iff .invalidate runtime id).mpr before)
          rcases swept with ⟨plan, _, active, _⟩
          cases gone.unknown.active.symm.trans active
        · have alike := (sweepIds_reports .invalidate distinct runtime).2 id fun member =>
            before ((sweep_reports_iff .invalidate runtime id).mp member)
          exact before ((IsSwept.congr alike).mp swept)
      exact List.map_eq_nil_iff.mp nothing

end

/-! ## Overlapping recipes -/

namespace PolicySamples

def queryStep : CompositionStep := ⟨"QUERY", [], none⟩

def proposed : Proposal := ⟨"EVALUATE", none, [], []⟩

def ofRecipe (policyName version : Option String) : SynthesisPlan where
  proposedMethod := proposed
  steps := [queryStep]
  steps_ne := List.cons_ne_nil _ _
  outputAggregation := .last
  description := none
  policyName := policyName
  recipeName := some "evaluate"
  recipeVersion := version

def anonymous : Policy where
  name := some "custom"
  canFulfill := fun _ _ => .ok true
  compose := fun _ _ => .ok (some (ofRecipe none (some "1")))

/-- The plan of a policy that leaves its name out loses its recipe. -/
theorem lineage_lost :
    First 10 proposed [⟨"QUERY", []⟩] [anonymous] anonymous (ofRecipe none (some "1")) ∧
      ∃ result, attempt 10 proposed [⟨"QUERY", []⟩] [anonymous] = some result ∧
        (ofRecipe none (some "1")).recipeName = some "evaluate" ∧ result.recipeName = none := by
  refine ⟨.here ⟨rfl, rfl, ?_, ?_⟩, _, rfl, rfl, rfl⟩
  · intro step member
    rw [List.mem_singleton.mp member]
    exact List.mem_cons_self
  · exact fun _ => by decide

def overlapping : List CompositionPolicy :=
  [⟨"first", [("evaluate", "1")], fun _ _ => none⟩,
    ⟨"second", [("evaluate", "2")], fun _ _ => none⟩]

def contracts : SynthesisRuntime :=
  SynthesisRuntime.empty.instantiate "syn-1" (ofRecipe (some "first") (some "1"))
    ⟨none, false, none, none, "propose-explicit"⟩

/-- A contract of the recipe that composes is evicted for the version of the other. -/
theorem current_contract_evicted :
    composingVersion overlapping "evaluate" = some "1" ∧
      reported (sweepForPolicyChange overlapping .invalidate contracts).2 = ["syn-1"] ∧
      (sweepForPolicyChange overlapping .invalidate contracts).1.active.entries = [] := by
  refine ⟨by decide, ?_, ?_⟩ <;> rfl

end PolicySamples

end Agtp.Synthesis
