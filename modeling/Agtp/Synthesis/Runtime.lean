import Agtp.Synthesis.Plan

/-! # The synthesis runtime

The tables of active syntheses. -/

namespace Agtp

/-- A composition policy. `compose` gets the proposal and the available
methods; `none` is also a policy that cannot fulfil the proposal or that
raises. -/
structure CompositionPolicy where
  name : String
  recipes : List (String × String)
  compose : Proposal → List AvailableMethod → Option SynthesisPlan

def passthrough : CompositionPolicy where
  name := "passthrough"
  recipes := []
  compose := fun proposal available =>
    (available.find? (·.name = proposal.name)).map fun target => {
      proposedMethod := proposal
      steps := [{
        methodName := target.name
        parameterSource :=
          (proposal.requiredParams.filter target.parameters.contains).foldl
            (fun sources name => Dict.setEntries name (.proposal name) sources) []
        captureOutputAs := none }]
      steps_ne := List.cons_ne_nil _ _
      outputAggregation := .last
      description := some s!"identity passthrough onto {target.name}"
      policyName := some "passthrough"
      recipeName := none
      recipeVersion := none }

structure SynthesisRuntime where
  active : Dict String SynthesisPlan
  expiresAt : Dict String Nat
  persistent : List String
  originating : Dict String String
  contractHashes : Dict String String
  origin : Dict String String
  /-- The ids in the legacy registry `SYNTHESES`. -/
  legacy : List String

/-- The data of an active synthesis. -/
structure Contract where
  plan : SynthesisPlan
  expiresAt : Option Nat
  originator : Option String
  hash : Option String
  origin : String

/-- What `instantiate` is called with, beside the plan. -/
structure Terms where
  expiresAt : Option Nat
  persistent : Bool
  originator : Option String
  hash : Option String
  origin : String

namespace SynthesisRuntime

def empty : SynthesisRuntime :=
  ⟨.empty, .empty, [], .empty, .empty, .empty, []⟩

/-! ## Operations -/

def originatingAgentId (runtime : SynthesisRuntime) (id : String) :
    Option String :=
  runtime.originating.get? id

def contractHash (runtime : SynthesisRuntime) (id : String) : Option String :=
  runtime.contractHashes.get? id

def negotiationOrigin (runtime : SynthesisRuntime) (id : String) : String :=
  (runtime.origin.get? id).getD "propose-explicit"

def setPresent (table : Dict String Value) (id : String)
    (value : Option Value) : Dict String Value :=
  match value with
  | some value => table.set id value
  | none => table

def nonempty (text : Option String) : Option String :=
  text.filter (· ≠ "")

def instantiate (runtime : SynthesisRuntime) (id : String) (plan : SynthesisPlan)
    (terms : Terms) : SynthesisRuntime where
  active := runtime.active.set id plan
  expiresAt := setPresent runtime.expiresAt id terms.expiresAt
  persistent := if terms.persistent then id :: runtime.persistent else runtime.persistent
  originating := setPresent runtime.originating id (nonempty terms.originator)
  contractHashes := setPresent runtime.contractHashes id (nonempty terms.hash)
  origin := runtime.origin.set id terms.origin
  legacy := id :: runtime.legacy

def expire (runtime : SynthesisRuntime) (id : String) : SynthesisRuntime where
  active := runtime.active.erase id
  expiresAt := runtime.expiresAt.erase id
  persistent := runtime.persistent.filter (· ≠ id)
  originating := runtime.originating.erase id
  contractHashes := runtime.contractHashes.erase id
  origin := runtime.origin.erase id
  legacy := runtime.legacy.filter (· ≠ id)

def isKnown (runtime : SynthesisRuntime) (id : String) : Bool :=
  (runtime.active.get? id).isSome || runtime.legacy.contains id

def isOverdue (runtime : SynthesisRuntime) (now : Nat) (id : String) : Bool :=
  (runtime.active.get? id).isSome &&
    match runtime.expiresAt.get? id with
    | some time => time ≤ now
    | none => false

def get (runtime : SynthesisRuntime) (now : Nat) (id : String) :
    Option SynthesisPlan :=
  if runtime.isOverdue now id then none else runtime.active.get? id

def isStale (current : List (String × String)) (plan : SynthesisPlan) : Bool :=
  match plan.recipeName with
  | some name => (current.reverse.lookup name) ≠ plan.recipeVersion
  | none => false

def staleIds (runtime : SynthesisRuntime) (policies : List CompositionPolicy) :
    List String :=
  let current := policies.flatMap CompositionPolicy.recipes
  (runtime.active.entries.filter fun entry => isStale current entry.2).map Prod.fst

def invalidateStale (runtime : SynthesisRuntime)
    (policies : List CompositionPolicy) : SynthesisRuntime :=
  (runtime.staleIds policies).foldl expire runtime

end SynthesisRuntime

/-! ## Finding a plan -/

/-- A plan that does not name its policy is rebuilt with that name, without its
recipe. -/
def taggedPlan (policy : CompositionPolicy) (plan : SynthesisPlan) : SynthesisPlan :=
  match plan.policyName with
  | some _ => plan
  | none =>
      { plan with
        policyName := some policy.name
        recipeName := none
        recipeVersion := none }

def attemptSynthesis (policies : List CompositionPolicy) (maxDepth : Nat)
    (proposal : Proposal) (available : List AvailableMethod) :
    Option SynthesisPlan :=
  policies.findSome? fun policy =>
    (policy.compose proposal available).bind fun plan =>
      if plan.steps.all ((available.map AvailableMethod.name).contains ·.methodName) &&
          (maxDepth == 0 || plan.steps.length ≤ maxDepth) then
        some (taggedPlan policy plan)
      else none

/-! ## One id across the tables -/

namespace SynthesisRuntime

def contract (runtime : SynthesisRuntime) (id : String) : Option Contract :=
  (runtime.active.get? id).map fun plan => {
    plan := plan
    expiresAt := runtime.expiresAt.get? id
    originator := runtime.originatingAgentId id
    hash := runtime.contractHash id
    origin := runtime.negotiationOrigin id }

theorem get?_setPresent_other {table : Dict String Value} {id other : String}
    (different : other ≠ id) (value : Option Value) :
    (setPresent table id value).get? other = table.get? other := by
  cases value with
  | none => rfl
  | some value => exact Dict.get?_set_other table different value

theorem get?_setPresent_new {table : Dict String Value} {id : String}
    (new : table.get? id = none) (value : Option Value) :
    (setPresent table id value).get? id = value := by
  cases value with
  | none => exact new
  | some value => exact Dict.get?_set_same table id value

theorem contract_instantiate_other (runtime : SynthesisRuntime) {id other : String}
    (different : other ≠ id) (plan : SynthesisPlan) (terms : Terms) :
    (runtime.instantiate id plan terms).contract other = runtime.contract other := by
  simp only [contract, instantiate, originatingAgentId, contractHash,
    negotiationOrigin, Dict.get?_set_other _ different,
    get?_setPresent_other different]

@[simp] theorem contract_expire_same (runtime : SynthesisRuntime) (id : String) :
    (runtime.expire id).contract id = none := by
  simp [contract, expire]

theorem contract_expire_other (runtime : SynthesisRuntime) {id other : String}
    (different : other ≠ id) :
    (runtime.expire id).contract other = runtime.contract other := by
  simp only [contract, expire, originatingAgentId, contractHash,
    negotiationOrigin, Dict.get?_erase_other _ different]

theorem contract_expire (runtime : SynthesisRuntime) (id other : String) :
    (runtime.expire id).contract other = runtime.contract other ∨
      other = id ∧ (runtime.expire id).contract other = none := by
  by_cases same : other = id
  · subst same
    exact .inr ⟨rfl, contract_expire_same runtime other⟩
  · exact .inl (contract_expire_other runtime same)

theorem contract_foldl_expire (ids : List String) (runtime : SynthesisRuntime)
    (other : String) :
    (ids.foldl expire runtime).contract other = runtime.contract other ∨
      (ids.foldl expire runtime).contract other = none := by
  induction ids generalizing runtime with
  | nil => exact .inl rfl
  | cons id rest induction =>
      rcases induction (runtime.expire id) with kept | gone
      · rcases contract_expire runtime id other with same | ⟨_, ended⟩
        · exact .inl (kept.trans same)
        · exact .inr (kept.trans ended)
      · exact .inr gone

/-! ## Known ids -/

structure Unknown (runtime : SynthesisRuntime) (id : String) : Prop where
  active : runtime.active.get? id = none
  expiresAt : runtime.expiresAt.get? id = none
  originating : runtime.originating.get? id = none
  contractHashes : runtime.contractHashes.get? id = none

theorem Unknown.contract {runtime : SynthesisRuntime} {id : String}
    (unknown : runtime.Unknown id) : runtime.contract id = none := by
  simp [SynthesisRuntime.contract, unknown.active]

theorem unknown_empty (id : String) : Unknown empty id := ⟨rfl, rfl, rfl, rfl⟩

theorem unknown_instantiate {runtime : SynthesisRuntime} {id other : String}
    (unknown : runtime.Unknown other) (different : other ≠ id) (plan : SynthesisPlan)
    (terms : Terms) : (runtime.instantiate id plan terms).Unknown other where
  active := (Dict.get?_set_other _ different plan).trans unknown.active
  expiresAt := (get?_setPresent_other different _).trans unknown.expiresAt
  originating := (get?_setPresent_other different _).trans unknown.originating
  contractHashes :=
    (get?_setPresent_other different _).trans unknown.contractHashes

theorem get?_erase_none {table : Dict String Value} {other : String}
    (absent : table.get? other = none) (id : String) :
    (table.erase id).get? other = none := by
  by_cases same : other = id
  · rw [same, Dict.get?_erase_same]
  · rw [Dict.get?_erase_other _ same, absent]

theorem unknown_expire {runtime : SynthesisRuntime} {other : String}
    (unknown : runtime.Unknown other) (id : String) :
    (runtime.expire id).Unknown other where
  active := get?_erase_none unknown.active id
  expiresAt := get?_erase_none unknown.expiresAt id
  originating := get?_erase_none unknown.originating id
  contractHashes := get?_erase_none unknown.contractHashes id

theorem contract_instantiate_new {runtime : SynthesisRuntime} {id : String}
    (unknown : runtime.Unknown id) (plan : SynthesisPlan) (terms : Terms) :
    (runtime.instantiate id plan terms).contract id = some {
      plan := plan
      expiresAt := terms.expiresAt
      originator := nonempty terms.originator
      hash := nonempty terms.hash
      origin := terms.origin } := by
  simp only [contract, instantiate, originatingAgentId, contractHash,
    negotiationOrigin, Dict.get?_set_same, get?_setPresent_new unknown.expiresAt,
    get?_setPresent_new unknown.originating,
    get?_setPresent_new unknown.contractHashes, Option.map_some, Option.getD_some]

end SynthesisRuntime

end Agtp
