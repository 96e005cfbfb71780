import Agtp.Server.Handlers

/-! # Listing and inspecting contracts

`DISCOVER /contracts` reads a snapshot of the tables; `INSPECT target=contract` looks up one id,
and evicts it when it is overdue. -/

namespace Agtp.Contracts

section

variable [TextOf]

/-! ## The two handlers -/

structure ContractEntry where
  synthesisId : String
  method : String
  path : String
  originatingAgentId : Option String
  contractHash : Option String
  negotiationOrigin : String
  recipeName : Option String
  recipeVersion : Option String
  policyName : Option String
  persistent : Bool
  expiresAt : Option Nat

def entryOf (runtime : SynthesisRuntime) (owner : Option String) (id : String)
    (plan : SynthesisPlan) : ContractEntry where
  synthesisId := id
  method := plan.proposedMethod.name
  path := plan.boundPath
  originatingAgentId := owner
  contractHash := runtime.contractHash id
  negotiationOrigin := runtime.negotiationOrigin id
  recipeName := plan.recipeName
  recipeVersion := plan.recipeVersion
  policyName := plan.policyName
  persistent := runtime.persistent.contains id
  expiresAt := runtime.expiresAt.get? id

def isListed (runtime : SynthesisRuntime) (agent : AgentDocument) (id : String) : Bool :=
  match SynthesisRuntime.nonempty (runtime.originating.get? id) with
  | some owner => agent.isOperator || owner = agent.agentId
  | none => agent.isOperator

def discoverContracts (runtime : SynthesisRuntime) (agent : AgentDocument) :
    List ContractEntry :=
  ((runtime.active.entries.filter fun entry => isListed runtime agent entry.1).map fun entry =>
    entryOf runtime (runtime.originating.get? entry.1) entry.1 entry.2).mergeSort
      fun left right => decide (left.synthesisId ≤ right.synthesisId)

/-- What `INSPECT target=contract` answers. -/
inductive Inspected where
  /-- 400 "missing-synthesis-id" -/
  | missing
  /-- 404 "contract-not-found" -/
  | notFound (synthesisId : String)
  /-- 403 "contract-not-yours" -/
  | notYours (synthesisId : String)
  /-- 200 -/
  | found (entry : ContractEntry)

def requestedId (requested : Json) : String :=
  Text.strip (if requested.truthy then requested.str else "")

def inspectContract (runtime : SynthesisRuntime) (now : Nat) (agent : AgentDocument)
    (requested : Json) : SynthesisRuntime × Inspected :=
  let id := requestedId requested
  if id = "" then (runtime, .missing)
  else
    let left := if runtime.isOverdue now id then runtime.expire id else runtime
    match runtime.get now id with
    | none => (left, .notFound id)
    | some plan =>
        let owner := SynthesisRuntime.nonempty (left.originatingAgentId id)
        if owner.any (· ≠ agent.agentId) && !agent.isOperator then (left, .notYours id)
        else (left, .found (entryOf left owner id plan))

/-! ## Runtimes -/

/-- The runtimes that instantiating and expiring leads to. An id is a text without blanks
around it. -/
inductive Reachable : SynthesisRuntime → Prop where
  | empty : Reachable .empty
  | instantiate {runtime : SynthesisRuntime} (before : Reachable runtime) (id : String)
      (plan : SynthesisPlan) (terms : Terms) (trimmed : Text.strip id = id) (some : id ≠ "") :
      Reachable (runtime.instantiate id plan terms)
  | expire {runtime : SynthesisRuntime} (before : Reachable runtime) (id : String) :
      Reachable (runtime.expire id)

/-- What the handlers rely on. -/
structure Regular (runtime : SynthesisRuntime) : Prop where
  trimmed : ∀ id ∈ runtime.active.keys, Text.strip id = id ∧ id ≠ ""
  owned : ∀ id, runtime.originating.get? id ≠ some ""

omit [TextOf] in
theorem Reachable.regular {runtime : SynthesisRuntime} (reached : Reachable runtime) :
    Regular runtime := by
  induction reached with
  | empty => exact ⟨fun _ none => absurd none List.not_mem_nil, fun _ none => by cases none⟩
  | instantiate before id plan terms trimmed some induction =>
      constructor
      · intro other member
        rcases Dict.mem_keys_set member with held | rfl
        · exact induction.trimmed other held
        · exact ⟨trimmed, some⟩
      · intro other
        rw [SynthesisRuntime.instantiate]
        cases owner : SynthesisRuntime.nonempty terms.originator with
        | none => exact induction.owned other
        | some name =>
            have named : name ≠ "" := by
              simpa using (Option.filter_eq_some_iff.mp owner).2
            by_cases same : other = id
            · rw [same, SynthesisRuntime.setPresent, Dict.get?_set_same]
              exact fun equal => named (Option.some.inj equal)
            · rw [SynthesisRuntime.setPresent, Dict.get?_set_other _ same]
              exact induction.owned other
  | expire before id induction =>
      constructor
      · exact fun other member => induction.trimmed other (Dict.mem_keys_of_erase member)
      · intro other
        by_cases same : other = id
        · rw [same, SynthesisRuntime.expire, Dict.get?_erase_same]
          intro none
          cases none
        · rw [SynthesisRuntime.expire, Dict.get?_erase_other _ same]
          exact induction.owned other

/-! ## Agreement -/

/-- What is listed can be inspected, with the same data, and what can be inspected is
listed. -/
structure ListingAgrees (runtime : SynthesisRuntime) (now : Nat) (agent : AgentDocument) :
    Prop where
  inspectable : ∀ entry ∈ discoverContracts runtime agent,
    (inspectContract runtime now agent (.string entry.synthesisId)).2 = .found entry
  listed : ∀ requested entry, (inspectContract runtime now agent requested).2 = .found entry →
    entry ∈ discoverContracts runtime agent

def Visible (runtime : SynthesisRuntime) (agent : AgentDocument) (id : String) : Prop :=
  agent.isOperator = true ∨ runtime.originating.get? id = some agent.agentId

variable {runtime : SynthesisRuntime} {now : Nat} {agent : AgentDocument}

omit [TextOf] in
theorem nonempty_owner (regular : Regular runtime) (id : String) :
    SynthesisRuntime.nonempty (runtime.originating.get? id) = runtime.originating.get? id := by
  cases owner : runtime.originating.get? id with
  | none => rfl
  | some name =>
      have named : name ≠ "" := fun empty => regular.owned id (empty ▸ owner)
      exact Option.filter_eq_some_iff.mpr ⟨rfl, by simpa using named⟩

omit [TextOf] in
theorem isListed_iff (regular : Regular runtime) (id : String) :
    isListed runtime agent id = true ↔ Visible runtime agent id := by
  rw [isListed, Visible, nonempty_owner regular]
  cases runtime.originating.get? id with
  | none => simp
  | some name => simp

omit [TextOf] in
theorem mem_discoverContracts (regular : Regular runtime) (entry : ContractEntry) :
    entry ∈ discoverContracts runtime agent ↔
      ∃ id plan, runtime.active.get? id = some plan ∧ Visible runtime agent id ∧
        entry = entryOf runtime (runtime.originating.get? id) id plan := by
  rw [discoverContracts, List.mem_mergeSort, List.mem_map]
  constructor
  · intro ⟨⟨id, plan⟩, member, same⟩
    rcases List.mem_filter.mp member with ⟨held, listed⟩
    exact ⟨id, plan, (Dict.get?_eq_some_iff _).mpr held, (isListed_iff regular id).mp listed,
      same.symm⟩
  · intro ⟨id, plan, active, visible, same⟩
    refine ⟨(id, plan), List.mem_filter.mpr ⟨?_, (isListed_iff regular id).mpr visible⟩, same.symm⟩
    exact (Dict.get?_eq_some_iff _).mp active

/-- A contract is inspected by its id if it is not overdue, and is the agent's own, or
nobody's, or the agent may see all. -/
theorem inspectContract_found_iff (regular : Regular runtime) (requested : Json)
    (entry : ContractEntry) :
    (inspectContract runtime now agent requested).2 = .found entry ↔
      ∃ plan, runtime.active.get? (requestedId requested) = some plan ∧
        runtime.isOverdue now (requestedId requested) = false ∧
        (Visible runtime agent (requestedId requested) ∨
          runtime.originating.get? (requestedId requested) = none) ∧
        entry = entryOf runtime (runtime.originating.get? (requestedId requested))
          (requestedId requested) plan := by
  generalize same : requestedId requested = id
  have present (plan : SynthesisPlan) (active : runtime.active.get? id = some plan) : id ≠ "" :=
    (regular.trimmed id (List.mem_map_of_mem ((Dict.get?_eq_some_iff _).mp active))).2
  rw [inspectContract, same, SynthesisRuntime.get]
  dsimp only
  by_cases none_ : id = ""
  · rw [if_pos none_]
    exact iff_of_false nofun fun ⟨plan, active, _⟩ => present plan active none_
  · rw [if_neg none_]
    cases overdue : runtime.isOverdue now id with
    | true => exact iff_of_false nofun fun ⟨_, _, timely, _⟩ => nomatch timely
    | false =>
        simp only [Bool.false_eq_true, if_false]
        cases active : runtime.active.get? id with
        | none => exact iff_of_false nofun fun ⟨_, held, _⟩ => nomatch held
        | some plan =>
            have owner : SynthesisRuntime.nonempty (runtime.originatingAgentId id) =
                runtime.originating.get? id := nonempty_owner regular id
            simp only [owner, Option.some.injEq, exists_eq_left', true_and]
            have allowed : (Option.any (fun name => decide (name ≠ agent.agentId))
                  (runtime.originating.get? id) && !agent.isOperator) = true ↔
                ¬(Visible runtime agent id ∨ runtime.originating.get? id = none) := by
              rw [Visible]
              cases runtime.originating.get? id with
              | none => simp
              | some name => simp [and_comm]
            split
            · next refused =>
                exact iff_of_false nofun fun ⟨seen, _⟩ => allowed.mp refused seen
            · next permitted =>
                have seen := not_not.mp fun hidden => permitted (allowed.mpr hidden)
                rw [and_iff_right seen]
                constructor
                · exact fun equal => (Inspected.found.inj equal).symm
                · exact fun equal => congrArg Inspected.found equal.symm

omit [TextOf] in
theorem overdue_false_or (runtime : SynthesisRuntime) (now : Nat) (id : String) :
    runtime.isOverdue now id = false ∨ runtime.isOverdue now id = true := by
  cases runtime.isOverdue now id <;> simp

/-- No contract that the agent sees is overdue, and unless it may see all, every contract
without an owner is. -/
structure Clear (runtime : SynthesisRuntime) (now : Nat) (agent : AgentDocument) : Prop where
  timely : ∀ id ∈ runtime.active.keys, Visible runtime agent id →
    runtime.isOverdue now id = false
  owned : agent.isOperator = false → ∀ id ∈ runtime.active.keys,
    runtime.originating.get? id = none → runtime.isOverdue now id = true

/-- The list and inspection agree exactly if no contract that the agent sees is overdue,
and, unless it may see all, every contract without an owner is. -/
theorem listing_agrees_iff (reached : Reachable runtime) (now : Nat) (agent : AgentDocument) :
    ListingAgrees runtime now agent ↔ Clear runtime now agent := by
  have regular := reached.regular
  have active {id : String} (member : id ∈ runtime.active.keys) :
      ∃ plan, runtime.active.get? id = some plan ∧ requestedId (.string id) = id := by
    rcases regular.trimmed _ member with ⟨trimmed, some⟩
    rcases List.mem_map.mp member with ⟨⟨_, plan⟩, held, rfl⟩
    refine ⟨plan, (Dict.get?_eq_some_iff _).mpr held, ?_⟩
    have truthy (text : String) (some : text ≠ "") : (Json.string text).truthy = true := by
      simpa [Json.truthy] using some
    have truthy := truthy _ some
    rw [requestedId, if_pos truthy]
    exact trimmed
  constructor
  · intro agrees
    constructor
    · intro id member visible
      rcases active member with ⟨plan, held, same⟩
      have listed := (mem_discoverContracts regular _).mpr ⟨id, plan, held, visible, rfl⟩
      have found := agrees.inspectable _ listed
      rcases (inspectContract_found_iff regular _ _).mp found with ⟨_, _, timely, _⟩
      rwa [entryOf, same] at timely
    · intro restricted id member unowned
      rcases active member with ⟨plan, held, same⟩
      rcases overdue_false_or runtime now id with timely | overdue
      · have found : (inspectContract runtime now agent (.string id)).2 =
            .found (entryOf runtime (runtime.originating.get? id) id plan) := by
          rw [inspectContract_found_iff regular, same]
          exact ⟨plan, held, timely, .inr unowned, rfl⟩
        rcases (mem_discoverContracts regular _).mp (agrees.listed _ _ found) with
          ⟨other, _, _, visible, equal⟩
        have sameId : id = other := congrArg ContractEntry.synthesisId equal
        rw [← sameId, Visible, restricted, unowned] at visible
        rcases visible with impossible | impossible <;> cases impossible
      · exact overdue
  · intro clear
    constructor
    · intro entry listed
      rcases (mem_discoverContracts regular _).mp listed with ⟨id, plan, held, visible, same⟩
      have member : id ∈ runtime.active.keys :=
        List.mem_map_of_mem ((Dict.get?_eq_some_iff _).mp held)
      rcases active member with ⟨_, _, requested⟩
      rw [inspectContract_found_iff regular, same]
      rw [show (entryOf runtime (runtime.originating.get? id) id plan).synthesisId = id from rfl,
        requested]
      exact ⟨plan, held, clear.timely id member visible, .inl visible, rfl⟩
    · intro requested entry found
      rcases (inspectContract_found_iff regular _ _).mp found with ⟨plan, held, timely, seen, same⟩
      have member : requestedId requested ∈ runtime.active.keys :=
        List.mem_map_of_mem ((Dict.get?_eq_some_iff _).mp held)
      rw [mem_discoverContracts regular]
      refine ⟨requestedId requested, plan, held, ?_, same⟩
      rcases seen with visible | unowned
      · exact visible
      · cases operator : agent.isOperator with
        | true => exact .inl operator
        | false =>
            cases timely.symm.trans (clear.owned operator _ member unowned)

end

/-! ## A contract past its time -/

namespace ListingSamples

open scoped Plain

def plan : SynthesisPlan where
  proposedMethod := ⟨"EVALUATE", none, [], []⟩
  steps := [⟨"QUERY", [], none⟩]
  steps_ne := List.cons_ne_nil _ _
  outputAggregation := .last
  description := none
  policyName := some "passthrough"
  recipeName := none
  recipeVersion := none

def runtime : SynthesisRuntime :=
  SynthesisRuntime.empty.instantiate "syn-1" plan
    ⟨some 10, false, some "a", none, "propose-explicit"⟩

def agent : AgentDocument := ⟨"a", "", "active", "", ⟨[], [], false⟩, 1, []⟩

theorem reachable_runtime : Reachable runtime :=
  .instantiate .empty "syn-1" plan _ (by decide +kernel) (by decide)

/-- Before its time the contract is listed and inspected alike. -/
theorem agrees_before_expiry :
    Reachable runtime ∧ (ListingAgrees runtime 5 agent ↔ Clear runtime 5 agent) :=
  ⟨reachable_runtime, listing_agrees_iff reachable_runtime 5 agent⟩

/-- Past its time the contract is still listed, and cannot be inspected. -/
theorem overdue_contract_listed :
    (discoverContracts runtime agent).map ContractEntry.synthesisId = ["syn-1"] ∧
      (inspectContract runtime 20 agent (.string "syn-1")).2 = .notFound "syn-1" := by
  have requested : requestedId (.string "syn-1") = "syn-1" := by decide +kernel
  have kept : ((runtime.active.entries.filter fun entry => isListed runtime agent entry.1).map
      fun entry => entryOf runtime (runtime.originating.get? entry.1) entry.1 entry.2) =
        [entryOf runtime (some "a") "syn-1" plan] := rfl
  constructor
  · rw [discoverContracts, kept, List.mergeSort_singleton]
    rfl
  · rw [inspectContract, requested]
    rfl

end ListingSamples

end Agtp.Contracts
