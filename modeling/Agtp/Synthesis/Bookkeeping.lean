import Agtp.Server.State

/-! # Bookkeeping of the synthesis runtime

The tables of the runtime describe one set of contracts. -/

namespace Agtp

namespace SynthesisRuntime

/-! ## Operations on many contracts -/

def evictOverdue (runtime : SynthesisRuntime) (now : Nat) (id : String) : SynthesisRuntime :=
  if runtime.isOverdue now id then runtime.expire id else runtime

def overdueIds (runtime : SynthesisRuntime) (now : Nat) : List String :=
  (runtime.expiresAt.entries.filter (·.2 ≤ now)).map Prod.fst

def sweepExpired (runtime : SynthesisRuntime) (now : Nat) : SynthesisRuntime :=
  (runtime.overdueIds now).foldl expire runtime

def checkVerbs (approves : String → Bool) (clock : String → Nat)
    (runtime : SynthesisRuntime) (id : String) : SynthesisRuntime :=
  match runtime.get (clock id) id with
  | none => runtime.evictOverdue (clock id) id
  | some plan =>
      if plan.steps.all (approves ·.methodName) then runtime else runtime.expire id

def invalidateAgainstCatalog (runtime : SynthesisRuntime) (approves : String → Bool)
    (clock : String → Nat) : SynthesisRuntime :=
  runtime.active.keys.foldl (checkVerbs approves clock) runtime

def clear (runtime : SynthesisRuntime) : SynthesisRuntime :=
  { runtime with
    active := .empty
    legacy := [] }

end SynthesisRuntime

/-! ## Construction -/

/-- The registry that is passed at construction: `SYNTHESES` or another one, with the ids
that it holds. -/
inductive GivenRegistry where
  | shared
  | own (ids : List String)
deriving DecidableEq

namespace SynthesisRuntime

/-- `legacy_registry or SYNTHESES`, where `shared` is what `SYNTHESES` holds. A registry
without entries is false. -/
def construct (shared : List String) (given : Option GivenRegistry) : SynthesisRuntime :=
  { empty with
    legacy := match given with
      | some (.own (id :: ids)) => id :: ids
      | _ => shared }

end SynthesisRuntime

/-- What the registry that was passed holds by now. One that is not in use stays as it
was. -/
def GivenRegistry.ids (given : GivenRegistry) (runtime : SynthesisRuntime) : List String :=
  match given with
  | .own [] => []
  | _ => runtime.legacy

/-! ## Runs -/

inductive RuntimeOperation where
  | instantiate (plan : SynthesisPlan) (terms : Terms)
  | get (id : String) (now : Nat)
  | expire (id : String)
  | sweepExpired (now : Nat)
  | sweepForPolicyChange (invalidate : Bool) (policies : List CompositionPolicy)
  | invalidateAgainstCatalog (approves : String → Bool) (clock : String → Nat)
  | clear

structure RuntimeState where
  runtime : SynthesisRuntime
  drawn : Nat

namespace RuntimeState

variable [Tokens]

def perform (state : RuntimeState) : RuntimeOperation → RuntimeState
  | .instantiate plan terms =>
      ⟨state.runtime.instantiate (Tokens.synthesisId state.drawn) plan terms,
        state.drawn + 1⟩
  | .get id now => { state with runtime := state.runtime.evictOverdue now id }
  | .expire id => { state with runtime := state.runtime.expire id }
  | .sweepExpired now => { state with runtime := state.runtime.sweepExpired now }
  | .sweepForPolicyChange invalidate policies =>
      if invalidate then
        { state with runtime := state.runtime.invalidateStale policies }
      else state
  | .invalidateAgainstCatalog approves clock =>
      { state with runtime := state.runtime.invalidateAgainstCatalog approves clock }
  | .clear => { state with runtime := state.runtime.clear }

def run (state : RuntimeState) (operations : List RuntimeOperation) : RuntimeState :=
  operations.foldl perform state

theorem run_append (state : RuntimeState) (before after : List RuntimeOperation) :
    state.run (before ++ after) = (state.run before).run after :=
  List.foldl_append

theorem run_concat (state : RuntimeState) (before : List RuntimeOperation)
    (operation : RuntimeOperation) :
    state.run (before ++ [operation]) = (state.run before).perform operation :=
  run_append state before [operation]

def reached (shared : List String) (given : GivenRegistry)
    (operations : List RuntimeOperation) : RuntimeState :=
  run ⟨.construct shared (some given), 0⟩ operations

theorem reached_append (shared : List String) (given : GivenRegistry)
    (before after : List RuntimeOperation) :
    reached shared given (before ++ after) = (reached shared given before).run after :=
  run_append _ before after

end RuntimeState

/-! ## What an operation does -/

namespace SynthesisRuntime

theorem evictOverdue_expires (runtime : SynthesisRuntime) (now : Nat) (id : String) :
    ∃ ids : List String, runtime.evictOverdue now id = ids.foldl expire runtime := by
  unfold evictOverdue
  split
  · exact ⟨[id], rfl⟩
  · exact ⟨[], rfl⟩

theorem checkVerbs_expires (approves : String → Bool) (clock : String → Nat)
    (runtime : SynthesisRuntime) (id : String) :
    ∃ ids : List String, runtime.checkVerbs approves clock id = ids.foldl expire runtime := by
  unfold checkVerbs
  split
  · exact evictOverdue_expires runtime (clock id) id
  · split
    · exact ⟨[], rfl⟩
    · exact ⟨[id], rfl⟩

theorem foldl_checkVerbs_expires (approves : String → Bool) (clock : String → Nat)
    (listed : List String) (runtime : SynthesisRuntime) :
    ∃ ids : List String,
      listed.foldl (checkVerbs approves clock) runtime = ids.foldl expire runtime := by
  induction listed generalizing runtime with
  | nil => exact ⟨[], rfl⟩
  | cons id rest induction =>
      obtain ⟨first, checked⟩ := checkVerbs_expires approves clock runtime id
      obtain ⟨later, swept⟩ := induction (runtime.checkVerbs approves clock id)
      refine ⟨first ++ later, ?_⟩
      rw [List.foldl_cons, swept, checked, List.foldl_append]

end SynthesisRuntime

namespace RuntimeState

open SynthesisRuntime

variable [Tokens]

theorem perform_cases (state : RuntimeState) (operation : RuntimeOperation) :
    (∃ plan terms, operation = .instantiate plan terms) ∨ operation = .clear ∨
      ∃ ids : List String,
        state.perform operation = ⟨ids.foldl expire state.runtime, state.drawn⟩ := by
  cases operation with
  | instantiate plan terms => exact .inl ⟨plan, terms, rfl⟩
  | clear => exact .inr (.inl rfl)
  | get id now =>
      obtain ⟨ids, evicted⟩ := evictOverdue_expires state.runtime now id
      exact .inr (.inr ⟨ids, congrArg (RuntimeState.mk · state.drawn) evicted⟩)
  | expire id => exact .inr (.inr ⟨[id], rfl⟩)
  | sweepExpired now => exact .inr (.inr ⟨state.runtime.overdueIds now, rfl⟩)
  | sweepForPolicyChange invalidate policies =>
      cases invalidate with
      | false => exact .inr (.inr ⟨[], rfl⟩)
      | true => exact .inr (.inr ⟨state.runtime.staleIds policies, rfl⟩)
  | invalidateAgainstCatalog approves clock =>
      obtain ⟨ids, swept⟩ := foldl_checkVerbs_expires approves clock
        state.runtime.active.keys state.runtime
      exact .inr (.inr ⟨ids, congrArg (RuntimeState.mk · state.drawn) swept⟩)

end RuntimeState

/-! ## The tables agree -/

namespace SynthesisRuntime

structure SideTables (runtime : SynthesisRuntime) : Prop where
  expiresAt : ∀ id ∈ runtime.expiresAt.keys, id ∈ runtime.active.keys
  persistent : ∀ id ∈ runtime.persistent, id ∈ runtime.active.keys
  originating : ∀ id ∈ runtime.originating.keys, id ∈ runtime.active.keys
  contractHashes : ∀ id ∈ runtime.contractHashes.keys, id ∈ runtime.active.keys
  origin : ∀ id ∈ runtime.origin.keys, id ∈ runtime.active.keys

structure Forgotten (runtime : SynthesisRuntime) (id : String) : Prop where
  expiresAt : runtime.expiresAt.get? id = none
  persistent : id ∉ runtime.persistent
  originator : runtime.originatingAgentId id = none
  hash : runtime.contractHash id = none

theorem get?_none_of_keys {table : Dict String Value} {id : String}
    (absent : id ∉ table.keys) : table.get? id = none := by
  cases found : table.get? id with
  | none => rfl
  | some value => exact absurd (Dict.mem_keys_of_get? table found) absent

theorem SideTables.forgotten {runtime : SynthesisRuntime} (tables : runtime.SideTables)
    {id : String} (removed : id ∉ runtime.active.keys) : runtime.Forgotten id where
  expiresAt := get?_none_of_keys fun held => removed (tables.expiresAt id held)
  persistent := fun held => removed (tables.persistent id held)
  originator := get?_none_of_keys fun held => removed (tables.originating id held)
  hash := get?_none_of_keys fun held => removed (tables.contractHashes id held)

theorem sideTables_empty (legacy : List String) :
    SideTables { empty with legacy := legacy } :=
  ⟨nofun, nofun, nofun, nofun, nofun⟩

theorem mem_keys_setPresent {table : Dict String Value} {id other : String}
    {value : Option Value} (member : other ∈ (setPresent table id value).keys) :
    other ∈ table.keys ∨ other = id := by
  cases value with
  | none => exact .inl member
  | some value => exact Dict.mem_keys_set member

theorem SideTables.instantiate {runtime : SynthesisRuntime} (tables : runtime.SideTables)
    (id : String) (plan : SynthesisPlan) (terms : Terms) :
    (runtime.instantiate id plan terms).SideTables := by
  have activates {other : String} :
      other ∈ runtime.active.keys ∨ other = id →
        other ∈ (runtime.instantiate id plan terms).active.keys :=
    Dict.mem_keys_set_iff.mpr
  constructor
  · intro other held
    exact activates ((mem_keys_setPresent held).imp_left (tables.expiresAt other))
  · intro other held
    simp only [SynthesisRuntime.instantiate] at held
    split at held
    · rcases List.mem_cons.mp held with same | held
      · exact activates (.inr same)
      · exact activates (.inl (tables.persistent other held))
    · exact activates (.inl (tables.persistent other held))
  · intro other held
    exact activates ((mem_keys_setPresent held).imp_left (tables.originating other))
  · intro other held
    exact activates ((mem_keys_setPresent held).imp_left (tables.contractHashes other))
  · intro other held
    exact activates ((Dict.mem_keys_set held).imp_left (tables.origin other))

theorem SideTables.expire {runtime : SynthesisRuntime} (tables : runtime.SideTables)
    (id : String) : (runtime.expire id).SideTables := by
  have survives {Value : Type} {table : Dict String Value}
      (included : ∀ other ∈ table.keys, other ∈ runtime.active.keys) :
      ∀ other ∈ (table.erase id).keys, other ∈ (runtime.active.erase id).keys := by
    intro other held
    rw [Dict.mem_keys_erase] at held ⊢
    exact ⟨included other held.1, held.2⟩
  refine ⟨survives tables.expiresAt, ?_, survives tables.originating,
    survives tables.contractHashes, survives tables.origin⟩
  intro other held
  have kept := List.mem_filter.mp held
  exact Dict.mem_keys_erase.mpr
    ⟨tables.persistent other kept.1, of_decide_eq_true kept.2⟩

theorem SideTables.clear {runtime : SynthesisRuntime} (tables : runtime.SideTables)
    (none : runtime.active.keys = []) : runtime.clear.SideTables := by
  have absent {id : String} : id ∉ runtime.active.keys := by
    rw [none]
    exact List.not_mem_nil
  constructor
  · exact fun id held => absurd (tables.expiresAt id held) absent
  · exact fun id held => absurd (tables.persistent id held) absent
  · exact fun id held => absurd (tables.originating id held) absent
  · exact fun id held => absurd (tables.contractHashes id held) absent
  · exact fun id held => absurd (tables.origin id held) absent

def Mirrored (runtime : SynthesisRuntime) : Prop :=
  ∀ id, id ∈ runtime.legacy ↔ id ∈ runtime.active.keys

theorem Mirrored.instantiate {runtime : SynthesisRuntime} (mirrored : runtime.Mirrored)
    (id : String) (plan : SynthesisPlan) (terms : Terms) :
    (runtime.instantiate id plan terms).Mirrored := by
  intro other
  simp only [SynthesisRuntime.instantiate]
  rw [List.mem_cons, Dict.mem_keys_set_iff, mirrored other, or_comm]

theorem Mirrored.expire {runtime : SynthesisRuntime} (mirrored : runtime.Mirrored)
    (id : String) : (runtime.expire id).Mirrored := by
  intro other
  simp only [SynthesisRuntime.expire]
  rw [List.mem_filter, Dict.mem_keys_erase, mirrored other, decide_eq_true_eq]

def Labelled (runtime : SynthesisRuntime) : Prop :=
  ∀ id ∈ runtime.active.keys, id ∈ runtime.origin.keys

theorem Labelled.instantiate {runtime : SynthesisRuntime} (labelled : runtime.Labelled)
    (id : String) (plan : SynthesisPlan) (terms : Terms) :
    (runtime.instantiate id plan terms).Labelled := by
  intro other active
  exact Dict.mem_keys_set_iff.mpr ((Dict.mem_keys_set active).imp_left (labelled other))

theorem Labelled.expire {runtime : SynthesisRuntime} (labelled : runtime.Labelled)
    (id : String) : (runtime.expire id).Labelled := by
  intro other active
  have kept := Dict.mem_keys_erase.mp active
  exact Dict.mem_keys_erase.mpr ⟨labelled other kept.1, kept.2⟩

theorem foldl_expire_keeps (keeps : SynthesisRuntime → Prop)
    (step : ∀ {runtime : SynthesisRuntime}, keeps runtime → ∀ id, keeps (runtime.expire id))
    (ids : List String) {runtime : SynthesisRuntime} (holds : keeps runtime) :
    keeps (ids.foldl SynthesisRuntime.expire runtime) := by
  induction ids generalizing runtime with
  | nil => exact holds
  | cons id rest induction => exact induction (step holds id)

end SynthesisRuntime

namespace RuntimeState

open SynthesisRuntime

variable [Tokens] {state : RuntimeState}

/-! ## Invariants of a run -/

theorem labelled_perform (labelled : state.runtime.Labelled) (operation : RuntimeOperation) :
    (state.perform operation).runtime.Labelled := by
  rcases perform_cases state operation with ⟨plan, terms, rfl⟩ | rfl | ⟨ids, performed⟩
  · exact labelled.instantiate _ plan terms
  · exact nofun
  · rw [performed]
    exact foldl_expire_keeps Labelled (fun labelled => labelled.expire) ids labelled

theorem labelled_reached (shared : List String) (given : GivenRegistry)
    (operations : List RuntimeOperation) :
    (reached shared given operations).runtime.Labelled := by
  induction operations using List.reverseRecOn with
  | nil => exact nofun
  | append_singleton before operation induction =>
      rw [reached_append]
      exact labelled_perform induction operation

theorem active_perform {operation : RuntimeOperation} {id : String}
    (active : id ∈ (state.perform operation).runtime.active.keys) :
    id ∈ state.runtime.active.keys ∨
      id = Tokens.synthesisId state.drawn ∧
        (state.perform operation).drawn = state.drawn + 1 := by
  rcases perform_cases state operation with ⟨plan, terms, rfl⟩ | rfl | ⟨ids, performed⟩
  · exact (Dict.mem_keys_set active).imp_right fun same => ⟨same, rfl⟩
  · cases active
  · rw [performed] at active
    have shrinks := foldl_expire_keeps
      (fun runtime => id ∈ runtime.active.keys → id ∈ state.runtime.active.keys)
      (fun before other held => before (Dict.mem_keys_of_erase held)) ids (fun held => held)
    exact .inl (shrinks active)

theorem drawn_perform (state : RuntimeState) (operation : RuntimeOperation) :
    state.drawn ≤ (state.perform operation).drawn := by
  rcases perform_cases state operation with ⟨plan, terms, rfl⟩ | rfl | ⟨ids, performed⟩
  · exact Nat.le_succ state.drawn
  · exact Nat.le_refl state.drawn
  · rw [performed]

theorem drawn_run (state : RuntimeState) (operations : List RuntimeOperation) :
    state.drawn ≤ (state.run operations).drawn := by
  induction operations using List.reverseRecOn with
  | nil => exact Nat.le_refl state.drawn
  | append_singleton before operation induction =>
      rw [run_concat]
      exact induction.trans (drawn_perform _ operation)

theorem active_run (operations : List RuntimeOperation) {id : String}
    (active : id ∈ (state.run operations).runtime.active.keys) :
    id ∈ state.runtime.active.keys ∨
      ∃ number, state.drawn ≤ number ∧ number < (state.run operations).drawn ∧
        id = Tokens.synthesisId number := by
  induction operations using List.reverseRecOn generalizing id with
  | nil => exact .inl active
  | append_singleton before operation induction =>
      rw [run_concat] at active ⊢
      have grows := drawn_perform (state.run before) operation
      rcases active_perform active with held | ⟨rfl, counted⟩
      · rcases induction held with held | ⟨number, first, last, same⟩
        · exact .inl held
        · exact .inr ⟨number, first, last.trans_le grows, same⟩
      · exact .inr ⟨(state.run before).drawn, drawn_run state before, by omega, rfl⟩

theorem drawn_of_active {shared : List String} {given : GivenRegistry}
    {operations : List RuntimeOperation} {id : String}
    (active : id ∈ (reached shared given operations).runtime.active.keys) :
    ∃ number < (reached shared given operations).drawn,
      id = Tokens.synthesisId number := by
  rcases active_run operations active with held | ⟨number, _, drawn, same⟩
  · cases held
  · exact ⟨number, drawn, same⟩

theorem gone_for_good {shared : List String} {given : GivenRegistry}
    {before between after : List RuntimeOperation} {id : String}
    (active : id ∈ (reached shared given before).runtime.active.keys)
    (gone : id ∉ (reached shared given (before ++ between)).runtime.active.keys) :
    id ∉ (reached shared given (before ++ between ++ after)).runtime.active.keys := by
  intro again
  obtain ⟨number, drawn, same⟩ := drawn_of_active active
  have later := drawn_run (reached shared given before) between
  rw [reached_append] at again
  rcases active_run after again with held | ⟨other, redrawn, _, equal⟩
  · exact gone held
  · have numbers := Tokens.synthesisId_injective (same.symm.trans equal)
    rw [reached_append] at redrawn
    omega

end RuntimeState

/-! ## The law -/

section Law

open SynthesisRuntime RuntimeState

variable [Tokens]

structure Consistent (given : GivenRegistry) (runtime : SynthesisRuntime) : Prop where
  tables : runtime.SideTables
  legacy : ∀ id, id ∈ given.ids runtime ↔ id ∈ runtime.active.keys

/-- In every state of a run the tables agree, and nothing more is reported of an id that
was active and no longer is. -/
structure KeepsBooks (shared : List String) (given : GivenRegistry)
    (operations : List RuntimeOperation) : Prop where
  consistent : ∀ before, before <+: operations →
    Consistent given (reached shared given before).runtime
  forgets : ∀ before between after, before ++ between ++ after <+: operations → ∀ id,
    id ∈ (reached shared given before).runtime.active.keys →
    id ∉ (reached shared given (before ++ between)).runtime.active.keys →
    (reached shared given (before ++ between ++ after)).runtime.Forgotten id

/-- The registry that is passed is empty and in use, or nothing is ever put into it; and
the runtime is only cleared when no synthesis is active. -/
def Bookable (shared : List String) (given : GivenRegistry)
    (operations : List RuntimeOperation) : Prop :=
  match given with
  | .shared => shared = [] ∧ ∀ before, before ++ [.clear] <+: operations →
      (reached shared given before).runtime.active.keys = []
  | .own ids => ids = [] ∧ ∀ plan terms, .instantiate plan terms ∉ operations

theorem KeepsBooks.of_consistent {shared : List String} {given : GivenRegistry}
    {operations : List RuntimeOperation}
    (consistent : ∀ before, before <+: operations →
      Consistent given (reached shared given before).runtime) :
    KeepsBooks shared given operations where
  consistent := consistent
  forgets before between after reaches _ active gone :=
    (consistent (before ++ between ++ after) reaches).tables.forgotten
      (gone_for_good active gone)

/-- A runtime over the shared registry keeps its books while it is not cleared with
syntheses in it. -/
theorem consistent_perform {state : RuntimeState} (tables : state.runtime.SideTables)
    (mirrored : state.runtime.Mirrored) {operation : RuntimeOperation}
    (unharmed : operation = .clear → state.runtime.active.keys = []) :
    (state.perform operation).runtime.SideTables ∧
      (state.perform operation).runtime.Mirrored := by
  rcases perform_cases state operation with ⟨plan, terms, rfl⟩ | rfl | ⟨ids, performed⟩
  · exact ⟨tables.instantiate _ plan terms, mirrored.instantiate _ plan terms⟩
  · exact ⟨tables.clear (unharmed rfl), fun _ => Iff.rfl⟩
  · rw [performed]
    exact ⟨foldl_expire_keeps SideTables (fun tables => tables.expire) ids tables,
      foldl_expire_keeps Mirrored (fun mirrored => mirrored.expire) ids mirrored⟩

theorem consistent_shared {operations : List RuntimeOperation}
    (cleared : ∀ before, before ++ [.clear] <+: operations →
      (reached [] .shared before).runtime.active.keys = []) :
    (reached [] .shared operations).runtime.SideTables ∧
      (reached [] .shared operations).runtime.Mirrored := by
  induction operations using List.reverseRecOn with
  | nil => exact ⟨sideTables_empty [], fun id => Iff.rfl⟩
  | append_singleton before operation induction =>
      have earlier := induction fun first reaches =>
        cleared first (reaches.trans (List.prefix_append before [operation]))
      rw [reached_append]
      refine consistent_perform earlier.1 earlier.2 fun same => ?_
      exact cleared before (same ▸ List.prefix_rfl)

theorem idle_reached {shared : List String} {given : GivenRegistry}
    {operations : List RuntimeOperation}
    (idle : ∀ plan terms, .instantiate plan terms ∉ operations) :
    (reached shared given operations).runtime.SideTables ∧
      (reached shared given operations).runtime.active.keys = [] := by
  induction operations using List.reverseRecOn with
  | nil => exact ⟨sideTables_empty _, rfl⟩
  | append_singleton before operation induction =>
      obtain ⟨tables, none⟩ := induction fun plan terms member =>
        idle plan terms (List.mem_append_left _ member)
      rw [reached_append]
      change ((reached shared given before).perform operation).runtime.SideTables ∧
        ((reached shared given before).perform operation).runtime.active.keys = []
      rcases perform_cases (reached shared given before) operation with
        ⟨plan, terms, rfl⟩ | rfl | ⟨ids, performed⟩
      · exact absurd (List.mem_append_right _ (List.mem_singleton.mpr rfl)) (idle plan terms)
      · exact ⟨tables.clear none, rfl⟩
      · rw [performed]
        refine ⟨foldl_expire_keeps SideTables (fun tables => tables.expire) ids tables, ?_⟩
        refine foldl_expire_keeps (fun runtime => runtime.active.keys = [])
          (fun empty _ => ?_) ids none
        exact List.eq_nil_iff_forall_not_mem.mpr fun other held =>
          absurd (Dict.mem_keys_of_erase held) (empty ▸ List.not_mem_nil)

theorem empty_of_consistent {shared : List String} {given : GivenRegistry}
    (consistent : Consistent given (reached shared given []).runtime) :
    given.ids (reached shared given []).runtime = [] := by
  apply List.eq_nil_iff_forall_not_mem.mpr
  intro id listed
  have active := (consistent.legacy id).mp listed
  cases active

/-- The runtime keeps its books exactly where the registry that is passed is empty and is
`SYNTHESES`, and no active contract is cleared; or where nothing is instantiated. -/
theorem keeps_books_iff (shared : List String) (given : GivenRegistry)
    (operations : List RuntimeOperation) :
    KeepsBooks shared given operations ↔ Bookable shared given operations := by
  constructor
  · intro keeps
    have empty := empty_of_consistent (keeps.consistent [] (List.nil_prefix))
    cases given with
    | shared =>
        refine ⟨empty, fun before reaches => ?_⟩
        apply List.eq_nil_iff_forall_not_mem.mpr
        intro id active
        have origin := labelled_reached shared .shared before id active
        have cleared := keeps.consistent _ reaches
        rw [reached_append] at cleared
        have active := cleared.tables.origin id origin
        cases active
    | own ids =>
        obtain rfl : ids = [] := by
          cases ids with
          | nil => rfl
          | cons id ids => cases empty
        refine ⟨rfl, fun plan terms member => ?_⟩
        obtain ⟨before, after, rfl⟩ := List.append_of_mem member
        have later := keeps.consistent (before ++ [.instantiate plan terms])
          ⟨after, by simp⟩
        rw [reached_append] at later
        have listed := (later.legacy _).mpr (Dict.mem_keys_set_iff.mpr (.inr rfl))
        cases listed
  · intro bookable
    apply KeepsBooks.of_consistent
    intro before reaches
    cases given with
    | shared =>
        obtain ⟨rfl, cleared⟩ := bookable
        obtain ⟨tables, mirrored⟩ := consistent_shared fun first later =>
          cleared first (later.trans reaches)
        exact ⟨tables, mirrored⟩
    | own ids =>
        obtain ⟨rfl, idle⟩ := bookable
        have resting : (reached shared (.own []) before).runtime.SideTables ∧
            (reached shared (.own []) before).runtime.active.keys = [] :=
          idle_reached fun plan terms member => idle plan terms (reaches.subset member)
        obtain ⟨tables, none⟩ := resting
        refine ⟨tables, fun id => ?_⟩
        rw [none]
        exact Iff.rfl

end Law

namespace BookkeepingSamples

open RuntimeState

open scoped PlainServing

theorem planSteps_ne : [(⟨"BOOK", [], none⟩ : CompositionStep)] ≠ [] := List.cons_ne_nil _ _

def plan : SynthesisPlan where
  proposedMethod := ⟨"BOOK", none, [], []⟩
  steps := [⟨"BOOK", [], none⟩]
  steps_ne := planSteps_ne
  outputAggregation := .last
  description := none
  policyName := none
  recipeName := none
  recipeVersion := none

def booking : RuntimeOperation :=
  .instantiate plan ⟨none, false, some "agent", some "hash", "rcns-confirmed"⟩

/-- An empty registry stays empty, and a cleared runtime still names the agent. -/
theorem books_lost :
    ¬KeepsBooks [] (.own []) [booking] ∧ ¬KeepsBooks [] .shared [booking, .clear] := by
  constructor
  · intro keeps
    have state := keeps.consistent [booking] List.prefix_rfl
    have listed := (state.legacy "s").mpr (by decide)
    cases listed
  · intro keeps
    have state := keeps.consistent [booking, .clear] List.prefix_rfl
    have active := state.tables.originating "s" (by decide)
    cases active

end BookkeepingSamples

end Agtp
