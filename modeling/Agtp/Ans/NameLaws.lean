import Agtp.Ans.Methods

/-! # The two maps of the name store

Names are kept with the agents that they are bound to, and agents with the name that they were
bound to last. -/

namespace Agtp

/-- A call of `register` or `deregister`. -/
inductive NameCall where
  | register (name agentId : String) (manifest : List (String × Json)) (now : String)
  | deregister (agentId name : Option String)

def NameCall.Registers (agentId : String) : NameCall → Prop
  | register _ other _ _ => other = agentId
  | deregister _ _ => False

namespace NameStore

def empty : NameStore := ⟨.empty, .empty⟩

section Runs

variable [TextCase] [TextOf]

/-! ## Runs -/

def after (store : NameStore) : NameCall → NameStore
  | .register name agentId manifest now =>
      (store.register name (.string agentId) manifest now).2
  | .deregister agentId name =>
      (store.deregister (Presence.optionalText agentId) (Presence.optionalText name)).2

def afterAll (store : NameStore) (calls : List NameCall) : NameStore :=
  calls.foldl after store

def Bound (store : NameStore) (agentId : String) : Prop :=
  ∃ name binding, store.resolve name = some binding ∧ binding.agentId = .string agentId

/-- An agent resolves by its id exactly if it has an active name, and to a binding of its
own. -/
def IndexAgrees (store : NameStore) : Prop :=
  ∀ agentId,
    (∀ binding, store.resolveById agentId = some binding → binding.agentId = .string agentId) ∧
      ((store.resolveById agentId).isSome ↔ store.Bound agentId)

/-- The agent that a call of `deregister` is about: that of the id, or else that of the
name. -/
def Concerns (store : NameStore) (agentId name : Option String) (subject : String) : Prop :=
  agentId = some subject ∨ agentId = none ∧ ∃ text binding, name = some text ∧
    store.resolve text = some binding ∧ binding.agentId = .string subject

/-- What the maps owe to their users along a run from a new store. -/
structure KeepsNames (calls : List NameCall) : Prop where
  /-- A deregistered agent has no name until it is registered again. -/
  gone : ∀ before agentId name later rest,
    calls = before ++ .deregister (some agentId) name :: (later ++ rest) →
      (∀ call ∈ later, ¬call.Registers agentId) →
        ¬(((empty.afterAll before).after (.deregister (some agentId) name)).afterAll
          later).Bound agentId
  /-- Deregistering an agent leaves the names of the others. -/
  untouched : ∀ before agentId name rest,
    calls = before ++ .deregister agentId name :: rest →
      ∀ subject, (empty.afterAll before).Concerns agentId name subject →
        ∀ other binding, (empty.afterAll before).resolve other = some binding →
          binding.agentId ≠ .string subject →
            ((empty.afterAll before).after (.deregister agentId name)).resolve other =
              some binding
  agrees : ∀ before rest, calls = before ++ rest → (empty.afterAll before).IndexAgrees

/-! ## Conditions -/

def addressed (store : NameStore) (agentId name : Option String) :
    Option (String × NameBinding) :=
  match store.targetKey (Presence.optionalText agentId) (Presence.optionalText name) with
  | .ok (some key) => if key = "" then none else (store.byName.get? key).map (key, ·)
  | _ => none

def Careful (store : NameStore) : NameCall → Prop
  | .register name agentId _ _ =>
      -- The name is not blank, and is not the last name of another agent.
      nameKey name ≠ "" ∧ ∀ other, store.nameById.get? other = some (nameKey name) →
        other = agentId
  | .deregister agentId name =>
      -- The binding is the only one of its agent, and of the agent that is named.
      (∀ key binding, store.addressed agentId name = some (key, binding) →
        (∀ other held, store.byName.get? other = some held →
          held.agentId = binding.agentId → other = key) ∧
        ∀ subject, agentId = some subject → binding.agentId = .string subject) ∧
      (store.addressed agentId name = none → ∀ subject, agentId = some subject →
        ¬store.Bound subject)

def CarefulRun (calls : List NameCall) : Prop :=
  ∀ before call rest, calls = before ++ call :: rest → (empty.afterAll before).Careful call

/-! ## What the calls do -/

theorem after_register (store : NameStore) (name agentId : String)
    (manifest : List (String × Json)) (now : String) :
    ∃ binding : NameBinding, binding.name = name ∧ binding.agentId = .string agentId ∧
      binding.status = "active" ∧
      store.after (.register name agentId manifest now) =
        ⟨store.byName.set (nameKey name) binding, store.nameById.set agentId (nameKey name)⟩ :=
  ⟨_, rfl, rfl, rfl, rfl⟩

def Proper (store : NameStore) : Prop :=
  ∀ key binding, store.byName.get? key = some binding →
    binding.status = "active" ∧ nameKey binding.name = key ∧
      ∃ agentId, binding.agentId = .string agentId

variable {store : NameStore}

theorem after_deregister (proper : store.Proper) (agentId name : Option String) :
    match store.addressed agentId name with
    | none => store.after (.deregister agentId name) = store
    | some (key, binding) =>
        store.byName.get? key = some binding ∧ ∃ owner, binding.agentId = .string owner ∧
          store.after (.deregister agentId name) =
            ⟨store.byName.erase key, store.nameById.erase owner⟩ := by
  rw [addressed, after, deregister]
  cases store.targetKey (Presence.optionalText agentId) (Presence.optionalText name) with
  | error raised => rfl
  | ok target =>
      cases target with
      | none => rfl
      | some key =>
          dsimp only
          cases held : store.byName.get? key with
          | none => simp
          | some binding =>
              rcases (proper key binding held).2.2 with ⟨owner, own⟩
              by_cases blank : key = ""
              · simp [blank]
              · simp only [blank, if_false, Option.map_some]
                exact ⟨held, owner, own, by rw [own]; rfl⟩

omit [TextOf] in
theorem resolve_eq_some_iff {name : String} {binding : NameBinding} :
    store.resolve name = some binding ↔
      store.byName.get? (nameKey name) = some binding ∧ binding.status = "active" := by
  rw [resolve, Option.filter_eq_some_iff, decide_eq_true_iff]

omit [TextOf] in
theorem bound_iff (proper : store.Proper) {agentId : String} :
    store.Bound agentId ↔
      ∃ key binding, store.byName.get? key = some binding ∧
        binding.agentId = .string agentId := by
  constructor
  · rintro ⟨name, binding, resolved, own⟩
    exact ⟨nameKey name, binding, (resolve_eq_some_iff.mp resolved).1, own⟩
  · rintro ⟨key, binding, held, own⟩
    rcases proper key binding held with ⟨active, keyed, _⟩
    refine ⟨binding.name, binding, ?_, own⟩
    rw [resolve_eq_some_iff, keyed]
    exact ⟨held, active⟩

omit [TextOf] in
theorem proper_empty : empty.Proper := nofun

theorem held_of_after (proper : store.Proper) {call : NameCall} {key : String}
    {held : NameBinding} (found : (store.after call).byName.get? key = some held) :
    store.byName.get? key = some held ∨
      ∃ name agentId manifest now, call = .register name agentId manifest now ∧
        key = nameKey name ∧ held.name = name ∧ held.agentId = .string agentId ∧
          held.status = "active" := by
  cases call with
  | register name agentId manifest now =>
      rcases after_register store name agentId manifest now with
        ⟨binding, named, own, active, done⟩
      rw [done] at found
      by_cases same : key = nameKey name
      · rw [same, Dict.get?_set_same] at found
        cases found
        exact .inr ⟨name, agentId, manifest, now, rfl, same, named, own, active⟩
      · rw [Dict.get?_set_other _ same] at found
        exact .inl found
  | deregister agentId name =>
      have done := after_deregister proper agentId name
      cases removed : store.addressed agentId name with
      | none =>
          rw [removed] at done
          rw [done] at found
          exact .inl found
      | some entry =>
          rcases entry with ⟨gone, binding⟩
          rw [removed] at done
          rcases done with ⟨_, owner, _, done⟩
          rw [done] at found
          by_cases same : key = gone
          · rw [same, Dict.get?_erase_same] at found
            cases found
          · rw [Dict.get?_erase_other _ same] at found
            exact .inl found

theorem proper_after (proper : store.Proper) (call : NameCall) : (store.after call).Proper := by
  intro key held found
  rcases held_of_after proper found with
    old | ⟨name, agentId, _, _, _, keyed, named, own, active⟩
  · exact proper key held old
  · exact ⟨active, by rw [named, keyed], agentId, own⟩

theorem not_bound_after (proper : store.Proper) {agentId : String} {call : NameCall}
    (unbound : ¬store.Bound agentId) (other : ¬call.Registers agentId) :
    ¬(store.after call).Bound agentId := by
  rw [bound_iff (proper_after proper call)]
  rw [bound_iff proper] at unbound
  rintro ⟨key, held, found, own⟩
  rcases held_of_after proper found with old | ⟨name, registered, _, _, rfl, _, _, its, _⟩
  · exact unbound ⟨key, held, old, own⟩
  · rw [its] at own
    exact other (Json.string.inj own)

/-! ## Agreement -/

structure Anchored (store : NameStore) : Prop where
  proper : store.Proper
  filled : ∀ key binding, store.byName.get? key = some binding → key ≠ ""
  indexed : ∀ key binding agentId, store.byName.get? key = some binding →
    binding.agentId = .string agentId → ∃ last, store.nameById.get? agentId = some last
  owned : ∀ agentId key, store.nameById.get? agentId = some key →
    ∃ binding, store.byName.get? key = some binding ∧ binding.agentId = .string agentId

omit [TextOf] in
theorem anchored_empty : empty.Anchored where
  proper := proper_empty
  filled := nofun
  indexed := nofun
  owned := nofun

omit [TextOf] in
theorem Anchored.agrees (anchored : store.Anchored) : store.IndexAgrees := by
  intro agentId
  rw [resolveById, bound_iff anchored.proper]
  cases last : store.nameById.get? agentId with
  | none =>
      refine ⟨nofun, ⟨nofun, ?_⟩⟩
      rintro ⟨key, binding, held, own⟩
      rcases anchored.indexed key binding agentId held own with ⟨other, found⟩
      cases last.symm.trans found
  | some key =>
      rcases anchored.owned agentId key last with ⟨binding, held, own⟩
      dsimp only
      rw [if_neg (anchored.filled key binding held), held]
      refine ⟨?_, ⟨fun _ => ⟨key, binding, held, own⟩, fun _ => rfl⟩⟩
      intro other same
      rwa [← Option.some.inj same]

theorem anchored_register (anchored : store.Anchored) {name agentId : String}
    {manifest : List (String × Json)} {now : String}
    (careful : store.Careful (.register name agentId manifest now)) :
    (store.after (.register name agentId manifest now)).Anchored := by
  rcases after_register store name agentId manifest now with ⟨binding, _, own, _, done⟩
  have proper := proper_after anchored.proper (.register name agentId manifest now)
  rw [done] at proper ⊢
  refine ⟨proper, ?_, ?_, ?_⟩
  · intro key held found
    by_cases same : key = nameKey name
    · rw [same]
      exact careful.1
    · rw [Dict.get?_set_other _ same] at found
      exact anchored.filled key held found
  · intro key held owner found its
    by_cases registered : owner = agentId
    · exact ⟨nameKey name, by rw [registered, Dict.get?_set_same]⟩
    · rw [Dict.get?_set_other _ registered]
      by_cases same : key = nameKey name
      · rw [same, Dict.get?_set_same] at found
        cases found
        rw [own] at its
        exact absurd (Json.string.inj its).symm registered
      · rw [Dict.get?_set_other _ same] at found
        exact anchored.indexed key held owner found its
  · intro owner key last
    by_cases registered : owner = agentId
    · rw [registered, Dict.get?_set_same] at last
      rw [registered, ← Option.some.inj last]
      exact ⟨binding, Dict.get?_set_same _ _ _, own⟩
    · rw [Dict.get?_set_other _ registered] at last
      rcases anchored.owned owner key last with ⟨held, found, its⟩
      have different : key ≠ nameKey name := by
        intro same
        rw [same] at last
        exact registered (careful.2 owner last)
      exact ⟨held, by rw [Dict.get?_set_other _ different]; exact found, its⟩

theorem anchored_deregister (anchored : store.Anchored) {agentId name : Option String}
    (careful : store.Careful (.deregister agentId name)) :
    (store.after (.deregister agentId name)).Anchored := by
  have done := after_deregister anchored.proper agentId name
  have proper := proper_after anchored.proper (.deregister agentId name)
  cases removed : store.addressed agentId name with
  | none =>
      rw [removed] at done
      rwa [done]
  | some entry =>
      rcases entry with ⟨gone, binding⟩
      rw [removed] at done
      rcases done with ⟨there, owner, its, done⟩
      have alone := (careful.1 gone binding removed).1
      rw [done] at proper ⊢
      refine ⟨proper, ?_, ?_, ?_⟩
      · intro key held found
        by_cases same : key = gone
        · rw [same, Dict.get?_erase_same] at found
          cases found
        · rw [Dict.get?_erase_other _ same] at found
          exact anchored.filled key held found
      · intro key held other found own
        by_cases same : key = gone
        · rw [same, Dict.get?_erase_same] at found
          cases found
        · rw [Dict.get?_erase_other _ same] at found
          have different : other ≠ owner := by
            rintro rfl
            exact same (alone key held found (own.trans its.symm))
          rw [Dict.get?_erase_other _ different]
          exact anchored.indexed key held other found own
      · intro other key last
        by_cases same : other = owner
        · rw [same, Dict.get?_erase_same] at last
          cases last
        · rw [Dict.get?_erase_other _ same] at last
          rcases anchored.owned other key last with ⟨held, found, own⟩
          refine ⟨held, ?_, own⟩
          rw [Dict.get?_erase_other]
          · exact found
          · rintro rfl
            rw [there] at found
            cases found
            exact same (Json.string.inj (own.symm.trans its))

theorem anchored_after (anchored : store.Anchored) {call : NameCall}
    (careful : store.Careful call) : (store.after call).Anchored := by
  cases call with
  | register name agentId manifest now => exact anchored_register anchored careful
  | deregister agentId name => exact anchored_deregister anchored careful

theorem careful_register (anchored : store.Anchored) {name agentId : String}
    {manifest : List (String × Json)} {now : String}
    (agrees : (store.after (.register name agentId manifest now)).IndexAgrees) :
    store.Careful (.register name agentId manifest now) := by
  have proper := proper_after anchored.proper (.register name agentId manifest now)
  rcases after_register store name agentId manifest now with ⟨binding, _, own, _, done⟩
  rw [done] at agrees proper
  have filled : nameKey name ≠ "" := by
    intro blank
    have bound := (agrees agentId).2.mpr ((bound_iff proper).mpr
      ⟨nameKey name, binding, Dict.get?_set_same _ _ _, own⟩)
    rw [resolveById, Dict.get?_set_same] at bound
    dsimp only at bound
    rw [if_pos blank] at bound
    cases bound
  refine ⟨filled, ?_⟩
  intro other last
  by_contra different
  have its := (agrees other).1 binding (by
    rw [resolveById, Dict.get?_set_other _ different, last]
    dsimp only
    rw [if_neg filled, Dict.get?_set_same])
  rw [own] at its
  exact different (Json.string.inj its).symm

omit [TextOf] in
theorem resolve_own (proper : store.Proper) {key : String} {binding : NameBinding}
    (held : store.byName.get? key = some binding) :
    store.resolve binding.name = some binding := by
  rcases proper key binding held with ⟨active, keyed, _⟩
  rw [resolve_eq_some_iff, keyed]
  exact ⟨held, active⟩

theorem careful_deregister (anchored : store.Anchored) {agentId name : Option String}
    (agrees : (store.after (.deregister agentId name)).IndexAgrees)
    (gone : ∀ subject, agentId = some subject →
      ¬(store.after (.deregister agentId name)).Bound subject)
    (untouched : ∀ subject, store.Concerns agentId name subject →
      ∀ other binding, store.resolve other = some binding →
        binding.agentId ≠ .string subject →
          (store.after (.deregister agentId name)).resolve other = some binding) :
    store.Careful (.deregister agentId name) := by
  have done := after_deregister anchored.proper agentId name
  have proper := proper_after anchored.proper (.deregister agentId name)
  constructor
  · intro key binding removed
    rw [removed] at done
    rcases done with ⟨there, owner, its, done⟩
    constructor
    · intro other held found same
      by_contra different
      rw [done] at agrees proper
      have bound := (agrees owner).2.mpr ((bound_iff proper).mpr
        ⟨other, held, by rw [Dict.get?_erase_other _ different]; exact found,
          same.trans its⟩)
      rw [resolveById, Dict.get?_erase_same] at bound
      cases bound
    · intro subject named
      by_contra foreign
      have kept := untouched subject (.inl named) binding.name binding
        (resolve_own anchored.proper there) foreign
      rw [resolve_eq_some_iff, done, (anchored.proper key binding there).2.1,
        Dict.get?_erase_same] at kept
      cases kept.1
  · intro nothing subject named
    rw [nothing] at done
    have unbound := gone subject named
    rwa [done] at unbound

theorem Anchored.gone (anchored : store.Anchored) {name : Option String} {agentId : String}
    (careful : store.Careful (.deregister (some agentId) name)) :
    ¬(store.after (.deregister (some agentId) name)).Bound agentId := by
  have done := after_deregister anchored.proper (some agentId) name
  cases removed : store.addressed (some agentId) name with
  | none =>
      rw [removed] at done
      rw [done]
      exact careful.2 removed agentId rfl
  | some entry =>
      rcases entry with ⟨key, binding⟩
      have own := (careful.1 key binding removed).2 agentId rfl
      rw [bound_iff (proper_after anchored.proper _)]
      rintro ⟨other, held, found, its⟩
      rw [removed] at done
      rcases done with ⟨_, _, _, done⟩
      rw [done] at found
      by_cases same : other = key
      · rw [same, Dict.get?_erase_same] at found
        cases found
      · rw [Dict.get?_erase_other _ same] at found
        exact same ((careful.1 key binding removed).1 other held found (its.trans own.symm))

theorem key_of_addressed {text key : String} {binding : NameBinding}
    (removed : store.addressed none (some text) = some (key, binding)) :
    key = nameKey text := by
  by_cases blank : text = ""
  · rw [blank] at removed
    cases removed
  · have target : store.targetKey .null (.string text) = .ok (some (nameKey text)) := by
      simp [targetKey, Json.truthy, blank]
    simp only [addressed, Presence.optionalText, target] at removed
    split at removed
    · cases removed
    · rcases Option.map_eq_some_iff.mp removed with ⟨_, _, same⟩
      exact (Prod.mk.inj same).1.symm

theorem Anchored.untouched (anchored : store.Anchored) {agentId name : Option String}
    (careful : store.Careful (.deregister agentId name)) {subject : String}
    (concerns : store.Concerns agentId name subject) {other : String} {binding : NameBinding}
    (resolved : store.resolve other = some binding)
    (foreign : binding.agentId ≠ .string subject) :
    (store.after (.deregister agentId name)).resolve other = some binding := by
  have done := after_deregister anchored.proper agentId name
  cases removed : store.addressed agentId name with
  | none =>
      rw [removed] at done
      rwa [done]
  | some entry =>
      rcases entry with ⟨key, held⟩
      rw [removed] at done
      rcases done with ⟨there, owner, its, done⟩
      rcases resolve_eq_some_iff.mp resolved with ⟨found, active⟩
      have own : held.agentId = .string subject := by
        rcases concerns with named | ⟨rfl, text, target, rfl, its, mine⟩
        · exact (careful.1 key held removed).2 subject named
        · rw [key_of_addressed removed, (resolve_eq_some_iff.mp its).1] at there
          rw [← Option.some.inj there]
          exact mine
      rw [resolve_eq_some_iff, done]
      refine ⟨?_, active⟩
      rw [Dict.get?_erase_other]
      · exact found
      · intro same
        rw [same, there] at found
        rw [← Option.some.inj found] at foreign
        exact foreign own

/-! ## Whole runs -/

theorem afterAll_snoc (store : NameStore) (calls : List NameCall) (call : NameCall) :
    store.afterAll (calls ++ [call]) = (store.afterAll calls).after call := by
  rw [afterAll, List.foldl_append]
  rfl

theorem anchored_of_careful {calls : List NameCall} (careful : CarefulRun calls)
    {before rest : List NameCall} (split : calls = before ++ rest) :
    (empty.afterAll before).Anchored := by
  induction before using List.reverseRecOn generalizing rest with
  | nil => exact anchored_empty
  | append_singleton before call induction =>
      rw [List.append_assoc] at split
      rw [afterAll_snoc]
      exact anchored_after (induction split) (careful before call rest split)

theorem not_bound_afterAll (proper : store.Proper) {agentId : String} {calls : List NameCall}
    (unbound : ¬store.Bound agentId) (others : ∀ call ∈ calls, ¬call.Registers agentId) :
    ¬(store.afterAll calls).Bound agentId := by
  induction calls generalizing store with
  | nil => exact unbound
  | cons call rest induction =>
      apply induction (proper_after proper call)
      · exact not_bound_after proper unbound (others call List.mem_cons_self)
      · intro other member
        exact others other (List.mem_cons_of_mem call member)

theorem careful_of_keepsNames {calls before rest : List NameCall} {call : NameCall}
    (keeps : KeepsNames calls) (split : calls = before ++ call :: rest)
    (anchored : (empty.afterAll before).Anchored) : (empty.afterAll before).Careful call := by
  have agrees := keeps.agrees (before ++ [call]) rest (by rw [split, List.append_assoc]; rfl)
  rw [afterAll_snoc] at agrees
  cases call with
  | register name agentId manifest now => exact careful_register anchored agrees
  | deregister agentId name =>
      apply careful_deregister anchored agrees
      · rintro subject rfl
        exact keeps.gone before subject name [] rest split nofun
      · intro subject concerns other binding resolved foreign
        exact keeps.untouched before agentId name rest split subject concerns other binding
          resolved foreign

theorem anchored_of_keepsNames {calls : List NameCall} (keeps : KeepsNames calls)
    {before rest : List NameCall} (split : calls = before ++ rest) :
    (empty.afterAll before).Anchored := by
  induction before using List.reverseRecOn generalizing rest with
  | nil => exact anchored_empty
  | append_singleton before call induction =>
      rw [List.append_assoc] at split
      rw [afterAll_snoc]
      have anchored := induction split
      exact anchored_after anchored (careful_of_keepsNames keeps split anchored)

/-- The maps of a new store keep what they owe along exactly the careful runs. -/
theorem keepsNames_iff (calls : List NameCall) : KeepsNames calls ↔ CarefulRun calls := by
  constructor
  · intro keeps before call rest split
    exact careful_of_keepsNames keeps split (anchored_of_keepsNames keeps split)
  · intro careful
    refine ⟨?_, ?_, ?_⟩
    · intro before agentId name later rest split others
      have anchored := anchored_of_careful careful split
      have gone := anchored.gone (careful before _ _ split)
      exact not_bound_afterAll (proper_after anchored.proper _) gone others
    · intro before agentId name rest split subject concerns other binding resolved foreign
      have anchored := anchored_of_careful careful split
      exact anchored.untouched (careful before _ _ split) concerns resolved foreign
    · intro before rest split
      exact (anchored_of_careful careful split).agrees

end Runs

end NameStore

/-! ## Samples -/

namespace NameSamples

open NameStore
open scoped Plain

def twoNames : List NameCall :=
  [.register "buyer" "scout" [] "1.0", .register "seller" "scout" [] "2.0",
    .deregister (some "scout") none]

/-- Of an agent that has two names, deregistering takes the last one only. -/
theorem second_name_outlives_agent :
    (empty.afterAll twoNames).Bound "scout" ∧
      ((empty.afterAll twoNames).resolveById "scout").isNone ∧ ¬KeepsNames twoNames := by
  have bound : (empty.afterAll twoNames).Bound "scout" := ⟨"buyer", _, rfl, rfl⟩
  refine ⟨bound, rfl, ?_⟩
  intro keeps
  exact keeps.gone _ "scout" none [] [] (show twoNames = [_, _] ++ _ from rfl) nofun bound

end NameSamples

end Agtp
