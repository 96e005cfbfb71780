import Agtp.Ads.Service

/-! # Opting out of anticipatory discovery

Any number of calls of the service at once. Each goes on by atomic steps, which are the
blocks under one of the two locks, and between two of them every other call may go on. -/

namespace Agtp.Ads

/-! ## Calls -/

/-- A call, as far as it has come. `forgetting` is an `unsubscribe` whose signals are gone;
`since` tells how often the agent had subscribed by then, which the code does not know. The
stages of a `preload` hold what it has read so far. -/
inductive AdsCall where
  | subscribe (agentId : String)
  | unsubscribe (agentId : String)
  | forgetting (agentId : String) (since : Nat)
  | observe (agentId capability : String)
  | observeAudit (agentId : String) (record : Json)
  | preload (agentId : String) (top : Int) (now : ℚ)
  | predicting (agentId : String) (top : Int) (now : ℚ)
  | recalling (agentId : String) (top : Int) (now : ℚ)
  | counting (agentId : String) (top : Int) (now : ℚ) (current : Option String)
  | following (agentId : String) (top : Int) (now : ℚ) (current : String)
      (freq : Dict String Nat)
  | resolving (agentId : String) (now : ℚ) (capabilities : List String)
  | storing (agentId : String) (now : ℚ) (capability : String) (found : Found)
      (rest : List String)
  | ended

inductive AdsRequest where
  | subscribe (agentId : String)
  | unsubscribe (agentId : String)
  | observe (agentId capability : String)
  | observeAudit (agentId : String) (record : Json)
  | preload (agentId : String) (top : Int) (now : ℚ)

def AdsRequest.call : AdsRequest → AdsCall
  | .subscribe agentId => .subscribe agentId
  | .unsubscribe agentId => .unsubscribe agentId
  | .observe agentId capability => .observe agentId capability
  | .observeAudit agentId record => .observeAudit agentId record
  | .preload agentId top now => .preload agentId top now

/-- The service and its calls. The last two fields are the history of finished steps: the
agents that subscribed, and the opt-outs that returned. -/
structure AdsSystem where
  service : AdsService
  calls : List AdsCall
  subscriptions : List String
  returned : List (String × Nat)

/-- What happens next: a call begins, or a call takes its next step. `answer` is what a
discovery across scopes returns, if the step makes one; `none` if it raises. -/
inductive AdsTurn where
  | begin (request : AdsRequest)
  | advance (index : Nat) (answer : Option Found)

namespace AdsSystem

def start (history : Nat) : AdsSystem := ⟨.initial history, [], [], []⟩

variable [TextCase]

/-- The next step of a call that only reads the signals, or none at all. -/
def reads (signals : SignalStore) (answer : Option Found) : AdsCall → AdsCall
  | .preload agentId top now =>
      if signals.isSubscribed agentId then .predicting agentId top now else .ended
  | .predicting agentId top now =>
      if signals.isSubscribed agentId then .recalling agentId top now else .ended
  | .recalling agentId top now =>
      .counting agentId top now (signals.lastCapability agentId)
  | .counting agentId top now current =>
      let freq := signals.frequency agentId
      match current with
      | some capability =>
          if capability = "" then
            .resolving agentId now
              ((predictCapabilities current freq .empty top).map Prod.fst)
          else .following agentId top now capability freq
      | none =>
          .resolving agentId now ((predictCapabilities none freq .empty top).map Prod.fst)
  | .following agentId top now current freq =>
      let trans := signals.transitionsFrom agentId current
      .resolving agentId now ((predictCapabilities (some current) freq trans top).map Prod.fst)
  | .resolving agentId now (capability :: rest) =>
      match answer with
      | some found => .storing agentId now capability found rest
      | none => .ended
  | .resolving _ _ [] => .ended
  | call => call

/-- The next step of a call, without what it makes of the call itself. -/
def step (system : AdsSystem) (answer : Option Found) : AdsCall → AdsSystem × AdsCall
  | .subscribe agentId =>
      ({ system with
          service := { system.service with
            signals := system.service.signals.subscribe agentId }
          subscriptions := agentId :: system.subscriptions }, .ended)
  | .unsubscribe agentId =>
      ({ system with
          service := { system.service with
            signals := system.service.signals.unsubscribe agentId } },
        .forgetting agentId (system.subscriptions.count agentId))
  | .forgetting agentId since =>
      ({ system with
          service := system.service.forget agentId
          returned := (agentId, since) :: system.returned }, .ended)
  | .observe agentId capability =>
      ({ system with
          service := { system.service with
            signals :=
              (system.service.signals.observeCapability agentId capability).1 } }, .ended)
  | .observeAudit agentId record =>
      ({ system with
          service := { system.service with
            signals := (system.service.signals.feedAudit agentId record).1 } }, .ended)
  | .storing agentId now capability found rest =>
      ({ system with
          service := system.service.store agentId capability ⟨found, now⟩ },
        .resolving agentId now rest)
  | call => (system, reads system.service.signals answer call)

def turn (system : AdsSystem) : AdsTurn → AdsSystem
  | .begin request => { system with calls := system.calls ++ [request.call] }
  | .advance index answer =>
      match system.calls[index]? with
      | none => system
      | some call =>
          let next := system.step answer call
          { next.1 with calls := system.calls.set index next.2 }

def reached (history : Nat) (turns : List AdsTurn) : AdsSystem :=
  turns.foldl turn (start history)

theorem reached_concat (history : Nat) (before : List AdsTurn) (next : AdsTurn) :
    reached history (before ++ [next]) = (reached history before).turn next :=
  List.foldl_append

/-- An `unsubscribe` of the agent has returned, and the agent has not subscribed since its
signals were dropped. -/
def OptedOut (system : AdsSystem) (agentId : String) : Prop :=
  (agentId, system.subscriptions.count agentId) ∈ system.returned

def storesFor (system : AdsSystem) : AdsTurn → Option String
  | .begin _ => none
  | .advance index _ =>
      match system.calls[index]? with
      | some (.storing agentId _ _ _ _) => some agentId
      | _ => none

end AdsSystem

/-! ## What the signals keep to -/

section Signals

variable {store : SignalStore} {agentId other : String}

def SignalStore.OfSubscribers (store : SignalStore) : Prop :=
  ∀ agentId, agentId ∉ store.subscribed → store.agents.get? agentId = none

theorem ofSubscribers_subscribe (kept : store.OfSubscribers) (agentId : String) :
    (store.subscribe agentId).OfSubscribers := by
  intro other outside
  have different : other ≠ agentId := by
    intro same
    exact outside (List.mem_insert_iff.mpr (.inl same))
  have unsubscribed : other ∉ store.subscribed :=
    fun inside => outside (List.mem_insert_iff.mpr (.inr inside))
  simp only [SignalStore.subscribe]
  split
  · exact kept other unsubscribed
  · rw [Dict.get?_set_other _ different]
    exact kept other unsubscribed

theorem ofSubscribers_unsubscribe (kept : store.OfSubscribers) (agentId : String) :
    (store.unsubscribe agentId).OfSubscribers := by
  intro other outside
  by_cases same : other = agentId
  · rw [same]
    exact Dict.get?_erase_same _ _
  · refine (Dict.get?_erase_other _ same).trans (kept other ?_)
    intro inside
    exact outside (List.mem_filter.mpr ⟨inside, by simpa using same⟩)

variable [TextCase]

theorem subscribed_observe (agentId capability : String) :
    (store.observeCapability agentId capability).1.subscribed = store.subscribed := by
  simp only [SignalStore.observeCapability]
  split
  · rfl
  · split
    · rfl
    · split
      · rfl
      · rfl

theorem ofSubscribers_observe (kept : store.OfSubscribers) (agentId capability : String) :
    (store.observeCapability agentId capability).1.OfSubscribers := by
  intro other outside
  rw [subscribed_observe] at outside
  have absent := kept other outside
  simp only [SignalStore.observeCapability]
  split
  · exact absent
  · split
    · exact absent
    · split
      · exact absent
      · next signals held =>
          have different : other ≠ agentId := by
            intro same
            rw [← same, absent] at held
            cases held
          rw [Dict.get?_set_other _ different]
          exact absent

theorem feedAudit_cases (agentId : String) (record : Json) (store : SignalStore) :
    (store.feedAudit agentId record).1 = store ∨
      ∃ method, (store.feedAudit agentId record).1 =
        (store.observeCapability agentId method).1 := by
  unfold SignalStore.feedAudit
  split
  · split
    · exact .inr ⟨_, rfl⟩
    · exact .inl rfl
  · exact .inl rfl

end Signals

/-! ## The invariant -/

namespace AdsSystem

def Unsubscribed (system : AdsSystem) (agentId : String) (since : Nat) : Prop :=
  since ≤ system.subscriptions.count agentId ∧
    (since = system.subscriptions.count agentId →
      agentId ∉ system.service.signals.subscribed)

/-- Signals are kept of subscribers only; an agent whose opt-out is under way is no
subscriber, unless it subscribed since; and of one whose opt-out has returned there is
nothing preloaded either. -/
structure Kept (system : AdsSystem) : Prop where
  signals : system.service.signals.OfSubscribers
  pending : ∀ agentId since, .forgetting agentId since ∈ system.calls →
    system.Unsubscribed agentId since
  settled : ∀ agentId since, (agentId, since) ∈ system.returned →
    system.Unsubscribed agentId since
  dropped : ∀ agentId, system.OptedOut agentId →
    ∀ capability, system.service.preloaded.get? (agentId, capability) = none

theorem Kept.holdsNothing {system : AdsSystem} (kept : system.Kept) {agentId : String}
    (optedOut : system.OptedOut agentId) : system.service.HoldsNothing agentId :=
  ⟨kept.signals agentId ((kept.settled agentId _ optedOut).2 rfl),
    kept.dropped agentId optedOut⟩

theorem kept_start (history : Nat) : (start history).Kept where
  signals := fun _ _ => rfl
  pending := fun _ _ member => absurd member List.not_mem_nil
  settled := fun _ _ member => absurd member List.not_mem_nil
  dropped := fun _ member => absurd member List.not_mem_nil

variable [TextCase]

theorem reads_ne_forgetting {signals : SignalStore} {answer : Option Found} {call : AdsCall}
    {agentId : String} {since : Nat}
    (becomes : reads signals answer call = .forgetting agentId since) :
    call = .forgetting agentId since := by
  unfold reads at becomes
  split at becomes
  all_goals repeat' split at becomes
  all_goals first
    | exact becomes
    | cases becomes

/-! ## One step at a time -/

section Steps

variable {system : AdsSystem}

omit [TextCase] in
theorem Kept.subscribe (kept : system.Kept) (agentId : String) :
    { system with
      service := { system.service with signals := system.service.signals.subscribe agentId }
      subscriptions := agentId :: system.subscriptions }.Kept := by
  have unsubscribed {other : String} {since : Nat}
      (before : system.Unsubscribed other since) :
      { system with
        service := { system.service with signals := system.service.signals.subscribe agentId }
        subscriptions := agentId :: system.subscriptions }.Unsubscribed other since := by
    obtain ⟨bounded, outside⟩ := before
    by_cases same : other = agentId
    · subst same
      constructor
      · simp only [List.count_cons_self]
        omega
      · intro now
        simp only [List.count_cons_self] at now
        omega
    · have count := List.count_cons_of_ne (l := system.subscriptions) (Ne.symm same)
      simp only [Unsubscribed, count]
      refine ⟨bounded, fun now inside => outside now ?_⟩
      exact (List.mem_insert_iff.mp inside).resolve_left same
  refine ⟨ofSubscribers_subscribe kept.signals agentId, ?_, ?_, ?_⟩
  · intro other since member
    exact unsubscribed (kept.pending other since member)
  · intro other since member
    exact unsubscribed (kept.settled other since member)
  · intro other optedOut
    by_cases same : other = agentId
    · subst same
      have bounded := (kept.settled other _ optedOut).1
      simp only [List.count_cons_self] at bounded
      omega
    · have count := List.count_cons_of_ne (l := system.subscriptions) (Ne.symm same)
      apply kept.dropped other
      simp only [OptedOut, count] at optedOut
      exact optedOut

omit [TextCase] in
theorem Kept.unsubscribe (kept : system.Kept) (agentId : String) :
    { system with
      service := { system.service with
        signals := system.service.signals.unsubscribe agentId } }.Kept where
  signals := ofSubscribers_unsubscribe kept.signals agentId
  pending := fun other since member =>
    have before := kept.pending other since member
    ⟨before.1, fun now inside => before.2 now (List.mem_of_mem_filter inside)⟩
  settled := fun other since member =>
    have before := kept.settled other since member
    ⟨before.1, fun now inside => before.2 now (List.mem_of_mem_filter inside)⟩
  dropped := kept.dropped

omit [TextCase] in
theorem Kept.forget (kept : system.Kept) {agentId : String} {since : Nat}
    (pending : .forgetting agentId since ∈ system.calls) :
    { system with
      service := system.service.forget agentId
      returned := (agentId, since) :: system.returned }.Kept where
  signals := kept.signals
  pending := kept.pending
  settled := by
    intro other sinceOther member
    rcases List.mem_cons.mp member with new | old
    · cases new
      exact kept.pending agentId since pending
    · exact kept.settled other sinceOther old
  dropped := by
    intro other optedOut capability
    by_cases same : other = agentId
    · subst same
      exact AdsService.forget_same _ _ _
    · have earlier : system.OptedOut other := by
        rcases List.mem_cons.mp optedOut with new | old
        · exact absurd (congrArg Prod.fst new) same
        · exact old
      rw [AdsService.forget_other _ same]
      exact kept.dropped other earlier capability

theorem Kept.observe (kept : system.Kept) (agentId capability : String) :
    { system with
      service := { system.service with
        signals := (system.service.signals.observeCapability agentId capability).1 } }.Kept := by
  have same : (system.service.signals.observeCapability agentId capability).1.subscribed =
      system.service.signals.subscribed := subscribed_observe agentId capability
  refine ⟨ofSubscribers_observe kept.signals agentId capability, ?_, ?_, kept.dropped⟩
  · intro other since member
    simp only [Unsubscribed, same]
    exact kept.pending other since member
  · intro other since member
    simp only [Unsubscribed, same]
    exact kept.settled other since member

theorem Kept.observeAudit (kept : system.Kept) (agentId : String) (record : Json) :
    { system with
      service := { system.service with
        signals := (system.service.signals.feedAudit agentId record).1 } }.Kept := by
  rcases feedAudit_cases agentId record system.service.signals with same | ⟨method, same⟩
  · rw [same]
    exact kept
  · rw [same]
    exact kept.observe agentId method

omit [TextCase] in
theorem Kept.store (kept : system.Kept) {agentId : String}
    (subscribed : ¬ system.OptedOut agentId) (capability : String) (result : Preloaded) :
    { system with service := system.service.store agentId capability result }.Kept where
  signals := kept.signals
  pending := kept.pending
  settled := kept.settled
  dropped := by
    intro other optedOut held
    have different : (other, held) ≠ (agentId, capability) := by
      intro same
      cases same
      exact subscribed optedOut
    exact (Dict.get?_set_other _ different _).trans (kept.dropped other optedOut held)

omit [TextCase] in
theorem Kept.with_calls (kept : system.Kept) {calls : List AdsCall}
    (pending : ∀ agentId since, .forgetting agentId since ∈ calls →
      system.Unsubscribed agentId since) :
    { system with calls := calls }.Kept where
  signals := kept.signals
  pending := pending
  settled := kept.settled
  dropped := kept.dropped

theorem step_calls (answer : Option Found) (call : AdsCall) :
    (system.step answer call).1.calls = system.calls := by
  cases call <;> rfl

theorem pending_of_step {answer : Option Found} {call : AdsCall} {agentId : String}
    {since : Nat} (becomes : (system.step answer call).2 = .forgetting agentId since) :
    (system.step answer call).1.Unsubscribed agentId since := by
  cases call with
  | unsubscribe agentId =>
      cases becomes
      refine ⟨Nat.le_refl _, fun _ inside => ?_⟩
      simp [step, SignalStore.unsubscribe] at inside
  | subscribe | forgetting | observe | observeAudit | storing => cases becomes
  | _ =>
      simp only [step] at becomes
      have same := reads_ne_forgetting becomes
      cases same

theorem Kept.turn (kept : system.Kept) (next : AdsTurn)
    (meets : ∀ agentId, system.storesFor next = some agentId → ¬ system.OptedOut agentId) :
    (system.turn next).Kept := by
  cases next with
  | begin request =>
      apply kept.with_calls
      intro agentId since member
      refine kept.pending agentId since ((List.mem_append.mp member).resolve_right ?_)
      cases request <;> simp [AdsRequest.call]
  | advance index answer =>
      cases found : system.calls[index]? with
      | none =>
          simp only [AdsSystem.turn, found]
          exact kept
      | some call =>
          have held : call ∈ system.calls := List.mem_of_getElem? found
          simp only [AdsSystem.turn, found]
          have stepped : (system.step answer call).1.Kept := by
            cases call with
            | subscribe agentId => exact kept.subscribe agentId
            | unsubscribe agentId => exact kept.unsubscribe agentId
            | forgetting agentId since => exact kept.forget held
            | observe agentId capability => exact kept.observe agentId capability
            | observeAudit agentId record => exact kept.observeAudit agentId record
            | storing agentId now capability result rest =>
                exact kept.store (meets agentId (by simp [storesFor, found])) _ _
            | _ => exact kept
          refine stepped.with_calls ?_
          intro agentId since member
          rcases List.mem_or_eq_of_mem_set member with old | new
          · exact stepped.pending agentId since (by rw [step_calls]; exact old)
          · exact pending_of_step new.symm

end Steps

/-! ## Runs -/

theorem kept_reached (history : Nat) {turns : List AdsTurn}
    (meets : ∀ before next, before ++ [next] <+: turns → ∀ agentId,
      (reached history before).storesFor next = some agentId →
      ¬ (reached history before).OptedOut agentId) :
    (reached history turns).Kept := by
  induction turns using List.reverseRecOn with
  | nil => exact kept_start history
  | append_singleton before next induction =>
      rw [reached_concat]
      apply Kept.turn
      · apply induction
        intro earlier turn isPrefix
        exact meets earlier turn (isPrefix.trans (List.prefix_append _ _))
      · exact meets before next List.prefix_rfl

/-- A preload that stores results for an agent that has opted out leaves the service with
them. -/
theorem holds_after_storing {system : AdsSystem} {next : AdsTurn} {agentId : String}
    (stores : system.storesFor next = some agentId) (optedOut : system.OptedOut agentId) :
    (system.turn next).OptedOut agentId ∧
      ¬ (system.turn next).service.HoldsNothing agentId := by
  cases next with
  | begin request => cases stores
  | advance index answer =>
      simp only [storesFor] at stores
      split at stores
      · next storer now capability result rest found =>
          cases stores
          simp only [turn, found]
          refine ⟨optedOut, fun nothing => ?_⟩
          have held := nothing.2 capability
          simp [step, AdsService.store] at held
      · cases stores

/-- In every run, nothing is held of an agent that has opted out, in any state reached,
exactly when no preload stores its results for an agent that has opted out. -/
theorem opt_out_kept_iff (history : Nat) (turns : List AdsTurn) :
    (∀ before, before <+: turns → ∀ agentId, (reached history before).OptedOut agentId →
      (reached history before).service.HoldsNothing agentId) ↔
    ∀ before next, before ++ [next] <+: turns → ∀ agentId,
      (reached history before).storesFor next = some agentId →
      ¬ (reached history before).OptedOut agentId := by
  constructor
  · intro holds before next isPrefix agentId stores optedOut
    obtain ⟨still, something⟩ := holds_after_storing stores optedOut
    rw [← reached_concat] at still something
    exact something (holds _ isPrefix agentId still)
  · intro meets before isPrefix agentId optedOut
    apply Kept.holdsNothing _ optedOut
    apply kept_reached
    intro earlier next earlierPrefix
    exact meets earlier next (earlierPrefix.trans isPrefix)

end AdsSystem

end Agtp.Ads

/-! ## A preload that outlives its consent -/

namespace Agtp.Ads.OptOutSamples

open AdsSystem
open scoped Plain

def nothing : Found := ⟨[], []⟩

/-- Agent `a` exercises two capabilities, one of which a preload is resolving when the agent
opts out. -/
def late : List AdsTurn :=
  [.begin (.subscribe "a"), .advance 0 none,
    .begin (.observe "a" "settle"), .advance 1 none,
    .begin (.observe "a" "quote"), .advance 2 none,
    .begin (.preload "a" 3 0), .advance 3 none, .advance 3 none, .advance 3 none,
    .advance 3 none, .advance 3 none, .advance 3 (some nothing),
    .begin (.unsubscribe "a"), .advance 4 none, .advance 4 none,
    .advance 3 none]

/-- The opt-out has returned, and the results come after it. -/
theorem late_results_held :
    (reached 64 late).OptedOut "a" ∧ ¬ (reached 64 late).service.HoldsNothing "a" := by
  have held : ((reached 64 late).service.preloaded.get? ("a", "settle")).isSome = true := by
    decide +kernel
  refine ⟨?_, fun nothing => ?_⟩
  · unfold OptedOut
    decide +kernel
  · rw [nothing.2 "settle"] at held
    cases held

end Agtp.Ads.OptOutSamples
