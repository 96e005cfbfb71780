import Agtp.Server.RcnsCalls

/-! # Negotiating once for a key

The contracts that the calls of one agent with one idempotency key instantiate, and the answers
that they get. -/

namespace Agtp

open SlidingWindow

/-! ## What is promised -/

namespace RcnsCall

def isFor (agentId key : String) (call : RcnsCall) : Bool :=
  call.agentId = agentId && call.key = key

def isNegotiating (call : RcnsCall) : Bool :=
  match call.stage with
  | .resolving none | .composing | .attempted _ | .agreed | .instantiated _ => true
  | _ => false

def isClaimant (agentId key : String) (call : RcnsCall) : Bool :=
  call.isFor agentId key && (call.isNegotiating || call.drew.isSome)

end RcnsCall

def DrewFor (agentId key : String) (calls : List RcnsCall) (synthesisId : String) : Prop :=
  ∃ call ∈ calls, call.isFor agentId key = true ∧ call.drew = some synthesisId

namespace RcnsSystem

/-- At most one contract is instantiated for the key, and the calls that are answered with
a contract get that one. -/
structure NegotiatesOnce (agentId key : String) (system : RcnsSystem) : Prop where
  single : (system.calls.countP fun call =>
    call.isFor agentId key && call.drew.isSome) ≤ 1
  answers : ∀ call ∈ system.calls, call.isFor agentId key = true → ∀ synthesisId,
    call.stage = .answered synthesisId → DrewFor agentId key system.calls synthesisId

/-- The calls with the key come within the window of its binding, and while its contract is
active. -/
def Covered (config : RcnsConfig) (agentId key : String) (system : RcnsSystem) :
    RcnsTurn → Prop
  | .advance index _ => ∀ call, system.calls[index]? = some call →
      call.isFor agentId key = true →
      match call.stage with
      | .admitted => ∀ other ∈ system.calls, other.isFor agentId key = true →
          ∀ time ∈ other.boundAt, system.now < time + config.idempotencyWindowSeconds
      | .resolving _ => ∀ synthesisId, DrewFor agentId key system.calls synthesisId →
          synthesisId ∈ system.desk.active
      | _ => True
  | _ => True

def Alone (agentId key : String) (system : RcnsSystem) : RcnsTurn → Prop
  | .advance index _ => ∀ call, system.calls[index]? = some call →
      call.isFor agentId key = true → call.stage = .admitted →
      ∀ other ∈ system.calls, other.isFor agentId key = true → other.isNegotiating = false
  | _ => True

end RcnsSystem

/-! ## What the stages say -/

structure RcnsCall.Tracked (call : RcnsCall) : Prop where
  drew : ∀ synthesisId, call.drew = some synthesisId →
    call.stage = .instantiated synthesisId ∨
      call.stage = .answered synthesisId ∧ call.boundAt.isSome = true
  instantiated : ∀ synthesisId, call.stage = .instantiated synthesisId →
    call.drew = some synthesisId

theorem RcnsCall.Tracked.undrawn {call : RcnsCall} (tracked : call.Tracked)
    (instantiating : ∀ synthesisId, call.stage ≠ .instantiated synthesisId)
    (answering : ∀ synthesisId, call.stage ≠ .answered synthesisId) : call.drew = none := by
  cases drawn : call.drew with
  | none => rfl
  | some synthesisId =>
      rcases tracked.drew synthesisId drawn with stage | ⟨stage, _⟩
      · exact absurd stage (instantiating synthesisId)
      · exact absurd stage (answering synthesisId)

theorem RcnsCall.tracked_of_undrawn {call : RcnsCall} (undrawn : call.drew = none)
    (stage : ∀ synthesisId, call.stage ≠ .instantiated synthesisId) : call.Tracked where
  drew synthesisId drawn := by
    rw [undrawn] at drawn
    cases drawn
  instantiated synthesisId instantiating := absurd instantiating (stage synthesisId)

section Steps

open RcnsCall

variable [Tokens] {config : RcnsConfig} {now : ℚ} {call changed : RcnsCall}
  {desk after : RcnsDesk} {agentId key : String}

theorem Advances.isFor (step : Advances config now call desk changed after) :
    changed.isFor agentId key = call.isFor agentId key := by
  simp only [RcnsCall.isFor, step.agentId, step.key]

theorem Advances.tracked (step : Advances config now call desk changed after)
    (tracked : call.Tracked) : changed.Tracked := by
  cases step with
  | stopped _ stage | admitted _ stage | lookedUp stage | reused _ _ stage
  | missed _ _ stage | attempted _ stage =>
      exact tracked_of_undrawn (tracked.undrawn (by simp [stage]) (by simp [stage])) nofun
  | refused stage =>
      rcases stage with stage | ⟨cached, stage⟩ <;>
        exact tracked_of_undrawn (tracked.undrawn (by simp [stage]) (by simp [stage])) nofun
  | recorded outcome stage =>
      refine tracked_of_undrawn (tracked.undrawn (by simp [stage]) (by simp [stage])) ?_
      intro synthesisId
      by_cases composed : outcome = .composed <;> simp [composed]
  | instantiated stage =>
      refine ⟨fun synthesisId drawn => ?_, fun synthesisId stage => ?_⟩
      · obtain rfl := Option.some.inj drawn
        exact .inl rfl
      · obtain rfl := Stage.instantiated.inj stage
        rfl
  | bound synthesisId stage =>
      refine ⟨fun other drawn => ?_, nofun⟩
      have same := (tracked.instantiated synthesisId stage).symm.trans drawn
      obtain rfl := Option.some.inj same
      exact .inr ⟨rfl, rfl⟩
  | idle => exact tracked

theorem Advances.keeps_drew (step : Advances config now call desk changed after)
    (tracked : call.Tracked) {synthesisId : String} (drawn : call.drew = some synthesisId) :
    changed.drew = some synthesisId := by
  cases step with
  | instantiated stage =>
      have undrawn := tracked.undrawn (by simp [stage]) (by simp [stage])
      rw [undrawn] at drawn
      cases drawn
  | _ => exact drawn

theorem Advances.live (step : Advances config now call desk changed after)
    (agentId key : String) (keyed : key ≠ "") :
    (∀ time, now ≤ time →
      after.store.live agentId key config.idempotencyWindowSeconds time =
        desk.store.live agentId key config.idempotencyWindowSeconds time) ∨
    ∃ synthesisId, call.stage = .instantiated synthesisId ∧
      call.isFor agentId key = true ∧ changed.boundAt = some now ∧
      ∀ time, now ≤ time →
        after.store.live agentId key config.idempotencyWindowSeconds time =
          if time < now + config.idempotencyWindowSeconds then some synthesisId else none := by
  cases step with
  | stopped | admitted =>
      exact .inl fun time _ => RcnsStore.live_limited _ _ _ _ _ _ _ _
  | lookedUp => exact .inl fun time later => RcnsStore.live_lookup _ _ _ _ later _ _ _
  | recorded => exact .inl fun time _ => RcnsStore.live_record _ _ _ _ _ _ _
  | bound synthesisId stage =>
      by_cases own : (agentId, key) = (call.agentId, call.key)
      · obtain ⟨rfl, rfl⟩ := Prod.mk.inj own
        exact .inr ⟨synthesisId, stage, by simp [RcnsCall.isFor], rfl, fun time later =>
          RcnsStore.live_bind_same _ _ _ keyed _ _ later⟩
      · exact .inl fun time _ => RcnsStore.live_bind_other _ _ _ _ _ _ own _ _
  | refused | reused | missed | attempted | instantiated | idle => exact .inl fun _ _ => rfl

/-- A call that becomes a claimant has found nothing, or found a contract that is not
active. -/
theorem Advances.claims (step : Advances config now call desk changed after)
    (claims : changed.isClaimant agentId key = true) :
    call.isClaimant agentId key = true ∨
      call.isFor agentId key = true ∧
        ((call.stage = .admitted ∧
            desk.store.live call.agentId call.key config.idempotencyWindowSeconds now = none) ∨
          ∃ synthesisId, call.stage = .resolving (some synthesisId) ∧
            synthesisId ∉ desk.active) := by
  simp only [RcnsCall.isClaimant, step.isFor, Bool.and_eq_true, Bool.or_eq_true] at claims ⊢
  obtain ⟨own, claims⟩ := claims
  simp only [own, true_and]
  cases step with
  | lookedUp stage =>
      rcases claims with negotiating | drawn
      · cases found : desk.store.live call.agentId call.key
            config.idempotencyWindowSeconds now with
        | none => exact .inr (.inl ⟨stage, rfl⟩)
        | some synthesisId => simp [isNegotiating, found] at negotiating
      · exact .inl (.inr drawn)
  | missed cached inactive stage =>
      cases cached with
      | none => exact .inl (.inl (by simp [isNegotiating, stage]))
      | some synthesisId => exact .inr (.inr ⟨synthesisId, stage, inactive synthesisId rfl⟩)
  | attempted outcome stage => exact .inl (.inl (by simp [isNegotiating, stage]))
  | recorded outcome stage => exact .inl (.inl (by simp [isNegotiating, stage]))
  | instantiated stage => exact .inl (.inl (by simp [isNegotiating, stage]))
  | stopped | admitted | refused | reused | bound =>
      rcases claims with negotiating | drawn
      · cases negotiating
      · exact .inl (.inr drawn)
  | idle => exact .inl claims

end Steps

/-! ## Runs -/

section Runs

open RcnsCall RcnsSystem

variable {config : RcnsConfig} {agentId key : String} {system : RcnsSystem}

structure Exclusive (config : RcnsConfig) (agentId key : String) (system : RcnsSystem) :
    Prop where
  tracked : ∀ call ∈ system.calls, call.Tracked
  single : system.calls.countP (isClaimant agentId key) ≤ 1
  found : ∀ call ∈ system.calls, call.isFor agentId key = true → ∀ synthesisId,
    call.stage = .resolving (some synthesisId) ∨ call.stage = .answered synthesisId →
    DrewFor agentId key system.calls synthesisId
  bound : ∀ call ∈ system.calls, call.isFor agentId key = true → ∀ synthesisId,
    call.drew = some synthesisId → call.stage = .instantiated synthesisId ∨
      ∃ time ∈ call.boundAt, ∀ later, system.now ≤ later →
        system.desk.store.live agentId key config.idempotencyWindowSeconds later =
          if later < time + config.idempotencyWindowSeconds then some synthesisId else none
  known : ∀ later, system.now ≤ later → ∀ synthesisId,
    system.desk.store.live agentId key config.idempotencyWindowSeconds later =
      some synthesisId →
    DrewFor agentId key system.calls synthesisId

theorem Exclusive.negotiatesOnce (exclusive : Exclusive config agentId key system) :
    system.NegotiatesOnce agentId key where
  single := by
    refine le_trans (List.countP_mono_left fun call _ drawn => ?_) exclusive.single
    simp only [Bool.and_eq_true, isClaimant, Bool.or_eq_true] at drawn ⊢
    exact ⟨drawn.1, .inr drawn.2⟩
  answers call member own synthesisId stage :=
    exclusive.found call member own synthesisId (.inr stage)

theorem exclusive_start (config : RcnsConfig) (agentId key : String) (now : ℚ) :
    Exclusive config agentId key (start config now) where
  tracked := nofun
  single := Nat.zero_le 1
  found := nofun
  bound := nofun
  known later _ synthesisId live := by
    rw [start, RcnsStore.live_initial] at live
    cases live

theorem Exclusive.elapse (exclusive : Exclusive config agentId key system) {time : ℚ}
    (later : system.now ≤ time) : Exclusive config agentId key { system with now := time } where
  tracked := exclusive.tracked
  single := exclusive.single
  found := exclusive.found
  bound call member own synthesisId drawn := by
    rcases exclusive.bound call member own synthesisId drawn with stage | ⟨at_, stamp, live⟩
    · exact .inl stage
    · exact .inr ⟨at_, stamp, fun after order => live after (later.trans order)⟩
  known after order := exclusive.known after (later.trans order)

theorem DrewFor.append {calls : List RcnsCall} {synthesisId : String}
    (drew : DrewFor agentId key calls synthesisId) (more : List RcnsCall) :
    DrewFor agentId key (calls ++ more) synthesisId := by
  obtain ⟨call, member, own, drawn⟩ := drew
  exact ⟨call, List.mem_append_left more member, own, drawn⟩

theorem Exclusive.arrive (exclusive : Exclusive config agentId key system)
    (newAgent newKey : String) :
    Exclusive config agentId key
      { system with calls := system.calls ++ [.arriving newAgent newKey] } where
  tracked call member := by
    rcases List.mem_append.mp member with held | new
    · exact exclusive.tracked call held
    · rw [List.mem_singleton.mp new]
      exact tracked_of_undrawn rfl nofun
  single := by
    rw [List.countP_append, List.countP_singleton]
    simpa [isClaimant, isNegotiating, arriving] using exclusive.single
  found call member own synthesisId stage := by
    rcases List.mem_append.mp member with held | new
    · exact (exclusive.found call held own synthesisId stage).append _
    · rw [List.mem_singleton.mp new] at stage
      rcases stage with stage | stage <;> cases stage
  bound call member own synthesisId drawn := by
    rcases List.mem_append.mp member with held | new
    · exact exclusive.bound call held own synthesisId drawn
    · rw [List.mem_singleton.mp new] at drawn
      cases drawn
  known later order synthesisId live :=
    (exclusive.known later order synthesisId live).append _

theorem Exclusive.claimed (exclusive : Exclusive config agentId key system)
    (covered : ∀ other ∈ system.calls, other.isFor agentId key = true →
      ∀ time ∈ other.boundAt, system.now < time + config.idempotencyWindowSeconds)
    (alone : ∀ other ∈ system.calls, other.isFor agentId key = true →
      other.isNegotiating = false)
    (unbound : system.desk.store.live agentId key config.idempotencyWindowSeconds
      system.now = none) :
    system.calls.countP (isClaimant agentId key) = 0 := by
  apply List.countP_eq_zero.mpr
  intro other member claims
  simp only [isClaimant, Bool.and_eq_true, Bool.or_eq_true] at claims
  obtain ⟨own, claims⟩ := claims
  have idle := alone other member own
  rcases claims with negotiating | drawn
  · rw [idle] at negotiating
    cases negotiating
  · obtain ⟨synthesisId, drawn⟩ := Option.isSome_iff_exists.mp drawn
    rcases exclusive.bound other member own synthesisId drawn with stage | ⟨time, stamp, live⟩
    · simp [isNegotiating, stage] at idle
    · have found := live system.now le_rfl
      rw [if_pos (covered other member own time stamp), unbound] at found
      cases found

variable [Tokens] {index : Nat} {fate : Fate} {call changed : RcnsCall} {desk : RcnsDesk}

theorem DrewFor.advance {synthesisId : String} (tracked : call.Tracked)
    (drew : DrewFor agentId key system.calls synthesisId)
    (found : system.calls[index]? = some call)
    (step : Advances config system.now call system.desk changed desk) :
    DrewFor agentId key (system.calls.set index changed) synthesisId := by
  obtain ⟨other, member, own, drawn⟩ := drew
  obtain ⟨place, inside, rfl⟩ := List.getElem_of_mem member
  obtain ⟨within, held⟩ := List.getElem?_eq_some_iff.mp found
  by_cases same : index = place
  · subst same
    rw [held] at own drawn
    refine ⟨changed, List.mem_set inside changed, step.isFor.trans own, ?_⟩
    exact step.keeps_drew tracked drawn
  · refine ⟨system.calls[place], ?_, own, drawn⟩
    exact List.mem_of_getElem? (i := place)
      (by rw [List.getElem?_set_ne same, List.getElem?_eq_getElem inside])

theorem Exclusive.single_advance (exclusive : Exclusive config agentId key system)
    (covered : system.Covered config agentId key (.advance index fate))
    (alone : system.Alone agentId key (.advance index fate))
    (found : system.calls[index]? = some call)
    (step : Advances config system.now call system.desk changed desk) :
    (system.calls.set index changed).countP (isClaimant agentId key) ≤ 1 := by
  have member := List.mem_of_getElem? found
  have balance := countP_set_balance found changed (isClaimant agentId key)
  have before := exclusive.single
  by_cases claims : changed.isClaimant agentId key = true
  · rcases step.claims claims with was | ⟨own, ⟨stage, unbound⟩ | ⟨cached, stage, inactive⟩⟩
    · rw [claims, was] at balance
      omega
    · have pair : call.agentId = agentId ∧ call.key = key := by
        simpa [RcnsCall.isFor] using own
      rw [pair.1, pair.2] at unbound
      have window := covered call found own
      simp only [stage] at window
      have none := exclusive.claimed window (alone call found own stage) unbound
      have one := Bool.toNat_le (isClaimant agentId key changed)
      omega
    · have active := covered call found own
      simp only [stage] at active
      exact absurd (active cached (exclusive.found call member own cached (.inl stage)))
        inactive
  · rw [Bool.eq_false_iff.mpr claims, Bool.toNat_false] at balance
    omega

theorem Exclusive.found_advance (exclusive : Exclusive config agentId key system)
    (found : system.calls[index]? = some call)
    (step : Advances config system.now call system.desk changed desk)
    (own : call.isFor agentId key = true) {synthesisId : String}
    (stage : changed.stage = .resolving (some synthesisId) ∨
      changed.stage = .answered synthesisId) :
    DrewFor agentId key system.calls synthesisId := by
  have member := List.mem_of_getElem? found
  have pair : call.agentId = agentId ∧ call.key = key := by simpa [RcnsCall.isFor] using own
  cases step with
  | lookedUp _ =>
      rcases stage with resolving | answered
      · have live := Stage.resolving.inj resolving
        rw [pair.1, pair.2] at live
        exact exclusive.known system.now le_rfl synthesisId live
      · cases answered
  | reused cached _ earlier =>
      rcases stage with resolving | answered
      · cases resolving
      · obtain rfl := Stage.answered.inj answered
        exact exclusive.found call member own cached (.inl earlier)
  | bound cached earlier =>
      rcases stage with resolving | answered
      · cases resolving
      · obtain rfl := Stage.answered.inj answered
        have tracked := exclusive.tracked call member
        exact ⟨call, member, own, tracked.instantiated cached earlier⟩
  | recorded outcome _ =>
      by_cases composed : outcome = .composed <;> simp [composed] at stage
  | idle => exact exclusive.found call member own synthesisId stage
  | stopped | admitted | refused | missed | attempted | instantiated =>
      rcases stage with resolving | answered
      · cases resolving
      · cases answered

theorem Exclusive.bound_advance (exclusive : Exclusive config agentId key system)
    (keyed : key ≠ "") (found : system.calls[index]? = some call)
    (step : Advances config system.now call system.desk changed desk)
    (own : call.isFor agentId key = true) {synthesisId : String}
    (drawn : changed.drew = some synthesisId) :
    changed.stage = .instantiated synthesisId ∨
      ∃ time ∈ changed.boundAt, ∀ later, system.now ≤ later →
        desk.store.live agentId key config.idempotencyWindowSeconds later =
          if later < time + config.idempotencyWindowSeconds then some synthesisId
          else none := by
  have tracked := exclusive.tracked call (List.mem_of_getElem? found)
  have impossible {stage : Stage} (held : call.stage = stage)
      (instantiating : ∀ other, stage ≠ .instantiated other)
      (answering : ∀ other, stage ≠ .answered other) (same : changed.drew = call.drew) :
      False := by
    rw [same, tracked.undrawn (held ▸ instantiating) (held ▸ answering)] at drawn
    cases drawn
  cases step with
  | instantiated stage =>
      obtain rfl := Option.some.inj drawn
      exact .inl rfl
  | bound cached stage =>
      have pair : call.agentId = agentId ∧ call.key = key := by
        simpa [RcnsCall.isFor] using own
      obtain ⟨rfl, rfl⟩ := pair
      have same := (tracked.instantiated cached stage).symm.trans drawn
      obtain rfl := Option.some.inj same
      exact .inr ⟨system.now, rfl, fun later order =>
        RcnsStore.live_bind_same _ _ _ keyed _ _ order⟩
  | idle =>
      exact exclusive.bound call (List.mem_of_getElem? found) own synthesisId drawn
  | stopped _ stage | admitted _ stage | lookedUp stage | reused _ _ stage
  | missed _ _ stage | attempted _ stage | recorded _ stage =>
      exact (impossible stage nofun nofun rfl).elim
  | refused stage =>
      rcases stage with stage | ⟨cached, stage⟩ <;>
        exact (impossible stage nofun nofun rfl).elim

theorem Exclusive.advance (exclusive : Exclusive config agentId key system)
    (keyed : key ≠ "") (covered : system.Covered config agentId key (.advance index fate))
    (alone : system.Alone agentId key (.advance index fate))
    (found : system.calls[index]? = some call)
    (step : Advances config system.now call system.desk changed desk) :
    Exclusive config agentId key
      { system with desk := desk, calls := system.calls.set index changed } where
  tracked other member := by
    rcases List.mem_or_eq_of_mem_set member with earlier | rfl
    · exact exclusive.tracked other earlier
    · exact step.tracked (exclusive.tracked call (List.mem_of_getElem? found))
  single := exclusive.single_advance covered alone found step
  found other member own synthesisId stage := by
    have tracked := exclusive.tracked call (List.mem_of_getElem? found)
    rcases List.mem_or_eq_of_mem_set member with earlier | rfl
    · exact (exclusive.found other earlier own synthesisId stage).advance tracked found step
    · rw [step.isFor] at own
      exact (exclusive.found_advance found step own stage).advance tracked found step
  bound other member own synthesisId drawn := by
    obtain ⟨place, inside⟩ := List.mem_iff_getElem?.mp member
    by_cases same : index = place
    · subst same
      obtain ⟨within, _⟩ := List.getElem?_eq_some_iff.mp found
      rw [List.getElem?_set_self within] at inside
      obtain rfl := Option.some.inj inside
      rw [step.isFor] at own
      exact exclusive.bound_advance keyed found step own drawn
    · rw [List.getElem?_set_ne same] at inside
      have earlier := exclusive.bound other (List.mem_of_getElem? inside) own synthesisId drawn
      rcases earlier with stage | ⟨time, stamp, live⟩
      · exact .inl stage
      · rcases step.live agentId key keyed with kept | ⟨cached, stage, bindsOwn, _, _⟩
        · exact .inr ⟨time, stamp, fun later order =>
            (kept later order).trans (live later order)⟩
        · -- The key is bound once: the call that binds it would be a second claimant.
          have claims : call.isClaimant agentId key = true := by
            simp [isClaimant, bindsOwn, isNegotiating, stage]
          have claimed : other.isClaimant agentId key = true := by
            simp [isClaimant, own, drawn]
          exact absurd (place_unique exclusive.single found inside claims claimed) same
  known later order synthesisId live := by
    have member := List.mem_of_getElem? found
    have tracked := exclusive.tracked call member
    rcases step.live agentId key keyed with same | ⟨cached, stage, own, _, now⟩
    · rw [same later order] at live
      exact (exclusive.known later order synthesisId live).advance tracked found step
    · rw [now later order] at live
      split at live
      · obtain rfl := Option.some.inj live
        have drew : DrewFor agentId key system.calls cached :=
          ⟨call, member, own, tracked.instantiated cached stage⟩
        exact drew.advance tracked found step
      · cases live

theorem exclusive_turn (keyed : key ≠ "") {next : RcnsTurn}
    (exclusive : Exclusive config agentId key system)
    (covered : system.Covered config agentId key next) (alone : system.Alone agentId key next) :
    Exclusive config agentId key (system.turn config next) := by
  refine turn_keeps (Exclusive config agentId key)
    (fun system next => system.Covered config agentId key next ∧
      system.Alone agentId key next) ?_ ?_ ?_ ?_ exclusive ⟨covered, alone⟩
  · exact fun time later held => held.elapse later
  · exact fun newAgent newKey held => held.arrive newAgent newKey
  · exact fun held meets found step _ => held.advance keyed meets.1 meets.2 found step
  · exact fun synthesisId held _ =>
      ⟨held.tracked, held.single, held.found, held.bound, held.known⟩

/-- While the calls with a key come within its window and while its contract is active, one
contract is instantiated for it and is in all answers, provided that no call looks the key
up while another one with it is negotiating. -/
theorem negotiates_once (config : RcnsConfig) (agentId key : String) (keyed : key ≠ "")
    (now : ℚ) (turns : List RcnsTurn)
    (covered : Meets config now (Covered config agentId key) turns)
    (alone : Meets config now (Alone agentId key) turns) :
    ∀ before, before <+: turns → (reached config now before).NegotiatesOnce agentId key := by
  intro before reaches
  have exclusive : Exclusive config agentId key (reached config now before) := by
    refine reached_keeps (Exclusive config agentId key)
      (fun system next => system.Covered config agentId key next ∧
        system.Alone agentId key next) (exclusive_start config agentId key now)
      (fun held meets => exclusive_turn keyed held meets.1 meets.2) ?_
    intro first next earlier
    have later := earlier.trans reaches
    exact ⟨covered first next later, alone first next later⟩
  exact exclusive.negotiatesOnce

end Runs

namespace IdempotencySamples

open RcnsSystem

open scoped PlainServing

def config (durable : Bool) : RcnsConfig where
  enabled := true
  minTrustTier := 3
  maxNegotiationsPerMinute := 10
  idempotencyWindowSeconds := 60
  requireVerifiedIdentity := false
  onPolicyChange := "grandfather"
  durable := durable

def together : List RcnsTurn :=
  [.arrive "agent" "key", .arrive "agent" "key"] ++
    (List.replicate 6 [.advance 0 .composed, .advance 1 .composed]).flatten

def lasting (config : RcnsConfig) (system : RcnsSystem) : Bool :=
  system.calls.all fun call =>
    call.boundAt.all (system.now < · + config.idempotencyWindowSeconds) &&
      call.drew.all system.desk.active.contains

theorem covered_of_lasting {config : RcnsConfig} {agentId key : String}
    {system : RcnsSystem} (lasts : lasting config system = true) (next : RcnsTurn) :
    system.Covered config agentId key next := by
  have each (call : RcnsCall) (member : call ∈ system.calls) :
      (∀ time ∈ call.boundAt, system.now < time + config.idempotencyWindowSeconds) ∧
        ∀ synthesisId ∈ call.drew, synthesisId ∈ system.desk.active := by
    simpa [Option.all_eq_true] using List.all_eq_true.mp lasts call member
  cases next with
  | advance index fate =>
      intro call found own
      split
      · exact fun other member _ => (each other member).1
      · rintro synthesisId ⟨other, member, _, drawn⟩
        exact (each other member).2 synthesisId drawn
      · exact trivial
  | _ => exact trivial

def quiet (system : RcnsSystem) : RcnsTurn → Bool
  | .advance index _ =>
      system.calls[index]?.all (·.stage ≠ .admitted) ||
        system.calls.all (!·.isNegotiating)
  | _ => true

theorem alone_of_quiet {agentId key : String} {system : RcnsSystem} {next : RcnsTurn}
    (calm : quiet system next = true) : system.Alone agentId key next := by
  cases next with
  | advance index fate =>
      intro call found own stage other member _
      simp only [quiet, found, Option.all_some, Bool.or_eq_true, decide_eq_true_eq] at calm
      rcases calm with moved | idle
      · exact absurd stage moved
      · simpa using List.all_eq_true.mp idle other member
  | _ => exact trivial

theorem negotiates_twice (durable : Bool) :
    Meets (config durable) 0 (Covered (config durable) "agent" "key") together ∧
      ¬(reached (config durable) 0 together).NegotiatesOnce "agent" "key" := by
  have lasts : ∀ durable, ∀ index < together.length,
      lasting (config durable) (reached (config durable) 0 (together.take index)) = true := by
    decide +kernel
  refine ⟨.of_take fun index inside => covered_of_lasting (lasts durable index inside) _,
    fun once => ?_⟩
  have two : ∀ durable, ((reached (config durable) 0 together).calls.countP fun call =>
      call.isFor "agent" "key" && call.drew.isSome) = 2 := by decide +kernel
  have single := once.single
  rw [two durable] at single
  cases single with
  | step below => cases below

theorem negotiated_twice :
    (Meets (config true) 0 (Covered (config true) "agent" "key") together ∧
      ¬(reached (config true) 0 together).NegotiatesOnce "agent" "key") ∧
    (Meets (config false) 0 (Covered (config false) "agent" "key") together ∧
      ¬(reached (config false) 0 together).NegotiatesOnce "agent" "key") :=
  ⟨negotiates_twice true, negotiates_twice false⟩

def repeated : List RcnsTurn :=
  .arrive "agent" "key" :: List.replicate 7 (.advance 0 .composed) ++
    .arrive "agent" "key" :: List.replicate 3 (.advance 1 .composed)

theorem repeated_once :
    (reached (config false) 0 repeated).NegotiatesOnce "agent" "key" := by
  have lasts : ∀ index < repeated.length,
      lasting (config false) (reached (config false) 0 (repeated.take index)) = true := by
    decide +kernel
  have calm : ∀ index, ∀ inside : index < repeated.length,
      quiet (reached (config false) 0 (repeated.take index)) repeated[index] = true := by
    decide +kernel
  exact negotiates_once (config false) "agent" "key" (by decide) 0 repeated
    (.of_take fun index inside => covered_of_lasting (lasts index inside) _)
    (.of_take fun index inside => alone_of_quiet (calm index inside))
    repeated List.prefix_rfl

end IdempotencySamples

end Agtp
