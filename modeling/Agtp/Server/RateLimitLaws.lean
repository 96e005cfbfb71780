import Agtp.Server.RcnsCalls

/-! # The rate limit of negotiations

How many syntheses the calls of one agent attempt in any window of sixty seconds. -/

namespace Agtp

open SlidingWindow

/-! ## What is bounded -/

namespace RcnsCall

def attemptFor (agentId : String) (call : RcnsCall) : Option ℚ :=
  if call.agentId = agentId then call.attemptedAt else none

def isCharged (agentId : String) (start : ℚ) (call : RcnsCall) : Bool :=
  call.agentId = agentId && since start call.chargedAt

def isOpen (call : RcnsCall) : Bool :=
  match call.stage with
  | .admitted | .resolving _ | .composing | .attempted _ => true
  | _ => false

def isPending (agentId : String) (call : RcnsCall) : Bool :=
  call.agentId = agentId && (call.isOpen && call.chargedAt.isNone)

end RcnsCall

namespace RcnsSystem

def attempts (system : RcnsSystem) (agentId : String) : List (Option ℚ) :=
  system.calls.map (RcnsCall.attemptFor agentId)

def WithinLimit (config : RcnsConfig) (system : RcnsSystem) : Prop :=
  ∀ agentId, Bounded 60 config.maxNegotiationsPerMinute (system.attempts agentId)

def pending (system : RcnsSystem) (agentId : String) : Nat :=
  system.calls.countP (RcnsCall.isPending agentId)

/-- A call that passes the check finds room for all that were let in before it; and no
attempt of the agent falls into a later window than its charge. -/
def Roomy (config : RcnsConfig) (system : RcnsSystem) : RcnsTurn → Prop
  | .advance index fate => ∀ call, system.calls[index]? = some call →
      match call.stage with
      | .arrived =>
          let recent := system.desk.store.charged call.agentId (system.now - 60)
          recent < config.maxNegotiationsPerMinute →
            recent + system.pending call.agentId < config.maxNegotiationsPerMinute
      | .composing => fate ≠ .unavailable →
          (∀ time, call.chargedAt = some time → system.now - 60 ≤ time) ∧
          ∀ other ∈ system.calls,
            since (system.now - 60) (other.attemptFor call.agentId) = true →
            ∀ time, other.chargedAt = some time → system.now - 60 ≤ time
      | _ => True
  | _ => True

end RcnsSystem

/-! ## The charges -/

/-- What the stamps of a call say about its stage. -/
structure RcnsCall.Sound (early : Bool) (call : RcnsCall) : Prop where
  uncharged : call.stage = .arrived ∨ (early = false ∧ call.isOpen = true) →
    call.chargedAt = none
  charged : early = true → call.stage ≠ .arrived → call.stage ≠ .limited →
    call.chargedAt.isSome = true
  attempted : call.attemptedAt.isSome = true →
    (∃ outcome, call.stage = .attempted outcome) ∨ call.chargedAt.isSome = true

namespace RcnsCall

theorem sound_arriving (early : Bool) (agentId key : String) :
    (arriving agentId key).Sound early :=
  ⟨fun _ => rfl, fun _ moved => absurd rfl moved, nofun⟩

variable {early : Bool} {call changed : RcnsCall}

theorem Sound.moved (sound : call.Sound early) (before : call.stage ≠ .arrived)
    (unlimited : call.stage ≠ .limited) (pending : ∀ outcome, call.stage ≠ .attempted outcome)
    (after : changed.stage ≠ .arrived)
    (opened : changed.isOpen = true → call.isOpen = true)
    (charged : changed.chargedAt = call.chargedAt)
    (attempted : changed.attemptedAt = call.attemptedAt) : changed.Sound early where
  uncharged reason := by
    rw [charged]
    rcases reason with arrived | ⟨late, held⟩
    · exact absurd arrived after
    · exact sound.uncharged (.inr ⟨late, opened held⟩)
  charged early _ _ := by
    rw [charged]
    exact sound.charged early before unlimited
  attempted tried := by
    rw [attempted] at tried
    rw [charged]
    rcases sound.attempted tried with ⟨outcome, stage⟩ | paid
    · exact absurd stage (pending outcome)
    · exact .inr paid

theorem Sound.unattempted (sound : call.Sound early) (stage : call.stage = .arrived) :
    call.attemptedAt = none := by
  cases tried : call.attemptedAt with
  | none => rfl
  | some time =>
      have uncharged := sound.uncharged (.inl stage)
      rcases sound.attempted (by rw [tried]; rfl) with ⟨outcome, later⟩ | paid
      · rw [stage] at later
        cases later
      · rw [uncharged] at paid
        cases paid

theorem Sound.roomless (sound : call.Sound early) (stage : call.stage = .arrived)
    (agentId : String) (start : ℚ) :
    call.isCharged agentId start = false ∧ call.isPending agentId = false := by
  constructor
  · simp [isCharged, sound.uncharged (.inl stage)]
  · simp [isPending, isOpen, stage]

theorem room_le_one (agentId : String) (start : ℚ) (call : RcnsCall) :
    (call.isCharged agentId start).toNat + (call.isPending agentId).toNat ≤
      (decide (call.agentId = agentId)).toNat := by
  by_cases own : call.agentId = agentId
  · cases stamp : call.chargedAt with
    | none => simp [isCharged, isPending, own, stamp, Bool.toNat_le]
    | some time => simp [isCharged, isPending, own, stamp, Bool.toNat_le]
  · simp [isCharged, isPending, own]

end RcnsCall

section Steps

open RcnsCall

variable [Tokens] {config : RcnsConfig} {now : ℚ} {call changed : RcnsCall}
  {desk after : RcnsDesk}

theorem Advances.sound (positive : 0 < config.maxNegotiationsPerMinute)
    (step : Advances config now call desk changed after)
    (sound : call.Sound desk.store.chargesEarly) :
    changed.Sound desk.store.chargesEarly := by
  cases step with
  | stopped limited stage =>
      refine ⟨?_, fun _ _ moved => absurd rfl moved, fun tried => ?_⟩
      · rintro (arrived | ⟨_, held⟩)
        · cases arrived
        · cases held
      · rw [sound.unattempted stage] at tried
        cases tried
  | admitted unlimited stage =>
      refine ⟨fun reason => ?_, fun early _ _ => ?_, fun tried => ?_⟩
      · rcases reason with arrived | ⟨late, _⟩
        · cases arrived
        · simpa [late] using sound.uncharged (.inl stage)
      · simp [early, positive.ne']
      · rw [sound.unattempted stage] at tried
        cases tried
  | lookedUp stage =>
      exact sound.moved (by simp [stage]) (by simp [stage]) (by simp [stage]) nofun
        (fun _ => by simp [isOpen, stage]) rfl rfl
  | refused stage =>
      rcases stage with stage | ⟨cached, stage⟩
      · exact sound.moved (by simp [stage]) (by simp [stage]) (by simp [stage]) nofun nofun
          rfl rfl
      · exact sound.moved (by simp [stage]) (by simp [stage]) (by simp [stage]) nofun nofun
          rfl rfl
  | reused synthesisId active stage =>
      exact sound.moved (by simp [stage]) (by simp [stage]) (by simp [stage]) nofun nofun
        rfl rfl
  | missed cached inactive stage =>
      exact sound.moved (by simp [stage]) (by simp [stage]) (by simp [stage]) nofun
        (fun _ => by simp [isOpen, stage]) rfl rfl
  | attempted outcome stage =>
      refine ⟨fun reason => ?_, fun early _ _ => ?_, fun _ => .inl ⟨outcome, rfl⟩⟩
      · rcases reason with arrived | ⟨late, _⟩
        · cases arrived
        · exact sound.uncharged (.inr ⟨late, by simp [isOpen, stage]⟩)
      · exact sound.charged early (by simp [stage]) (by simp [stage])
  | recorded outcome stage =>
      have paid : (if desk.store.chargesEarly = true then call.chargedAt
          else some now).isSome = true := by
        split
        · next early => exact sound.charged early (by simp [stage]) (by simp [stage])
        · rfl
      refine ⟨?_, fun _ _ _ => paid, fun _ => .inr paid⟩
      rintro (arrived | ⟨_, held⟩)
      · dsimp only at arrived
        split at arrived <;> cases arrived
      · by_cases composed : outcome = .composed <;> simp [isOpen, composed] at held
  | instantiated stage =>
      exact sound.moved (by simp [stage]) (by simp [stage]) (by simp [stage]) nofun nofun
        rfl rfl
  | bound synthesisId stage =>
      exact sound.moved (by simp [stage]) (by simp [stage]) (by simp [stage]) nofun nofun
        rfl rfl
  | idle => exact sound

theorem Advances.balances (step : Advances config now call desk changed after)
    (sound : call.Sound desk.store.chargesEarly) (agentId : String) {start : ℚ}
    (recent : now - 60 ≤ start) :
    after.store.charged agentId start + (call.isCharged agentId start).toNat =
      desk.store.charged agentId start + (changed.isCharged agentId start).toNat := by
  cases step with
  | stopped limited stage =>
      rw [RcnsStore.charged_limited _ _ _ _ _ recent, limited]
      simp [isCharged]
  | admitted unlimited stage =>
      rw [RcnsStore.charged_limited _ _ _ _ _ recent, unlimited]
      simp only [isCharged, sound.uncharged (.inl stage)]
      cases desk.store.chargesEarly <;> cases decide (config.maxNegotiationsPerMinute ≠ 0) <;>
        simp
  | recorded outcome stage =>
      rw [RcnsStore.charged_record _ _ _ _ recent]
      cases early : desk.store.chargesEarly with
      | true => simp [isCharged]
      | false =>
          have uncharged := sound.uncharged (.inr ⟨early, by simp [isOpen, stage]⟩)
          simp [isCharged, uncharged]
  | lookedUp => rw [RcnsStore.charged_lookup]; rfl
  | bound => rw [RcnsStore.charged_bind]; rfl
  | refused | reused | missed | attempted | instantiated | idle => rfl

theorem Advances.frees (step : Advances config now call desk changed after)
    (sound : call.Sound desk.store.chargesEarly) (checked : call.stage ≠ .arrived)
    (agentId : String) (start : ℚ) :
    (changed.isCharged agentId start).toNat + (changed.isPending agentId).toNat ≤
      (call.isCharged agentId start).toNat + (call.isPending agentId).toNat := by
  cases step with
  | stopped _ stage | admitted _ stage => exact absurd stage checked
  | recorded outcome stage =>
      have open_ : call.isOpen = true := by simp [isOpen, stage]
      have closed : isPending agentId { call with
          stage := if outcome = .composed then .agreed else .refused
          chargedAt := if desk.store.chargesEarly then call.chargedAt else some now } =
            false := by
        by_cases composed : outcome = .composed <;> simp [isPending, isOpen, composed]
      rw [closed]
      cases early : desk.store.chargesEarly with
      | true => simp [isCharged]
      | false =>
          have uncharged := sound.uncharged (.inr ⟨early, open_⟩)
          by_cases own : call.agentId = agentId
          · have pending : call.isPending agentId = true := by
              simp [isPending, open_, uncharged, own]
            rw [pending]
            exact (Nat.add_le_add_right (Bool.toNat_le _) 0).trans (Nat.le_add_left 1 _)
          · simp [isCharged, own]
  | lookedUp stage => simp [isCharged, isPending, isOpen, stage]
  | missed cached inactive stage => simp [isCharged, isPending, isOpen, stage]
  | attempted outcome stage => simp [isCharged, isPending, isOpen, stage]
  | refused | reused | instantiated | bound =>
      simp [isCharged, isPending, isOpen]
  | idle => exact le_rfl

theorem Advances.checks (step : Advances config now call desk changed after)
    (sound : call.Sound desk.store.chargesEarly) (stage : call.stage = .arrived)
    (agentId : String) (start : ℚ) :
    (desk.store.limited call.agentId config.maxNegotiationsPerMinute now).1 = false ∨
      (changed.isCharged agentId start = false ∧ changed.isPending agentId = false) := by
  have roomless := sound.roomless stage agentId start
  cases step with
  | stopped => exact .inr ⟨roomless.1, by simp [isPending, isOpen]⟩
  | admitted unlimited => exact .inl unlimited
  | refused other =>
      rcases other with other | ⟨cached, other⟩ <;> rw [stage] at other <;> cases other
  | idle => exact .inr roomless
  | lookedUp other | reused _ _ other | missed _ _ other | attempted _ other
  | recorded _ other | instantiated other | bound _ other =>
      rw [stage] at other
      cases other

theorem Advances.attemptFor (step : Advances config now call desk changed after)
    (agentId : String) :
    changed.attemptFor agentId = call.attemptFor agentId ∨
      call.stage = .composing ∧ call.agentId = agentId ∧
        changed.attemptFor agentId = some now ∧
        changed.isOpen = true ∧ changed.chargedAt = call.chargedAt := by
  cases step with
  | attempted outcome stage =>
      by_cases own : call.agentId = agentId
      · exact .inr ⟨stage, own, by simp [RcnsCall.attemptFor, own], rfl, rfl⟩
      · exact .inl (by simp [RcnsCall.attemptFor, own])
  | _ => exact .inl rfl

end Steps

/-! ## Runs -/

section Runs

open RcnsCall RcnsSystem

variable {config : RcnsConfig} {system : RcnsSystem}

/-- The store counts the calls that were charged; these and the pending ones are within the
limit, and so are the attempts in any window. -/
structure Metered (config : RcnsConfig) (system : RcnsSystem) : Prop where
  sound : ∀ call ∈ system.calls, call.Sound system.desk.store.chargesEarly
  charged : ∀ agentId start, system.now - 60 ≤ start →
    system.desk.store.charged agentId start =
      system.calls.countP (isCharged agentId start)
  room : ∀ agentId, system.calls.countP (isCharged agentId (system.now - 60)) +
    system.pending agentId ≤ config.maxNegotiationsPerMinute
  within : system.WithinLimit config

theorem metered_start (config : RcnsConfig) (now : ℚ) : Metered config (start config now) where
  sound := nofun
  charged agentId start _ := RcnsStore.charged_initial config.durable agentId start
  room _ := Nat.zero_le _
  within _ := Bounded.nil 60 _

theorem Metered.elapse (metered : Metered config system) {time : ℚ}
    (later : system.now ≤ time) : Metered config { system with now := time } where
  sound := metered.sound
  charged agentId start recent :=
    metered.charged agentId start ((sub_le_sub_right later 60).trans recent)
  room agentId := by
    refine le_trans (Nat.add_le_add_right ?_ _) (metered.room agentId)
    refine List.countP_mono_left fun call _ counted => ?_
    simp only [isCharged, Bool.and_eq_true] at counted ⊢
    exact ⟨counted.1, since_mono (sub_le_sub_right later 60) counted.2⟩
  within := metered.within

theorem Metered.arrive (metered : Metered config system) (agentId key : String) :
    Metered config { system with calls := system.calls ++ [.arriving agentId key] } where
  sound call member := by
    rcases List.mem_append.mp member with held | new
    · exact metered.sound call held
    · rw [List.mem_singleton.mp new]
      exact sound_arriving _ agentId key
  charged other start recent := by
    rw [metered.charged other start recent, List.countP_append, List.countP_singleton]
    simp [isCharged, arriving]
  room other := by
    have room := metered.room other
    simp only [pending, List.countP_append, List.countP_singleton] at room ⊢
    simpa [isCharged, isPending, isOpen, arriving] using room
  within other := by
    have stamps : RcnsSystem.attempts
        { system with calls := system.calls ++ [.arriving agentId key] } other =
          system.attempts other ++ [none] := by
      simp [attempts, attemptFor, arriving]
    rw [stamps]
    exact (metered.within other).concat_none

variable [Tokens] {index : Nat} {fate : Fate} {call changed : RcnsCall} {desk : RcnsDesk}

theorem Metered.room_advance (positive : 0 < config.maxNegotiationsPerMinute)
    (metered : Metered config system)
    (roomy : system.Roomy config (.advance index fate))
    (found : system.calls[index]? = some call)
    (step : Advances config system.now call system.desk changed desk) (agentId : String) :
    (system.calls.set index changed).countP (isCharged agentId (system.now - 60)) +
      (system.calls.set index changed).countP (isPending agentId) ≤
        config.maxNegotiationsPerMinute := by
  have sound := metered.sound call (List.mem_of_getElem? found)
  have charges := countP_set_balance found changed (isCharged agentId (system.now - 60))
  have pendings := countP_set_balance found changed (isPending agentId)
  have room := metered.room agentId
  simp only [pending] at room
  by_cases checked : call.stage = .arrived
  · obtain ⟨uncharged, unpending⟩ := sound.roomless checked agentId (system.now - 60)
    have one := room_le_one agentId (system.now - 60) changed
    rw [uncharged] at charges
    rw [unpending] at pendings
    by_cases own : call.agentId = agentId
    · subst own
      rcases step.checks sound checked call.agentId (system.now - 60) with
        unlimited | ⟨silent, closed⟩
      · rw [RcnsStore.limited_fst] at unlimited
        have recent : system.desk.store.charged call.agentId (system.now - 60) <
            config.maxNegotiationsPerMinute := by
          simpa [positive.ne'] using unlimited
        have fits := roomy call found
        simp only [checked] at fits
        have free := fits recent
        rw [metered.charged call.agentId _ le_rfl] at free
        simp only [pending] at free
        rw [step.agentId] at one
        simp only [decide_true, Bool.toNat_true, Bool.toNat_false] at charges pendings one
        omega
      · rw [silent] at charges
        rw [closed] at pendings
        omega
    · rw [step.agentId, decide_eq_false own] at one
      simp only [Bool.toNat_false] at charges pendings one
      omega
  · have freed := step.frees sound checked agentId (system.now - 60)
    omega

/-- An attempt that is made now, and those of the last minute, are charged to the last
minute or pending. -/
theorem Metered.within_advance (metered : Metered config system)
    (roomy : system.Roomy config (.advance index fate))
    (found : system.calls[index]? = some call)
    (step : Advances config system.now call system.desk changed desk)
    (reachable : call.stage = .composing → changed.isOpen = true → fate ≠ .unavailable)
    {agentId : String}
    (room : (system.calls.set index changed).countP (isCharged agentId (system.now - 60)) +
      (system.calls.set index changed).countP (isPending agentId) ≤
        config.maxNegotiationsPerMinute) :
    Bounded 60 config.maxNegotiationsPerMinute
      ((system.calls.set index changed).map (attemptFor agentId)) := by
  have stamped : (system.attempts agentId)[index]? = some (call.attemptFor agentId) := by
    rw [attempts, List.getElem?_map, found]
    rfl
  rw [List.map_set]
  rcases step.attemptFor agentId with same | ⟨stage, own, attempted, opened, charge⟩
  · rw [same, ← attempts]
    obtain ⟨inside, held⟩ := List.getElem?_eq_some_iff.mp stamped
    rw [← held, List.set_getElem_self]
    exact metered.within agentId
  · have fits := roomy call found
    simp only [stage] at fits
    obtain ⟨prompt, others⟩ := fits (reachable stage opened)
    rw [attempted]
    refine (metered.within agentId).set_now stamped ?_
    rw [attempts, ← attempted, ← List.map_set, List.countP_map]
    refine le_trans (List.countP_mono_left (fun other member recent => ?_))
      ((countP_or_le _ _ _).trans room)
    rcases List.mem_or_eq_of_mem_set member with earlier | rfl
    · rw [Function.comp_apply, ← own] at recent
      have tried : other.agentId = agentId ∧ other.attemptedAt.isSome = true := by
        by_cases same : other.agentId = call.agentId
        · refine ⟨same.trans own, ?_⟩
          simp only [RcnsCall.attemptFor, if_pos same] at recent
          cases stamp : other.attemptedAt with
          | none => rw [stamp] at recent; cases recent
          | some time => rfl
        · simp [RcnsCall.attemptFor, same] at recent
      cases charged : other.chargedAt with
      | some time =>
          have late := others other earlier recent time charged
          simp [isCharged, tried.1, charged, late]
      | none =>
          rcases (metered.sound other earlier).attempted tried.2 with ⟨outcome, later⟩ | paid
          · simp [isPending, isOpen, tried.1, charged, later]
          · rw [charged] at paid
            cases paid
    · have same : other.agentId = agentId := step.agentId.trans own
      cases charged : other.chargedAt with
      | some time =>
          have late := prompt time (charge ▸ charged)
          simp [isCharged, same, charged, late]
      | none => simp [isPending, opened, same, charged]

theorem Metered.advance (positive : 0 < config.maxNegotiationsPerMinute)
    (metered : Metered config system) (roomy : system.Roomy config (.advance index fate))
    (found : system.calls[index]? = some call)
    (step : Advances config system.now call system.desk changed desk)
    (reachable : call.stage = .composing → changed.isOpen = true → fate ≠ .unavailable) :
    Metered config
      { system with desk := desk, calls := system.calls.set index changed } where
  sound other member := by
    rw [step.chargesEarly]
    rcases List.mem_or_eq_of_mem_set member with earlier | rfl
    · exact metered.sound other earlier
    · exact step.sound positive (metered.sound call (List.mem_of_getElem? found))
  charged agentId start recent := by
    have sound := metered.sound call (List.mem_of_getElem? found)
    have balance := step.balances sound agentId recent
    have counts := countP_set_balance found changed (isCharged agentId start)
    have before := metered.charged agentId start recent
    dsimp only at recent ⊢
    omega
  room agentId := metered.room_advance positive roomy found step agentId
  within agentId := metered.within_advance roomy found step reachable
    (metered.room_advance positive roomy found step agentId)

theorem available_of_attempt {now : ℚ} {before : RcnsDesk}
    (stage : call.stage = .composing)
    (opened : (call.advance config fate now before).1.isOpen = true) :
    fate ≠ .unavailable := by
  rintro rfl
  simp [RcnsCall.advance, stage, isOpen] at opened

theorem metered_turn (positive : 0 < config.maxNegotiationsPerMinute) {next : RcnsTurn}
    (metered : Metered config system) (roomy : system.Roomy config next) :
    Metered config (system.turn config next) := by
  refine turn_keeps (Metered config) (Roomy config) ?_ ?_ ?_ ?_ metered roomy
  · exact fun time later held => held.elapse later
  · exact fun agentId key held => held.arrive agentId key
  · intro system index fate call changed desk held meets found step taken
    refine held.advance positive meets found step fun stage opened => ?_
    obtain rfl := congrArg Prod.fst taken
    exact available_of_attempt stage opened
  · exact fun synthesisId held _ => ⟨held.sound, held.charged, held.room, held.within⟩

/-! ## The law -/

end Runs

namespace RateLimitSamples

open RcnsSystem

open scoped PlainServing

def once (durable : Bool) : RcnsConfig where
  enabled := true
  minTrustTier := 3
  maxNegotiationsPerMinute := 1
  idempotencyWindowSeconds := 60
  requireVerifiedIdentity := false
  onPolicyChange := "grandfather"
  durable := durable

def steps (index count : Nat) : List RcnsTurn :=
  List.replicate count (.advance index .composed)

def together : List RcnsTurn :=
  [.arrive "agent" "", .arrive "agent" "", .advance 0 .composed, .advance 1 .composed] ++
    steps 0 3 ++ steps 1 3

def stalled : List RcnsTurn :=
  [.arrive "agent" "", .advance 0 .composed, .elapse 61, .arrive "agent" ""] ++
    steps 1 4 ++ steps 0 3

end RateLimitSamples

end Agtp
