import Agtp.Server.RcnsStores

/-! # Concurrent negotiations

Any number of calls of `try_rcns` behind the locks of the gate. Each goes on by atomic
steps: the limit check, the lookup of the key, the look at the runtime, the attempt to
compose a plan, its recording, the instantiation and the recording of the key. They share
the store and the active contracts, and no lock is held from one step to the next. -/

namespace Agtp

/-! ## One call -/

inductive Fate where
  /-- There is no runtime, or the methods cannot be listed. -/
  | unavailable
  | raised
  | impossible
  | composed
deriving DecidableEq

inductive Stage where
  | arrived
  | admitted
  | resolving (cached : Option String)
  | composing
  | attempted (fate : Fate)
  | agreed
  | instantiated (synthesisId : String)
  | answered (synthesisId : String)
  | refused
  | limited
deriving DecidableEq

/-- A call. The stamps say when it attempted a synthesis, when it was charged for it and
when its key was bound; `drew` is the contract that it instantiated. -/
structure RcnsCall where
  agentId : String
  key : String
  stage : Stage
  attemptedAt : Option ℚ
  chargedAt : Option ℚ
  drew : Option String
  boundAt : Option ℚ

structure RcnsDesk where
  store : RcnsStore
  active : List String
  drawn : Nat

namespace RcnsCall

def arriving (agentId key : String) : RcnsCall :=
  ⟨agentId, key, .arrived, none, none, none, none⟩

variable [Tokens]

/-- The next step of a call, when the clock shows `now`. -/
def advance (config : RcnsConfig) (fate : Fate) (now : ℚ) (call : RcnsCall)
    (desk : RcnsDesk) : RcnsCall × RcnsDesk :=
  match call.stage with
  | .arrived =>
      let limit := config.maxNegotiationsPerMinute
      let checked := desk.store.limited call.agentId limit now
      ({ call with
          stage := if checked.1 then .limited else .admitted
          chargedAt :=
            if desk.store.chargesEarly && limit ≠ 0 && !checked.1 then some now
            else call.chargedAt },
        { desk with store := checked.2 })
  | .admitted =>
      let found := desk.store.lookup call.agentId call.key
        config.idempotencyWindowSeconds now
      ({ call with stage := .resolving found.1 }, { desk with store := found.2 })
  | .resolving cached =>
      if fate = .unavailable then ({ call with stage := .refused }, desk)
      else
        match cached.filter desk.active.contains with
        | some synthesisId => ({ call with stage := .answered synthesisId }, desk)
        | none => ({ call with stage := .composing }, desk)
  | .composing =>
      if fate = .unavailable then ({ call with stage := .refused }, desk)
      else ({ call with stage := .attempted fate, attemptedAt := some now }, desk)
  | .attempted outcome =>
      ({ call with
          stage := if outcome = .composed then .agreed else .refused
          chargedAt := if desk.store.chargesEarly then call.chargedAt else some now },
        { desk with store := desk.store.record call.agentId now })
  | .agreed =>
      let synthesisId := Tokens.synthesisId desk.drawn
      ({ call with stage := .instantiated synthesisId, drew := some synthesisId },
        { desk with active := synthesisId :: desk.active, drawn := desk.drawn + 1 })
  | .instantiated synthesisId =>
      ({ call with stage := .answered synthesisId, boundAt := some now },
        { desk with
          store := desk.store.bind call.agentId call.key synthesisId
            config.idempotencyWindowSeconds now })
  | .answered _ | .refused | .limited => (call, desk)

end RcnsCall

/-! ## All calls -/

structure RcnsSystem where
  now : ℚ
  desk : RcnsDesk
  calls : List RcnsCall

/-- What happens next: the clock is read later, a call arrives or goes on, or a contract
is ended by something else. -/
inductive RcnsTurn where
  | elapse (time : ℚ)
  | arrive (agentId key : String)
  | advance (index : Nat) (fate : Fate)
  | retire (synthesisId : String)

namespace RcnsSystem

def start (config : RcnsConfig) (now : ℚ) : RcnsSystem where
  now := now
  desk := ⟨.initial config.durable, [], 0⟩
  calls := []

variable [Tokens]

def turn (config : RcnsConfig) (system : RcnsSystem) : RcnsTurn → RcnsSystem
  | .elapse time => { system with now := max system.now time }
  | .arrive agentId key =>
      { system with calls := system.calls ++ [.arriving agentId key] }
  | .advance index fate =>
      match system.calls[index]? with
      | none => system
      | some call =>
          let next := call.advance config fate system.now system.desk
          { system with
            desk := next.2
            calls := system.calls.set index next.1 }
  | .retire synthesisId =>
      { system with
        desk := { system.desk with
          active := system.desk.active.filter (· ≠ synthesisId) } }

def run (config : RcnsConfig) (system : RcnsSystem) (turns : List RcnsTurn) : RcnsSystem :=
  turns.foldl (turn config) system

theorem run_concat (config : RcnsConfig) (system : RcnsSystem) (before : List RcnsTurn)
    (next : RcnsTurn) :
    run config system (before ++ [next]) = turn config (run config system before) next :=
  List.foldl_append

def reached (config : RcnsConfig) (now : ℚ) (turns : List RcnsTurn) : RcnsSystem :=
  run config (start config now) turns

theorem reached_concat (config : RcnsConfig) (now : ℚ) (before : List RcnsTurn)
    (next : RcnsTurn) :
    reached config now (before ++ [next]) = turn config (reached config now before) next :=
  run_concat config _ before next

end RcnsSystem

/-! ## The steps of a call, one by one -/

/-- A step of a call, with what it does to the call and to what is shared. -/
inductive Advances [Tokens] (config : RcnsConfig) (now : ℚ) (call : RcnsCall)
    (desk : RcnsDesk) : RcnsCall → RcnsDesk → Prop
  | stopped
      (limited : (desk.store.limited call.agentId config.maxNegotiationsPerMinute now).1 =
        true)
      (stage : call.stage = .arrived) :
      Advances config now call desk { call with stage := .limited }
        { desk with
          store := (desk.store.limited call.agentId config.maxNegotiationsPerMinute now).2 }
  | admitted
      (unlimited : (desk.store.limited call.agentId config.maxNegotiationsPerMinute now).1 =
        false)
      (stage : call.stage = .arrived) :
      Advances config now call desk
        { call with
          stage := .admitted
          chargedAt :=
            if desk.store.chargesEarly && config.maxNegotiationsPerMinute ≠ 0 then some now
            else call.chargedAt }
        { desk with
          store := (desk.store.limited call.agentId config.maxNegotiationsPerMinute now).2 }
  | lookedUp (stage : call.stage = .admitted) :
      Advances config now call desk
        { call with
          stage := .resolving
            (desk.store.live call.agentId call.key config.idempotencyWindowSeconds now) }
        { desk with
          store := (desk.store.lookup call.agentId call.key config.idempotencyWindowSeconds
            now).2 }
  | refused (stage : call.stage = .composing ∨ ∃ cached, call.stage = .resolving cached) :
      Advances config now call desk { call with stage := .refused } desk
  | reused (synthesisId : String) (active : synthesisId ∈ desk.active)
      (stage : call.stage = .resolving (some synthesisId)) :
      Advances config now call desk { call with stage := .answered synthesisId } desk
  | missed (cached : Option String)
      (inactive : ∀ synthesisId, cached = some synthesisId → synthesisId ∉ desk.active)
      (stage : call.stage = .resolving cached) :
      Advances config now call desk { call with stage := .composing } desk
  | attempted (outcome : Fate) (stage : call.stage = .composing) :
      Advances config now call desk
        { call with stage := .attempted outcome, attemptedAt := some now } desk
  | recorded (outcome : Fate) (stage : call.stage = .attempted outcome) :
      Advances config now call desk
        { call with
          stage := if outcome = .composed then .agreed else .refused
          chargedAt := if desk.store.chargesEarly then call.chargedAt else some now }
        { desk with store := desk.store.record call.agentId now }
  | instantiated (stage : call.stage = .agreed) :
      Advances config now call desk
        { call with
          stage := .instantiated (Tokens.synthesisId desk.drawn)
          drew := some (Tokens.synthesisId desk.drawn) }
        { desk with
          active := Tokens.synthesisId desk.drawn :: desk.active
          drawn := desk.drawn + 1 }
  | bound (synthesisId : String) (stage : call.stage = .instantiated synthesisId) :
      Advances config now call desk
        { call with stage := .answered synthesisId, boundAt := some now }
        { desk with
          store := desk.store.bind call.agentId call.key synthesisId
            config.idempotencyWindowSeconds now }
  | idle : Advances config now call desk call desk

section Steps

variable [Tokens] {config : RcnsConfig}

theorem RcnsCall.advances (fate : Fate) (now : ℚ) (call : RcnsCall) (desk : RcnsDesk) :
    Advances config now call desk (call.advance config fate now desk).1
      (call.advance config fate now desk).2 := by
  unfold RcnsCall.advance
  split
  · next stage =>
      dsimp only
      cases checked : (desk.store.limited call.agentId config.maxNegotiationsPerMinute
          now).1 with
      | true => simpa using Advances.stopped checked stage
      | false => simpa using Advances.admitted checked stage
  · next stage =>
      dsimp only
      rw [RcnsStore.lookup_fst]
      exact .lookedUp stage
  · next cached stage =>
      split
      · exact .refused (.inr ⟨cached, stage⟩)
      · split
        · next synthesisId found =>
            obtain ⟨rfl, active⟩ := Option.filter_eq_some_iff.mp found
            exact .reused synthesisId (List.contains_iff_mem.mp active) stage
        · next absent =>
            refine .missed cached (fun synthesisId same active => ?_) stage
            exact Option.filter_eq_none_iff.mp absent synthesisId same
              (List.contains_iff_mem.mpr active)
  · next stage =>
      split
      · exact .refused (.inl stage)
      · exact .attempted fate stage
  · next outcome stage => exact .recorded outcome stage
  · next stage => exact .instantiated stage
  · next synthesisId stage => exact .bound synthesisId stage
  · exact .idle
  · exact .idle
  · exact .idle

variable {now : ℚ} {call changed : RcnsCall} {desk after : RcnsDesk}

theorem Advances.agentId (step : Advances config now call desk changed after) :
    changed.agentId = call.agentId := by
  cases step <;> rfl

theorem Advances.key (step : Advances config now call desk changed after) :
    changed.key = call.key := by
  cases step <;> rfl

theorem Advances.chargesEarly (step : Advances config now call desk changed after) :
    after.store.chargesEarly = desk.store.chargesEarly := by
  cases step with
  | stopped | admitted => exact RcnsStore.chargesEarly_limited _ _ _ _
  | lookedUp => exact RcnsStore.chargesEarly_lookup _ _ _ _ _
  | recorded => exact RcnsStore.chargesEarly_record _ _ _
  | bound => exact RcnsStore.chargesEarly_bind _ _ _ _ _ _
  | refused | reused | missed | attempted | instantiated | idle => rfl


/-! ## Runs -/

namespace RcnsSystem

/-- What holds of the calls and of what they share, if a call that arrives has it, if the
clock and other threads keep it, and if each step of a call that meets the condition keeps
it. -/
theorem turn_keeps (keeps : RcnsSystem → Prop) (meets : RcnsSystem → RcnsTurn → Prop)
    (elapses : ∀ {system} (time : ℚ), system.now ≤ time → keeps system →
      keeps { system with now := time })
    (arrives : ∀ {system} (agentId key : String), keeps system →
      keeps { system with calls := system.calls ++ [.arriving agentId key] })
    (advances : ∀ {system index fate call changed desk}, keeps system →
      meets system (.advance index fate) → system.calls[index]? = some call →
      Advances config system.now call system.desk changed desk →
      (changed, desk) = call.advance config fate system.now system.desk →
      keeps { system with desk := desk, calls := system.calls.set index changed })
    (retires : ∀ {system} (synthesisId : String), keeps system →
      meets system (.retire synthesisId) →
      keeps { system with desk := { system.desk with
        active := system.desk.active.filter (· ≠ synthesisId) } })
    {system : RcnsSystem} {next : RcnsTurn} (holds : keeps system)
    (met : meets system next) : keeps (turn config system next) := by
  cases next with
  | elapse time => exact elapses _ (le_max_left system.now time) holds
  | arrive agentId key => exact arrives agentId key holds
  | retire synthesisId => exact retires synthesisId holds met
  | advance index fate =>
      cases found : system.calls[index]? with
      | none =>
          simp only [turn, found]
          exact holds
      | some call =>
          simp only [turn, found]
          exact advances holds met found (call.advances fate system.now system.desk) rfl

def Meets (config : RcnsConfig) (now : ℚ) (meets : RcnsSystem → RcnsTurn → Prop)
    (turns : List RcnsTurn) : Prop :=
  ∀ before next, before ++ [next] <+: turns → meets (reached config now before) next

theorem Meets.of_take {meets : RcnsSystem → RcnsTurn → Prop} {now : ℚ}
    {turns : List RcnsTurn}
    (met : ∀ index, ∀ inside : index < turns.length,
      meets (reached config now (turns.take index)) turns[index]) :
    Meets config now meets turns := by
  rintro before next ⟨rest, rfl⟩
  simpa [List.append_assoc] using met before.length (by simp)

theorem reached_keeps (keeps : RcnsSystem → Prop) (meets : RcnsSystem → RcnsTurn → Prop)
    {now : ℚ} {turns : List RcnsTurn} (starts : keeps (start config now))
    (step : ∀ {system next}, keeps system → meets system next →
      keeps (turn config system next))
    (met : Meets config now meets turns) : keeps (reached config now turns) := by
  induction turns using List.reverseRecOn with
  | nil => exact starts
  | append_singleton before next induction =>
      rw [reached_concat]
      refine step (induction fun first later reaches => ?_) (met before next List.prefix_rfl)
      exact met first later (reaches.trans (List.prefix_append before [next]))

end RcnsSystem

end Steps

end Agtp
