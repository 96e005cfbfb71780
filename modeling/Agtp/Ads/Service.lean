import Agtp.Foundation.Dict
import Agtp.Foundation.Json
import Agtp.Foundation.Text
import Mathlib.Algebra.Order.Ring.Rat

/-! # Anticipatory discovery

The signals that a coordinator keeps of the agents that subscribed, what it predicts from
them, and the results that it preloads. -/

namespace Agtp.Ads

/-! ## Signals -/

def increment (counter : Dict String Nat) (key : String) (amount : Nat) : Dict String Nat :=
  counter.set key ((counter.get? key).getD 0 + amount)

structure AgentSignals where
  recentCaps : List String
  capFreq : Dict String Nat
  transitions : Dict String (Dict String Nat)

namespace AgentSignals

def empty : AgentSignals := ⟨[], .empty, .empty⟩

def exercise (history : Nat) (capability : String) (signals : AgentSignals) : AgentSignals :=
  let recent := signals.recentCaps ++ [capability]
  { recentCaps := recent.drop (recent.length - history)
    capFreq := increment signals.capFreq capability 1
    transitions :=
      match signals.recentCaps.getLast? with
      | none => signals.transitions
      | some last =>
          signals.transitions.set last
            (increment ((signals.transitions.get? last).getD .empty) capability 1) }

end AgentSignals

structure SignalStore where
  history : Nat
  subscribed : List String
  agents : Dict String AgentSignals

namespace SignalStore

def initial (history : Nat) : SignalStore := ⟨history, [], .empty⟩

def subscribe (agentId : String) (store : SignalStore) : SignalStore :=
  { store with
    subscribed := store.subscribed.insert agentId
    agents :=
      match store.agents.get? agentId with
      | some _ => store.agents
      | none => store.agents.set agentId .empty }

def unsubscribe (agentId : String) (store : SignalStore) : SignalStore :=
  { store with
    subscribed := store.subscribed.filter (· ≠ agentId)
    agents := store.agents.erase agentId }

def isSubscribed (agentId : String) (store : SignalStore) : Bool :=
  store.subscribed.contains agentId

variable [TextCase]

def normalize (capability : String) : String := lower (Text.strip capability)

def observeCapability (agentId capability : String) (store : SignalStore) :
    SignalStore × Bool :=
  let cap := normalize capability
  if cap = "" then (store, false)
  else if !store.isSubscribed agentId then (store, false)
  else
    match store.agents.get? agentId with
    | none => (store, false)
    | some signals =>
        ({ store with agents := store.agents.set agentId (signals.exercise store.history cap) },
          true)

def feedAudit (agentId : String) (record : Json) (store : SignalStore) : SignalStore × Bool :=
  match record with
  | .object members =>
      match Json.member members "method" with
      | some (.string method) => store.observeCapability agentId method
      | _ => (store, false)
  | _ => (store, false)

omit [TextCase] in
def lastCapability (agentId : String) (store : SignalStore) : Option String :=
  (store.agents.get? agentId).bind fun signals => signals.recentCaps.getLast?

omit [TextCase] in
def frequency (agentId : String) (store : SignalStore) : Dict String Nat :=
  ((store.agents.get? agentId).map (·.capFreq)).getD .empty

def transitionsFrom (agentId capability : String) (store : SignalStore) : Dict String Nat :=
  ((store.agents.get? agentId).bind fun signals =>
    signals.transitions.get? (normalize capability)).getD .empty

end SignalStore

/-! ## Predictions -/

def slice (ranked : List (String × Nat)) (top : Int) : List (String × Nat) :=
  if 0 ≤ top then ranked.take top.toNat else ranked.take (ranked.length - (-top).toNat)

/-- `predict_capabilities`, from what was read of the store. What followed the current
capability weighs twice as much as what is frequent. The scores are whole numbers. -/
def predictCapabilities (current : Option String) (freq trans : Dict String Nat) (top : Int) :
    List (String × Nat) :=
  let followed := trans.entries.foldl
    (fun scores entry => increment scores entry.1 (2 * entry.2)) Dict.empty
  let scores := freq.entries.foldl
    (fun scores entry => increment scores entry.1 entry.2) followed
  let others :=
    match current with
    | none => scores
    | some capability => scores.erase capability
  let ranked := others.entries.mergeSort fun left right =>
    right.2 < left.2 || (left.2 = right.2 && left.1 ≤ right.1)
  slice ranked top

/-! ## The service -/

structure Found where
  results : List Json
  providers : List Json

structure Preloaded where
  found : Found
  resolvedAt : ℚ

structure AdsService where
  signals : SignalStore
  preloaded : Dict (String × String) Preloaded

namespace AdsService

def initial (history : Nat) : AdsService := ⟨.initial history, .empty⟩

def forget (agentId : String) (service : AdsService) : AdsService :=
  { service with preloaded := service.preloaded.filterKeys fun key => key.1 ≠ agentId }

theorem forget_same (service : AdsService) (agentId capability : String) :
    (service.forget agentId).preloaded.get? (agentId, capability) = none := by
  rw [forget, Dict.get?_eq_first?, Dict.first?_filterKeys_none]
  · rfl
  · intro key accepted
    rw [decide_eq_true_eq] at accepted
    rw [accepted]
    simp

theorem forget_other (service : AdsService) {agentId other : String}
    (different : other ≠ agentId) (capability : String) :
    (service.forget agentId).preloaded.get? (other, capability) =
      service.preloaded.get? (other, capability) := by
  rw [forget, Dict.get?_eq_first?, Dict.first?_filterKeys_kept]
  · rfl
  · intro key accepted
    rw [decide_eq_true_eq] at accepted
    rw [accepted]
    simpa using different

def store (agentId capability : String) (result : Preloaded) (service : AdsService) :
    AdsService :=
  { service with preloaded := service.preloaded.set (agentId, capability) result }

def getPreloaded [TextCase] (agentId capability : String) (service : AdsService) :
    Option Preloaded :=
  service.preloaded.get? (agentId, SignalStore.normalize capability)

def HoldsNothing (service : AdsService) (agentId : String) : Prop :=
  service.signals.agents.get? agentId = none ∧
    ∀ capability, service.preloaded.get? (agentId, capability) = none

end AdsService

end Agtp.Ads
