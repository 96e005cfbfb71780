import Mathlib.Data.List.Basic

/-! # Logged computations

Computations over a state that log what they do. They end with a value, with an
uncaught exception, or not at all within the depth they were given. The log is
the bridge to step relations: a computation follows a step relation if its log
is a trace of it. -/

namespace Agtp

/-- How a computation ends. -/
inductive Ending (Value : Type u) where
  | value (result : Value)
  | raised
  | unfinished

/-- The computation returns, be it with an exception. -/
def Ending.Finished (ending : Ending Value) : Prop :=
  match ending with
  | .unfinished => False
  | _ => True

structure Run (State Event Value : Type u) where
  ending : Ending Value
  state : State
  log : List Event

def Computation (State Event Value : Type u) :=
  State → Run State Event Value

namespace Computation

variable {State Event Value Result : Type u}

/-! ## Operations -/

def result (value : Value) : Computation State Event Value :=
  fun state => ⟨.value value, state, []⟩

def raise : Computation State Event Value :=
  fun state => ⟨.raised, state, []⟩

/-- The depth of nested calls is used up. -/
def exhausted : Computation State Event Value :=
  fun state => ⟨.unfinished, state, []⟩

def andThen (computation : Computation State Event Value)
    (next : Value → Computation State Event Result) :
    Computation State Event Result :=
  fun state =>
    let first := computation state
    match first.ending with
    | .value value =>
        let second := next value first.state
        ⟨second.ending, second.state, first.log ++ second.log⟩
    | .raised => ⟨.raised, first.state, first.log⟩
    | .unfinished => ⟨.unfinished, first.state, first.log⟩

def read : Computation State Event State :=
  fun state => ⟨.value state, state, []⟩

/-- `try … except Exception`: an uncaught exception becomes a value. -/
def recover (computation : Computation State Event Value) (caught : Value) :
    Computation State Event Value :=
  fun state =>
    let run := computation state
    match run.ending with
    | .raised => ⟨.value caught, run.state, run.log⟩
    | _ => run

/-- Go on whatever becomes of a computation. -/
def settle (computation : Computation State Event Value) :
    Computation State Event PUnit :=
  fun state => ⟨.value .unit, (computation state).state, (computation state).log⟩

/-- One logged action. -/
def perform (event : Event) (action : State → Ending Value × State) :
    Computation State Event Value :=
  fun state => ⟨(action state).1, (action state).2, [event]⟩

/-! ## Runs of composed computations -/

theorem andThen_value {computation : Computation State Event Value}
    {next : Value → Computation State Event Result} {state : State} {value : Value}
    (ended : (computation state).ending = .value value) :
    andThen computation next state =
      ⟨(next value (computation state).state).ending,
        (next value (computation state).state).state,
        (computation state).log ++ (next value (computation state).state).log⟩ := by
  simp only [andThen, ended]

theorem value_of_andThen {computation : Computation State Event Value}
    {next : Value → Computation State Event Result} {state : State} {returned : Result}
    (ended : (andThen computation next state).ending = .value returned) :
    ∃ value, (computation state).ending = .value value ∧
      (next value (computation state).state).ending = .value returned := by
  cases first : (computation state).ending with
  | value value =>
      rw [andThen_value first] at ended
      exact ⟨value, rfl, ended⟩
  | raised =>
      simp only [andThen, first] at ended
      cases ended
  | unfinished =>
      simp only [andThen, first] at ended
      cases ended

theorem andThen_result (value : Value)
    (next : Value → Computation State Event Result) :
    andThen (result value) next = next value := rfl

theorem andThen_read (next : State → Computation State Event Result)
    (state : State) : andThen read next state = next state state := rfl

end Computation

/-! ## Traces -/

/-- A log as a sequence of steps. -/
inductive Trace {State Event : Type u} (step : State → Event → State → Prop) :
    State → List Event → State → Prop where
  | nil (state : State) : Trace step state [] state
  | cons {state middle final : State} {event : Event} {log : List Event}
      (first : step state event middle) (rest : Trace step middle log final) :
      Trace step state (event :: log) final

namespace Trace

variable {State Event : Type u} {step : State → Event → State → Prop}
  {state middle final : State} {log : List Event}

theorem single {event : Event} (first : step state event final) :
    Trace step state [event] final :=
  .cons first (.nil final)

theorem append {rest : List Event} (first : Trace step state log middle)
    (second : Trace step middle rest final) :
    Trace step state (log ++ rest) final := by
  induction first with
  | nil => exact second
  | cons taken _ induction => exact .cons taken (induction second)

theorem split {first rest : List Event}
    (trace : Trace step state (first ++ rest) final) :
    ∃ middle, Trace step state first middle ∧ Trace step middle rest final := by
  induction first generalizing state with
  | nil => exact ⟨state, .nil state, trace⟩
  | cons event first induction =>
      cases trace with
      | cons taken later =>
          rcases induction later with ⟨middle, before, after⟩
          exact ⟨middle, .cons taken before, after⟩

theorem preserves {invariant : State → Prop}
    (preserved : ∀ state event next, step state event next →
      invariant state → invariant next)
    (trace : Trace step state log final) (holds : invariant state) :
    invariant final := by
  induction trace with
  | nil => exact holds
  | cons taken _ induction => exact induction (preserved _ _ _ taken holds)

end Trace

/-! ## Following a step relation -/

namespace Computation

variable {State Event Value Result : Type u}
  {step : State → Event → State → Prop} {endless : Prop}

/-- The computation's log from a state is a trace of the step relation, and
unless it may be endless the computation returns. -/
structure FollowsFrom (step : State → Event → State → Prop) (endless : Prop)
    (state : State) (computation : Computation State Event Value) : Prop where
  trace : Trace step state (computation state).log (computation state).state
  returns : endless ∨ (computation state).ending.Finished

/-- The computation follows the step relation from every state. -/
def Follows (step : State → Event → State → Prop) (endless : Prop)
    (computation : Computation State Event Value) : Prop :=
  ∀ state, FollowsFrom step endless state computation

theorem follows_result (value : Value) :
    Follows step endless (result value : Computation State Event Value) :=
  fun state => ⟨.nil state, .inr trivial⟩

theorem follows_raise :
    Follows step endless (raise : Computation State Event Value) :=
  fun state => ⟨.nil state, .inr trivial⟩

theorem follows_exhausted (may : endless) :
    Follows step endless (exhausted : Computation State Event Value) :=
  fun state => ⟨.nil state, .inl may⟩

theorem follows_read :
    Follows step endless (read : Computation State Event State) :=
  fun state => ⟨.nil state, .inr trivial⟩

theorem follows_perform {event : Event} {action : State → Ending Value × State}
    (taken : ∀ state, step state event (action state).2)
    (returns : ∀ state, (action state).1.Finished) :
    Follows step endless (perform event action) :=
  fun state => ⟨.single (taken state), .inr (returns state)⟩

theorem follows_andThen {computation : Computation State Event Value}
    {next : Value → Computation State Event Result}
    (first : Follows step endless computation)
    (second : ∀ value, Follows step endless (next value)) :
    Follows step endless (andThen computation next) := by
  intro state
  rcases first state with ⟨trace, returns⟩
  cases ended : (computation state).ending with
  | value value =>
      rcases second value (computation state).state with ⟨rest, returned⟩
      exact ⟨by rw [andThen_value ended]; exact trace.append rest,
        by rw [andThen_value ended]; exact returned⟩
  | raised => exact ⟨by simpa [andThen, ended] using trace, .inr (by
      simp [andThen, ended, Ending.Finished])⟩
  | unfinished =>
      refine ⟨by simpa [andThen, ended] using trace, ?_⟩
      simpa [andThen, ended, Ending.Finished] using returns

theorem follows_recover {computation : Computation State Event Value}
    (follows : Follows step endless computation) (caught : Value) :
    Follows step endless (recover computation caught) := by
  intro state
  rcases follows state with ⟨trace, returns⟩
  cases ended : (computation state).ending with
  | raised => exact ⟨by simpa [recover, ended] using trace, .inr (by
      simp [recover, ended, Ending.Finished])⟩
  | value value => exact ⟨by simpa [recover, ended] using trace, .inr (by
      simp [recover, ended, Ending.Finished])⟩
  | unfinished =>
      refine ⟨by simpa [recover, ended] using trace, ?_⟩
      simpa [recover, ended, Ending.Finished] using returns

theorem follows_settle {computation : Computation State Event Value}
    (follows : Follows step endless computation) :
    Follows step endless (settle computation) :=
  fun state => ⟨(follows state).trace, .inr trivial⟩

theorem follows_andThen_read {next : State → Computation State Event Result}
    (second : ∀ state, FollowsFrom step endless state (next state)) :
    Follows step endless (andThen read next) :=
  fun state => ⟨(second state).trace, (second state).returns⟩

end Computation

end Agtp
