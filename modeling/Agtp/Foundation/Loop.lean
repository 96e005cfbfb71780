import Mathlib.Data.List.Basic
import Mathlib.Order.WellFounded

/-! # Loops without a bound

`while True` with a body that raises, leaves the loop, or goes on. -/

/-! ## Folds that may fail

`List.foldlM` over `Option`: when such a fold succeeds, and what holds of its
result. -/

namespace Agtp.FoldOption

variable {State Item : Type} {step : State → Item → Option State}

theorem isSome_foldlM_iff {Fine : Item → Prop}
    (defined : ∀ state item, (step state item).isSome ↔ Fine item) (list : List Item)
    (start : State) :
    (list.foldlM step start).isSome ↔ ∀ item ∈ list, Fine item := by
  induction list generalizing start with
  | nil => simp
  | cons item rest induction =>
      rw [List.foldlM_cons, List.forall_mem_cons, ← defined start item]
      cases stepped : step start item with
      | none => simp
      | some next => simpa using induction next

theorem preserved_foldlM {Invariant : State → Prop}
    (preserves : ∀ state item next, step state item = some next →
      Invariant state → Invariant next) {list : List Item} {start final : State}
    (folded : list.foldlM step start = some final) (holds : Invariant start) :
    Invariant final := by
  induction list generalizing start with
  | nil =>
      cases folded
      exact holds
  | cons item rest induction =>
      rw [List.foldlM_cons] at folded
      rcases Option.bind_eq_some_iff.mp folded with ⟨next, stepped, later⟩
      exact induction later (preserves start item next stepped holds)

theorem established_foldlM {Goal : State → Prop} {item : Item}
    (establishes : ∀ state next, step state item = some next → Goal next)
    (preserves : ∀ state item next, step state item = some next →
      Goal state → Goal next) {list : List Item} (member : item ∈ list)
    {start final : State} (folded : list.foldlM step start = some final) : Goal final := by
  induction list generalizing start with
  | nil => cases member
  | cons first rest induction =>
      rw [List.foldlM_cons] at folded
      rcases Option.bind_eq_some_iff.mp folded with ⟨next, stepped, later⟩
      rcases List.mem_cons.mp member with rfl | within
      · exact preserved_foldlM preserves later (establishes start next stepped)
      · exact induction within later

end Agtp.FoldOption

namespace Agtp.Loop

universe u v

variable {Failure : Type u} {State : Type v} {body : State → Except Failure (Option State)}

/-- Run the body until it leaves the loop, with `.ok none`, or raises. -/
def run (body : State → Except Failure (Option State)) :
    Nat → State → Option (Except Failure State)
  | 0, _ => none
  | depth + 1, state =>
      match body state with
      | .error failure => some (.error failure)
      | .ok none => some (.ok state)
      | .ok (some next) => run body depth next

theorem run_leave {state : State} (left : body state = .ok none) (depth : Nat) :
    run body (depth + 1) state = some (.ok state) := by
  rw [run, left]

theorem run_next {state next : State} (went : body state = .ok (some next)) (depth : Nat) :
    run body (depth + 1) state = run body depth next := by
  rw [run, went]

theorem run_error {state : State} {failure : Failure} (raised : body state = .error failure)
    (depth : Nat) : run body (depth + 1) state = some (.error failure) := by
  rw [run, raised]

theorem kept_of_run {invariant : State → Prop}
    (keeps : ∀ state next, invariant state → body state = .ok (some next) → invariant next)
    {depth : Nat} {state final : State} (holds : invariant state)
    (ended : run body depth state = some (.ok final)) :
    invariant final ∧ body final = .ok none := by
  induction depth generalizing state with
  | zero => cases ended
  | succ depth induction =>
      cases passed : body state with
      | error failure =>
          rw [run_error passed] at ended
          cases ended
      | ok verdict =>
          cases verdict with
          | none =>
              rw [run_leave passed] at ended
              cases ended
              exact ⟨holds, passed⟩
          | some next =>
              rw [run_next passed] at ended
              exact induction (keeps state next holds passed) ended

/-- A loop whose body never raises, and lowers a measure whenever it goes on, is left
after no more passes than the measure allows. -/
theorem run_of_measure {invariant : State → Prop} (measure : State → Nat)
    (passes : ∀ state, invariant state → body state = .ok none ∨
      ∃ next, body state = .ok (some next) ∧ invariant next ∧ measure next < measure state)
    {state : State} (holds : invariant state) {depth : Nat} (enough : measure state < depth) :
    ∃ final, run body depth state = some (.ok final) ∧ invariant final ∧
      body final = .ok none := by
  induction depth generalizing state with
  | zero => omega
  | succ depth induction =>
      rcases passes state holds with left | ⟨next, went, kept, lower⟩
      · exact ⟨state, run_leave left depth, holds, left⟩
      · rw [run_next went]
        exact induction kept (by omega)

theorem ends_of_wellFounded {lower : State → State → Prop} (wellFounded : WellFounded lower)
    (passes : ∀ state next, body state = .ok (some next) → lower next state) (state : State) :
    ∃ depth outcome, run body depth state = some outcome := by
  induction state using wellFounded.induction with
  | _ state induction =>
      cases passed : body state with
      | error failure => exact ⟨1, .error failure, run_error passed 0⟩
      | ok verdict =>
          cases verdict with
          | none => exact ⟨1, .ok state, run_leave passed 0⟩
          | some next =>
              rcases induction next (passes state next passed) with ⟨depth, outcome, ended⟩
              exact ⟨depth + 1, outcome, (run_next passed depth).trans ended⟩

end Agtp.Loop
