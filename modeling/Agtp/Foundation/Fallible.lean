import Mathlib.Data.List.Basic

/-! # Loops that may raise

Filtering and mapping a list with a function that may raise. -/

namespace Agtp.Fallible

universe u v w

variable {Failure : Type u} {Value : Type v} {Result : Type w}

/-- The computation does not raise. -/
def Succeeds (outcome : Except Failure Result) : Prop :=
  ∃ result, outcome = .ok result

@[simp] theorem succeeds_ok (result : Result) :
    Succeeds (.ok result : Except Failure Result) :=
  ⟨result, rfl⟩

@[simp] theorem not_succeeds_error (failure : Failure) :
    ¬Succeeds (.error failure : Except Failure Result) :=
  nofun

theorem ok_of_bind {Result : Type v} {first : Except Failure Value}
    {next : Value → Except Failure Result} {result : Result} (bound : (first >>= next) = .ok result) :
    ∃ value, first = .ok value ∧ next value = .ok result := by
  cases first with
  | error failure => cases bound
  | ok value => exact ⟨value, rfl, bound⟩

instance (outcome : Except Failure Result) : Decidable (Succeeds outcome) :=
  match outcome with
  | .ok result => isTrue (succeeds_ok result)
  | .error failure => isFalse (not_succeeds_error failure)

/-- The test answers that the value is kept. -/
def holds : Except Failure Bool → Bool
  | .ok kept => kept
  | .error _ => false

/-! ## Filtering -/

def filter (keep : Value → Except Failure Bool) :
    List Value → Except Failure (List Value)
  | [] => .ok []
  | value :: rest =>
      match keep value with
      | .error failure => .error failure
      | .ok kept =>
          (filter keep rest).map fun others => if kept then value :: others else others

theorem filter_of_succeeds {keep : Value → Except Failure Bool} {values : List Value}
    (fine : ∀ value ∈ values, Succeeds (keep value)) :
    filter keep values = .ok (values.filter fun value => holds (keep value)) := by
  induction values with
  | nil => rfl
  | cons value rest induction =>
      rcases fine value List.mem_cons_self with ⟨kept, answer⟩
      have others := induction fun other member => fine other (List.mem_cons_of_mem _ member)
      unfold filter
      rw [answer, others, List.filter_cons, answer]
      cases kept <;> rfl

theorem succeeds_filter_iff {keep : Value → Except Failure Bool} {values : List Value} :
    Succeeds (filter keep values) ↔ ∀ value ∈ values, Succeeds (keep value) := by
  constructor
  · intro succeeds
    induction values with
    | nil => simp
    | cons value rest induction =>
        unfold filter at succeeds
        cases answer : keep value with
        | error failure =>
            rw [answer] at succeeds
            exact absurd succeeds (not_succeeds_error failure)
        | ok kept =>
            rw [answer] at succeeds
            have others : Succeeds (filter keep rest) := by
              cases filtered : filter keep rest with
              | error failure =>
                  rw [filtered] at succeeds
                  exact absurd succeeds (not_succeeds_error failure)
              | ok list => exact ⟨list, rfl⟩
            intro other member
            rcases List.mem_cons.mp member with rfl | later
            · exact ⟨kept, answer⟩
            · exact induction others other later
  · exact fun fine => ⟨_, filter_of_succeeds fine⟩

theorem eq_of_filter {keep : Value → Except Failure Bool} {values kept : List Value}
    (ended : filter keep values = .ok kept) :
    kept = values.filter fun value => holds (keep value) := by
  have fine := succeeds_filter_iff.mp ⟨kept, ended⟩
  exact Except.ok.inj (ended.symm.trans (filter_of_succeeds fine))

/-! ## Mapping -/

def map (change : Value → Except Failure Result) :
    List Value → Except Failure (List Result)
  | [] => .ok []
  | value :: rest =>
      match change value with
      | .error failure => .error failure
      | .ok result => (map change rest).map (result :: ·)

theorem map_cons (change : Value → Except Failure Result) (value : Value)
    (rest : List Value) :
    map change (value :: rest) =
      match change value with
      | .error failure => .error failure
      | .ok result => (map change rest).map (result :: ·) := rfl

theorem map_of_ok {change : Value → Except Failure Result} {pure : Value → Result}
    {values : List Value} (fine : ∀ value ∈ values, change value = .ok (pure value)) :
    map change values = .ok (values.map pure) := by
  induction values with
  | nil => rfl
  | cons value rest induction =>
      have others := induction fun other member => fine other (List.mem_cons_of_mem _ member)
      rw [map_cons, fine value List.mem_cons_self, others]
      rfl

theorem map_written {Written : Type u} {change : Written → Except Failure Result}
    {write : Value → Written} {result : Value → Result} {values : List Value}
    (fine : ∀ value ∈ values, change (write value) = .ok (result value)) :
    map change (values.map write) = .ok (values.map result) := by
  induction values with
  | nil => rfl
  | cons value rest induction =>
      have others := induction fun other member => fine other (List.mem_cons_of_mem _ member)
      rw [List.map_cons, map_cons, fine value List.mem_cons_self, others]
      rfl

theorem succeeds_map_iff {change : Value → Except Failure Result} {values : List Value} :
    Succeeds (map change values) ↔ ∀ value ∈ values, Succeeds (change value) := by
  induction values with
  | nil => simp [map]
  | cons value rest induction =>
      rw [List.forall_mem_cons, ← induction, map_cons]
      cases change value with
      | error failure => simp
      | ok result => cases map change rest <;> simp [Except.map]

theorem mem_of_map {change : Value → Except Failure Result} {values : List Value}
    {results : List Result} (ended : map change values = .ok results) {result : Result}
    (member : result ∈ results) : ∃ value ∈ values, change value = .ok result := by
  induction values generalizing results with
  | nil =>
      cases ended
      cases member
  | cons value rest induction =>
      unfold map at ended
      cases first : change value with
      | error failure =>
          rw [first] at ended
          cases ended
      | ok head =>
          rw [first] at ended
          cases others : map change rest with
          | error failure =>
              rw [others] at ended
              cases ended
          | ok list =>
              rw [others] at ended
              cases ended
              rcases List.mem_cons.mp member with rfl | later
              · exact ⟨value, List.mem_cons_self, first⟩
              · rcases induction others later with ⟨origin, listed, changed⟩
                exact ⟨origin, List.mem_cons_of_mem _ listed, changed⟩

end Agtp.Fallible
