import Mathlib.Data.List.Basic

/-! # Checks in sequence

A check passes, refuses what it is given, or raises something else. In a sequence the first
check that does not pass decides. What a sequence does is told by what each of its checks
passes, and by what makes it raise. -/

namespace Agtp.Checks

universe u v w

/-- How a check does not pass. -/
inductive Failing (Refusal : Type u) (Crash : Type v) where
  | refused (refusal : Refusal)
  | raised (crash : Crash)
deriving DecidableEq

/-- What passes a check, and what makes it raise. -/
structure Law where
  passes : Prop
  raises : Prop

namespace Law

/-- One check after another. -/
def andThen (first second : Law) : Law where
  passes := first.passes ∧ second.passes
  raises := first.raises ∨ (first.passes ∧ second.raises)

/-- All of some checks, in their order. -/
def all : List Law → Law
  | [] => ⟨True, False⟩
  | law :: laws => law.andThen (all laws)

theorem all_passes_iff {laws : List Law} :
    (all laws).passes ↔ ∀ law ∈ laws, law.passes := by
  induction laws with
  | nil => simp [all]
  | cons law laws induction =>
      rw [List.forall_mem_cons, ← induction]
      exact Iff.rfl

theorem all_raises_iff {laws : List Law} :
    (all laws).raises ↔ ∃ before law after, laws = before ++ law :: after ∧
      (∀ earlier ∈ before, earlier.passes) ∧ law.raises := by
  induction laws with
  | nil =>
      refine ⟨False.elim, fun ⟨before, law, after, same, _⟩ => ?_⟩
      exact absurd same.symm (by simp)
  | cons first laws induction =>
      change first.raises ∨ (first.passes ∧ (all laws).raises) ↔ _
      rw [induction]
      constructor
      · intro raises
        rcases raises with here | ⟨passes, before, law, after, same, earlier, later⟩
        · exact ⟨[], first, laws, rfl, nofun, here⟩
        · refine ⟨first :: before, law, after, by rw [same]; rfl, ?_, later⟩
          exact List.forall_mem_cons.mpr ⟨passes, earlier⟩
      · intro ⟨before, law, after, same, earlier, raises⟩
        cases before with
        | nil =>
            cases same
            exact .inl raises
        | cons other before =>
            cases same
            rw [List.forall_mem_cons] at earlier
            exact .inr ⟨earlier.1, before, law, after, rfl, earlier.2, raises⟩

end Law

section Deciding

variable {Refusal : Type u} {Crash : Type v}

/-- What an outcome is, by the law of its check. -/
structure Decides (outcome : Except (Failing Refusal Crash) Unit) (law : Law) : Prop where
  passes_iff : outcome = .ok () ↔ law.passes
  raises_iff : (∃ crash, outcome = .error (.raised crash)) ↔ law.raises

def require (condition : Prop) [Decidable condition] (refusal : Refusal) :
    Except (Failing Refusal Crash) Unit :=
  if condition then .ok () else .error (.refused refusal)

theorem decides_ok : Decides (.ok () : Except (Failing Refusal Crash) Unit) ⟨True, False⟩ where
  passes_iff := ⟨fun _ => trivial, fun _ => rfl⟩
  raises_iff := ⟨nofun, nofun⟩

theorem decides_refused (refusal : Refusal) :
    Decides (.error (.refused refusal) : Except (Failing Refusal Crash) Unit) ⟨False, False⟩ where
  passes_iff := ⟨nofun, nofun⟩
  raises_iff := ⟨nofun, nofun⟩

theorem decides_raised (crash : Crash) :
    Decides (.error (.raised crash) : Except (Failing Refusal Crash) Unit) ⟨False, True⟩ where
  passes_iff := ⟨nofun, nofun⟩
  raises_iff := ⟨fun _ => trivial, fun _ => ⟨crash, rfl⟩⟩

theorem decides_require (condition : Prop) [Decidable condition] (refusal : Refusal) :
    Decides (require condition refusal : Except (Failing Refusal Crash) Unit)
      ⟨condition, False⟩ := by
  unfold require
  by_cases holds : condition
  · rw [if_pos holds]
    exact ⟨⟨fun _ => holds, fun _ => rfl⟩, ⟨nofun, nofun⟩⟩
  · rw [if_neg holds]
    exact ⟨⟨nofun, fun own => absurd own holds⟩, ⟨nofun, nofun⟩⟩

theorem Decides.congr {outcome : Except (Failing Refusal Crash) Unit} {law other : Law}
    (decides : Decides outcome law) (passes : law.passes ↔ other.passes)
    (raises : law.raises ↔ other.raises) : Decides outcome other where
  passes_iff := decides.passes_iff.trans passes
  raises_iff := decides.raises_iff.trans raises

theorem Decides.andThen {first second : Except (Failing Refusal Crash) Unit} {law next : Law}
    (decides : Decides first law) (later : Decides second next) :
    Decides (first >>= fun _ => second) (law.andThen next) := by
  cases first with
  | ok =>
      have passes := decides.passes_iff.mp rfl
      have calm : ¬law.raises := fun raises => nomatch decides.raises_iff.mpr raises
      change Decides second _
      exact later.congr ⟨fun own => ⟨passes, own⟩, And.right⟩
        ⟨fun own => .inr ⟨passes, own⟩, fun own => own.elim (absurd · calm) And.right⟩
  | error stop =>
      have stops : ¬law.passes := fun passes => nomatch decides.passes_iff.mpr passes
      change Decides (.error stop) _
      exact decides.congr ⟨fun own => absurd own stops, fun own => absurd own.1 stops⟩
        ⟨.inl, fun own => own.elim id fun own => absurd own.1 stops⟩

/-- Checking each of the items, which are counted. -/
def checkAll {Item : Type w} (check : Nat → Item → Except (Failing Refusal Crash) Unit) :
    Nat → List Item → Except (Failing Refusal Crash) Unit
  | _, [] => .ok ()
  | index, item :: items => do
      check index item
      checkAll check (index + 1) items

theorem decides_checkAll {Item : Type w}
    {check : Nat → Item → Except (Failing Refusal Crash) Unit} {law : Item → Law}
    (decides : ∀ index item, Decides (check index item) (law item)) (index : Nat)
    (items : List Item) : Decides (checkAll check index items) (Law.all (items.map law)) := by
  induction items generalizing index with
  | nil => exact decides_ok
  | cons item items induction => exact (decides index item).andThen (induction (index + 1))

end Deciding

end Agtp.Checks
