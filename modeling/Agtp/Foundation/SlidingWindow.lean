import Mathlib.Data.List.Basic
import Mathlib.Tactic.Abel
import Mathlib.Tactic.Linarith

/-! # Sliding windows

Entries of a list that carry the times at which something happened to them, and the
number of these times in a window that may start anywhere. The entries are changed in
place, one at a time, while the clock goes on. -/

namespace Agtp.SlidingWindow

/-! ## Counting after a change -/

theorem countP_set_balance {entries : List Entry} {index : Nat} {entry : Entry}
    (found : entries[index]? = some entry) (changed : Entry) (accepts : Entry → Bool) :
    (entries.set index changed).countP accepts + (accepts entry).toNat =
      entries.countP accepts + (accepts changed).toNat := by
  induction entries generalizing index with
  | nil => simp at found
  | cons head tail induction =>
      cases index with
      | zero =>
          obtain rfl : head = entry := by simpa using found
          rw [List.set_cons_zero, List.countP_cons, List.countP_cons]
          cases accepts head <;> cases accepts changed <;> simp
      | succ index =>
          have rest := induction (by simpa using found)
          rw [List.set_cons_succ, List.countP_cons, List.countP_cons]
          omega

theorem countP_concat (entries : List Entry) (entry : Entry) (accepts : Entry → Bool) :
    (entries ++ [entry]).countP accepts = entries.countP accepts + (accepts entry).toNat := by
  rw [List.countP_append, List.countP_singleton]
  cases accepts entry <;> rfl

theorem countP_or_le (entries : List Entry) (first second : Entry → Bool) :
    entries.countP (fun entry => first entry || second entry) ≤
      entries.countP first + entries.countP second := by
  induction entries with
  | nil => simp
  | cons head tail induction =>
      rw [List.countP_cons, List.countP_cons, List.countP_cons]
      cases first head <;> cases second head <;> simp <;> omega

theorem place_unique {entries : List Entry} {accepts : Entry → Bool}
    (single : entries.countP accepts ≤ 1) {index place : Nat} {entry other : Entry}
    (found : entries[index]? = some entry) (held : entries[place]? = some other)
    (first : accepts entry = true) (second : accepts other = true) : index = place := by
  induction entries generalizing index place with
  | nil => simp at found
  | cons head tail induction =>
      have absent {at_ : Nat} {later : Entry} (accepted : accepts head = true)
          (inside : tail[at_]? = some later) : accepts later = false := by
        rw [List.countP_cons_of_pos accepted] at single
        have none : tail.countP accepts = 0 := by omega
        exact Bool.eq_false_iff.mpr
          (List.countP_eq_zero.mp none later (List.mem_of_getElem? inside))
      cases index with
      | zero =>
          obtain rfl : head = entry := by simpa using found
          cases place with
          | zero => rfl
          | succ place =>
              rw [absent first (by simpa using held)] at second
              cases second
      | succ index =>
          cases place with
          | zero =>
              obtain rfl : head = other := by simpa using held
              rw [absent second (by simpa using found)] at first
              cases first
          | succ place =>
              have fewer : tail.countP accepts ≤ 1 :=
                (List.sublist_cons_self head tail).countP_le.trans single
              exact congrArg Nat.succ
                (induction fewer (by simpa using found) (by simpa using held))

/-! ## Windows -/

variable {Entry : Type u} {Time : Type v} [AddCommGroup Time] [LinearOrder Time]
  [IsOrderedAddMonoid Time]

/-- It happened at `start` or later. -/
def since (start : Time) (stamp : Option Time) : Bool :=
  stamp.any (decide <| start ≤ ·)

/-- It happened in the window that starts at `start`. -/
def within (width start : Time) (stamp : Option Time) : Bool :=
  stamp.any fun time => start ≤ time && time ≤ start + width

omit [AddCommGroup Time] [IsOrderedAddMonoid Time] in
@[simp] theorem since_some (start time : Time) :
    since start (some time) = decide (start ≤ time) := rfl

omit [AddCommGroup Time] [IsOrderedAddMonoid Time] in
@[simp] theorem since_none (start : Time) : since start none = false := rfl

omit [AddCommGroup Time] [IsOrderedAddMonoid Time] in
theorem since_mono {earlier later : Time} (order : earlier ≤ later) {stamp : Option Time}
    (recent : since later stamp = true) : since earlier stamp = true := by
  cases stamp with
  | none => cases recent
  | some time =>
      rw [since_some, decide_eq_true_eq] at recent ⊢
      exact order.trans recent

omit [IsOrderedAddMonoid Time] in
theorem within_some {width start time : Time} :
    within width start (some time) = true ↔ start ≤ time ∧ time ≤ start + width := by
  simp [within]

/-- At most `limit` of the entries are stamped in any one window. -/
def Bounded (width : Time) (limit : Nat) (stamps : List (Option Time)) : Prop :=
  ∀ start, stamps.countP (within width start) ≤ limit

variable {width now : Time} {limit : Nat} {stamps : List (Option Time)}

omit [IsOrderedAddMonoid Time] in
theorem Bounded.nil (width : Time) (limit : Nat) : Bounded width limit [] :=
  fun _ => Nat.zero_le limit

omit [IsOrderedAddMonoid Time] in
theorem Bounded.concat_none (bounded : Bounded width limit stamps) :
    Bounded width limit (stamps ++ [none]) := by
  intro start
  have silent : [none].countP (within width start) = 0 := rfl
  rw [List.countP_append, silent]
  exact bounded start

/-- A stamp is put down when the clock shows `now`. The windows are bounded if the one that
ends at `now` is: each window that holds the new stamp starts no earlier. -/
theorem Bounded.set_now (bounded : Bounded width limit stamps) {index : Nat}
    {stamp : Option Time} (found : stamps[index]? = some stamp)
    (recent : (stamps.set index (some now)).countP (since (now - width)) ≤ limit) :
    Bounded width limit (stamps.set index (some now)) := by
  intro start
  by_cases holds : within width start (some now) = true
  · have starts : now - width ≤ start := sub_le_iff_le_add.mpr (within_some.mp holds).2
    refine le_trans (List.countP_mono_left fun stamp _ inside => ?_) recent
    cases stamp with
    | none => cases inside
    | some time =>
        rw [since_some, decide_eq_true_eq]
        exact starts.trans (within_some.mp inside).1
  · have balance := countP_set_balance found (some now) (within width start)
    rw [Bool.eq_false_iff.mpr holds] at balance
    have before := bounded start
    simp only [Bool.toNat_false] at balance
    omega

end Agtp.SlidingWindow
