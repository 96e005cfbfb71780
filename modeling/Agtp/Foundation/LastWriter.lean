import Mathlib.Data.List.Basic

/-! # Last-writer-wins registers

A register keeps the value in hand unless a value that is written to it is newer. The
order is a test of any kind: it may leave values incomparable, also a value with
itself. -/

namespace Agtp.LastWriter

variable {Value : Type u} (covers : Value → Value → Bool)

/-- The value that is kept: the one in hand, if it covers the other one. -/
def keep (held written : Value) : Value :=
  if covers held written then held else written

def write (register : Option Value) (written : Value) : Option Value :=
  match register with
  | some held => some (keep covers held written)
  | none => some written

def writeAll (register : Option Value) (values : List Value) : Option Value :=
  values.foldl (write covers) register

/-- A value that covers every other one, and is covered by none. -/
def Newest (values : List Value) (value : Value) : Prop :=
  value ∈ values ∧ ∀ other ∈ values,
    other = value ∨ covers value other = true ∧ covers other value = false

/-- Two lists have the same values, in any order and any number of times. -/
def SameValues (left right : List Value) : Prop :=
  ∀ value, value ∈ left ↔ value ∈ right

variable {covers}

theorem keep_choice (covers : Value → Value → Bool) (held written : Value) :
    keep covers held written = held ∨ keep covers held written = written := by
  unfold keep
  split
  · exact .inl rfl
  · exact .inr rfl

theorem writeAll_append (register : Option Value) (first second : List Value) :
    writeAll covers register (first ++ second) =
      writeAll covers (writeAll covers register first) second :=
  List.foldl_append

/-! ## What is held is one of the values -/

theorem mem_of_write {register : Option Value} {written held : Value}
    (result : write covers register written = some held) :
    register = some held ∨ held = written := by
  cases register with
  | none => exact .inr (Option.some.inj result).symm
  | some before =>
      have kept : keep covers before written = held := Option.some.inj result
      rcases keep_choice covers before written with choice | choice
      · exact .inl (congrArg some (choice.symm.trans kept))
      · exact .inr (kept.symm.trans choice)

theorem mem_of_writeAll {register : Option Value} {values : List Value} {held : Value}
    (result : writeAll covers register values = some held) :
    register = some held ∨ held ∈ values := by
  induction values generalizing register with
  | nil => exact .inl result
  | cons first rest induction =>
      rcases induction result with written | later
      · rcases mem_of_write written with before | same
        · exact .inl before
        · exact .inr (List.mem_cons.mpr (.inl same))
      · exact .inr (List.mem_cons_of_mem _ later)

theorem writeAll_isSome (covers : Value → Value → Bool) {register : Option Value} {values : List Value}
    (filled : register.isSome ∨ values ≠ []) :
    ∃ held, writeAll covers register values = some held := by
  induction values generalizing register with
  | nil =>
      rcases filled with held | nonempty
      · exact Option.isSome_iff_exists.mp held
      · exact absurd rfl nonempty
  | cons first rest induction =>
      apply induction
      left
      cases register <;> rfl

/-! ## Order independence -/

theorem writeAll_of_held {values : List Value} {newest : Value}
    (above : ∀ other ∈ values, other = newest ∨ covers newest other = true) :
    writeAll covers (some newest) values = some newest := by
  induction values with
  | nil => rfl
  | cons first rest induction =>
      have kept : write covers (some newest) first = some newest := by
        change some (if covers newest first then newest else first) = some newest
        rcases above first List.mem_cons_self with same | covered
        · rw [same, ite_self]
        · rw [if_pos covered]
      change writeAll covers (write covers (some newest) first) rest = some newest
      rw [kept]
      exact induction fun other member => above other (List.mem_cons_of_mem _ member)

theorem writeAll_newest {values : List Value} {newest : Value} {register : Option Value}
    (before : ∀ held ∈ register, held = newest ∨ covers held newest = false)
    (member : newest ∈ values)
    (above : ∀ other ∈ values,
      other = newest ∨ covers newest other = true ∧ covers other newest = false) :
    writeAll covers register values = some newest := by
  induction values generalizing register with
  | nil => cases member
  | cons first rest induction =>
      have restAbove : ∀ other ∈ rest,
          other = newest ∨ covers newest other = true ∧ covers other newest = false :=
        fun other later => above other (List.mem_cons_of_mem _ later)
      change writeAll covers (write covers register first) rest = some newest
      rcases above first List.mem_cons_self with same | apart
      · have written : write covers register first = some newest := by
          rw [same]
          cases register with
          | none => rfl
          | some held =>
              change some (if covers held newest then held else newest) = some newest
              rcases before held rfl with equal | lower
              · rw [equal, ite_self]
              · rw [if_neg (by simp [lower])]
        rw [written]
        exact writeAll_of_held fun other later => (restAbove other later).imp id And.left
      · have later : newest ∈ rest := by
          rcases List.mem_cons.mp member with equal | later
          · rw [equal] at apart
            rw [apart.1] at apart
            cases apart.2
          · exact later
        apply induction _ later restAbove
        intro held holds
        rcases mem_of_write holds with earlier | equal
        · exact before held earlier
        · exact .inr (equal ▸ apart.2)

variable (covers) in
/-- The register and the values leave no doubt: the register covers them all, or one of
them is newer than everything else. -/
def Settled (register : Option Value) (values : List Value) : Prop :=
  match register with
  | none => values = [] ∨ ∃ newest, Newest covers values newest
  | some held => (∀ value ∈ values, value = held ∨ covers held value = true) ∨
      ∃ newest, Newest covers values newest ∧ covers held newest = false

theorem sameValues_append {values : List Value} {value : Value} (member : value ∈ values) :
    SameValues (values ++ [value]) values := by
  intro other
  rw [List.mem_append, List.mem_singleton]
  exact ⟨fun either => either.elim id fun same => same ▸ member, .inl⟩

theorem sameValues_cons {values : List Value} {value : Value} (member : value ∈ values) :
    SameValues (value :: values) values := by
  intro other
  rw [List.mem_cons]
  exact ⟨fun either => either.elim (fun same => same ▸ member) id, .inr⟩

theorem covers_of_always {register : Option Value} {values : List Value} {last : Value}
    (always : ∀ list, SameValues list values → writeAll covers register list = some last)
    {value : Value} (member : value ∈ values) (different : value ≠ last) :
    covers last value = true := by
  have appended := always _ (sameValues_append member)
  rw [writeAll_append, always values fun _ => Iff.rfl] at appended
  by_contra uncovered
  have written : keep covers last value = value := if_neg uncovered
  exact different (written.symm.trans (Option.some.inj appended))

/-- The values of a list can be written in any order, and any number of times, with one
outcome exactly if the outcome is settled. -/
theorem order_independent_iff
    (trans : ∀ first second third, covers first second = true →
      covers second third = true → covers first third = true)
    (register : Option Value) (values : List Value) :
    (∀ left right, SameValues left values → SameValues right values →
      writeAll covers register left = writeAll covers register right) ↔
      Settled covers register values := by
  constructor
  · intro independent
    have always (last : Value) (held : writeAll covers register values = some last)
        (list : List Value) (same : SameValues list values) :
        writeAll covers register list = some last :=
      (independent list values same fun _ => Iff.rfl).trans held
    -- a value that covers the last one stays, if it gets into the register at all
    have newest (last : Value) (held : writeAll covers register values = some last)
        (member : last ∈ values)
        (enters : ∀ value, covers value last = true →
          write covers register value = some value) :
        Newest covers values last := by
      refine ⟨member, fun other otherMember => ?_⟩
      by_cases same : other = last
      · exact .inl same
      · refine .inr ⟨covers_of_always (always last held) otherMember same, ?_⟩
        by_contra covered
        rw [Bool.not_eq_false] at covered
        have first := always last held _ (sameValues_cons otherMember)
        have kept : writeAll covers (some other) values = some other := by
          apply writeAll_of_held
          intro value valueMember
          by_cases equal : value = last
          · exact .inr (equal ▸ covered)
          · exact .inr (trans _ _ _ covered
              (covers_of_always (always last held) valueMember equal))
        change writeAll covers (write covers register other) values = some last at first
        rw [enters other covered, kept] at first
        exact same (Option.some.inj first)
    cases register with
    | none =>
        by_cases empty : values = []
        · exact .inl empty
        · have ends : ∃ last, writeAll covers none values = some last :=
            writeAll_isSome covers (.inr empty)
          rcases ends with ⟨last, held⟩
          have member : last ∈ values := (mem_of_writeAll held).resolve_left nofun
          exact .inr ⟨last, newest last held member fun _ _ => rfl⟩
    | some before =>
        have ends : ∃ last, writeAll covers (some before) values = some last :=
          writeAll_isSome covers (.inl rfl)
        rcases ends with ⟨last, held⟩
        by_cases kept : last = before
        · left
          intro value member
          by_cases same : value = before
          · exact .inl same
          · rw [← kept] at same ⊢
            exact .inr (covers_of_always (always last held) member same)
        · right
          have member : last ∈ values := by
            rcases mem_of_writeAll held with same | member
            · exact absurd (Option.some.inj same).symm kept
            · exact member
          have above : covers before last = false := by
            by_contra covered
            rw [Bool.not_eq_false] at covered
            have stays : writeAll covers (some before) values = some before := by
              apply writeAll_of_held
              intro value valueMember
              by_cases equal : value = last
              · exact .inr (equal ▸ covered)
              · exact .inr (trans _ _ _ covered
                  (covers_of_always (always last held) valueMember equal))
            exact kept (Option.some.inj (held.symm.trans stays))
          refine ⟨last, newest last held member fun value covered => ?_, above⟩
          have free : covers before value ≠ true := fun blocked =>
            absurd (trans _ _ _ blocked covered) (by simp [above])
          exact congrArg some (if_neg free)
  · intro settled left right leftSame rightSame
    have once : ∃ last, ∀ list, SameValues list values →
        writeAll covers register list = last := by
      cases register with
      | none =>
          rcases settled with empty | ⟨newest, member, above⟩
          · refine ⟨none, fun list same => ?_⟩
            have none : list = [] := by
              rw [List.eq_nil_iff_forall_not_mem]
              intro value listed
              rw [same value, empty] at listed
              cases listed
            rw [none]
            rfl
          · exact ⟨some newest, fun list same => writeAll_newest nofun
              ((same newest).mpr member) fun other listed =>
                above other ((same other).mp listed)⟩
      | some before =>
          rcases settled with covered | ⟨newest, ⟨member, above⟩, free⟩
          · exact ⟨some before, fun list same => writeAll_of_held fun other listed =>
              covered other ((same other).mp listed)⟩
          · refine ⟨some newest, fun list same => writeAll_newest ?_
              ((same newest).mpr member) fun other listed =>
                above other ((same other).mp listed)⟩
            intro held holds
            cases holds
            exact .inr free
    rcases once with ⟨last, once⟩
    rw [once left leftSame, once right rightSame]

end Agtp.LastWriter
