import Mathlib.Data.List.Basic
import Mathlib.Data.Option.Basic

/-! # Brackets

How deep a list of tokens is inside brackets. -/

namespace Agtp

structure Brackets (Token : Type u) where
  opening : Token
  closing : Token
  different : opening ≠ closing

namespace Brackets

variable {Token : Type u} [DecidableEq Token] (brackets : Brackets Token)

/-- The depth after the tokens, if no bracket is closed that is not open. -/
def depthFrom (depth : Nat) : List Token → Option Nat
  | [] => some depth
  | token :: rest =>
      if token = brackets.opening then depthFrom (depth + 1) rest
      else if token = brackets.closing then
        if depth = 0 then none else depthFrom (depth - 1) rest
      else depthFrom depth rest

def Closed (tokens : List Token) : Prop :=
  (brackets.depthFrom 0 tokens).isSome

instance (tokens : List Token) : Decidable (brackets.Closed tokens) :=
  inferInstanceAs (Decidable (_ = true))

def Balanced (tokens : List Token) : Prop :=
  brackets.depthFrom 0 tokens = some 0

variable {brackets}

theorem depthFrom_append (depth : Nat) (left right : List Token) :
    brackets.depthFrom depth (left ++ right) =
      (brackets.depthFrom depth left).bind fun inner => brackets.depthFrom inner right := by
  induction left generalizing depth with
  | nil => rfl
  | cons token rest induction =>
      rw [List.cons_append, depthFrom, depthFrom]
      split
      · exact induction (depth + 1)
      · split
        · split
          · rfl
          · exact induction (depth - 1)
        · exact induction depth

theorem depthFrom_add {depth after : Nat} {tokens : List Token}
    (reached : brackets.depthFrom depth tokens = some after) (outer : Nat) :
    brackets.depthFrom (depth + outer) tokens = some (after + outer) := by
  induction tokens generalizing depth with
  | nil =>
      cases reached
      rfl
  | cons token rest induction =>
      rw [depthFrom] at reached ⊢
      split at reached
      · next opens =>
          rw [if_pos opens, Nat.add_right_comm]
          exact induction reached
      · next notOpening =>
          rw [if_neg notOpening]
          split at reached
          · next closes =>
              rw [if_pos closes]
              split at reached
              · cases reached
              · next inside =>
                  rw [if_neg (by omega), Nat.sub_add_comm (by omega)]
                  exact induction reached
          · next notClosing =>
              rw [if_neg notClosing]
              exact induction reached

theorem depthFrom_closing (depth : Nat) (rest : List Token) :
    brackets.depthFrom (depth + 1) (brackets.closing :: rest) =
      brackets.depthFrom depth rest := by
  rw [depthFrom, if_neg brackets.different.symm, if_pos rfl, if_neg (Nat.succ_ne_zero depth),
    Nat.add_sub_cancel]

theorem depthFrom_opening (depth : Nat) (rest : List Token) :
    brackets.depthFrom depth (brackets.opening :: rest) =
      brackets.depthFrom (depth + 1) rest := by
  rw [depthFrom, if_pos rfl]

theorem balanced_nil : brackets.Balanced [] := rfl

theorem balanced_singleton {token : Token} (notOpening : token ≠ brackets.opening)
    (notClosing : token ≠ brackets.closing) : brackets.Balanced [token] := by
  rw [Balanced, depthFrom, if_neg notOpening, if_neg notClosing, depthFrom]

theorem Balanced.append {left right : List Token} (first : brackets.Balanced left)
    (second : brackets.Balanced right) : brackets.Balanced (left ++ right) := by
  rw [Balanced, depthFrom_append, first]
  exact second

theorem Balanced.depthFrom {tokens : List Token} (balanced : brackets.Balanced tokens)
    (depth : Nat) : brackets.depthFrom depth tokens = some depth := by
  have shifted := depthFrom_add balanced depth
  rwa [Nat.zero_add] at shifted

theorem Balanced.enclose {tokens : List Token} (balanced : brackets.Balanced tokens) :
    brackets.Balanced (brackets.opening :: tokens ++ [brackets.closing]) := by
  rw [Balanced, List.cons_append, depthFrom_opening, depthFrom_append, balanced.depthFrom]
  exact depthFrom_closing 0 []

theorem not_balanced_append_closing {tokens : List Token} (balanced : brackets.Balanced tokens)
    (rest : List Token) : ¬brackets.Balanced (tokens ++ brackets.closing :: rest) := by
  rw [Balanced, depthFrom_append, balanced, Option.bind_some, Brackets.depthFrom,
    if_neg brackets.different.symm, if_pos rfl, if_pos rfl]
  exact nofun

theorem eq_of_closing {left right afterLeft afterRight : List Token}
    (first : brackets.Balanced left) (second : brackets.Balanced right)
    (same : left ++ brackets.closing :: afterLeft =
      right ++ brackets.closing :: afterRight) : left = right := by
  rcases List.append_eq_append_iff.mp same with ⟨part, longer, tail⟩ | ⟨part, longer, tail⟩
  · cases part with
    | nil => rw [longer, List.append_nil]
    | cons token rest =>
        cases (List.cons.inj tail).1
        rw [longer] at second
        exact absurd second (not_balanced_append_closing first rest)
  · cases part with
    | nil => rw [longer, List.append_nil]
    | cons token rest =>
        cases (List.cons.inj tail).1
        rw [longer] at first
        exact absurd first (not_balanced_append_closing second rest)

end Brackets

end Agtp
