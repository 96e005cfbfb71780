import Mathlib.Data.Set.Insert
import Mathlib.Data.List.Infix

/-! # Covers by prefixes

Bit strings are written with the deepest bit first, so that a prefix of a path is a suffix of
its list. -/

namespace Agtp

/-- The prefixes are free of each other, and every path has one. -/
structure PrefixCover (depth : Nat) (leaves : Set (List Bool)) : Prop where
  bounded : ∀ leaf ∈ leaves, leaf.length ≤ depth
  covers : ∀ path : List Bool, path.length = depth → ∃ leaf ∈ leaves, leaf <:+ path
  prefixFree : ∀ leaf ∈ leaves, ∀ other ∈ leaves, leaf <:+ other → leaf = other

namespace PrefixCover

variable {depth : Nat} {leaves : Set (List Bool)}

theorem root (depth : Nat) : PrefixCover depth {[]} where
  bounded := by
    intro leaf member
    rw [Set.mem_singleton_iff.mp member]
    exact Nat.zero_le depth
  covers := fun path _ => ⟨[], rfl, List.nil_suffix⟩
  prefixFree := by
    intro leaf member other otherMember _
    exact (Set.mem_singleton_iff.mp member).trans (Set.mem_singleton_iff.mp otherMember).symm

theorem eq_of_suffix (cover : PrefixCover depth leaves) {leaf other path : List Bool}
    (member : leaf ∈ leaves) (otherMember : other ∈ leaves) (left : leaf <:+ path)
    (right : other <:+ path) : leaf = other := by
  rcases List.suffix_or_suffix_of_suffix left right with below | above
  · exact cover.prefixFree leaf member other otherMember below
  · exact (cover.prefixFree other otherMember leaf member above).symm

theorem existsUnique (cover : PrefixCover depth leaves) {path : List Bool}
    (full : path.length = depth) : ∃! leaf, leaf ∈ leaves ∧ leaf <:+ path := by
  rcases cover.covers path full with ⟨leaf, member, left⟩
  refine ⟨leaf, ⟨member, left⟩, ?_⟩
  intro other found
  exact cover.eq_of_suffix found.1 member found.2 left

theorem cons_suffix {node path : List Bool} (left : node <:+ path) (shorter : node ≠ path) :
    ∃ bit, bit :: node <:+ path := by
  induction path with
  | nil => exact absurd (List.suffix_nil.mp left) shorter
  | cons bit rest induction =>
      rcases List.suffix_cons_iff.mp left with same | deeper
      · exact absurd same shorter
      · by_cases whole : node = rest
        · exact ⟨bit, whole ▸ List.suffix_rfl⟩
        · rcases induction deeper whole with ⟨next, suffix⟩
          exact ⟨next, suffix.trans (List.suffix_cons bit rest)⟩

/-! ## Splitting -/

/-- The leaves after one of them is divided on the next bit. -/
def divided (leaves : Set (List Bool)) (node : List Bool) : Set (List Bool) :=
  {leaf | leaf ≠ node ∧ leaf ∈ leaves ∨ ∃ bit, leaf = bit :: node}

theorem mem_divided {node leaf : List Bool} :
    leaf ∈ divided leaves node ↔ leaf ≠ node ∧ leaf ∈ leaves ∨ ∃ bit, leaf = bit :: node :=
  Iff.rfl

theorem divide (cover : PrefixCover depth leaves) {node : List Bool} (member : node ∈ leaves)
    (shallow : node.length < depth) : PrefixCover depth (divided leaves node) where
  bounded := by
    rintro leaf (⟨_, kept⟩ | ⟨bit, rfl⟩)
    · exact cover.bounded leaf kept
    · exact shallow
  covers := by
    intro path full
    rcases cover.covers path full with ⟨leaf, kept, left⟩
    by_cases same : leaf = node
    · rw [same] at left
      have shorter : node ≠ path := by
        intro equal
        rw [equal, full] at shallow
        exact lt_irrefl depth shallow
      rcases cons_suffix left shorter with ⟨bit, suffix⟩
      exact ⟨bit :: node, .inr ⟨bit, rfl⟩, suffix⟩
    · exact ⟨leaf, .inl ⟨same, kept⟩, left⟩
  prefixFree := by
    rintro leaf (⟨leafOther, kept⟩ | ⟨bit, rfl⟩) other (⟨otherOther, otherKept⟩ | ⟨next, rfl⟩) below
    · exact cover.prefixFree leaf kept other otherKept below
    · -- A leaf above a new one is above the divided leaf, or is the new one.
      rcases List.suffix_cons_iff.mp below with same | above
      · exact same
      · exact absurd (cover.prefixFree leaf kept node member above) leafOther
    · have above : node <:+ other := (List.suffix_cons bit node).trans below
      exact absurd (cover.prefixFree node member other otherKept above).symm otherOther
    · exact below.eq_of_length rfl

/-! ## Merging -/

/-- The leaves after two siblings collapse into their parent. -/
def merged (leaves : Set (List Bool)) (node : List Bool) : Set (List Bool) :=
  {leaf | leaf = node ∨ leaf ∈ leaves ∧ ∀ bit, leaf ≠ bit :: node}

theorem mem_merged {node leaf : List Bool} :
    leaf ∈ merged leaves node ↔ leaf = node ∨ leaf ∈ leaves ∧ ∀ bit, leaf ≠ bit :: node :=
  Iff.rfl

theorem merge (cover : PrefixCover depth leaves) {node : List Bool}
    (siblings : ∀ bit, bit :: node ∈ leaves) : PrefixCover depth (merged leaves node) where
  bounded := by
    rintro leaf (rfl | ⟨kept, _⟩)
    · exact (Nat.lt_of_succ_le (cover.bounded _ (siblings true))).le
    · exact cover.bounded leaf kept
  covers := by
    intro path full
    rcases cover.covers path full with ⟨leaf, kept, left⟩
    by_cases sibling : ∃ bit, leaf = bit :: node
    · rcases sibling with ⟨bit, rfl⟩
      exact ⟨node, .inl rfl, (List.suffix_cons bit node).trans left⟩
    · exact ⟨leaf, .inr ⟨kept, fun bit same => sibling ⟨bit, same⟩⟩, left⟩
  prefixFree := by
    rintro leaf (rfl | ⟨kept, notSibling⟩) other (rfl | ⟨otherKept, otherNotSibling⟩) below
    · rfl
    · -- A leaf below the parent is below one of the siblings.
      by_cases same : leaf = other
      · exact same
      · rcases cons_suffix below same with ⟨bit, suffix⟩
        have equal := cover.prefixFree _ (siblings bit) other otherKept suffix
        exact absurd equal.symm (otherNotSibling bit)
    · have above : leaf <:+ true :: other := below.trans (List.suffix_cons true other)
      exact absurd (cover.prefixFree leaf kept _ (siblings true) above) (notSibling true)
    · exact cover.prefixFree leaf kept other otherKept below

end PrefixCover

end Agtp
