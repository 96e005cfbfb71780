import Agtp.Dht.Distance
import Agtp.Foundation.Fallible
import Agtp.Foundation.PrefixCover
import Agtp.Presence.Scopes
import Mathlib.Data.Finset.Card
import Mathlib.Data.PNat.Defs

/-! # Partitions of a scope

The population of a scope is kept in leaves, one for each prefix of a cover of the id space. -/

namespace Agtp

abbrev Leaves := Dict (List Bool) (Finset String)

/-- `PartitionManager`, of a positive threshold for splitting. -/
structure PartitionManager where
  baseScope : String
  splitThreshold : ℕ+
  mergeThreshold : Int
  mergesBelow : mergeThreshold < splitThreshold
  leaves : Leaves

namespace PartitionManager

def create (baseScope : String) (splitThreshold : ℕ+) (mergeThreshold : Int) :
    Except Raised PartitionManager :=
  if mergesBelow : mergeThreshold < splitThreshold then
    .ok ⟨baseScope, splitThreshold, mergeThreshold, mergesBelow, Dict.empty.set [] ∅⟩
  else .error .valueError

section Placement

variable [TextCase] [HexText]

/-! ## Placement -/

def bitAt (value : Int) (depth : Nat) : Bool :=
  value >>> (255 - depth) % 2 = 1

def bit (agentId : String) (depth : Nat) : Except Raised Bool :=
  match Distance.toInt agentId with
  | .error _ => .error .valueError
  | .ok value => if depth < Distance.idBits then .ok (bitAt value depth) else .error .valueError

theorem depth_of_bit {agentId : String} {depth : Nat} {next : Bool}
    (read : bit agentId depth = .ok next) : depth < Distance.idBits := by
  by_contra deep
  rw [bit] at read
  cases parsed : Distance.toInt agentId with
  | error failure =>
      rw [parsed] at read
      cases read
  | ok value =>
      rw [parsed] at read
      dsimp only at read
      rw [if_neg deep] at read
      cases read

/-- The loop of `_leaf_for`, at a node of the trie. -/
def leafFrom (leaves : Leaves) (agentId : String) (node : List Bool) :
    Except Raised (List Bool) :=
  if (leaves.get? node).isSome then .ok node
  else
    match _read : bit agentId node.length with
    | .error raised => .error raised
    | .ok next => leafFrom leaves agentId (next :: node)
termination_by Distance.idBits - node.length
decreasing_by
  have shallow := depth_of_bit _read
  simp only [List.length_cons]
  omega

def leafFor (leaves : Leaves) (agentId : String) : Except Raised (List Bool) :=
  leafFrom leaves agentId []

/-! ## Splitting -/

def half (members : Finset String) (depth : Nat) (next : Bool) : Finset String :=
  members.filter fun member => Fallible.holds (bit member depth) = next

def divideLeaf (leaves : Leaves) (node : List Bool) (members : Finset String) : Leaves :=
  ((leaves.erase node).set (false :: node) (half members node.length false)).set
    (true :: node) (half members node.length true)

def split (threshold : ℕ+) (leaves : Leaves) (node : List Bool) (members : Finset String) :
    Leaves × Option Raised :=
  if _reads : ∀ member ∈ members, Fallible.Succeeds (bit member node.length) then
    let zeros := half members node.length false
    let ones := half members node.length true
    let divided := divideLeaf leaves node members
    let left :=
      if _over : threshold < zeros.card then split threshold divided (false :: node) zeros
      else (divided, none)
    match left with
    | (leaves, some raised) => (leaves, some raised)
    | (leaves, none) =>
        if _over : threshold < ones.card then split threshold leaves (true :: node) ones
        else (leaves, none)
  else (leaves, some .valueError)
termination_by Distance.idBits - node.length
decreasing_by
  all_goals
    rcases Finset.card_pos.mp (threshold.pos.trans _over) with ⟨member, inside⟩
    rcases _reads member (Finset.mem_filter.mp inside).1 with ⟨next, read⟩
    have shallow := depth_of_bit read
    simp only [List.length_cons]
    omega

/-! ## Merging -/

def mergeLeaves (leaves : Leaves) (last : Bool) (parent : List Bool)
    (members : Finset String) : Leaves :=
  ((leaves.erase (last :: parent)).erase ((!last) :: parent)).set parent members

def maybeMerge (threshold : Int) : List Bool → Leaves → Leaves
  | [], leaves => leaves
  | last :: parent, leaves =>
      match leaves.get? (last :: parent), leaves.get? ((!last) :: parent) with
      | some own, some other =>
          if (own.card + other.card : Int) < threshold then
            maybeMerge threshold parent (mergeLeaves leaves last parent (own ∪ other))
          else leaves
      | _, _ => leaves

/-! ## Calls -/

def addMember (manager : PartitionManager) (agentId : String) :
    PartitionManager × Option Raised :=
  match leafFor manager.leaves agentId with
  | .error raised => (manager, some raised)
  | .ok node =>
      let members := insert agentId ((manager.leaves.get? node).getD ∅)
      let leaves := manager.leaves.set node members
      if manager.splitThreshold < members.card then
        let done := split manager.splitThreshold leaves node members
        ({ manager with leaves := done.1 }, done.2)
      else ({ manager with leaves }, none)

def removeMember (manager : PartitionManager) (agentId : String) :
    PartitionManager × Option Raised :=
  match leafFor manager.leaves agentId with
  | .error raised => (manager, some raised)
  | .ok node =>
      let members := ((manager.leaves.get? node).getD ∅).erase agentId
      ({ manager with
          leaves := maybeMerge manager.mergeThreshold node (manager.leaves.set node members) },
        none)

end Placement

/-! ## Views -/

def digits (node : List Bool) : String :=
  String.ofList (node.reverse.map fun digit => if digit then '1' else '0')

def scopeKey [Digest] (manager : PartitionManager) (node : List Bool) : String :=
  Scopes.overlayId
    (if node = [] then manager.baseScope else manager.baseScope ++ "#" ++ digits node)

def leafScopeKeys [Digest] (manager : PartitionManager) : List (List Bool × String) :=
  manager.leaves.keys.map fun node => (node, manager.scopeKey node)

def members (manager : PartitionManager) (node : List Bool) : Finset String :=
  (manager.leaves.get? node).getD ∅

end PartitionManager

end Agtp
