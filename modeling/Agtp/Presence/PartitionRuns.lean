import Agtp.Presence.PartitionLaws

/-! # Runs of a partition manager

Over any sequence of members that join and leave, a manager keeps its scope partitioned
exactly if never more members than a leaf may hold have all their bits in common. -/

namespace Agtp

namespace PartitionManager

open Distance

section Runs

variable [TextCase] [HexText]

/-! ## Calls -/

inductive Call where
  | add (agentId : String)
  | remove (agentId : String)

def Call.agentId : Call → String
  | add agentId => agentId
  | remove agentId => agentId

def Call.population (added : Finset String) : Call → Finset String
  | add agentId => insert agentId added
  | remove agentId => added.erase agentId

def perform (manager : PartitionManager) : Call → PartitionManager × Option Raised
  | .add agentId => manager.addMember agentId
  | .remove agentId => manager.removeMember agentId

structure Partitioned [Digest] (manager : PartitionManager) (added : Finset String) : Prop where
  cover : PrefixCover idBits (prefixes manager.leaves)
  placed : ∀ node ∈ prefixes manager.leaves, manager.members node = added.filter (Under node)
  alone : ∀ agentId ∈ added,
    ∃! node, node ∈ prefixes manager.leaves ∧ agentId ∈ manager.members node
  small : ∀ node ∈ prefixes manager.leaves,
    (manager.members node).card ≤ manager.splitThreshold
  crowded : ∀ parent, (∀ next, next :: parent ∈ prefixes manager.leaves) →
    manager.mergeThreshold ≤
      ((manager.members (false :: parent)).card + (manager.members (true :: parent)).card : Int)
  apart : (manager.leafScopeKeys.map Prod.snd).Nodup

def StaysPartitioned [Digest] : List Call → PartitionManager → Finset String → Prop
  | [], manager, added => manager.Partitioned added
  | call :: rest, manager, added =>
      manager.Partitioned added ∧ (manager.perform call).2 = none ∧
        StaysPartitioned rest (manager.perform call).1 (call.population added)

/-- No call of a sequence adds a member whose bits more members have than a leaf may
hold. -/
def Spread (threshold : ℕ+) : List Call → Finset String → Prop
  | [], _ => True
  | .add agentId :: rest, added =>
      (alike (insert agentId added) agentId).card ≤ threshold ∧
        Spread threshold rest (insert agentId added)
  | .remove agentId :: rest, added => Spread threshold rest (added.erase agentId)

/-! ## Invariant -/

variable [Digest] {manager : PartitionManager} {added : Finset String}

omit [HexText] [TextCase] [Digest] in
theorem members_of_get? {node : List Bool} {kept : Finset String}
    (held : manager.leaves.get? node = some kept) : manager.members node = kept := by
  rw [members, held, Option.getD_some]

theorem partitioned_of_parted (injective : Function.Injective Digest.sha256)
    (parted : Parted manager.mergeThreshold added manager.leaves)
    (small : Small manager.splitThreshold manager.leaves) : manager.Partitioned added where
  cover := parted.cover
  placed := by
    intro node there
    rcases Option.isSome_iff_exists.mp there with ⟨kept, held⟩
    rw [members_of_get? held]
    exact parted.placed node kept held
  alone := by
    intro agentId member
    rcases parted.existsUnique member with ⟨leaf, ⟨kept, held, inside⟩, only⟩
    refine ⟨leaf, ⟨Option.isSome_of_eq_some held, ?_⟩, ?_⟩
    · rwa [members_of_get? held]
    · rintro other ⟨there, within⟩
      rcases Option.isSome_iff_exists.mp there with ⟨others, otherHeld⟩
      rw [members_of_get? otherHeld] at within
      exact only other ⟨others, otherHeld, within⟩
  small := by
    intro node there
    rcases Option.isSome_iff_exists.mp there with ⟨kept, held⟩
    rw [members_of_get? held]
    exact small node kept held
  crowded := by
    intro parent pair
    rcases Option.isSome_iff_exists.mp (pair false) with ⟨zeros, left⟩
    rcases Option.isSome_iff_exists.mp (pair true) with ⟨ones, right⟩
    rw [members_of_get? left, members_of_get? right]
    exact parted.crowded parent zeros ones left right
  apart := by
    have keys : manager.leafScopeKeys.map Prod.snd = manager.leaves.keys.map manager.scopeKey := by
      rw [leafScopeKeys, List.map_map]
      rfl
    rw [keys]
    exact manager.leaves.nodup.map (manager.scopeKey_injective injective)

omit [Digest] in
theorem parted_of_created {baseScope : String} {threshold : ℕ+} {mergeThreshold : Int}
    (created : create baseScope threshold mergeThreshold = .ok manager) :
    manager.splitThreshold = threshold ∧ Parted manager.mergeThreshold ∅ manager.leaves ∧
      Small manager.splitThreshold manager.leaves := by
  rw [create] at created
  split at created
  · next mergesBelow =>
      cases created
      have root (node : List Bool) (kept : Finset String)
          (held : (Dict.set Dict.empty [] ∅ : Leaves).get? node = some kept) :
          node = [] ∧ kept = ∅ := by
        by_cases same : node = []
        · rw [same, Dict.get?_set_same] at held
          exact ⟨same, (Option.some.inj held).symm⟩
        · rw [Dict.get?_set_other _ same] at held
          cases held
      refine ⟨rfl, ⟨?_, ?_, ?_⟩, ?_⟩
      · have alone : prefixes (Dict.set Dict.empty [] ∅ : Leaves) = {[]} := by
          ext node
          rw [mem_prefixes, Set.mem_singleton_iff]
          constructor
          · intro there
            rcases Option.isSome_iff_exists.mp there with ⟨kept, held⟩
            exact (root node kept held).1
          · intro same
            rw [same, Dict.get?_set_same]
            rfl
        rw [alone]
        exact .root idBits
      · intro node kept held
        rw [(root node kept held).2, Finset.filter_empty]
      · intro parent zeros ones left _
        cases (root _ zeros left).1
      · intro node kept held
        rw [(root node kept held).2]
        exact Nat.zero_le _
  · cases created

/-! ## Runs -/

theorem staysPartitioned_iff_of_parted (injective : Function.Injective Digest.sha256)
    {calls : List Call} (ids : ∀ call ∈ calls, IsId call.agentId)
    (before : ∀ agentId ∈ added, IsId agentId)
    (parted : Parted manager.mergeThreshold added manager.leaves)
    (small : Small manager.splitThreshold manager.leaves) :
    StaysPartitioned calls manager added ↔ Spread manager.splitThreshold calls added := by
  induction calls generalizing manager added with
  | nil => exact iff_of_true (partitioned_of_parted injective parted small) trivial
  | cons call rest induction =>
      have now := partitioned_of_parted injective parted small
      have others : ∀ other ∈ rest, IsId other.agentId := fun other member =>
        ids other (List.mem_cons_of_mem call member)
      cases call with
      | add agentId =>
          have own := ids _ List.mem_cons_self
          rw [Call.agentId] at own
          have later : ∀ other ∈ insert agentId added, IsId other := by
            intro other member
            rcases Finset.mem_insert.mp member with rfl | old
            · exact own
            · exact before other old
          have ends := addMember_ends_iff later parted small
          rcases addMember_spec later parted small with ⟨leaves, raised, done, kept, ended, _⟩
          rw [StaysPartitioned, Spread, perform, Call.population, ends, and_iff_right now]
          apply and_congr_right
          intro spread
          have noError := ends.mpr spread
          rw [done] at noError ⊢
          exact induction others later kept (ended noError)
      | remove agentId =>
          have own := ids _ List.mem_cons_self
          rw [Call.agentId] at own
          rcases removeMember_spec own parted small with ⟨leaves, done, kept, fits⟩
          rw [StaysPartitioned, Spread, perform, Call.population, and_iff_right now, done,
            and_iff_right rfl]
          apply induction others _ kept fits
          intro other member
          exact before other (Finset.mem_of_mem_erase member)

/-- A new manager keeps its scope partitioned exactly if never more members than a leaf
may hold have all their bits in common. -/
theorem staysPartitioned_iff (injective : Function.Injective Digest.sha256)
    {baseScope : String} {threshold : ℕ+} {mergeThreshold : Int}
    (created : create baseScope threshold mergeThreshold = .ok manager) {calls : List Call}
    (ids : ∀ call ∈ calls, IsId call.agentId) :
    StaysPartitioned calls manager ∅ ↔ Spread threshold calls ∅ := by
  rcases parted_of_created created with ⟨same, parted, small⟩
  rw [← same]
  exact staysPartitioned_iff_of_parted injective ids nofun parted small

end Runs

/-! ## Samples -/

end PartitionManager

namespace PartitionSamples

open PartitionManager Distance
open scoped Plain

scoped instance : Digest where
  sha256 bytes := String.ofList (bytes.map fun byte => Char.ofNat byte.toNat)

theorem sha256_injective : Function.Injective Digest.sha256 := by
  intro left right same
  have texts := congrArg String.toList same
  simp only [Digest.sha256, String.toList_ofList] at texts
  apply List.map_injective_iff.mpr _ texts
  intro first second equal
  have numbers := congrArg Char.toNat equal
  have small (byte : UInt8) : (Char.ofNat byte.toNat).toNat = byte.toNat := by
    have bound := byte.toNat_lt
    rw [Char.ofNat, dif_pos (.inl (by omega))]
    rfl
  rw [small, small] at numbers
  exact UInt8.toNat_inj.mp numbers

def zero : String := "0000000000000000000000000000000000000000000000000000000000000000"

def eight : String := "8000000000000000000000000000000000000000000000000000000000000000"

def zeroAgain : String := " 0000000000000000000000000000000000000000000000000000000000000000"

theorem toInt_zero : toInt zero = .ok 0 := by decide +kernel

theorem toInt_eight : toInt eight = .ok (2 ^ 255) := by decide +kernel

theorem toInt_zeroAgain : toInt zeroAgain = .ok 0 := by decide +kernel

def manager : PartitionManager := ⟨"settle", 1, 0, by decide, Dict.empty.set [] ∅⟩

theorem created : create "settle" 1 0 = .ok manager := rfl

theorem path_zeroAgain : path zeroAgain idBits = path zero idBits := by
  have same : value zeroAgain = value zero := by rw [value, value, toInt_zero, toInt_zeroAgain]
  have paths (depth : Nat) : path zeroAgain depth = path zero depth := by
    induction depth with
    | zero => rfl
    | succ depth induction => rw [path, path, same, induction]
  exact paths idBits

theorem path_eight : path eight idBits ≠ path zero idBits := by
  intro same
  have left : path eight 1 <:+ path eight idBits := path_suffix eight (by decide)
  have right : path zero 1 <:+ path zero idBits := path_suffix zero (by decide)
  rw [same] at left
  have lengths : (path eight 1).length = (path zero 1).length := by
    rw [length_path, length_path]
  have first := (List.suffix_of_suffix_length_le left right lengths.le).eq_of_length lengths
  simp only [path, value, toInt_zero, toInt_eight] at first
  exact absurd first (by decide +kernel)

theorem card_alike_alone (agentId : String) : (alike (insert agentId ∅) agentId).card ≤ 1 := by
  rw [alike, insert_empty_eq]
  exact (Finset.card_filter_le _ _).trans (Finset.card_singleton agentId).le

/-- A manager of leaves for one member splits for two ids that differ. -/
theorem distinct_ids_stay_partitioned :
    StaysPartitioned [.add zero, .add eight, .remove zero] manager ∅ := by
  apply (staysPartitioned_iff sha256_injective created _).mpr
  · simp only [Spread, and_true]
    constructor
    · exact card_alike_alone zero
    · rw [alike, insert_empty_eq, Finset.filter_insert, if_pos rfl, Finset.filter_singleton,
        if_neg path_eight.symm, insert_empty_eq, Finset.card_singleton]
      exact le_rfl
  · intro call member
    rcases List.mem_cons.mp member with rfl | later
    · exact ⟨_, toInt_zero⟩
    · rcases List.mem_cons.mp later with rfl | last
      · exact ⟨_, toInt_eight⟩
      · rw [List.mem_singleton.mp last]
        exact ⟨_, toInt_zero⟩

/-- The same number written twice splits the leaf until there is no bit left. -/
theorem same_number_raises :
    ((manager.perform (.add zero)).1.perform (.add zeroAgain)).2 ≠ none := by
  rcases parted_of_created created with ⟨_, parted, small⟩
  have first : ∀ other ∈ insert zero (∅ : Finset String), IsId other := by
    intro other member
    rw [Finset.mem_singleton.mp member]
    exact ⟨_, toInt_zero⟩
  have both : ∀ other ∈ insert zeroAgain (insert zero (∅ : Finset String)), IsId other := by
    intro other member
    rcases Finset.mem_insert.mp member with rfl | old
    · exact ⟨_, toInt_zeroAgain⟩
    · exact first other old
  rcases addMember_spec first parted small with ⟨leaves, raised, done, later, ended, _⟩
  have noError : raised = none := by
    have ends := (addMember_ends_iff first parted small).mpr
      (card_alike_alone zero)
    rwa [done] at ends
  rw [perform, perform, done]
  intro ends
  have next : (addMember { manager with leaves } zeroAgain).2 = none ↔
      (alike (insert zeroAgain (insert zero ∅)) zeroAgain).card ≤ 1 :=
    addMember_ends_iff both later (ended noError)
  have two : alike (insert zeroAgain (insert zero ∅)) zeroAgain = {zeroAgain, zero} := by
    rw [alike, Finset.filter_insert, if_pos rfl, insert_empty_eq, Finset.filter_singleton,
      if_pos path_zeroAgain.symm]
  have different : zeroAgain ≠ zero := by decide +kernel
  have fits := next.mp ends
  rw [two, Finset.card_pair different] at fits
  exact absurd fits (by decide)


end PartitionSamples

namespace PartitionManager

end PartitionManager

end Agtp
