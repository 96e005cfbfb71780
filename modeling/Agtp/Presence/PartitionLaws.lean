import Agtp.Presence.Partition

/-! # What the leaves of a partition hold

In a parted trie the leaves are a cover of the id space, and each holds the members whose bits
start with its prefix. -/

namespace Agtp

namespace PartitionManager

open Distance

section Laws

variable [TextCase] [HexText]

/-! ## Paths -/

def IsId (agentId : String) : Prop :=
  Fallible.Succeeds (toInt agentId)

def value (agentId : String) : Int :=
  match toInt agentId with
  | .ok number => number
  | .error _ => 0

def path (agentId : String) : Nat → List Bool
  | 0 => []
  | depth + 1 => bitAt (value agentId) depth :: path agentId depth

def Under (node : List Bool) (agentId : String) : Prop :=
  node <:+ path agentId idBits

instance (node : List Bool) (agentId : String) : Decidable (Under node agentId) :=
  inferInstanceAs (Decidable (_ <:+ _))

@[simp] theorem length_path (agentId : String) (depth : Nat) :
    (path agentId depth).length = depth := by
  induction depth with
  | zero => rfl
  | succ depth induction => rw [path, List.length_cons, induction]

theorem path_suffix (agentId : String) {depth deeper : Nat} (below : depth ≤ deeper) :
    path agentId depth <:+ path agentId deeper := by
  induction below with
  | refl => exact List.suffix_rfl
  | step _ induction => exact induction.trans (List.suffix_cons _ _)

theorem under_iff {node : List Bool} {agentId : String} :
    Under node agentId ↔ node.length ≤ idBits ∧ node = path agentId node.length := by
  constructor
  · intro under
    have short := under.length_le
    rw [length_path] at short
    refine ⟨short, ?_⟩
    have prefixed := List.suffix_of_suffix_length_le under (path_suffix agentId short)
      (by rw [length_path])
    exact prefixed.eq_of_length (length_path agentId node.length).symm
  · rintro ⟨short, same⟩
    rw [Under, same]
    exact path_suffix agentId short

theorem under_cons_iff {node : List Bool} {next : Bool} {agentId : String} :
    Under (next :: node) agentId ↔
      Under node agentId ∧ node.length < idBits ∧
        bitAt (value agentId) node.length = next := by
  rw [under_iff, under_iff, List.length_cons, path, List.cons.injEq]
  constructor
  · rintro ⟨short, last, first⟩
    exact ⟨⟨Nat.le_of_succ_le short, first⟩, short, last.symm⟩
  · rintro ⟨⟨_, first⟩, short, last⟩
    exact ⟨short, last.symm, first⟩

theorem bit_of_isId {agentId : String} (isId : IsId agentId) {depth : Nat}
    (shallow : depth < idBits) : bit agentId depth = .ok (bitAt (value agentId) depth) := by
  rcases isId with ⟨number, parsed⟩
  rw [bit, value, parsed]
  exact if_pos shallow

/-! ## Placement -/

def prefixes (leaves : Leaves) : Set (List Bool) :=
  {node | (leaves.get? node).isSome}

omit [HexText] [TextCase] in
theorem mem_prefixes {leaves : Leaves} {node : List Bool} :
    node ∈ prefixes leaves ↔ (leaves.get? node).isSome := Iff.rfl

theorem leafFrom_eq {leaves : Leaves} (cover : PrefixCover idBits (prefixes leaves))
    {agentId : String} (isId : IsId agentId) {leaf : List Bool} (there : leaf ∈ prefixes leaves)
    (leafUnder : Under leaf agentId) {node : List Bool} (above : node <:+ leaf) :
    leafFrom leaves agentId node = .ok leaf := by
  induction gap : leaf.length - node.length generalizing node with
  | zero =>
      have same := above.eq_of_length (Nat.le_antisymm above.length_le (by omega))
      rw [leafFrom, same]
      exact if_pos there
  | succ gap induction =>
      have shorter : node ≠ leaf := by
        intro same
        rw [same, Nat.sub_self] at gap
        cases gap
      have notLeaf : ¬(leaves.get? node).isSome := by
        intro found
        exact shorter (cover.prefixFree node found leaf there above)
      rcases PrefixCover.cons_suffix above shorter with ⟨next, below⟩
      have deeper := under_cons_iff.mp (below.trans leafUnder)
      rw [leafFrom, if_neg notLeaf]
      have read := bit_of_isId isId deeper.2.1
      rw [deeper.2.2] at read
      have down := induction below (by rw [List.length_cons]; omega)
      split
      · next raised failed => cases read.symm.trans failed
      · next other same =>
          cases read.symm.trans same
          exact down

/-! ## Parted tries -/

/-- The leaves cover the id space, each holds the members under its prefix, and no two
siblings are nearly empty. -/
structure Parted (mergeThreshold : Int) (added : Finset String) (leaves : Leaves) : Prop where
  cover : PrefixCover idBits (prefixes leaves)
  placed : ∀ node members, leaves.get? node = some members →
    members = added.filter (Under node)
  crowded : ∀ parent zeros ones, leaves.get? (false :: parent) = some zeros →
    leaves.get? (true :: parent) = some ones →
    mergeThreshold ≤ (zeros.card + ones.card : Int)

variable {mergeThreshold : Int} {added : Finset String} {leaves : Leaves}

theorem Parted.existsUnique (parted : Parted mergeThreshold added leaves) {agentId : String}
    (member : agentId ∈ added) :
    ∃! node, ∃ members, leaves.get? node = some members ∧ agentId ∈ members := by
  rcases parted.cover.existsUnique (length_path agentId idBits) with
    ⟨leaf, ⟨there, under⟩, alone⟩
  rcases Option.isSome_iff_exists.mp there with ⟨members, held⟩
  refine ⟨leaf, ⟨members, held, ?_⟩, ?_⟩
  · rw [parted.placed leaf members held]
    exact Finset.mem_filter.mpr ⟨member, under⟩
  · rintro other ⟨others, otherHeld, inside⟩
    rw [parted.placed other others otherHeld] at inside
    exact alone other ⟨Option.isSome_of_eq_some otherHeld, (Finset.mem_filter.mp inside).2⟩

/-! ## Splitting -/

omit [HexText] [TextCase] in
theorem prefixes_congr {later : Leaves}
    (same : ∀ node, (later.get? node).isSome = (leaves.get? node).isSome) :
    prefixes later = prefixes leaves := by
  ext node
  rw [mem_prefixes, mem_prefixes, same]

section Divide

variable {node : List Bool} {members : Finset String}

theorem get?_divideLeaf_child (next : Bool) :
    (divideLeaf leaves node members).get? (next :: node) =
      some (half members node.length next) := by
  cases next with
  | false =>
      have siblings : false :: node ≠ true :: node := by simp
      rw [divideLeaf, Dict.get?_set_other _ siblings, Dict.get?_set_same]
  | true => rw [divideLeaf, Dict.get?_set_same]

theorem get?_divideLeaf_other {other : List Bool} (notChild : ∀ next, other ≠ next :: node) :
    (divideLeaf leaves node members).get? other =
      if other = node then none else leaves.get? other := by
  rw [divideLeaf, Dict.get?_set_other _ (notChild true), Dict.get?_set_other _ (notChild false)]
  split
  · next same => rw [same, Dict.get?_erase_same]
  · next different => rw [Dict.get?_erase_other _ different]

omit [HexText] [TextCase] in
theorem not_suffix_child {other : List Bool} (notBelow : ¬node <:+ other) (next : Bool) :
    ¬next :: node <:+ other := by
  intro below
  exact notBelow ((List.suffix_cons next node).trans below)

theorem get?_divideLeaf_elsewhere {other : List Bool} (notBelow : ¬node <:+ other) :
    (divideLeaf leaves node members).get? other = leaves.get? other := by
  rw [get?_divideLeaf_other, if_neg]
  · rintro rfl
    exact notBelow List.suffix_rfl
  · rintro next rfl
    exact notBelow (List.suffix_cons next node)

theorem prefixes_divideLeaf :
    prefixes (divideLeaf leaves node members) =
      PrefixCover.divided (prefixes leaves) node := by
  ext leaf
  rw [mem_prefixes, PrefixCover.mem_divided]
  by_cases child : ∃ next, leaf = next :: node
  · rcases child with ⟨next, rfl⟩
    rw [get?_divideLeaf_child]
    exact iff_of_true rfl (.inr ⟨next, rfl⟩)
  · rw [get?_divideLeaf_other fun next same => child ⟨next, same⟩]
    by_cases same : leaf = node <;> simp [same, child, mem_prefixes]

theorem half_filter (ids : ∀ agentId ∈ added, IsId agentId) (shallow : node.length < idBits)
    (next : Bool) :
    half (added.filter (Under node)) node.length next = added.filter (Under (next :: node)) := by
  ext agentId
  rw [half, Finset.mem_filter, Finset.mem_filter, Finset.mem_filter, under_cons_iff, and_assoc]
  refine and_congr_right fun member => and_congr_right fun _ => ?_
  rw [bit_of_isId (ids agentId member) shallow]
  exact (and_iff_right shallow).symm

theorem card_halves (depth : Nat) :
    (half members depth false).card + (half members depth true).card = members.card := by
  have both := Finset.card_filter_add_card_filter_not (s := members)
    (fun member => Fallible.holds (bit member depth) = false)
  simpa only [half, Bool.not_eq_false] using both

theorem Parted.divide (parted : Parted mergeThreshold added leaves)
    (ids : ∀ agentId ∈ added, IsId agentId) (held : leaves.get? node = some members)
    (full : mergeThreshold ≤ members.card) (shallow : node.length < idBits) :
    Parted mergeThreshold added (divideLeaf leaves node members) where
  cover := by
    rw [prefixes_divideLeaf]
    exact parted.cover.divide (Option.isSome_of_eq_some held) shallow
  placed := by
    intro leaf kept found
    by_cases child : ∃ next, leaf = next :: node
    · rcases child with ⟨next, rfl⟩
      rw [get?_divideLeaf_child, parted.placed node members held] at found
      rw [← half_filter ids shallow]
      exact (Option.some.inj found).symm
    · rw [get?_divideLeaf_other fun next same => child ⟨next, same⟩] at found
      split at found
      · cases found
      · exact parted.placed leaf kept found
  crowded := by
    intro parent zeros ones left right
    by_cases same : parent = node
    · subst same
      rw [get?_divideLeaf_child] at left right
      cases left
      cases right
      have sum := @card_halves _ _ members parent.length
      omega
    · -- The divided leaf is a leaf no more, and so has no sibling.
      have notChild (digit next : Bool) : digit :: parent ≠ next :: node := by
        intro equal
        exact same (List.cons.inj equal).2
      rw [get?_divideLeaf_other (notChild false)] at left
      rw [get?_divideLeaf_other (notChild true)] at right
      split at left
      · cases left
      · split at right
        · cases right
        · exact parted.crowded parent zeros ones left right

end Divide

/-- What a call of `_split` at a node leaves behind: the trie is parted, unchanged
elsewhere, and has no large leaf below the node, unless one is as deep as the ids are
long. -/
structure Settled (threshold : ℕ+) (mergeThreshold : Int) (added : Finset String)
    (leaves : Leaves) (node : List Bool) (done : Leaves × Option Raised) : Prop where
  parted : Parted mergeThreshold added done.1
  elsewhere : ∀ other, ¬node <:+ other → done.1.get? other = leaves.get? other
  small : done.2 = none → ∀ leaf members, node <:+ leaf →
    done.1.get? leaf = some members → members.card ≤ threshold
  deep : done.2 ≠ none → ∃ leaf members, leaf.length = idBits ∧
    done.1.get? leaf = some members ∧ threshold < members.card

section Split

variable {threshold : ℕ+} {node : List Bool} {members : Finset String}

theorem settled_of_small (parted : Parted mergeThreshold added leaves)
    (held : leaves.get? node = some members) (small : ¬threshold < members.card) :
    Settled threshold mergeThreshold added leaves node (leaves, none) where
  parted := parted
  elsewhere := fun _ _ => rfl
  small := by
    intro _ leaf kept below found
    have same := parted.cover.prefixFree node (Option.isSome_of_eq_some held) leaf
      (Option.isSome_of_eq_some found) below
    rw [← same, held] at found
    cases found
    exact not_lt.mp small
  deep := fun raised => absurd rfl raised

omit [HexText] [TextCase] in
theorem not_suffix_sibling (next : Bool) : ¬next :: node <:+ (!next) :: node := by
  intro below
  have same := below.eq_of_length rfl
  cases next <;> cases same

theorem Settled.both {left right : Leaves × Option Raised}
    (first : Settled threshold mergeThreshold added (divideLeaf leaves node members)
      (false :: node) left)
    (ended : left.2 = none)
    (second : Settled threshold mergeThreshold added left.1 (true :: node) right) :
    Settled threshold mergeThreshold added leaves node right where
  parted := second.parted
  elsewhere := by
    intro other notBelow
    rw [second.elsewhere other (not_suffix_child notBelow true),
      first.elsewhere other (not_suffix_child notBelow false),
      get?_divideLeaf_elsewhere notBelow]
  small := by
    intro noError leaf kept below found
    by_cases same : node = leaf
    · have notUnder (next : Bool) : ¬next :: node <:+ node := by
        intro deeper
        exact absurd deeper.length_le (by simp)
      rw [← same, second.elsewhere node (notUnder true), first.elsewhere node (notUnder false),
        get?_divideLeaf_other fun next equal => List.cons_ne_self next node equal.symm,
        if_pos rfl] at found
      cases found
    · rcases PrefixCover.cons_suffix below same with ⟨next, deeper⟩
      cases next with
      | true => exact second.small noError leaf kept deeper found
      | false =>
          have notRight : ¬true :: node <:+ leaf := by
            intro other
            have equal := List.suffix_of_suffix_length_le deeper other le_rfl
            exact not_suffix_sibling false equal
          rw [second.elsewhere leaf notRight] at found
          exact first.small ended leaf kept deeper found
  deep := second.deep

theorem Settled.failed {left : Leaves × Option Raised}
    (first : Settled threshold mergeThreshold added (divideLeaf leaves node members)
      (false :: node) left)
    (raised : left.2 ≠ none) : Settled threshold mergeThreshold added leaves node left where
  parted := first.parted
  elsewhere := by
    intro other notBelow
    rw [first.elsewhere other (not_suffix_child notBelow false),
      get?_divideLeaf_elsewhere notBelow]
  small := fun ended => absurd ended raised
  deep := first.deep

theorem settled_of_deep (parted : Parted mergeThreshold added leaves)
    (held : leaves.get? node = some members) (crowded : threshold < members.card)
    (deep : node.length = idBits) :
    Settled threshold mergeThreshold added leaves node
      (split threshold leaves node members) := by
  have notRead : ¬∀ member ∈ members, Fallible.Succeeds (bit member node.length) := by
    intro reads
    rcases Finset.card_pos.mp (threshold.pos.trans crowded) with ⟨member, inside⟩
    rcases reads member inside with ⟨next, read⟩
    exact (depth_of_bit read).ne deep
  rw [split, dif_neg notRead]
  exact ⟨parted, fun _ _ => rfl, nofun, fun _ => ⟨node, members, deep, held, crowded⟩⟩

theorem settled_split (below : mergeThreshold < threshold)
    (ids : ∀ agentId ∈ added, IsId agentId) (parted : Parted mergeThreshold added leaves)
    (held : leaves.get? node = some members) (crowded : threshold < members.card) :
    Settled threshold mergeThreshold added leaves node
      (split threshold leaves node members) := by
  have bounded := parted.cover.bounded node (Option.isSome_of_eq_some held)
  induction gap : idBits - node.length generalizing leaves node members with
  | zero => exact settled_of_deep parted held crowded (by omega)
  | succ gap induction =>
      have shallow : node.length < idBits := by omega
      have reads : ∀ member ∈ members, Fallible.Succeeds (bit member node.length) := by
        intro member inside
        rw [parted.placed node members held] at inside
        exact ⟨_, bit_of_isId (ids member (Finset.mem_filter.mp inside).1) shallow⟩
      have divided := parted.divide ids held (by omega) shallow
      -- A child is split if it is too large, and settled in any case.
      have child (next : Bool) {kept : Finset String} {now : Leaves}
          (nowParted : Parted mergeThreshold added now)
          (there : now.get? (next :: node) = some kept) :
          Settled threshold mergeThreshold added now (next :: node)
            (if threshold < kept.card then split threshold now (next :: node) kept
              else (now, none)) := by
        split
        · next large =>
            exact induction nowParted there large shallow (by rw [List.length_cons]; omega)
        · next small => exact settled_of_small nowParted there small
      have first := child false divided (get?_divideLeaf_child false)
      rw [split, dif_pos reads]
      dsimp only [dite_eq_ite]
      generalize (if threshold < (half members node.length false).card then _ else _ :
        Leaves × Option Raised) = left at first ⊢
      rcases left with ⟨now, _ | raised⟩
      · have there := first.elsewhere _ (not_suffix_sibling false)
        exact first.both rfl (child true first.parted (there.trans (get?_divideLeaf_child true)))
      · exact first.failed nofun

end Split

/-! ## Merging -/

structure NearlyParted (mergeThreshold : Int) (added : Finset String) (leaves : Leaves)
    (node : List Bool) : Prop where
  cover : PrefixCover idBits (prefixes leaves)
  placed : ∀ leaf members, leaves.get? leaf = some members →
    members = added.filter (Under leaf)
  crowded : ∀ parent zeros ones, (∀ next, next :: parent ≠ node) →
    leaves.get? (false :: parent) = some zeros → leaves.get? (true :: parent) = some ones →
    mergeThreshold ≤ (zeros.card + ones.card : Int)

section Merge

variable {last : Bool} {parent : List Bool} {members : Finset String}

omit [HexText] [TextCase] in
@[simp] theorem get?_mergeLeaves_parent :
    (mergeLeaves leaves last parent members).get? parent = some members :=
  Dict.get?_set_same _ _ _

omit [HexText] [TextCase] in
theorem get?_mergeLeaves_child (next : Bool) :
    (mergeLeaves leaves last parent members).get? (next :: parent) = none := by
  rw [mergeLeaves, Dict.get?_set_other _ (List.cons_ne_self next parent)]
  by_cases same : next = last
  · have siblings : last :: parent ≠ (!last) :: parent := by simp
    rw [same, Dict.get?_erase_other _ siblings, Dict.get?_erase_same]
  · rw [Bool.eq_not.mpr same, Dict.get?_erase_same]

omit [HexText] [TextCase] in
theorem get?_mergeLeaves_other {other : List Bool} (different : other ≠ parent)
    (notChild : ∀ next, other ≠ next :: parent) :
    (mergeLeaves leaves last parent members).get? other = leaves.get? other := by
  rw [mergeLeaves, Dict.get?_set_other _ different, Dict.get?_erase_other _ (notChild _),
    Dict.get?_erase_other _ (notChild _)]

omit [HexText] [TextCase] in
theorem prefixes_mergeLeaves :
    prefixes (mergeLeaves leaves last parent members) =
      PrefixCover.merged (prefixes leaves) parent := by
  ext leaf
  rw [mem_prefixes, PrefixCover.mem_merged]
  by_cases same : leaf = parent
  · simp [same]
  · by_cases child : ∃ next, leaf = next :: parent
    · rcases child with ⟨next, rfl⟩
      rw [get?_mergeLeaves_child]
      simp
    · rw [get?_mergeLeaves_other same fun next equal => child ⟨next, equal⟩]
      simp only [same, false_or, mem_prefixes]
      exact (and_iff_left fun next equal => child ⟨next, equal⟩).symm

theorem union_under (shallow : parent.length < idBits) :
    added.filter (Under (last :: parent)) ∪ added.filter (Under ((!last) :: parent)) =
      added.filter (Under parent) := by
  ext agentId
  simp only [Finset.mem_union, Finset.mem_filter, under_cons_iff]
  cases last <;> cases bitAt (value agentId) parent.length <;> simp [shallow]

theorem NearlyParted.merge {own other : Finset String}
    (nearly : NearlyParted mergeThreshold added leaves (last :: parent))
    (held : leaves.get? (last :: parent) = some own)
    (siblingHeld : leaves.get? ((!last) :: parent) = some other) :
    NearlyParted mergeThreshold added (mergeLeaves leaves last parent (own ∪ other))
      parent where
  cover := by
    rw [prefixes_mergeLeaves]
    apply nearly.cover.merge
    intro next
    by_cases same : next = last
    · rw [same]
      exact Option.isSome_of_eq_some held
    · rw [Bool.eq_not.mpr same]
      exact Option.isSome_of_eq_some siblingHeld
  placed := by
    intro leaf kept found
    by_cases same : leaf = parent
    · rw [same, get?_mergeLeaves_parent] at found
      have shallow := nearly.cover.bounded _ (Option.isSome_of_eq_some held)
      rw [← Option.some.inj found, nearly.placed _ own held, nearly.placed _ other siblingHeld,
        same]
      exact union_under shallow
    · by_cases child : ∃ next, leaf = next :: parent
      · rcases child with ⟨next, rfl⟩
        rw [get?_mergeLeaves_child] at found
        cases found
      · rw [get?_mergeLeaves_other same fun next equal => child ⟨next, equal⟩] at found
        exact nearly.placed leaf kept found
  crowded := by
    intro above zeros ones apart left right
    by_cases same : above = parent
    · rw [same, get?_mergeLeaves_child] at left
      cases left
    · have notChild (digit next : Bool) : digit :: above ≠ next :: parent := by
        intro equal
        exact same (List.cons.inj equal).2
      rw [get?_mergeLeaves_other (apart false) (notChild false)] at left
      rw [get?_mergeLeaves_other (apart true) (notChild true)] at right
      exact nearly.crowded above zeros ones (fun next => notChild next last) left right

theorem NearlyParted.parted
    (nearly : NearlyParted mergeThreshold added leaves (last :: parent))
    (pair : ∀ zeros ones, leaves.get? (false :: parent) = some zeros →
      leaves.get? (true :: parent) = some ones →
      mergeThreshold ≤ (zeros.card + ones.card : Int)) :
    Parted mergeThreshold added leaves where
  cover := nearly.cover
  placed := nearly.placed
  crowded := by
    intro above zeros ones left right
    by_cases same : above = parent
    · rw [same] at left right
      exact pair zeros ones left right
    · exact nearly.crowded above zeros ones
        (fun next equal => same (List.cons.inj equal).2) left right

theorem parted_maybeMerge {node : List Bool}
    (nearly : NearlyParted mergeThreshold added leaves node) :
    Parted mergeThreshold added (maybeMerge mergeThreshold node leaves) := by
  induction node generalizing leaves with
  | nil =>
      refine ⟨nearly.cover, nearly.placed, ?_⟩
      intro parent zeros ones
      exact nearly.crowded parent zeros ones fun next => List.cons_ne_nil next parent
  | cons last parent induction =>
      rw [maybeMerge]
      split
      · next own other held siblingHeld =>
          split
          · exact induction (nearly.merge held siblingHeld)
          · next crowded =>
              apply nearly.parted
              intro zeros ones left right
              cases last with
              | false =>
                  cases held.symm.trans left
                  cases siblingHeld.symm.trans right
                  exact not_lt.mp crowded
              | true =>
                  cases held.symm.trans right
                  cases siblingHeld.symm.trans left
                  rw [add_comm]
                  exact not_lt.mp crowded
      · next notBoth =>
          apply nearly.parted
          intro zeros ones left right
          cases last with
          | false => exact absurd right (notBoth zeros ones left)
          | true => exact absurd left (notBoth ones zeros right)

def Small (threshold : ℕ+) (leaves : Leaves) : Prop :=
  ∀ node members, leaves.get? node = some members → members.card ≤ threshold

omit [HexText] [TextCase] in
theorem small_maybeMerge {threshold : ℕ+} (below : mergeThreshold < threshold)
    {node : List Bool} (small : Small threshold leaves) :
    Small threshold (maybeMerge mergeThreshold node leaves) := by
  induction node generalizing leaves with
  | nil => exact small
  | cons last parent induction =>
      rw [maybeMerge]
      split
      · next own other _ _ =>
          split
          · next sparse =>
              apply induction
              intro leaf members found
              by_cases same : leaf = parent
              · rw [same, get?_mergeLeaves_parent] at found
                rw [← Option.some.inj found]
                have union := Finset.card_union_le own other
                omega
              · by_cases child : ∃ next, leaf = next :: parent
                · rcases child with ⟨next, rfl⟩
                  rw [get?_mergeLeaves_child] at found
                  cases found
                · rw [get?_mergeLeaves_other same fun next equal => child ⟨next, equal⟩] at found
                  exact small leaf members found
          · exact small
      · exact small

end Merge

/-! ## Adding and removing -/

def alike (added : Finset String) (agentId : String) : Finset String :=
  added.filter fun other => path other idBits = path agentId idBits

theorem filter_under_path (agentId : String) :
    added.filter (Under (path agentId idBits)) = alike added agentId := by
  apply Finset.filter_congr
  intro other _
  rw [under_iff, length_path]
  exact ⟨fun under => under.2.symm, fun same => ⟨le_rfl, same.symm⟩⟩

theorem Parted.card_le {threshold : ℕ+} (parted : Parted mergeThreshold added leaves)
    (small : Small threshold leaves) {full : List Bool} (long : full.length = idBits) :
    (added.filter (Under full)).card ≤ threshold := by
  rcases parted.cover.covers full long with ⟨leaf, there, above⟩
  rcases Option.isSome_iff_exists.mp there with ⟨members, held⟩
  have fits := small leaf members held
  rw [parted.placed leaf members held] at fits
  apply le_trans (Finset.card_le_card _) fits
  apply Finset.monotone_filter_right
  intro agentId _ under
  exact above.trans under

theorem Parted.exists_leafFor (parted : Parted mergeThreshold added leaves)
    {agentId : String} (isId : IsId agentId) :
    ∃ leaf members, leafFor leaves agentId = .ok leaf ∧ leaves.get? leaf = some members ∧
      Under leaf agentId := by
  rcases parted.cover.covers _ (length_path agentId idBits) with ⟨leaf, there, under⟩
  rcases Option.isSome_iff_exists.mp there with ⟨members, held⟩
  exact ⟨leaf, members, leafFrom_eq parted.cover isId there under List.nil_suffix, held, under⟩

omit [HexText] [TextCase] in
theorem prefixes_set {leaf : List Bool} {members : Finset String}
    (held : leaves.get? leaf = some members) (changed : Finset String) :
    prefixes (leaves.set leaf changed) = prefixes leaves := by
  apply prefixes_congr
  intro node
  by_cases same : node = leaf
  · rw [same, Dict.get?_set_same, held]
    rfl
  · rw [Dict.get?_set_other _ same]

/-- After the members of its leaf are changed as those of the scope are, by an id, each
leaf holds what is under it. -/
theorem Parted.placed_set (parted : Parted mergeThreshold added leaves) {agentId : String}
    {leaf : List Bool} {members : Finset String} (held : leaves.get? leaf = some members)
    (under : Under leaf agentId) {later changed : Finset String}
    (own : changed = later.filter (Under leaf))
    (others : ∀ other, other ≠ agentId → (other ∈ later ↔ other ∈ added)) (node : List Bool)
    (kept : Finset String) (found : (leaves.set leaf changed).get? node = some kept) :
    kept = later.filter (Under node) := by
  by_cases same : node = leaf
  · rw [same, Dict.get?_set_same] at found
    rw [← Option.some.inj found, own, same]
  · rw [Dict.get?_set_other _ same] at found
    rw [parted.placed node kept found]
    ext other
    rw [Finset.mem_filter, Finset.mem_filter, and_congr_left_iff]
    intro below
    by_cases own : other = agentId
    · rw [own] at below
      have equal := parted.cover.eq_of_suffix (Option.isSome_of_eq_some found)
        (Option.isSome_of_eq_some held) below under
      exact absurd equal same
    · exact (others other own).symm

section Calls

variable {manager : PartitionManager} {agentId : String}

theorem Parted.joined (parted : Parted mergeThreshold added leaves) {leaf : List Bool}
    {members : Finset String} (held : leaves.get? leaf = some members)
    (under : Under leaf agentId) :
    Parted mergeThreshold (insert agentId added)
      (leaves.set leaf (insert agentId members)) where
  cover := by
    rw [prefixes_set held]
    exact parted.cover
  placed := by
    apply parted.placed_set held under
    · rw [parted.placed leaf members held, Finset.filter_insert, if_pos under]
    · intro other different
      rw [Finset.mem_insert, or_iff_right different]
  crowded := by
    -- No leaf has fewer members than before.
    have grown (node : List Bool) {kept : Finset String}
        (found : (leaves.set leaf (insert agentId members)).get? node = some kept) :
        ∃ before, leaves.get? node = some before ∧ before.card ≤ kept.card := by
      by_cases same : node = leaf
      · rw [same, Dict.get?_set_same] at found
        rw [same, ← Option.some.inj found]
        exact ⟨members, held, Finset.card_le_card (Finset.subset_insert agentId members)⟩
      · rw [Dict.get?_set_other _ same] at found
        exact ⟨kept, found, le_rfl⟩
    intro parent zeros ones left right
    rcases grown _ left with ⟨zerosBefore, leftBefore, zerosGrown⟩
    rcases grown _ right with ⟨onesBefore, rightBefore, onesGrown⟩
    have crowded := parted.crowded parent zerosBefore onesBefore leftBefore rightBefore
    omega

theorem addMember_spec (ids : ∀ other ∈ insert agentId added, IsId other)
    (parted : Parted manager.mergeThreshold added manager.leaves)
    (small : Small manager.splitThreshold manager.leaves) :
    ∃ leaves raised, manager.addMember agentId = ({ manager with leaves }, raised) ∧
      Parted manager.mergeThreshold (insert agentId added) leaves ∧
      (raised = none → Small manager.splitThreshold leaves) ∧
      (raised ≠ none → ∃ leaf members, leaf.length = idBits ∧
        leaves.get? leaf = some members ∧ manager.splitThreshold < members.card) := by
  rcases parted.exists_leafFor (ids agentId (Finset.mem_insert_self _ _)) with
    ⟨leaf, members, leafIs, held, under⟩
  have inserted := parted.joined held under
  rw [addMember, leafIs]
  dsimp only
  rw [held, Option.getD_some]
  split
  · next crowded =>
      have settled := settled_split manager.mergesBelow ids inserted (Dict.get?_set_same _ _ _) crowded
      refine ⟨_, _, rfl, settled.parted, ?_, settled.deep⟩
      intro ended node kept found
      by_cases below : leaf <:+ node
      · exact settled.small ended node kept below found
      · rw [settled.elsewhere node below, Dict.get?_set_other] at found
        · exact small node kept found
        · rintro rfl
          exact below List.suffix_rfl
  · next fits =>
      refine ⟨_, _, rfl, inserted, ?_, nofun⟩
      intro _ node kept found
      by_cases same : node = leaf
      · rw [same, Dict.get?_set_same] at found
        rw [← Option.some.inj found]
        exact not_lt.mp fits
      · rw [Dict.get?_set_other _ same] at found
        exact small node kept found

theorem addMember_ends_iff (ids : ∀ other ∈ insert agentId added, IsId other)
    (parted : Parted manager.mergeThreshold added manager.leaves)
    (small : Small manager.splitThreshold manager.leaves) :
    (manager.addMember agentId).2 = none ↔
      (alike (insert agentId added) agentId).card ≤ manager.splitThreshold := by
  rcases addMember_spec ids parted small with ⟨leaves, raised, done, later, ended, failed⟩
  rw [done]
  constructor
  · intro noError
    have fits := later.card_le (ended noError) (length_path agentId idBits)
    rwa [filter_under_path] at fits
  · intro spread
    by_contra error
    rcases failed error with ⟨leaf, members, long, held, crowded⟩
    rw [later.placed leaf members held] at crowded
    apply absurd crowded
    rw [not_lt]
    by_cases own : leaf = path agentId idBits
    · rw [own, filter_under_path]
      exact spread
    · -- The new member is not in that leaf, which was small before.
      have notUnder : ¬Under leaf agentId := by
        intro under
        have same := (under_iff.mp under).2
        rw [long] at same
        exact own same
      rw [Finset.filter_insert, if_neg notUnder]
      exact parted.card_le small long

theorem removeMember_spec (isId : IsId agentId)
    (parted : Parted manager.mergeThreshold added manager.leaves)
    (small : Small manager.splitThreshold manager.leaves) :
    ∃ leaves, manager.removeMember agentId = ({ manager with leaves }, none) ∧
      Parted manager.mergeThreshold (added.erase agentId) leaves ∧
      Small manager.splitThreshold leaves := by
  rcases parted.exists_leafFor isId with ⟨leaf, members, leafIs, held, under⟩
  rw [removeMember, leafIs]
  dsimp only
  rw [held, Option.getD_some]
  refine ⟨_, rfl, parted_maybeMerge ⟨?_, ?_, ?_⟩, small_maybeMerge manager.mergesBelow ?_⟩
  · rw [prefixes_set held]
    exact parted.cover
  · apply parted.placed_set held under
    · rw [parted.placed leaf members held, Finset.filter_erase]
    · intro other different
      rw [Finset.mem_erase, and_iff_right different]
  · intro parent zeros ones apart left right
    rw [Dict.get?_set_other _ (apart false)] at left
    rw [Dict.get?_set_other _ (apart true)] at right
    exact parted.crowded parent zeros ones left right
  · intro node kept found
    by_cases same : node = leaf
    · rw [same, Dict.get?_set_same] at found
      rw [← Option.some.inj found]
      exact (Finset.card_erase_le).trans (small leaf members held)
    · rw [Dict.get?_set_other _ same] at found
      exact small node kept found

end Calls

end Laws

/-! ## Scope keys -/

theorem digits_injective : Function.Injective digits := by
  intro left right same
  have texts := congrArg String.toList same
  simp only [digits, String.toList_ofList] at texts
  apply List.reverse_injective
  apply List.map_injective_iff.mpr _ texts
  intro first second equal
  cases first <;> cases second <;> simp_all

theorem scopeKey_injective [Digest] (injective : Function.Injective Digest.sha256)
    (manager : PartitionManager) : Function.Injective manager.scopeKey := by
  intro left right same
  have labels := Scopes.overlayId_injective injective same
  have marked (node : List Bool) : manager.baseScope ≠ manager.baseScope ++ "#" ++ digits node := by
    intro equal
    have lengths := congrArg String.length equal
    simp only [String.length_append] at lengths
    have mark : "#".length = 1 := rfl
    omega
  split at labels <;> split at labels
  · next first second => rw [first, second]
  · exact absurd labels (marked right)
  · exact absurd labels.symm (marked left)
  · exact digits_injective (String.append_right_inj _ |>.mp labels)

end PartitionManager

end Agtp
