import Agtp.Dht.Routing

/-! # The table over any run

Peers are added in any order, and confirmed-dead ones are replaced. -/

namespace Agtp

open Distance (toInt bucketIndex)

def KBucket.replace (bucket : KBucket) (dead fresh : NodeInfo) : KBucket × Bool :=
  if bucket.contains dead.nodeId then
    ({ bucket with
      nodes := (bucket.nodes.eraseP fun existing => existing.nodeId = dead.nodeId) ++ [fresh] },
      true)
  else (bucket, false)

namespace RoutingTable

variable [TextCase] [HexText]

/-! ## Ids -/

def ValidId (nodeId : String) : Prop :=
  ∃ value : Nat, toInt nodeId = .ok value ∧ value < 2 ^ 256

def idOf (nodeId : String) : Nat :=
  match toInt nodeId with
  | .ok value => value.toNat
  | .error _ => 0

theorem ValidId.toInt_eq {nodeId : String} (valid : ValidId nodeId) :
    toInt nodeId = .ok (idOf nodeId : Int) ∧ idOf nodeId < 2 ^ 256 := by
  rcases valid with ⟨value, read, bounded⟩
  have same : idOf nodeId = value := by simp [idOf, read]
  rw [same]
  exact ⟨read, bounded⟩

def HighestDifference (own other bit : Nat) : Prop :=
  own.testBit bit ≠ other.testBit bit ∧
    ∀ higher > bit, own.testBit higher = other.testBit higher

theorem bucketIndex_of_valid {own nodeId : String} (ownValid : ValidId own)
    (valid : ValidId nodeId) : bucketIndex own nodeId =
      .ok (if idOf own ^^^ idOf nodeId = 0 then -1 else ((idOf own ^^^ idOf nodeId).log2 : Int)) := by
  rw [bucketIndex, Distance.xorDistance_of_toInt ownValid.toInt_eq.1 valid.toInt_eq.1]
  simp only [Int.xor, Bind.bind, Except.bind, pure, Except.pure, Int.natCast_eq_zero,
    Int.natAbs_natCast]

theorem highest_of_indexed {own nodeId : String} (ownValid : ValidId own)
    (valid : ValidId nodeId) {index : Int} (indexed : bucketIndex own nodeId = .ok index)
    (natural : 0 ≤ index) :
    index ≤ 255 ∧ HighestDifference (idOf own) (idOf nodeId) index.toNat := by
  rw [bucketIndex_of_valid ownValid valid] at indexed
  split at indexed
  · cases indexed
    exact absurd natural (by decide)
  · next differ =>
      cases indexed
      have small := (Nat.log2_lt differ).mpr
        (Nat.xor_lt_two_pow ownValid.toInt_eq.2 valid.toInt_eq.2)
      refine ⟨by omega, ?_, ?_⟩
      · have high := Nat.testBit_log2 differ
        rw [Nat.testBit_xor, bne_iff_ne] at high
        exact high
      · intro higher above
        have low := Nat.testBit_lt_two_pow
          (Nat.lt_log2_self.trans_le (Nat.pow_le_pow_right (by decide) above) :
            idOf own ^^^ idOf nodeId < 2 ^ higher)
        rw [Nat.testBit_xor, bne_eq_false_iff_eq] at low
        exact low

def lastSeen (id : Nat) : List Nat → Nat
  | [] => 0
  | other :: past => if other = id then past.length + 1 else lastSeen id past

omit [TextCase] [HexText] in
theorem lastSeen_le (id : Nat) (seen : List Nat) : lastSeen id seen ≤ seen.length := by
  induction seen with
  | nil => exact Nat.le_refl 0
  | cons other past induction =>
      rw [lastSeen]
      split
      · exact Nat.le_refl _
      · exact Nat.le_succ_of_le induction

/-! ## Buckets -/

/-- What holds of the bucket of an index, after the ids that were seen. -/
structure Exact (own : String) (k : Nat) (seen : List Nat) (index : Int) (bucket : KBucket) :
    Prop where
  range : 0 ≤ index ∧ index ≤ 255
  room : bucket.k = k
  bounded : bucket.nodes.length ≤ k
  valid : ∀ node ∈ bucket.nodes, ValidId node.nodeId
  indexed : ∀ node ∈ bucket.nodes, bucketIndex own node.nodeId = .ok index
  distinct : (bucket.nodes.map fun node => idOf node.nodeId).Nodup
  ordered : bucket.nodes.Pairwise fun earlier later =>
    lastSeen (idOf earlier.nodeId) seen < lastSeen (idOf later.nodeId) seen

variable {own : String} {k : Nat} {seen : List Nat} {index : Int} {bucket : KBucket}
  {node : NodeInfo}

theorem Exact.see (exact' : Exact own k seen index bucket) {id : Nat}
    (other : ∀ node ∈ bucket.nodes, idOf node.nodeId ≠ id) :
    Exact own k (id :: seen) index bucket := by
  refine { exact' with ordered := exact'.ordered.imp_of_mem ?_ }
  intro earlier later member laterMember before
  rwa [lastSeen, if_neg (Ne.symm (other earlier member)), lastSeen,
    if_neg (Ne.symm (other later laterMember))]

theorem Exact.push (exact' : Exact own k seen index bucket) {base : List NodeInfo}
    (kept : base.Sublist bucket.nodes) (space : base.length < k) (valid : ValidId node.nodeId)
    (indexed : bucketIndex own node.nodeId = .ok index)
    (fresh : ∀ other ∈ base, idOf other.nodeId ≠ idOf node.nodeId) :
    Exact own k (idOf node.nodeId :: seen) index { bucket with nodes := base ++ [node] } := by
  have smaller : Exact own k seen index { bucket with nodes := base } :=
    ⟨exact'.range, exact'.room, space.le,
      fun other member => exact'.valid other (kept.subset member),
      fun other member => exact'.indexed other (kept.subset member),
      exact'.distinct.sublist (kept.map _), exact'.ordered.sublist kept⟩
  have whole := smaller.see fresh
  have either {P : NodeInfo → Prop} (old : ∀ other ∈ base, P other) (new : P node) :
      ∀ other ∈ base ++ [node], P other := by
    intro other member
    rcases List.mem_append.mp member with inside | last
    · exact old other inside
    · exact List.mem_singleton.mp last ▸ new
  refine ⟨exact'.range, exact'.room, ?_, either whole.valid valid,
    either whole.indexed indexed, ?_, ?_⟩
  · rw [List.length_append]
    exact space
  · rw [List.map_append, List.nodup_append]
    refine ⟨whole.distinct, List.nodup_singleton _, ?_⟩
    intro id member other last same
    rcases List.mem_map.mp member with ⟨earlier, inside, rfl⟩
    exact fresh earlier inside (same.trans (List.mem_singleton.mp last))
  · rw [List.pairwise_append]
    refine ⟨whole.ordered, List.pairwise_singleton _ _, ?_⟩
    intro earlier inside later last
    rw [List.mem_singleton.mp last, lastSeen, lastSeen, if_pos rfl,
      if_neg (Ne.symm (fresh earlier inside))]
    exact Nat.lt_succ_of_le (lastSeen_le _ _)

/-! ## Tables -/

def Represents (table : RoutingTable) (seen : List Nat) : Prop :=
  ∀ index bucket, table.buckets.get? index = some bucket →
    Exact table.nodeId table.k seen index bucket

variable {table : RoutingTable}

theorem Exact.ne_of_index (exact' : Exact own k seen index bucket) {other : NodeInfo}
    (member : other ∈ bucket.nodes) (ownValid : ValidId own) (valid : ValidId node.nodeId)
    {place : Int} (indexed : bucketIndex own node.nodeId = .ok place) (apart : index ≠ place) :
    idOf other.nodeId ≠ idOf node.nodeId := by
  intro same
  have there := exact'.indexed other member
  rw [bucketIndex_of_valid ownValid (exact'.valid other member), same,
    ← bucketIndex_of_valid ownValid valid, indexed] at there
  exact apart (Except.ok.inj there).symm

theorem Represents.set (represents : table.Represents seen) (ownValid : ValidId table.nodeId)
    (valid : ValidId node.nodeId) (indexed : bucketIndex table.nodeId node.nodeId = .ok index)
    (exact' : Exact table.nodeId table.k (idOf node.nodeId :: seen) index bucket) :
    Represents { table with buckets := table.buckets.set index bucket }
      (idOf node.nodeId :: seen) := by
  intro place found held
  by_cases same : place = index
  · rw [same, Dict.get?_set_same] at held
    rw [same, ← Option.some.inj held]
    exact exact'
  · rw [Dict.get?_set_other _ same] at held
    have before := represents place found held
    exact before.see fun other member => before.ne_of_index member ownValid valid indexed same

theorem Represents.see (represents : table.Represents seen) (ownValid : ValidId table.nodeId)
    (valid : ValidId node.nodeId) (indexed : bucketIndex table.nodeId node.nodeId = .ok index)
    (absent : ∀ bucket, table.buckets.get? index = some bucket →
      ∀ other ∈ bucket.nodes, idOf other.nodeId ≠ idOf node.nodeId) :
    table.Represents (idOf node.nodeId :: seen) := by
  intro place found held
  have before := represents place found held
  by_cases same : place = index
  · exact before.see (absent found (same ▸ held))
  · exact before.see fun other member => before.ne_of_index member ownValid valid indexed same

theorem Represents.exact_bucketAt (represents : table.Represents seen)
    (range : 0 ≤ index ∧ index ≤ 255) :
    Exact table.nodeId table.k seen index (table.bucketAt index) := by
  unfold bucketAt
  cases held : table.buckets.get? index with
  | none => exact ⟨range, rfl, Nat.zero_le _, nofun, nofun, List.nodup_nil, List.Pairwise.nil⟩
  | some bucket => exact represents index bucket held

theorem Represents.sound (represents : table.Represents seen) : table.Sound := by
  intro index bucket held
  have exact' := represents index bucket held
  refine ⟨exact'.range, exact'.room, ⟨?_, ?_⟩, exact'.indexed⟩
  · have distinct := exact'.distinct
    rw [← Function.comp_def idOf NodeInfo.nodeId, ← List.map_map] at distinct
    exact distinct.of_map idOf
  · exact exact'.room.symm ▸ exact'.bounded

/-! ## Calls -/

inductive Call where
  | add (node : NodeInfo)
  /-- `replace` on the bucket of an index. -/
  | replace (index : Int) (dead fresh : NodeInfo)

/-- A call that raises leaves the table's peers as they are. -/
def serve (table : RoutingTable) : Call → RoutingTable
  | .add node =>
      match table.addNode node with
      | .ok (after, _) => after
      | .error _ => table
  | .replace index dead fresh =>
      match table.buckets.get? index with
      | some bucket =>
          { table with buckets := table.buckets.set index (bucket.replace dead fresh).1 }
      | none => table

def sighted (table : RoutingTable) : Call → List Nat
  | .add node => [idOf node.nodeId]
  | .replace index dead fresh =>
      if (table.bucketAt index).contains dead.nodeId then [idOf fresh.nodeId] else []

def Call.Valid : Call → Prop
  | .add node => ValidId node.nodeId
  | .replace _ _ fresh => ValidId fresh.nodeId

/-- A peer is not added under another spelling of an id that is stored, and the fresh peer of
a replacement belongs in the bucket and is not in it yet. -/
def Fits (table : RoutingTable) : Call → Prop
  | .add node => ∀ other ∈ table.allNodes, idOf other.nodeId = idOf node.nodeId →
      other.nodeId = node.nodeId
  | .replace index dead fresh => (table.bucketAt index).contains dead.nodeId = true →
      bucketIndex table.nodeId fresh.nodeId = .ok index ∧
      ∀ other ∈ (table.bucketAt index).nodes, other.nodeId ≠ dead.nodeId →
        idOf other.nodeId ≠ idOf fresh.nodeId

instance (table : RoutingTable) (call : Call) : Decidable (table.Fits call) :=
  match call with
  | .add _ => inferInstanceAs (Decidable (∀ other ∈ table.allNodes, _ → _))
  | .replace _ _ _ => inferInstanceAs (Decidable (_ → _ ∧ _))

omit [TextCase] [HexText] in
theorem length_eraseP_lt {nodes : List NodeInfo} {nodeId : String}
    (known : (KBucket.mk k nodes).contains nodeId = true) :
    (nodes.eraseP fun existing => existing.nodeId = nodeId).length < nodes.length := by
  rcases List.any_eq_true.mp known with ⟨other, held, accepted⟩
  rw [List.length_eraseP_of_mem held accepted]
  exact Nat.sub_lt (List.length_pos_of_mem held) Nat.one_pos

theorem Represents.add (represents : table.Represents seen) (ownValid : ValidId table.nodeId)
    (valid : ValidId node.nodeId) (fits : table.Fits (.add node)) :
    (table.serve (.add node)).Represents (idOf node.nodeId :: seen) := by
  have indexed := bucketIndex_of_valid ownValid valid
  generalize hidden : (if idOf table.nodeId ^^^ idOf node.nodeId = 0 then (-1 : Int)
    else ((idOf table.nodeId ^^^ idOf node.nodeId).log2 : Int)) = index at indexed
  have nowhere (negative : index < 0) : table.Represents (idOf node.nodeId :: seen) :=
    represents.see ownValid valid indexed fun bucket held =>
      absurd (represents index bucket held).range.1 (by omega)
  simp only [serve, addNode]
  by_cases own : node.nodeId = table.nodeId
  · rw [if_pos own]
    apply nowhere
    rw [← hidden, own, Nat.xor_self, if_pos rfl]
    decide
  · rw [if_neg own, bucketFor_of_indexed indexed]
    by_cases negative : index < 0
    · rw [if_pos negative]
      exact nowhere negative
    · have range := And.intro (by omega : 0 ≤ index)
        (highest_of_indexed ownValid valid indexed (by omega)).1
      have exact' := represents.exact_bucketAt range
      have sound := (represents.sound)
      have placed := placed_bucketAt sound range
      have text (other : NodeInfo) (member : other ∈ (table.bucketAt index).nodes) :=
        fits other (mem_of_bucketAt member)
      rw [if_neg negative]
      simp only [Bind.bind, Except.bind, KBucket.add]
      by_cases known : (table.bucketAt index).contains node.nodeId = true
      · rw [if_pos known]
        refine represents.set ownValid valid indexed (exact'.push List.eraseP_sublist
          ((length_eraseP_lt known).trans_le exact'.bounded) valid indexed ?_)
        intro other member same
        exact KBucket.notMem_eraseP placed.sound.distinct
          (text other (List.eraseP_subset member) same ▸ List.mem_map_of_mem member)
      · rw [if_neg known]
        have absent : ∀ other ∈ (table.bucketAt index).nodes,
            idOf other.nodeId ≠ idOf node.nodeId := fun other member same =>
          known (List.any_eq_true.mpr ⟨other, member, by simpa using text other member same⟩)
        by_cases space : (table.bucketAt index).nodes.length < (table.bucketAt index).k
        · rw [if_pos space]
          exact represents.set ownValid valid indexed (exact'.push (List.Sublist.refl _)
            (exact'.room ▸ space) valid indexed absent)
        · rw [if_neg space]
          cases nodes : (table.bucketAt index).nodes with
          | nil =>
              exact represents.see ownValid valid indexed fun bucket held other member =>
                absent other (by rw [bucketAt, held]; exact member)
          | cons oldest rest =>
              exact represents.set ownValid valid indexed (exact'.see absent)

theorem Represents.replace (represents : table.Represents seen)
    (ownValid : ValidId table.nodeId) {dead fresh : NodeInfo} (valid : ValidId fresh.nodeId)
    (fits : table.Fits (.replace index dead fresh)) :
    (table.serve (.replace index dead fresh)).Represents
      (table.sighted (.replace index dead fresh) ++ seen) := by
  cases held : table.buckets.get? index with
  | none =>
      have empty : table.bucketAt index = ⟨table.k, []⟩ := by rw [bucketAt, held]; rfl
      simpa [serve, sighted, held, empty, KBucket.contains] using represents
  | some bucket =>
      have there : table.bucketAt index = bucket := by rw [bucketAt, held]; rfl
      have exact' := represents index bucket held
      simp only [Fits, there] at fits
      simp only [serve, sighted, held, there, KBucket.replace]
      by_cases known : bucket.contains dead.nodeId = true
      · rw [if_pos known, if_pos known]
        rcases fits known with ⟨indexed, apart⟩
        refine represents.set ownValid valid indexed (exact'.push List.eraseP_sublist
          ((length_eraseP_lt known).trans_le exact'.bounded) valid indexed ?_)
        intro other member
        apply apart other (List.eraseP_subset member)
        intro same
        exact KBucket.notMem_eraseP (represents.sound index bucket held).sound.distinct
          (same ▸ List.mem_map_of_mem member)
      · rw [if_neg known, if_neg known]
        intro place found heldThere
        by_cases same : place = index
        · rw [same, Dict.get?_set_same] at heldThere
          rw [same, ← Option.some.inj heldThere]
          exact exact'
        · rw [Dict.get?_set_other _ same] at heldThere
          exact represents place found heldThere

/-! ## Runs -/

def run (table : RoutingTable) : List Call → List Nat → RoutingTable × List Nat
  | [], seen => (table, seen)
  | call :: rest, seen => run (table.serve call) rest (table.sighted call ++ seen)

def FitsAll (table : RoutingTable) : List Call → Prop
  | [] => True
  | call :: rest => table.Fits call ∧ FitsAll (table.serve call) rest

theorem serve_own (table : RoutingTable) (call : Call) :
    (table.serve call).nodeId = table.nodeId := by
  cases call with
  | add node =>
      simp only [serve, addNode]
      split
      · next added =>
          split at added
          · cases added
            rfl
          · rcases Fallible.ok_of_bind added with ⟨place, _, stored⟩
            cases place with
            | none => cases stored; rfl
            | some place =>
                rcases Fallible.ok_of_bind stored with ⟨_, _, returned⟩
                cases returned
                rfl
      · rfl
  | replace index dead fresh =>
      simp only [serve]
      split <;> rfl

theorem represents_run (calls : List Call) (represents : table.Represents seen)
    (ownValid : ValidId table.nodeId) (valid : ∀ call ∈ calls, call.Valid)
    (fits : table.FitsAll calls) :
    (table.run calls seen).1.Represents (table.run calls seen).2 ∧
      (table.run calls seen).1.nodeId = table.nodeId := by
  induction calls generalizing table seen with
  | nil => exact ⟨represents, rfl⟩
  | cons call rest induction =>
      have now := valid call List.mem_cons_self
      have next : (table.serve call).Represents (table.sighted call ++ seen) := by
        cases call with
        | add node => exact represents.add ownValid now fits.1
        | replace index dead fresh => exact represents.replace ownValid now fits.1
      rw [← serve_own table call]
      exact induction next (serve_own table call ▸ ownValid)
        (fun call member => valid call (List.mem_cons_of_mem _ member)) fits.2

/-- What the table promises to those who look peers up. -/
structure Faithful (table : RoutingTable) (seen : List Nat) : Prop where
  /-- Buckets are bounded, without double ids, and ordered by the last sighting. -/
  exact' : table.Represents seen
  placed : ∀ index bucket, table.buckets.get? index = some bucket → ∀ node ∈ bucket.nodes,
    HighestDifference (idOf table.nodeId) (idOf node.nodeId) index.toNat
  notOwn : ∀ node ∈ table.allNodes, idOf node.nodeId ≠ idOf table.nodeId
  keeps : ∀ node, ValidId node.nodeId → ∀ other ∈ table.allNodes,
    other ∈ (table.serve (.add node)).allNodes ∨ other.nodeId = node.nodeId
  closest : ∀ key count, ValidId key → ∃ nearest, table.closest key count = .ok nearest ∧
    nearest.length = min (count.getD table.k) table.allNodes.length ∧
    (∀ node ∈ nearest, node ∈ table.allNodes) ∧ (nearest.map NodeInfo.nodeId).Nodup ∧
    (nearest.Pairwise fun left right => distanceTo key left ≤ distanceTo key right) ∧
    ∀ node ∈ table.allNodes, node ∉ nearest →
      ∀ near ∈ nearest, distanceTo key near ≤ distanceTo key node

theorem Represents.faithful (represents : table.Represents seen)
    (ownValid : ValidId table.nodeId) : table.Faithful seen := by
  have sound := represents.sound
  have highest {index : Int} {bucket : KBucket} (held : table.buckets.get? index = some bucket)
      {node : NodeInfo} (member : node ∈ bucket.nodes) :=
    have exact' := represents index bucket held
    (highest_of_indexed ownValid (exact'.valid node member) (exact'.indexed node member)
      exact'.range.1).2
  refine ⟨represents, fun index bucket held node member => highest held member, ?_, ?_, ?_⟩
  · intro node member same
    rcases mem_allNodes_iff.mp member with ⟨index, bucket, held, inside⟩
    exact (highest held inside).1 (by rw [same])
  · intro node valid other member
    have room : 0 < table.k := by
      rcases mem_allNodes_iff.mp member with ⟨index, bucket, held, inside⟩
      exact (List.length_pos_of_mem inside).trans_le (represents index bucket held).bounded
    have takes : Takes table.nodeId node.nodeId := by
      refine .inr ⟨_, bucketIndex_of_valid ownValid valid, ?_⟩
      by_cases natural : 0 ≤ (if idOf table.nodeId ^^^ idOf node.nodeId = 0 then (-1 : Int)
          else ((idOf table.nodeId ^^^ idOf node.nodeId).log2 : Int))
      · exact (highest_of_indexed ownValid valid (bucketIndex_of_valid ownValid valid) natural).1
      · omega
    rcases took_of_takes sound room takes with ⟨after, candidate, added, took⟩
    simp only [serve, added]
    exact (took.keeps other member).imp id And.left
  · intro key count valid
    have measured : ∀ node ∈ table.allNodes, Measured key node := by
      intro node member
      rcases mem_allNodes_iff.mp member with ⟨index, bucket, held, inside⟩
      exact ⟨_, Distance.xorDistance_of_toInt
        ((represents index bucket held).valid node inside).toInt_eq.1 valid.toInt_eq.1⟩
    exact ⟨_, closestOf_of_measured measured _, Nearest.length_nearest,
      fun _ => Nearest.mem_of_nearest, Nearest.nodup_nearest sound.distinct,
      Nearest.ordered_nearest _ _ _, fun _ member out =>
        (Nearest.full_of_left_out member out).2⟩

/-- The table is faithful after every run whose calls fit. -/
theorem faithful_run {own : String} (ownValid : ValidId own) (k : Nat) (calls : List Call)
    (valid : ∀ call ∈ calls, call.Valid) (fits : (new own k).FitsAll calls) :
    ((new own k).run calls []).1.Faithful ((new own k).run calls []).2 := by
  have start : (new own k).Represents [] := by
    intro index bucket held
    cases held
  rcases represents_run calls start ownValid valid fits with ⟨represents, same⟩
  exact represents.faithful (same ▸ ownValid)

end RoutingTable

namespace TableSamples

open RoutingTable
open scoped Plain

def short (digit : String) : String :=
  "000000000000000000000000000000000000000000000000000000000000000" ++ digit

def peer (digit : String) (port : Int) : NodeInfo := ⟨short digit, "host", port⟩

theorem validShort {digit : String} (value : Nat)
    (read : (Distance.toInt (short digit)).toOption = some (value : Int)) (small : value < 16) :
    ValidId (short digit) := by
  refine ⟨value, ?_, small.trans (by decide)⟩
  cases outcome : Distance.toInt (short digit) with
  | error cause => rw [outcome] at read; cases read
  | ok number => rw [outcome] at read; rw [Option.some.inj read]

/-- A peer is seen twice, another one joins it, and the first is replaced. -/
theorem faithfulRun :
    let calls := [Call.add (peer "a" 1), .add (peer "a" 2), .add (peer "b" 3),
      .replace 3 (peer "a" 1) (peer "c" 4)]
    ((new (short "0") 2).run calls []).1.Faithful ((new (short "0") 2).run calls []).2 := by
  apply faithful_run (validShort 0 (by decide +kernel) (by decide))
  · simp only [List.forall_mem_cons]
    exact ⟨validShort 10 (by decide +kernel) (by decide),
      validShort 10 (by decide +kernel) (by decide),
      validShort 11 (by decide +kernel) (by decide),
      validShort 12 (by decide +kernel) (by decide), nofun⟩
  · exact ⟨by decide +kernel, by decide +kernel, by decide +kernel, by decide +kernel, trivial⟩

/-- Two spellings of one id are two peers; a replacement brings a peer into a bucket that is
not its own, or a second time into its own. -/
theorem doubledAndMisplaced :
    (((new (short "0") 2).run [.add (peer "a" 1), .add (peer "A" 2)] []).1.allNodes.map
      (idOf ·.nodeId)) = [10, 10] ∧
    (((new (short "0") 2).run [.add (peer "a" 1), .replace 3 (peer "a" 1) (peer "1" 2)]
      []).1.buckets.entries.map fun entry =>
        (entry.1, entry.2.nodes.map (idOf ·.nodeId))) = [(3, [1])] ∧
    (((new (short "0") 2).run [.add (peer "a" 1), .add (peer "b" 2),
      .replace 3 (peer "a" 1) (peer "b" 2)] []).1.allNodes.map (idOf ·.nodeId)) = [11, 11] := by
  decide +kernel

end TableSamples

end Agtp
