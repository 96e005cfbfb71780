import Mathlib.Data.List.Nodup

/-! # Lineages

Entries that each name their predecessor, ending at a genesis mark. A lineage
is the list of such entries, newest first. The second half of the file follows
the links of an arbitrary store, which may hold anything. -/

namespace Agtp

/-- What identifies an entry, which entry it names as its predecessor, and the
mark that stands for having none. -/
structure Links (Entry : Type u) (Id : Type v) where
  identifier : Entry → Id
  previous : Entry → Id
  genesis : Id

namespace Links

variable {Entry : Type u} {Id : Type v} (links : Links Entry Id)

/-- The identifier of the newest entry. -/
def tip : List Entry → Id
  | [] => links.genesis
  | entry :: _ => links.identifier entry

/-- Every entry names the one after it in the list. -/
inductive Linked : List Entry → Prop
  | nil : Linked []
  | cons {entry rest} :
      links.previous entry = links.tip rest → Linked rest →
      Linked (entry :: rest)

/-- Among the known entries distinct ones have distinct identifiers, none of
which is the genesis mark. A hash without collisions gives such identifiers. -/
structure Ideal (known : Entry → Prop) : Prop where
  injective : ∀ left right, known left → known right →
    links.identifier left = links.identifier right → left = right
  notGenesis : ∀ entry, known entry → links.identifier entry ≠ links.genesis

@[simp] theorem tip_nil : links.tip [] = links.genesis := rfl

@[simp] theorem tip_cons (entry : Entry) (rest : List Entry) :
    links.tip (entry :: rest) = links.identifier entry := rfl

variable {links} {known : Entry → Prop}

theorem Linked.suffix {entries : List Entry} (linked : links.Linked entries)
    {rest : List Entry} (suffix : rest <:+ entries) : links.Linked rest := by
  induction linked with
  | nil =>
      have empty : rest = [] := List.suffix_nil.mp suffix
      subst empty
      exact .nil
  | cons previous restLinked induction =>
      rcases List.suffix_cons_iff.mp suffix with whole | inside
      · subst whole
        exact .cons previous restLinked
      · exact induction inside

theorem Linked.unique (ideal : links.Ideal known) {left right : List Entry}
    (leftLinked : links.Linked left) (rightLinked : links.Linked right)
    (leftKnown : ∀ entry ∈ left, known entry)
    (rightKnown : ∀ entry ∈ right, known entry)
    (sameTip : links.tip left = links.tip right) : left = right := by
  induction leftLinked generalizing right with
  | nil =>
      cases rightLinked with
      | nil => rfl
      | cons =>
          exact absurd sameTip.symm (ideal.notGenesis _ (rightKnown _ (by simp)))
  | cons leftPrevious _ induction =>
      cases rightLinked with
      | nil =>
          exact absurd sameTip (ideal.notGenesis _ (leftKnown _ (by simp)))
      | cons rightPrevious rightRest =>
          have sameEntry := ideal.injective _ _ (leftKnown _ (by simp))
            (rightKnown _ (by simp)) sameTip
          subst sameEntry
          have sameRest := induction rightRest
            (fun entry member => leftKnown entry (List.mem_cons_of_mem _ member))
            (fun entry member => rightKnown entry (List.mem_cons_of_mem _ member))
            (leftPrevious.symm.trans rightPrevious)
          rw [sameRest]

/-- An entry of a lineage splits it: what follows is the lineage its
predecessor is the tip of. -/
theorem Linked.split {entries : List Entry} (linked : links.Linked entries)
    {entry : Entry} (member : entry ∈ entries) :
    ∃ rest, entry :: rest <:+ entries ∧
      links.Linked rest ∧ links.previous entry = links.tip rest := by
  obtain ⟨newer, rest, equal⟩ := List.append_of_mem member
  have suffix : entry :: rest <:+ entries := ⟨newer, equal.symm⟩
  have restLinked := linked.suffix suffix
  cases restLinked with
  | cons previous remaining => exact ⟨rest, suffix, remaining, previous⟩

theorem Linked.previous_injective (ideal : links.Ideal known)
    {entries : List Entry} (linked : links.Linked entries)
    (entriesKnown : ∀ entry ∈ entries, known entry)
    {left right : Entry} (leftMember : left ∈ entries)
    (rightMember : right ∈ entries)
    (samePrevious : links.previous left = links.previous right) :
    left = right := by
  obtain ⟨leftRest, leftSuffix, leftLinked, leftTip⟩ := linked.split leftMember
  obtain ⟨rightRest, rightSuffix, rightLinked, rightTip⟩ :=
    linked.split rightMember
  have sameRest : leftRest = rightRest := by
    apply leftLinked.unique ideal rightLinked
    · intro held member
      exact entriesKnown held
        (leftSuffix.mem (List.mem_cons_of_mem _ member))
    · intro held member
      exact entriesKnown held
        (rightSuffix.mem (List.mem_cons_of_mem _ member))
    · rw [← leftTip, ← rightTip, samePrevious]
  subst sameRest
  have nested : left :: leftRest <:+ right :: leftRest :=
    List.suffix_of_suffix_length_le leftSuffix rightSuffix (by simp)
  have sameSuffix := nested.eq_of_length (by simp)
  exact (List.cons.inj sameSuffix).1

end Links

/-! ## Following links -/

/-- From `identifier`, following the links of a store visits exactly `path`
and ends at an entry whose predecessor is the genesis mark. -/
inductive GenesisPath {Id : Type u} (link : Id → Option Id) (genesis : Id) :
    Id → List Id → Prop
  | last {identifier} :
      link identifier = some genesis →
      GenesisPath link genesis identifier [identifier]
  | step {identifier next rest} :
      link identifier = some next → next ≠ genesis →
      GenesisPath link genesis next rest →
      GenesisPath link genesis identifier (identifier :: rest)

namespace GenesisPath

variable {Id : Type u} {link : Id → Option Id} {genesis : Id}

theorem linked_of_mem {identifier : Id} {path : List Id}
    (walk : GenesisPath link genesis identifier path) {visited : Id}
    (member : visited ∈ path) : ∃ previous, link visited = some previous := by
  induction walk with
  | last linked =>
      rw [List.mem_singleton] at member
      exact ⟨genesis, member ▸ linked⟩
  | step linked _ _ induction =>
      rcases List.mem_cons.mp member with here | later
      · exact ⟨_, here ▸ linked⟩
      · exact induction later

theorem head_mem {identifier : Id} {path : List Id}
    (walk : GenesisPath link genesis identifier path) : identifier ∈ path := by
  cases walk <;> simp

theorem unique {identifier : Id} {left right : List Id}
    (leftWalk : GenesisPath link genesis identifier left)
    (rightWalk : GenesisPath link genesis identifier right) : left = right := by
  induction leftWalk generalizing right with
  | last linked =>
      cases rightWalk with
      | last => rfl
      | step rightLinked notGenesis =>
          exact absurd (Option.some.inj (rightLinked.symm.trans linked)) notGenesis
  | step linked notGenesis _ induction =>
      cases rightWalk with
      | last rightLinked =>
          exact absurd (Option.some.inj (linked.symm.trans rightLinked)) notGenesis
      | step rightLinked _ rightRest =>
          have sameNext := Option.some.inj (linked.symm.trans rightLinked)
          subst sameNext
          rw [induction rightRest]

theorem suffix_of_mem {identifier : Id} {path : List Id}
    (walk : GenesisPath link genesis identifier path) {visited : Id}
    (member : visited ∈ path) :
    ∃ rest, GenesisPath link genesis visited rest ∧ rest <:+ path := by
  induction walk with
  | last linked =>
      rw [List.mem_singleton] at member
      subst member
      exact ⟨_, .last linked, List.suffix_refl _⟩
  | @step identifier next rest linked notGenesis remaining induction =>
      rcases List.mem_cons.mp member with here | later
      · subst here
        exact ⟨_, .step linked notGenesis remaining, List.suffix_refl _⟩
      · obtain ⟨found, foundWalk, suffix⟩ := induction later
        exact ⟨found, foundWalk, suffix.trans (List.suffix_cons _ _)⟩

theorem nodup {identifier : Id} {path : List Id}
    (walk : GenesisPath link genesis identifier path) : path.Nodup := by
  induction walk with
  | last => simp
  | @step identifier next rest linked notGenesis remaining induction =>
      refine List.nodup_cons.mpr ⟨?_, induction⟩
      intro again
      obtain ⟨found, foundWalk, suffix⟩ := remaining.suffix_of_mem again
      have whole := foundWalk.unique (.step linked notGenesis remaining)
      have shorter := suffix.length_le
      rw [whole, List.length_cons] at shorter
      omega

theorem congr {identifier : Id} {path : List Id} {other : Id → Option Id}
    (walk : GenesisPath link genesis identifier path)
    (agree : ∀ visited ∈ path, other visited = link visited) :
    GenesisPath other genesis identifier path := by
  induction walk with
  | last linked =>
      exact .last ((agree _ (by simp)).trans linked)
  | step linked notGenesis _ induction =>
      refine .step ((agree _ (by simp)).trans linked) notGenesis ?_
      exact induction fun visited member => agree visited (by simp [member])

theorem not_of_unlinked {identifier : Id} {path : List Id}
    (unlinked : link identifier = none) :
    ¬ GenesisPath link genesis identifier path := by
  intro walk
  obtain ⟨previous, linked⟩ := walk.linked_of_mem walk.head_mem
  rw [unlinked] at linked
  cases linked

theorem iff_of_last {identifier : Id} {path : List Id}
    (last : link identifier = some genesis) :
    GenesisPath link genesis identifier path ↔ path = [identifier] := by
  constructor
  · intro walk
    exact walk.unique (.last last)
  · intro only
    rw [only]
    exact .last last

theorem iff_of_step {identifier next : Id} {path : List Id}
    (linked : link identifier = some next) (notGenesis : next ≠ genesis) :
    GenesisPath link genesis identifier path ↔
      ∃ rest, path = identifier :: rest ∧ GenesisPath link genesis next rest := by
  constructor
  · intro walk
    cases walk with
    | last toGenesis =>
        exact absurd (Option.some.inj (linked.symm.trans toGenesis)) notGenesis
    | @step _ other rest otherLinked _ remaining =>
        have same := Option.some.inj (linked.symm.trans otherLinked)
        rw [← same] at remaining
        exact ⟨rest, rfl, remaining⟩
  · intro ⟨rest, whole, remaining⟩
    rw [whole]
    exact .step linked notGenesis remaining

theorem named_of_mem {identifier : Id} {path : List Id}
    (walk : GenesisPath link genesis identifier path) {visited : Id}
    (member : visited ∈ path) (later : visited ≠ identifier) :
    visited ≠ genesis ∧ ∃ naming ∈ path, link naming = some visited := by
  induction walk with
  | last => exact absurd (List.mem_singleton.mp member) later
  | @step identifier next rest linked notGenesis remaining induction =>
      have inRest := (List.mem_cons.mp member).resolve_left later
      by_cases isNext : visited = next
      · rw [isNext]
        exact ⟨notGenesis, identifier, List.mem_cons_self, linked⟩
      · obtain ⟨notMark, naming, namingMember, names⟩ := induction inRest isNext
        exact ⟨notMark, naming, List.mem_cons_of_mem _ namingMember, names⟩

theorem first_unnamed {identifier : Id} {path : List Id}
    (walk : GenesisPath link genesis identifier path) {naming : Id}
    (member : naming ∈ path) (notGenesis : identifier ≠ genesis) :
    link naming ≠ some identifier := by
  intro names
  obtain ⟨rest, restWalk, suffix⟩ := walk.suffix_of_mem member
  obtain ⟨after, whole, afterWalk⟩ := (iff_of_step names notGenesis).mp restWalk
  have same := afterWalk.unique walk
  have shorter := suffix.length_le
  rw [whole, same, List.length_cons] at shorter
  omega

end GenesisPath

theorem Links.Linked.genesisPath {Entry : Type u} {Id : Type v}
    {links : Links Entry Id} {known : Entry → Prop}
    (ideal : links.Ideal known) {link : Id → Option Id}
    {entry : Entry} {rest : List Entry} (linked : links.Linked (entry :: rest))
    (restKnown : ∀ held ∈ rest, known held)
    (stored : ∀ held ∈ entry :: rest,
      link (links.identifier held) = some (links.previous held)) :
    GenesisPath link links.genesis (links.identifier entry)
      ((entry :: rest).map links.identifier) := by
  induction rest generalizing entry with
  | nil =>
      cases linked with
      | cons previous _ =>
          refine .last ?_
          rw [stored entry (by simp), previous]
          rfl
  | cons next rest induction =>
      cases linked with
      | cons previous restLinked =>
          refine .step ?_ (ideal.notGenesis next (restKnown next (by simp)))
            (induction restLinked ?_ ?_)
          · rw [stored entry (by simp), previous]
            rfl
          · intro held member
            exact restKnown held (List.mem_cons_of_mem _ member)
          · intro held member
            exact stored held (List.mem_cons_of_mem _ member)

end Agtp
