import Agtp.Core.Catalog
import Agtp.Foundation.EditDistance
import Agtp.Foundation.KeyOrder
import Mathlib.Data.List.Dedup
import Mathlib.Data.Prod.Lex

/-! # Suggestions for a misspelt verb

`core/methods.py` and `server/negotiation.py` each have a copy of the distance of two names. -/

namespace Agtp

open EditDistance (Edits distance row)

/-! ## The two distances -/

def twoRowDistance (first second : String) : Nat :=
  if first = second then 0
  else if first = "" then second.length
  else if second = "" then first.length
  else Catalog.levenshtein first second

def Methods.levenshtein (first second : String) : Nat :=
  twoRowDistance first second

def Negotiation.levenshtein (first second : String) : Nat :=
  twoRowDistance first second

namespace Catalog

theorem row_eq_cons (seen before rest : List Char) :
    row seen before rest = distance seen before :: (row seen before rest).tail := by
  cases rest <;> rfl

theorem distanceRow_row (character : Char) (seen before rest : List Char) :
    distanceRow character (distance (character :: seen) before) rest (row seen before rest) =
      (row (character :: seen) before rest).tail := by
  induction rest generalizing before with
  | nil => rfl
  | cons other rest induction =>
      have next := induction (other :: before)
      rw [row_eq_cons seen (other :: before) rest] at next
      rw [row, row_eq_cons seen (other :: before) rest, distanceRow, row, List.tail_cons,
        row_eq_cons (character :: seen) (other :: before) rest, ← next,
        EditDistance.distance_cons_cons]

theorem rows_foldl (columns characters seen : List Char) :
    characters.foldl
        (fun (state : Nat × List Nat) character =>
          (state.1 + 1,
            (state.1 + 1) :: distanceRow character (state.1 + 1) columns state.2))
        (seen.length, row seen [] columns) =
      ((characters.reverse ++ seen).length, row (characters.reverse ++ seen) [] columns) := by
  induction characters generalizing seen with
  | nil => rfl
  | cons character characters induction =>
      have next := distanceRow_row character seen [] columns
      rw [EditDistance.distance_nil_right, List.length_cons] at next
      have whole := row_eq_cons (character :: seen) [] columns
      rw [EditDistance.distance_nil_right, List.length_cons, ← next] at whole
      rw [List.foldl_cons, ← whole, List.reverse_cons, List.append_assoc]
      exact induction (character :: seen)

theorem levenshtein_eq_distance (first second : String) :
    levenshtein first second = distance first.toList second.toList := by
  have start : List.range (second.toList.length + 1) = row [] [] second.toList := by
    rw [EditDistance.row_nil, List.range_eq_range', List.length_nil]
  have rows := rows_foldl second.toList first.toList []
  rw [List.append_nil, List.length_nil] at rows
  simp only [levenshtein, start, rows]
  rw [EditDistance.getLastD_row, List.append_nil, EditDistance.distance_reverse]

end Catalog

theorem twoRowDistance_eq_distance (first second : String) :
    twoRowDistance first second = distance first.toList second.toList := by
  unfold twoRowDistance
  split
  · next same => rw [same, EditDistance.distance_self]
  split
  · next empty => rw [empty, String.toList_empty, EditDistance.distance_nil_left, String.length_toList]
  split
  · next empty => rw [empty, String.toList_empty, EditDistance.distance_nil_right, String.length_toList]
  exact Catalog.levenshtein_eq_distance first second

/-! ## Close matches -/

/-- The order in which a set of verbs happens to be listed. -/
structure SetOrder (verbs : List String) where
  listed : List String
  distinct : listed.Nodup
  same : ∀ verb, verb ∈ listed ↔ verb ∈ verbs

def SetOrder.ofList (verbs : List String) : SetOrder verbs where
  listed := verbs.dedup
  distinct := List.nodup_dedup verbs
  same := fun _ => List.mem_dedup

namespace Methods

def isBefore (left right : Nat × String) : Bool :=
  left.1 < right.1 || (left.1 == right.1 && decide (left.2 ≤ right.2))

def suggest (limit : Nat) : List String → List (Nat × String) → List String
  | out, [] => out
  | out, (_, candidate) :: rest =>
      let next := if out.contains candidate then out else out ++ [candidate]
      if limit ≤ next.length then next else suggest limit next rest

variable [TextCase] (catalog : Catalog)

def getLegacyPreferred (name : String) : Option String :=
  (catalog.legacy.lookup (upper name)).filter (· ≠ "")

def scored (verbs : List String) (upperName : String) (maxDistance : Nat) :
    List (Nat × String) :=
  verbs.filterMap fun candidate =>
    if candidate = upperName then none
    else if levenshtein upperName candidate ≤ maxDistance then
      some (levenshtein upperName candidate, candidate)
    else none

def findCloseMatches (order : SetOrder catalog.protocolVerbs) (name : String)
    (maxDistance limit : Nat) : List String :=
  let preferred :=
    if catalog.legacyVerbs.contains (upper name) then
      (getLegacyPreferred catalog (upper name)).toList
    else []
  let ranked := (scored order.listed (upper name) maxDistance).mergeSort isBefore
  (suggest limit preferred ranked).take limit

/-! ## What is listed -/

omit [TextCase] in
theorem isBefore_iff (left right : Nat × String) :
    isBefore left right = true ↔ toLex left ≤ toLex right := by
  simp [isBefore, Prod.Lex.toLex_le_toLex]

omit [TextCase] in
/-- The loop stops where nothing more is listed: it lists the ranked verbs that are not
there yet, as far as the limit goes. -/
theorem take_suggest (limit : Nat) (out : List String) (ranked : List (Nat × String))
    (distinct : (ranked.map Prod.snd).Nodup) :
    (suggest limit out ranked).take limit =
      (out ++ (ranked.map Prod.snd).filter (!out.contains ·)).take limit := by
  induction ranked generalizing out with
  | nil => simp [suggest]
  | cons entry rest induction =>
      rcases entry with ⟨number, candidate⟩
      rcases List.nodup_cons.mp distinct with ⟨fresh, distinct⟩
      by_cases listed : candidate ∈ out
      · have skipped : (((number, candidate) :: rest).map Prod.snd).filter (!out.contains ·) =
            (rest.map Prod.snd).filter (!out.contains ·) := by
          simp [listed]
        rw [skipped]
        simp only [suggest, List.contains_iff_mem, listed, if_true]
        by_cases full : limit ≤ out.length
        · rw [if_pos full, List.take_append_of_le_length full]
        · rw [if_neg full, induction out distinct]
      · have others : (rest.map Prod.snd).filter (!(out ++ [candidate]).contains ·) =
            (rest.map Prod.snd).filter (!out.contains ·) := by
          apply List.filter_congr
          intro other member
          have differs : other ≠ candidate := fun equal => fresh (equal ▸ member)
          simp [differs]
        have added : out ++ (((number, candidate) :: rest).map Prod.snd).filter
              (!out.contains ·) =
            (out ++ [candidate]) ++ (rest.map Prod.snd).filter (!out.contains ·) := by
          simp [listed]
        rw [added]
        simp only [suggest, List.contains_iff_mem, listed, if_false]
        by_cases full : limit ≤ (out ++ [candidate]).length
        · rw [if_pos full, List.take_append_of_le_length full]
        · rw [if_neg full, induction _ distinct, others]

omit [TextCase] in
theorem mem_scored {verbs : List String} {upperName : String} {maxDistance : Nat}
    {entry : Nat × String} :
    entry ∈ scored verbs upperName maxDistance ↔
      entry.2 ∈ verbs ∧ entry.2 ≠ upperName ∧
        entry.1 = levenshtein upperName entry.2 ∧ entry.1 ≤ maxDistance := by
  rcases entry with ⟨number, verb⟩
  simp only [scored, List.mem_filterMap]
  constructor
  · intro ⟨candidate, member, kept⟩
    split at kept
    · cases kept
    split at kept
    · next differs near =>
        cases kept
        exact ⟨member, differs, rfl, near⟩
    · cases kept
  · intro ⟨member, differs, number, near⟩
    subst number
    exact ⟨verb, member, by rw [if_neg differs, if_pos near]⟩

omit [TextCase] in
theorem nodup_scored {verbs : List String} (distinct : verbs.Nodup) (upperName : String)
    (maxDistance : Nat) : ((scored verbs upperName maxDistance).map Prod.snd).Nodup := by
  have names : (scored verbs upperName maxDistance).map Prod.snd =
      verbs.filter fun verb =>
        verb ≠ upperName ∧ levenshtein upperName verb ≤ maxDistance := by
    unfold scored
    rw [List.map_filterMap, ← List.filterMap_eq_filter]
    congr 1
    funext verb
    by_cases same : verb = upperName <;>
      by_cases near : levenshtein upperName verb ≤ maxDistance <;>
      simp [Option.guard, same, near]
  rw [names]
  exact distinct.filter _

variable {catalog}

theorem preferred_eq (name : String) :
    (if catalog.legacyVerbs.contains (upper name) then
        (getLegacyPreferred catalog (upper name)).toList
      else []) = (getLegacyPreferred catalog name).toList := by
  have same : getLegacyPreferred catalog (upper name) = getLegacyPreferred catalog name := by
    rw [getLegacyPreferred, TextCase.upper_upper, getLegacyPreferred]
  split
  · rw [same]
  · next other =>
      have absent : catalog.legacy.lookup (upper name) = none := by
        rw [List.lookup_eq_none_iff]
        intro entry member
        rw [bne_iff_ne]
        intro equal
        apply other
        rw [List.contains_iff_mem, Catalog.legacyVerbs, List.mem_map]
        exact ⟨entry, member, equal.symm⟩
      rw [getLegacyPreferred, absent]
      rfl

theorem findCloseMatches_eq (order : SetOrder catalog.protocolVerbs) (name : String)
    (maxDistance limit : Nat) :
    findCloseMatches catalog order name maxDistance limit =
      ((getLegacyPreferred catalog name).toList ++
        (((scored order.listed (upper name) maxDistance).mergeSort isBefore).map Prod.snd).filter
          (!(getLegacyPreferred catalog name).toList.contains ·)).take limit := by
  have distinct := nodup_scored order.distinct (upper name) maxDistance
  have ranked := (List.mergeSort_perm (scored order.listed (upper name) maxDistance)
    isBefore).map Prod.snd
  simp only [findCloseMatches, preferred_eq]
  exact take_suggest limit _ _ (ranked.nodup_iff.mpr distinct)

def Nearer (name earlier later : String) : Prop :=
  toLex (levenshtein (upper name) earlier, earlier) <
    toLex (levenshtein (upper name) later, later)

/-- The list is what the documentation promises for the name. -/
structure CloseMatches (catalog : Catalog) (name : String) (maxDistance limit : Nat)
    (out : List String) : Prop where
  bounded : out.length ≤ limit
  distinct : out.Nodup
  approved : ∀ verb ∈ out, verb ∈ catalog.approved
  preferred : ∀ verb, getLegacyPreferred catalog name = some verb → 0 < limit →
    out.head? = some verb
  near : ∀ verb ∈ out, getLegacyPreferred catalog name ≠ some verb →
    levenshtein (upper name) verb ≤ maxDistance
  ordered : out.Pairwise fun earlier later =>
    getLegacyPreferred catalog name ≠ some earlier → Nearer name earlier later
  /-- A verb is left out for want of room, and every listed one is nearer. -/
  complete : ∀ verb ∈ catalog.approved, levenshtein (upper name) verb ≤ maxDistance →
    verb ∉ out → out.length = limit ∧ ∀ listed ∈ out,
      getLegacyPreferred catalog name ≠ some listed → Nearer name listed verb

structure Coherent (catalog : Catalog) : Prop where
  embedded : ∀ verb ∈ catalog.embedded, verb ∈ catalog.approved
  replacements : ∀ entry ∈ catalog.legacy, entry.2 ∈ catalog.approved

omit [TextCase] in
theorem Coherent.approved_of_protocol (coherent : Coherent catalog) {verb : String}
    (member : verb ∈ catalog.protocolVerbs) : verb ∈ catalog.approved :=
  (List.mem_append.mp member).elim id (coherent.embedded verb)

theorem Coherent.approved_of_preferred (coherent : Coherent catalog) {name verb : String}
    (preferred : getLegacyPreferred catalog name = some verb) : verb ∈ catalog.approved := by
  rcases Option.filter_eq_some_iff.mp preferred with ⟨found, _⟩
  rcases List.lookup_eq_some_iff.mp found with ⟨front, back, entries, _⟩
  exact coherent.replacements (upper name, verb) (entries ▸ List.mem_append_cons_self)

theorem pairwise_ranked (order : SetOrder catalog.protocolVerbs) (name : String)
    (maxDistance : Nat) :
    (((scored order.listed (upper name) maxDistance).mergeSort isBefore).map
      Prod.snd).Pairwise (Nearer name) := by
  have sorted := KeyOrder.pairwise_mergeSort isBefore_iff
    (scored order.listed (upper name) maxDistance)
  have ranked := List.mergeSort_perm (scored order.listed (upper name) maxDistance) isBefore
  have distinct := (ranked.map Prod.snd).nodup_iff.mpr
    (nodup_scored order.distinct (upper name) maxDistance)
  rw [List.pairwise_map]
  apply (sorted.and (List.pairwise_map.mp distinct)).imp_of_mem
  rintro earlier later member laterMember ⟨below, differs⟩
  have number := (mem_scored.mp (List.mem_mergeSort.mp member)).2.2.1
  have laterNumber := (mem_scored.mp (List.mem_mergeSort.mp laterMember)).2.2.1
  rw [Nearer, ← number, ← laterNumber]
  exact lt_of_le_of_ne below fun same => differs (congrArg (Prod.snd ∘ ofLex) same)

theorem closeMatches (coherent : Coherent catalog) (order : SetOrder catalog.protocolVerbs)
    {name : String} (unknown : catalog.isApprovedVerb name = false) (maxDistance limit : Nat) :
    CloseMatches catalog name maxDistance limit
      (findCloseMatches catalog order name maxDistance limit) := by
  let preferred := getLegacyPreferred catalog name
  let ranked :=
    ((scored order.listed (upper name) maxDistance).mergeSort isBefore).map Prod.snd
  let others := ranked.filter (!preferred.toList.contains ·)
  have memberRanked (verb : String) : verb ∈ ranked ↔
      verb ∈ catalog.protocolVerbs ∧ verb ≠ upper name ∧
        levenshtein (upper name) verb ≤ maxDistance := by
    simp only [ranked, List.mem_map, List.mem_mergeSort, mem_scored, order.same]
    constructor
    · rintro ⟨⟨number, candidate⟩, ⟨member, differs, same, near⟩, rfl⟩
      exact ⟨member, differs, same ▸ near⟩
    · intro ⟨member, differs, near⟩
      exact ⟨(levenshtein (upper name) verb, verb), ⟨member, differs, rfl, near⟩, rfl⟩
  have memberOthers (verb : String) :
      verb ∈ others ↔ verb ∈ ranked ∧ preferred ≠ some verb := by
    rw [List.mem_filter, Bool.not_eq_true', Bool.eq_false_iff, Ne, List.contains_iff_mem,
      Option.mem_toList]
  have outside (verb : String) (member : verb ∈ catalog.protocolVerbs) :
      verb ≠ upper name := by
    intro same
    rw [Catalog.isApprovedVerb, ← same] at unknown
    exact Bool.false_ne_true (unknown.symm.trans (List.contains_iff_mem.mpr member))
  -- before the limit is applied, every verb but the replacement is nearer than those behind it
  have ordered : (preferred.toList ++ others).Pairwise fun earlier later =>
      preferred ≠ some earlier → Nearer name earlier later := by
    rw [List.pairwise_append]
    refine ⟨?_, ?_, ?_⟩
    · cases preferred <;> simp
    · apply List.Pairwise.imp _ ((pairwise_ranked order name maxDistance).filter _)
      intro earlier later nearer _
      exact nearer
    · intro earlier first later _ differs
      exact absurd (Option.mem_toList.mp first) differs
  have distinct : (preferred.toList ++ others).Nodup := by
    rw [List.nodup_append]
    refine ⟨?_, ?_, ?_⟩
    · cases preferred <;> simp
    · exact ((pairwise_ranked order name maxDistance).imp
        fun {earlier later} nearer same => (same ▸ nearer).ne rfl).filter _
    · intro earlier first later member same
      exact ((memberOthers later).mp member).2 (same ▸ Option.mem_toList.mp first)
  have approved (verb : String) (member : verb ∈ preferred.toList ++ others) :
      verb ∈ catalog.approved := by
    rcases List.mem_append.mp member with first | other
    · exact coherent.approved_of_preferred (Option.mem_toList.mp first)
    · exact coherent.approved_of_protocol
        ((memberRanked verb).mp ((memberOthers verb).mp other).1).1
  have whole : findCloseMatches catalog order name maxDistance limit =
      (preferred.toList ++ others).take limit := findCloseMatches_eq order name maxDistance limit
  rw [whole]
  have listed {verb : String} (member : verb ∈ (preferred.toList ++ others).take limit) :=
    (List.take_sublist limit (preferred.toList ++ others)).subset member
  constructor
  · exact List.length_take_le limit _
  · exact distinct.sublist (List.take_sublist limit _)
  · exact fun verb member => approved verb (listed member)
  · intro verb first room
    have replaced : preferred = some verb := first
    cases limit with
    | zero => exact absurd room (Nat.lt_irrefl 0)
    | succ limit => simp [replaced]
  · intro verb member differs
    rcases List.mem_append.mp (listed member) with first | other
    · exact absurd (Option.mem_toList.mp first) differs
    · exact ((memberRanked verb).mp ((memberOthers verb).mp other).1).2.2
  · exact ordered.sublist (List.take_sublist limit _)
  · intro verb member near missing
    have found : verb ∈ preferred.toList ++ others := by
      by_cases first : preferred = some verb
      · exact List.mem_append_left _ (Option.mem_toList.mpr first)
      · have protocol : verb ∈ catalog.protocolVerbs := List.mem_append_left _ member
        exact List.mem_append_right _ ((memberOthers verb).mpr
          ⟨(memberRanked verb).mpr ⟨protocol, outside verb protocol, near⟩, first⟩)
    rw [← List.take_append_drop limit (preferred.toList ++ others)] at found ordered
    have dropped := (List.mem_append.mp found).resolve_left missing
    have long : limit < (preferred.toList ++ others).length := by
      have some := List.length_pos_of_mem dropped
      rw [List.length_drop] at some
      omega
    refine ⟨List.length_take_of_le long.le, ?_⟩
    intro other present differs
    exact (List.pairwise_append.mp ordered).2.2 other present verb dropped differs

theorem findCloseMatches_default (order : SetOrder catalog.protocolVerbs) (name : String)
    (spelt : ∀ entry ∈ catalog.legacy, entry.2 ≠ "") :
    catalog.findCloseMatches name = findCloseMatches catalog order name 2 3 := by
  have preferred : catalog.legacy.lookup (upper name) = getLegacyPreferred catalog name := by
    unfold getLegacyPreferred
    cases found : catalog.legacy.lookup (upper name) with
    | none => rfl
    | some verb =>
        rcases List.lookup_eq_some_iff.mp found with ⟨front, back, entries, _⟩
        have filled : verb ≠ "" := spelt (upper name, verb) (entries ▸ List.mem_append_cons_self)
        exact (Option.filter_eq_some_iff.mpr ⟨rfl, by simpa using filled⟩).symm
  let known := ((catalog.protocolVerbs.dedup.filter (· ≠ upper name)).map
    fun candidate => (Catalog.levenshtein (upper name) candidate, candidate)).filter (·.1 ≤ 2)
  have member (entry : Nat × String) :
      entry ∈ known ↔ entry ∈ scored order.listed (upper name) 2 := by
    rcases entry with ⟨number, verb⟩
    simp only [known, List.mem_filter, List.mem_map, List.mem_dedup, mem_scored, order.same,
      levenshtein, twoRowDistance_eq_distance, Catalog.levenshtein_eq_distance, Prod.mk.injEq,
      decide_eq_true_eq, decide_not, Bool.not_eq_true', decide_eq_false_iff_not]
    constructor
    · rintro ⟨⟨candidate, ⟨within, differs⟩, rfl, rfl⟩, near⟩
      exact ⟨within, differs, rfl, near⟩
    · rintro ⟨within, differs, number, near⟩
      exact ⟨⟨verb, ⟨within, differs⟩, number.symm, rfl⟩, near⟩
  have knownDistinct : known.Nodup := by
    apply ((catalog.protocolVerbs.nodup_dedup.filter _).map _).filter
    exact fun first second same => congrArg Prod.snd same
  have distinct := List.Nodup.of_map Prod.snd (nodup_scored order.distinct (upper name) 2)
  have keys {entries : List (Nat × String)} (nodup : entries.Nodup) :
      (entries.map toLex).Nodup := nodup.map toLex.injective
  have ranked := KeyOrder.filter_mergeSort_eq isBefore_iff
    (keys knownDistinct) (keys distinct)
    (fun entry (_ : (fun _ => true) entry = true) => member entry)
  rw [List.filter_true, List.filter_true] at ranked
  rw [findCloseMatches_eq, ← ranked, ← preferred]
  rfl

omit [TextCase] in
theorem coherent_agtpCatalog : Coherent agtpCatalog where
  embedded := by decide +kernel
  replacements := by decide +kernel

/-- Both distances are the least number of edits, and the suggestions for a verb that the
protocol does not know are the closest ones. -/
theorem suggestions_exact :
    (∀ first second : String,
      IsLeast {count | Edits count first.toList second.toList} (levenshtein first second) ∧
      Negotiation.levenshtein first second = levenshtein first second ∧
      levenshtein second first = levenshtein first second) ∧
    ∀ (order : SetOrder agtpCatalog.protocolVerbs) (name : String) (maxDistance limit : Nat),
      agtpCatalog.isApprovedVerb name = false →
      CloseMatches agtpCatalog name maxDistance limit
        (findCloseMatches agtpCatalog order name maxDistance limit) := by
  constructor
  · intro first second
    refine ⟨?_, rfl, ?_⟩
    · rw [levenshtein, twoRowDistance_eq_distance]
      exact EditDistance.isLeast_distance first.toList second.toList
    · rw [levenshtein, levenshtein, twoRowDistance_eq_distance, twoRowDistance_eq_distance,
        EditDistance.distance_comm]
  · intro order name maxDistance limit unknown
    exact closeMatches coherent_agtpCatalog order unknown maxDistance limit

end Methods

namespace SuggestionSamples

open Methods
open scoped Plain

/-- A misspelt verb, and a legacy one with room for its replacement only. -/
theorem unknownVerbs :
    CloseMatches agtpCatalog "FETHC" 2 3
        (findCloseMatches agtpCatalog (.ofList _) "FETHC" 2 3) ∧
      CloseMatches agtpCatalog "get" 2 1
        (findCloseMatches agtpCatalog (.ofList _) "get" 2 1) :=
  ⟨suggestions_exact.2 (.ofList _) "FETHC" 2 3 (by decide +kernel),
    suggestions_exact.2 (.ofList _) "get" 2 1 (by decide +kernel)⟩

end SuggestionSamples

end Agtp
