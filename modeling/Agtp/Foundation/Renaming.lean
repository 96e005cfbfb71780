import Agtp.Foundation.Dict

/-! # Renamed keys

The entries of a dictionary under other keys, by a table, and back by the table that is read the
other way. -/

namespace Agtp.Dict

universe u v

variable {Key : Type u} {Value : Type v} [DecidableEq Key]

theorem mem_of_ofList {pairs : List (Key × Value)} {entry : Key × Value}
    (member : entry ∈ (ofList pairs).entries) : entry ∈ pairs := by
  have held := (get?_eq_some_iff (ofList pairs)).mpr member
  rw [get?_ofList] at held
  rcases Option.map_eq_some_iff.mp held with ⟨found, search, same⟩
  have key : found.1 = entry.1 := by simpa using List.find?_some search
  have whole : found = entry := Prod.ext key same
  rw [← whole]
  exact List.mem_reverse.mp (List.mem_of_find?_eq_some search)

/-! ## Keys by a function -/

def rename (dictionary : Dict Key Value) (name : Key → Key) : Dict Key Value :=
  ofList (dictionary.entries.map fun entry => (name entry.1, entry.2))

/-- Keys that come to the same one have the same value. -/
def Apart (dictionary : Dict Key Value) (name : Key → Key) : Prop :=
  ∀ first second left right, dictionary.get? first = some left →
    dictionary.get? second = some right → name first = name second → left = right

theorem get?_rename (dictionary : Dict Key Value) (name : Key → Key) (key : Key) :
    (dictionary.rename name).get? key =
      (dictionary.entries.reverse.find? fun entry => name entry.1 = key).map Prod.snd := by
  rw [rename, get?_ofList, ← List.map_reverse, List.find?_map, Option.map_map]
  rfl

theorem source_of_rename {dictionary : Dict Key Value} {name : Key → Key} {key : Key}
    {value : Value} (held : (dictionary.rename name).get? key = some value) :
    ∃ source, dictionary.get? source = some value ∧ name source = key := by
  rw [get?_rename] at held
  rcases Option.map_eq_some_iff.mp held with ⟨entry, found, same⟩
  have member := List.mem_reverse.mp (List.mem_of_find?_eq_some found)
  have named : name entry.1 = key := by simpa using List.find?_some found
  rw [← same]
  exact ⟨entry.1, (get?_eq_some_iff dictionary).mpr member, named⟩

theorem rename_of_held {dictionary : Dict Key Value} {key : Key} {value : Value}
    (held : dictionary.get? key = some value) (name : Key → Key) :
    ∃ other, (dictionary.rename name).get? (name key) = some other := by
  rw [get?_rename]
  cases found : dictionary.entries.reverse.find? fun entry => name entry.1 = name key with
  | some entry => exact ⟨entry.2, rfl⟩
  | none =>
      have member := List.mem_reverse.mpr ((get?_eq_some_iff dictionary).mp held)
      have missing := List.find?_eq_none.mp found (key, value) member
      simp at missing

theorem rename_keeps_iff (dictionary : Dict Key Value) (name : Key → Key) :
    (∀ key value, dictionary.get? key = some value →
      (dictionary.rename name).get? (name key) = some value) ↔ dictionary.Apart name := by
  constructor
  · intro keeps first second left right heldLeft heldRight same
    have kept := keeps first left heldLeft
    rw [same, keeps second right heldRight] at kept
    exact (Option.some.inj kept).symm
  · intro apart key value held
    rcases rename_of_held held name with ⟨other, kept⟩
    rcases source_of_rename kept with ⟨source, heldSource, same⟩
    rw [kept, apart source key other value heldSource held same]

theorem rename_id {dictionary : Dict Key Value} {name : Key → Key}
    (same : ∀ key, name key = key) : dictionary.rename name = dictionary := by
  unfold rename
  simp only [same]
  exact (congrArg ofList (List.map_id' _)).trans (ofList_entries dictionary)

/-! ## Keys by a table -/

/-- The key of the table, or else the key itself. -/
def renamed (table : Dict Key Key) (key : Key) : Key := (table.get? key).getD key

/-- The table read the other way. Of the keys of one value the last counts. -/
def inverted (table : Dict Key Key) : Dict Key Key := ofList (table.entries.map Prod.swap)

def restored (table : Dict Key Key) (key : Key) : Key := (table.inverted.get? key).getD key

theorem get?_inverted {table : Dict Key Key} {key origin : Key}
    (found : table.inverted.get? key = some origin) : table.get? origin = some key := by
  rw [inverted, get?_ofList] at found
  rcases Option.map_eq_some_iff.mp found with ⟨pair, isPair, same⟩
  have member := List.mem_reverse.mp (List.mem_of_find?_eq_some isPair)
  have named : pair.1 = key := by simpa using List.find?_some isPair
  rcases List.mem_map.mp member with ⟨entry, held, swapped⟩
  rw [← swapped] at same named
  rw [← same, ← named]
  exact (get?_eq_some_iff table).mpr held

theorem inverted_of_get? {table : Dict Key Key} {key origin : Key}
    (held : table.get? origin = some key) : ∃ other, table.inverted.get? key = some other := by
  rw [inverted, get?_ofList]
  cases found : (table.entries.map Prod.swap).reverse.find? fun pair => pair.1 = key with
  | some pair => exact ⟨pair.2, rfl⟩
  | none =>
      have member := List.mem_reverse.mpr
        (List.mem_map_of_mem (f := Prod.swap) ((get?_eq_some_iff table).mp held))
      have missing := List.find?_eq_none.mp found _ member
      simp at missing

theorem restored_renamed_idem (table : Dict Key Key) (key : Key) :
    table.restored (table.renamed (table.restored (table.renamed key))) =
      table.restored (table.renamed key) := by
  cases found : table.inverted.get? (table.renamed key) with
  | some origin =>
      have back : table.restored (table.renamed key) = origin := by rw [restored, found]; rfl
      have again : table.renamed origin = table.renamed key := by
        conv_lhs => rw [renamed, get?_inverted found]
        rfl
      rw [back, again, back]
  | none =>
      have back : table.restored (table.renamed key) = table.renamed key := by
        rw [restored, found]
        rfl
      have own : table.renamed key = key := by
        cases held : table.get? key with
        | none => rw [renamed, held]; rfl
        | some value =>
            rcases inverted_of_get? held with ⟨other, isOther⟩
            rw [renamed, held] at found
            exact nomatch isOther.symm.trans found
      have fixed : table.restored (table.renamed key) = key := back.trans own
      rw [fixed, fixed]

theorem rename_restored_iff (dictionary : Dict Key Value) (table : Dict Key Key) :
    (∀ key, ((dictionary.rename table.renamed).rename table.restored).get? key =
      dictionary.get? key) ↔
      ∀ key ∈ dictionary.keys, table.restored (table.renamed key) = key := by
  constructor
  · intro same key member
    rcases List.mem_map.mp member with ⟨entry, held, isKey⟩
    have found : dictionary.get? key = some entry.2 := by
      rw [← isKey]
      exact (get?_eq_some_iff dictionary).mpr held
    rw [← same key] at found
    rcases source_of_rename found with ⟨middle, between, back⟩
    rcases source_of_rename between with ⟨source, _, forth⟩
    have comes : table.restored (table.renamed source) = key := by rw [forth, back]
    rw [← comes, restored_renamed_idem]
  · intro comes
    have own {key : Key} {value : Value} (held : dictionary.get? key = some value) :
        table.restored (table.renamed key) = key := comes key (mem_keys_of_get? _ held)
    have apart : dictionary.Apart table.renamed := by
      intro first second left right heldLeft heldRight same
      have equal : first = second := by rw [← own heldLeft, same, own heldRight]
      rw [equal, heldRight] at heldLeft
      exact (Option.some.inj heldLeft).symm
    have kept := (rename_keeps_iff dictionary table.renamed).mpr apart
    have apartBack : (dictionary.rename table.renamed).Apart table.restored := by
      intro first second left right heldLeft heldRight same
      rcases source_of_rename heldLeft with ⟨origin, heldOrigin, isFirst⟩
      rcases source_of_rename heldRight with ⟨other, heldOther, isSecond⟩
      rw [← isFirst, ← isSecond, own heldOrigin, own heldOther] at same
      rw [same, heldOther] at heldOrigin
      exact (Option.some.inj heldOrigin).symm
    have keptBack := (rename_keeps_iff _ table.restored).mpr apartBack
    intro key
    apply Option.ext
    intro value
    constructor
    · intro held
      rcases source_of_rename held with ⟨middle, between, back⟩
      rcases source_of_rename between with ⟨source, heldSource, forth⟩
      have equal : source = key := by rw [← own heldSource, forth, back]
      rw [← equal]
      exact heldSource
    · intro held
      have back := keptBack _ value (kept key value held)
      rwa [own held] at back

end Agtp.Dict
