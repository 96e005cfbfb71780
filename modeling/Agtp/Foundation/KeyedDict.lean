import Agtp.Foundation.StandardJson

/-! # Dictionaries with other keys than texts

What `dict` makes of pairs, in what order `json.dumps` writes such a dictionary with
`sort_keys=True`, and what its keys are written as. -/

namespace Agtp

/-- A value that can be a key. -/
inductive DictKey where
  | null
  | bool (value : Bool)
  | int (value : Int)
  | float (printed : String)
  | text (value : String)

namespace DictKey

/-- A key as `json.dumps` writes it. -/
def printed : DictKey → String
  | null => "null"
  | bool true => "true"
  | bool false => "false"
  | int value => toString value
  | float printed => String.ofList (JsonText.floatText printed)
  | text value => value

def isText : DictKey → Bool
  | text _ => true
  | _ => false

def isNumber : DictKey → Bool
  | bool _ | int _ | float _ => true
  | _ => false

/-- Lists and dictionaries are no keys. -/
def ofJson? : Json → Option DictKey
  | .null => some null
  | .bool value => some (bool value)
  | .int value => some (int value)
  | .float printed => some (float printed)
  | .string value => some (text value)
  | _ => none

/-- Floats are kept as they print. -/
def Held [Floats] : DictKey → Prop
  | float printed => JsonText.Printed printed
  | _ => True

variable [Floats]

/-- The value of a number. -/
def amount : DictKey → Double
  | bool value => .finite (if value then 1 else 0)
  | int value => .finite value
  | float printed => Floats.value printed
  | _ => .nan

/-- `==` on keys. -/
def same : DictKey → DictKey → Bool
  | text left, text right => left = right
  | null, null => true
  | left, right => left.isNumber && right.isNumber && left.amount = right.amount

theorem same_self (key : DictKey) : key.same key = true := by
  cases key <;> simp [same, isNumber]

theorem eq_of_printed {left right : DictKey} (leftHeld : left.Held) (rightHeld : right.Held)
    (leftNumber : left.isNumber = true) (rightNumber : right.isNumber = true)
    (same : left.printed = right.printed) : left = right := by
  have first {key : DictKey} (held : key.Held) (number : key.isNumber = true) :
      JsonText.tokens key.printed.toList =
        match key with
        | bool value => [.literal (.bool value)]
        | int value =>
            [.numeral (decide (value < 0)) (Nat.toDigits 10 value.natAbs)]
        | float printed => [.literal (.float printed)]
        | _ => [] := by
    have stops : JsonText.Stops [] := nofun
    cases key with
    | null => cases number
    | text => cases number
    | bool value =>
        cases value with
        | true =>
            change JsonText.tokens ('t' :: ("rue".toList ++ [])) = _
            rw [JsonText.tokens_word rfl rfl rfl, JsonText.tokens_nil]
        | false =>
            change JsonText.tokens ('f' :: ("alse".toList ++ [])) = _
            rw [JsonText.tokens_word rfl rfl rfl, JsonText.tokens_nil]
    | int value =>
        have read := JsonText.tokens_int stops value
        rwa [List.append_nil, JsonText.tokens_nil] at read
    | float printed =>
        have read := JsonText.tokens_float held stops
        rw [List.append_nil, JsonText.tokens_nil] at read
        rw [DictKey.printed, String.toList_ofList, read]
  have tokens := congrArg (JsonText.tokens ∘ String.toList) same
  dsimp only [Function.comp_apply] at tokens
  rw [first leftHeld leftNumber, first rightHeld rightNumber] at tokens
  cases left with
  | null => cases leftNumber
  | text => cases leftNumber
  | bool value =>
      cases right with
      | bool other =>
          cases tokens
          rfl
      | _ => cases tokens
  | int value =>
      cases right with
      | int other =>
          simp only [List.cons.injEq, JsonText.Token.numeral.injEq] at tokens
          rw [← JsonText.integer_toDigits value, ← JsonText.integer_toDigits other, tokens.1.1,
            tokens.1.2]
      | _ => cases tokens
  | float printed =>
      cases right with
      | float other =>
          cases tokens
          rfl
      | _ => cases tokens

end DictKey

/-- The entries of a dictionary. -/
abbrev KeyedEntries := List (DictKey × Json)

namespace KeyedEntries

variable [Floats]

/-- `dictionary[key] = value`. The first of equal keys is kept. -/
def set (key : DictKey) (value : Json) : KeyedEntries → KeyedEntries
  | [] => [(key, value)]
  | (held, old) :: rest =>
      if held.same key then (held, value) :: rest else (held, old) :: set key value rest

/-- No two keys are equal. -/
def Distinct (entries : KeyedEntries) : Prop :=
  entries.Pairwise fun left right => left.1.same right.1 = false

theorem mem_set {key : DictKey} {value : Json} {entries : KeyedEntries}
    {entry : DictKey × Json} (member : entry ∈ set key value entries) :
    entry.1 = key ∧ entry.2 = value ∨
      ∃ old, (entry.1, old) ∈ entries ∧ (entry.2 = value ∨ entry.2 = old) := by
  induction entries with
  | nil =>
      rw [set, List.mem_singleton] at member
      rw [member]
      exact .inl ⟨rfl, rfl⟩
  | cons first rest induction =>
      obtain ⟨held, old⟩ := first
      rw [set] at member
      split at member
      · rcases List.mem_cons.mp member with equal | later
        · rw [equal]
          exact .inr ⟨old, List.mem_cons_self, .inl rfl⟩
        · exact .inr ⟨entry.2, List.mem_cons_of_mem _ later, .inr rfl⟩
      · rcases List.mem_cons.mp member with equal | later
        · rw [equal]
          exact .inr ⟨old, List.mem_cons_self, .inr rfl⟩
        · rcases induction later with own | ⟨found, within, held⟩
          · exact .inl own
          · exact .inr ⟨found, List.mem_cons_of_mem _ within, held⟩

theorem distinct_set {entries : KeyedEntries} (distinct : entries.Distinct) (key : DictKey)
    (value : Json) : (set key value entries).Distinct := by
  induction entries with
  | nil => exact List.pairwise_singleton _ _
  | cons first rest induction =>
      obtain ⟨held, old⟩ := first
      obtain ⟨apart, later⟩ := List.pairwise_cons.mp distinct
      rw [set]
      split
      · exact List.pairwise_cons.mpr ⟨apart, later⟩
      · next other =>
          refine List.pairwise_cons.mpr ⟨?_, induction later⟩
          intro entry member
          rcases mem_set member with ⟨own, _⟩ | ⟨found, within, _⟩
          · rw [own]
            exact Bool.eq_false_iff.mpr other
          · exact apart (entry.1, found) within

/-- `dict(pairs)`. -/
def ofPairs (pairs : List (DictKey × Json)) : KeyedEntries :=
  pairs.foldl (fun entries pair => set pair.1 pair.2 entries) []

theorem distinct_ofPairs (pairs : List (DictKey × Json)) : (ofPairs pairs).Distinct := by
  have fold (entries : KeyedEntries) (distinct : entries.Distinct) :
      Distinct (pairs.foldl (fun entries pair => set pair.1 pair.2 entries) entries) := by
    induction pairs generalizing entries with
    | nil => exact distinct
    | cons pair pairs induction => exact induction _ (distinct_set distinct _ _)
  exact fold [] .nil

theorem forall_mem_ofPairs {pairs : List (DictKey × Json)} {Keys : DictKey → Prop}
    {Values : Json → Prop} (all : ∀ pair ∈ pairs, Keys pair.1 ∧ Values pair.2) :
    ∀ entry ∈ ofPairs pairs, Keys entry.1 ∧ Values entry.2 := by
  have fold (entries : KeyedEntries) (held : ∀ entry ∈ entries, Keys entry.1 ∧ Values entry.2) :
      ∀ entry ∈ pairs.foldl (fun entries pair => set pair.1 pair.2 entries) entries,
        Keys entry.1 ∧ Values entry.2 := by
    induction pairs generalizing entries with
    | nil => exact held
    | cons pair pairs induction =>
        have first := all pair List.mem_cons_self
        apply induction fun other member => all other (List.mem_cons_of_mem _ member)
        intro entry member
        rcases mem_set member with ⟨key, value⟩ | ⟨old, within, value | value⟩
        · rw [key, value]
          exact first
        · rw [value]
          exact ⟨(held _ within).1, first.2⟩
        · rw [value]
          exact held _ within
  exact fold [] fun _ none => absurd none List.not_mem_nil

/-! ## Order -/

def sorted (entries : KeyedEntries) : Option KeyedEntries :=
  if entries.length ≤ 1 then some entries
  else if entries.all (·.1.isText) then
    some (entries.insertionSort fun left right => left.1.printed ≤ right.1.printed)
  else if entries.all (·.1.isNumber) then
    some (entries.insertionSort fun left right => left.1.amount.le right.1.amount = true)
  else none

/-- The entries as `json.dumps` writes them. -/
def members (entries : KeyedEntries) : List (String × Json) :=
  entries.map fun entry => (entry.1.printed, entry.2)

/-- The keys can be sorted, and what they are written as is then in order too. -/
def Orderly (entries : KeyedEntries) : Prop :=
  ∃ inOrder, entries.sorted = some inOrder ∧
    inOrder.members.Pairwise fun left right => left.1 ≤ right.1

variable {entries inOrder : KeyedEntries}

theorem perm_sorted (sorts : entries.sorted = some inOrder) : inOrder.Perm entries := by
  unfold sorted at sorts
  split at sorts
  · cases sorts
    exact .refl _
  · split at sorts
    · cases sorts
      exact List.perm_insertionSort _ _
    · split at sorts
      · cases sorts
        exact List.perm_insertionSort _ _
      · cases sorts

theorem nodup_of_sorted (distinct : entries.Distinct)
    (held : ∀ entry ∈ entries, entry.1.Held) (sorts : entries.sorted = some inOrder) :
    (inOrder.members.map Prod.fst).Nodup := by
  have apart (alike : ∀ left ∈ entries, ∀ right ∈ entries,
      left.1.printed = right.1.printed → left.1 = right.1) :
      (entries.members.map Prod.fst).Nodup := by
    rw [members, List.map_map, List.Nodup, List.pairwise_map]
    refine distinct.imp_of_mem ?_
    intro left right leftMember rightMember different equal
    rw [alike left leftMember right rightMember equal, DictKey.same_self] at different
    cases different
  have permuted : (inOrder.members.map Prod.fst).Perm (entries.members.map Prod.fst) :=
    ((perm_sorted sorts).map _).map _
  rw [permuted.nodup_iff]
  unfold sorted at sorts
  split at sorts
  · next few =>
      apply apart
      intro left leftMember right rightMember _
      match entries, few with
      | [], _ => cases leftMember
      | [entry], _ =>
          rw [List.mem_singleton.mp leftMember, List.mem_singleton.mp rightMember]
  · split at sorts
    · next texts =>
        apply apart
        intro left leftMember right rightMember equal
        have leftText := List.all_eq_true.mp texts left leftMember
        have rightText := List.all_eq_true.mp texts right rightMember
        obtain ⟨leftKey, leftValue⟩ := left
        obtain ⟨rightKey, rightValue⟩ := right
        cases leftKey with
        | text leftText =>
            cases rightKey with
            | text rightText => exact congrArg DictKey.text equal
            | _ => cases rightText
        | _ => cases leftText
    · split at sorts
      · next numbers =>
          apply apart
          intro left leftMember right rightMember equal
          exact DictKey.eq_of_printed (held left leftMember) (held right rightMember)
            (List.all_eq_true.mp numbers left leftMember)
            (List.all_eq_true.mp numbers right rightMember) equal
      · cases sorts

omit [Floats] in
theorem eq_of_order {left right : List (String × Json)} (permuted : left.Perm right)
    (distinct : (right.map Prod.fst).Nodup)
    (leftOrder : left.Pairwise fun first second => first.1 ≤ second.1)
    (rightOrder : right.Pairwise fun first second => first.1 ≤ second.1) : left = right := by
  apply List.Perm.eq_of_pairwise _ leftOrder rightOrder permuted
  intro first second firstMember secondMember before after
  exact List.inj_on_of_nodup_map distinct (permuted.subset firstMember) secondMember
    (le_antisymm before after)

theorem orderly_of_texts (texts : ∀ entry ∈ entries, entry.1.isText = true) :
    entries.Orderly := by
  unfold Orderly sorted
  by_cases few : entries.length ≤ 1
  · rw [if_pos few]
    refine ⟨entries, rfl, ?_⟩
    match entries, few with
    | [], _ => exact .nil
    | [entry], _ => exact List.pairwise_singleton _ _
  · rw [if_neg few, if_pos (List.all_eq_true.mpr texts)]
    refine ⟨_, rfl, ?_⟩
    have total : Std.Total fun left right : DictKey × Json => left.1.printed ≤ right.1.printed :=
      ⟨fun left right => le_total left.1.printed right.1.printed⟩
    have transitive : IsTrans (DictKey × Json) fun left right =>
        left.1.printed ≤ right.1.printed :=
      ⟨fun _ _ _ first second => le_trans first second⟩
    exact List.pairwise_map.mpr (List.pairwise_insertionSort _ entries)

end KeyedEntries

end Agtp
