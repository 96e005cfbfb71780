import Agtp.Foundation.JsonReading
import Agtp.Presence.PartitionRuns

/-! # Scope keys

When the text of a scope, and the overlay key of a partition leaf, determine what they were
made from. -/

/-! ## Marked fields

Values that are written one after the other, each behind the mark of its tag. -/

namespace Agtp.Marked

variable {Item Tag : Type} (mark : Tag → List Item)

def write (fields : List (Tag × List Item)) : List Item :=
  fields.flatMap fun field => mark field.1 ++ field.2

structure Separates (tags : List Tag) (start : Item) : Prop where
  begins : ∀ tag ∈ tags, ∃ name, mark tag = start :: name ∧ start ∉ name
  apart : ∀ tag ∈ tags, ∀ other ∈ tags, ∀ rest more, mark tag ++ rest = mark other ++ more →
    tag = other

/-- The tags come in order, and no value has the mark of a tag that may come later. -/
structure Clean (tags : List Tag) (later : Tag → Tag → Prop)
    (fields : List (Tag × List Item)) : Prop where
  known : ∀ field ∈ fields, field.1 ∈ tags
  ordered : fields.Pairwise fun field next => later field.1 next.1
  free : ∀ field ∈ fields, ∀ tag ∈ tags, later field.1 tag → ¬ mark tag <:+: field.2

variable {mark} {tags : List Tag} {start : Item} {later : Tag → Tag → Prop}

theorem Clean.tail {field : Tag × List Item} {fields : List (Tag × List Item)}
    (clean : Clean mark tags later (field :: fields)) : Clean mark tags later fields where
  known := fun next member => clean.known next (List.mem_cons_of_mem field member)
  ordered := (List.pairwise_cons.mp clean.ordered).2
  free := fun next member => clean.free next (List.mem_cons_of_mem field member)

theorem Separates.nil_of_write (separates : Separates mark tags start)
    {fields others : List (Tag × List Item)} (known : ∀ field ∈ fields, field.1 ∈ tags)
    (othersKnown : ∀ field ∈ others, field.1 ∈ tags) (value : List Item) {extra : List Item}
    (free : ∀ field ∈ fields, ¬ mark field.1 <:+: value ++ extra)
    (same : write mark fields = extra ++ write mark others) : extra = [] := by
  cases fields with
  | nil => exact (List.append_eq_nil_iff.mp same.symm).1
  | cons field fields =>
      have marked := free field List.mem_cons_self
      rcases separates.begins field.1 (known field List.mem_cons_self) with ⟨name, begins, once⟩
      rw [write, List.flatMap_cons, List.append_assoc] at same
      rcases List.append_eq_append_iff.mp same with ⟨middle, inside, _⟩ | ⟨middle, split, rest⟩
      · exact absurd ⟨value, middle, by rw [inside, List.append_assoc]⟩ marked
      · cases others with
        | nil =>
            have whole : mark field.1 = extra := by
              rw [split, (List.append_eq_nil_iff.mp rest.symm).1, List.append_nil]
            exact absurd (whole ▸ (List.suffix_append value (mark field.1)).isInfix) marked
        | cons other others =>
            rcases separates.begins other.1 (othersKnown other List.mem_cons_self) with
              ⟨next, otherBegins, _⟩
            cases middle with
            | nil =>
                rw [List.append_nil] at split
                exact absurd (split ▸ (List.suffix_append value (mark field.1)).isInfix) marked
            | cons item middle =>
                have item_eq : item = start := by
                  rw [write, List.flatMap_cons, otherBegins] at rest
                  exact (List.cons.inj rest).1.symm
                cases extra with
                | nil => rfl
                | cons first extra =>
                    rw [begins, item_eq] at split
                    have named := (List.cons.inj split).2
                    exact absurd (named ▸ List.mem_append_right extra List.mem_cons_self) once

theorem Separates.write_injective (separates : Separates mark tags start)
    {fields others : List (Tag × List Item)} (clean : Clean mark tags later fields)
    (othersClean : Clean mark tags later others)
    (same : write mark fields = write mark others) : fields = others := by
  induction fields generalizing others with
  | nil =>
      cases others with
      | nil => rfl
      | cons other others =>
          rcases separates.begins other.1 (othersClean.known other List.mem_cons_self) with
            ⟨name, begins, _⟩
          rw [write, write, List.flatMap_cons, begins] at same
          cases same
  | cons field fields induction =>
      rcases separates.begins field.1 (clean.known field List.mem_cons_self) with
        ⟨name, begins, _⟩
      cases others with
      | nil =>
          rw [write, write, List.flatMap_cons, begins] at same
          cases same
      | cons other others =>
          rcases field with ⟨tag, value⟩
          rcases other with ⟨otherTag, otherValue⟩
          have tail := clean.tail
          have otherTail := othersClean.tail
          rw [write, write, List.flatMap_cons, List.flatMap_cons, List.append_assoc,
            List.append_assoc] at same
          have tags_eq := separates.apart tag (clean.known _ List.mem_cons_self) otherTag
            (othersClean.known _ List.mem_cons_self) _ _ same
          subst tags_eq
          have rest := List.append_cancel_left same
          -- the longer value would end in the mark of a later tag
          rcases List.append_eq_append_iff.mp rest with ⟨extra, longer, more⟩ | ⟨extra, longer, more⟩
          · have none := separates.nil_of_write tail.known otherTail.known value
              (fun next member => longer ▸ othersClean.free _ List.mem_cons_self next.1
                (tail.known next member) ((List.pairwise_cons.mp clean.ordered).1 next member))
              more
            subst none
            have values : otherValue = value := longer.trans (List.append_nil value)
            rw [values, induction tail otherTail more]
          · have none := separates.nil_of_write otherTail.known tail.known otherValue
              (fun next member => longer ▸ clean.free _ List.mem_cons_self next.1
                (otherTail.known next member)
                ((List.pairwise_cons.mp othersClean.ordered).1 next member)) more
            subst none
            have values : value = otherValue := longer.trans (List.append_nil otherValue)
            rw [values, induction tail otherTail more.symm]

end Agtp.Marked

namespace Agtp

/-! ## Scope tuples -/

namespace Scopes

def scopeDimensions : List String :=
  ["tier", "owner-domain", "capability", "industry", "region"]

def mark (dimension : String) : List Char :=
  ", ".toList ++ dimension.toList ++ ": ".toList

def Later (dimension next : String) : Prop :=
  next ∈ (scopeDimensions.dropWhile (· ≠ dimension)).tail

instance (dimension next : String) : Decidable (Later dimension next) :=
  inferInstanceAs (Decidable (_ ∈ _))

theorem separates_mark : Marked.Separates mark scopeDimensions ',' where
  begins := by
    intro dimension member
    refine ⟨(mark dimension).tail, rfl, ?_⟩
    revert dimension
    decide
  apart := by
    intro dimension member other otherMember rest more same
    have long : ∀ name ∈ scopeDimensions, 3 ≤ (mark name).length := by decide
    have first : ∀ name ∈ scopeDimensions, ∀ next ∈ scopeDimensions,
        (mark name).take 3 = (mark next).take 3 → name = next := by decide
    apply first dimension member other otherMember
    rw [← List.take_append_of_le_length (long dimension member), same,
      List.take_append_of_le_length (long other otherMember)]

/-- The arguments of `scope_tuple`. A text is empty where it is not given. -/
structure Scope where
  tier : Option Int
  ownerDomain : String
  capability : String
  industry : String
  region : String

variable [TextCase]

namespace Scope

def dimensions (scope : Scope) : List (String × String) :=
  Scopes.dimensions scope.tier scope.ownerDomain scope.capability scope.industry scope.region

def tuple (scope : Scope) : String :=
  scopeTuple scope.tier scope.ownerDomain scope.capability scope.industry scope.region

def normal (text : String) : String :=
  lower (Text.strip text)

def SameAs (scope other : Scope) : Prop :=
  scope.tier = other.tier ∧ normal scope.ownerDomain = normal other.ownerDomain ∧
    normal scope.capability = normal other.capability ∧
    normal scope.industry = normal other.industry ∧ normal scope.region = normal other.region

instance (scope other : Scope) : Decidable (scope.SameAs other) :=
  inferInstanceAs (Decidable (_ ∧ _ ∧ _ ∧ _ ∧ _))

/-- No space around the owner domain, no text that is only space, and no value with the
mark of a later dimension. -/
structure Regular (scope : Scope) : Prop where
  trimmed : Text.strip scope.ownerDomain = scope.ownerDomain
  filled : ∀ text ∈ [scope.ownerDomain, scope.capability, scope.industry, scope.region],
    normal text = "" → text = ""
  free : ∀ part ∈ scope.dimensions, part.1 ≠ "tier" → ∀ dimension ∈ scopeDimensions,
    Later part.1 dimension → ¬ mark dimension <:+: part.2.toList

theorem normal_empty : normal "" = "" := by
  rw [normal, show Text.strip "" = "" by decide, TextCase.lower_ascii "" (by decide)]
  decide

def field (name value : String) : List (String × String) :=
  if value = "" then [] else [(name, value)]

theorem Regular.dimensions_eq {scope : Scope} (regular : scope.Regular) :
    scope.dimensions = (scope.tier.map fun tier => ("tier", toString tier)).toList ++
      field "owner-domain" (normal scope.ownerDomain) ++
      field "capability" (normal scope.capability) ++
      field "industry" (normal scope.industry) ++ field "region" (normal scope.region) := by
  have piece (name text : String) (member : text ∈
      [scope.ownerDomain, scope.capability, scope.industry, scope.region]) :
      (if text = "" then [] else [(name, normal text)]) = field name (normal text) := by
    unfold field
    by_cases empty : text = ""
    · rw [if_pos empty, if_pos (by rw [empty, normal_empty])]
    · rw [if_neg empty, if_neg fun blank => empty (regular.filled text member blank)]
  have owner : lower scope.ownerDomain = normal scope.ownerDomain := by
    rw [normal, regular.trimmed]
  unfold dimensions Scopes.dimensions
  rw [owner, ← piece "owner-domain" scope.ownerDomain (by simp),
    ← piece "capability" scope.capability (by simp), ← piece "industry" scope.industry (by simp),
    ← piece "region" scope.region (by simp)]
  rfl

omit [TextCase] in
theorem eq_or_isDigit_of_mem {value : Int} {character : Char}
    (member : character ∈ (toString value).toList) :
    character = '-' ∨ character.isDigit = true := by
  rw [JsonText.toString_int] at member
  cases negative : decide (value < 0) with
  | false =>
      rw [negative] at member
      exact .inr (Nat.isDigit_of_mem_toDigits (by decide) (by decide) member)
  | true =>
      rw [negative] at member
      exact (List.mem_cons.mp member).imp id
        (Nat.isDigit_of_mem_toDigits (by decide) (by decide))

omit [TextCase] in
theorem toString_injective : Function.Injective (toString : Int → String) := by
  intro first second same
  have texts := congrArg String.toList same
  rw [JsonText.toString_int, JsonText.toString_int] at texts
  have unsigned (value : Nat) (rest : List Char) : Nat.toDigits 10 value ≠ '-' :: rest := by
    intro equal
    have digit := Nat.isDigit_of_mem_toDigits (by decide : 0 < 10) (by decide)
      (equal ▸ List.mem_cons_self : '-' ∈ Nat.toDigits 10 value)
    exact absurd digit (by decide)
  have firstRead := JsonText.integer_toDigits first
  have secondRead := JsonText.integer_toDigits second
  cases negative : decide (first < 0) <;> cases other : decide (second < 0) <;>
    rw [negative, other] at texts <;> rw [negative] at firstRead <;> rw [other] at secondRead
  · exact firstRead.symm.trans ((congrArg _ texts).trans secondRead)
  · exact absurd texts (unsigned _ _)
  · exact absurd texts.symm (unsigned _ _)
  · exact firstRead.symm.trans ((congrArg _ (List.cons.inj texts).2).trans secondRead)

omit [TextCase] in
theorem lookup_field (name value key : String) :
    (field name value).lookup key = if key = name ∧ value ≠ "" then some value else none := by
  unfold field
  by_cases empty : value = "" <;> by_cases same : key = name <;>
    simp [empty, same, beq_false_of_ne]

omit [TextCase] in
theorem lookup_tier (tier : Option Int) (key : String) :
    (tier.map fun tier => ("tier", toString tier)).toList.lookup key =
      if key = "tier" then tier.map toString else none := by
  cases tier <;> by_cases same : key = "tier" <;> simp [same, beq_false_of_ne]

theorem Regular.sameAs_iff {scope other : Scope} (regular : scope.Regular)
    (otherRegular : other.Regular) : scope.dimensions = other.dimensions ↔ scope.SameAs other := by
  rw [regular.dimensions_eq, otherRegular.dimensions_eq]
  constructor
  · intro same
    have given (value text : String) : ((if value ≠ "" then some value else none) =
        if text ≠ "" then some text else none) → value = text := by
      split <;> split <;> simp_all
    have lookups (name : String) := congrArg (List.lookup name) same
    simp only [List.lookup_append, lookup_field, lookup_tier] at lookups
    refine ⟨?_, ?_, ?_, ?_, ?_⟩
    · exact Option.map_injective toString_injective (by simpa using lookups "tier")
    · exact given _ _ (by simpa using lookups "owner-domain")
    · exact given _ _ (by simpa using lookups "capability")
    · exact given _ _ (by simpa using lookups "industry")
    · exact given _ _ (by simpa using lookups "region")
  · intro ⟨tier, owner, capability, industry, region⟩
    rw [tier, owner, capability, industry, region]

/-! ## The text determines the dimensions -/

def fields (scope : Scope) : List (String × List Char) :=
  scope.dimensions.map fun part => (part.1, part.2.toList)

theorem write_fields (scope : Scope) : ∃ body,
    scope.tuple.toList = '\x7b' :: body ++ ['\x7d'] ∧
      Marked.write mark scope.fields = if body = [] then [] else ", ".toList ++ body := by
  let joined (fields : List (String × List Char)) :=
    ", ".toList.intercalate (fields.map fun part => part.1.toList ++ ": ".toList ++ part.2)
  have filled (part : String × List Char) (rest : List (String × List Char)) :
      joined (part :: rest) ≠ [] := by
    cases rest <;> simp [joined]
  have written (fields : List (String × List Char)) : Marked.write mark fields =
      if joined fields = [] then [] else ", ".toList ++ joined fields := by
    induction fields with
    | nil => rfl
    | cons part rest induction =>
        have step : Marked.write mark (part :: rest) =
            mark part.1 ++ part.2 ++ Marked.write mark rest := rfl
        rw [step, induction, if_neg (filled part rest)]
        cases rest with
        | nil => simp [joined, mark]
        | cons next rest =>
            rw [if_neg (filled next rest)]
            simp [joined, mark]
  refine ⟨joined scope.fields, ?_, written scope.fields⟩
  simp [joined, tuple, scopeTuple, String.toList_intercalate, fields, dimensions,
    Function.comp_def]

theorem Regular.clean {scope : Scope} (regular : scope.Regular) :
    Marked.Clean mark scopeDimensions Later scope.fields := by
  have single (name value : String) : ((field name value).map Prod.fst).Sublist [name] := by
    unfold field
    split <;> simp
  have tier : ((scope.tier.map fun tier => ("tier", toString tier)).toList.map
      Prod.fst).Sublist ["tier"] := by
    cases scope.tier <;> simp
  have names : (scope.fields.map Prod.fst).Sublist scopeDimensions := by
    have parts := (((tier.append (single "owner-domain" (normal scope.ownerDomain))).append
      (single "capability" (normal scope.capability))).append
      (single "industry" (normal scope.industry))).append
      (single "region" (normal scope.region))
    simpa [fields, regular.dimensions_eq, Function.comp_def, scopeDimensions] using parts
  constructor
  · exact fun part member => names.subset (List.mem_map_of_mem member)
  · rw [← List.pairwise_map (f := Prod.fst) (R := Later)]
    exact (by decide : scopeDimensions.Pairwise Later).sublist names
  · intro part member dimension known later inside
    rcases List.mem_map.mp member with ⟨⟨name, value⟩, given, rfl⟩
    by_cases tierPart : name = "tier"
    · rw [regular.dimensions_eq] at given
      have written : ∃ tier : Int, toString tier = value := by
        simp only [field, List.mem_append, Option.mem_toList] at given
        rcases given with (((first | other) | other) | other) | other
        · rcases Option.map_eq_some_iff.mp first with ⟨number, _, same⟩
          exact ⟨number, (Prod.mk.inj same).2⟩
        all_goals split at other <;> simp_all
      rcases written with ⟨tier, rfl⟩
      have comma : ',' ∈ (toString tier).toList := inside.subset List.mem_cons_self
      exact absurd (eq_or_isDigit_of_mem comma) (by decide)
    · exact regular.free _ given tierPart dimension known later inside

theorem Regular.tuple_eq_iff {scope other : Scope} (regular : scope.Regular)
    (otherRegular : other.Regular) : scope.tuple = other.tuple ↔ scope.SameAs other := by
  rw [← regular.sameAs_iff otherRegular]
  constructor
  · intro same
    rcases write_fields scope with ⟨body, text, written⟩
    rcases write_fields other with ⟨otherBody, otherText, otherWritten⟩
    have texts := text.symm.trans ((congrArg String.toList same).trans otherText)
    have bodies : body = otherBody := List.append_cancel_right (List.cons.inj texts).2
    have fields := separates_mark.write_injective regular.clean otherRegular.clean
      (written.trans (bodies ▸ otherWritten.symm))
    apply List.map_injective_iff.mpr _ fields
    intro first second equal
    exact Prod.ext (Prod.mk.inj equal).1 (String.toList_injective (Prod.mk.inj equal).2)
  · intro same
    unfold dimensions at same
    simp only [tuple, scopeTuple, same]

end Scope

end Scopes

/-! ## Overlay keys -/

namespace PartitionManager

def Shadows (base : String) (node : List Bool) (other : String) (leaf : List Bool) : Prop :=
  node = [] ∧ leaf ≠ [] ∧ base = other ++ "#" ++ digits leaf

theorem label_injective {base other : String} {node leaf : List Bool}
    (same : base ++ "#" ++ digits node = other ++ "#" ++ digits leaf) :
    base = other ∧ node = leaf := by
  have plain (node : List Bool) : ∀ character ∈ (digits node).toList.reverse,
      (character != '#') = true := by
    intro character member
    simp only [digits, String.toList_ofList, List.mem_reverse, List.mem_map] at member
    rcases member with ⟨digit, _, rfl⟩
    cases digit <;> decide
  have texts := congrArg (fun text => text.toList.reverse) same
  simp only [String.toList_append, List.reverse_append] at texts
  have ends := congrArg (List.takeWhile (· != '#')) texts
  have fronts := congrArg (List.dropWhile (· != '#')) texts
  rw [List.takeWhile_append_of_pos (plain node), List.takeWhile_append_of_pos (plain leaf)]
    at ends
  rw [List.dropWhile_append_of_pos (plain node), List.dropWhile_append_of_pos (plain leaf)]
    at fronts
  have digitsEq : (digits node).toList = (digits leaf).toList := by simpa using ends
  have bases : base.toList = other.toList := by simpa using fronts
  exact ⟨String.toList_injective bases, digits_injective (String.toList_injective digitsEq)⟩

end PartitionManager

/-- The text of a scope determines its dimensions, and the overlay key its leaf. -/
theorem scopeKeys_unambiguous [TextCase] [Digest]
    (injective : Function.Injective Digest.sha256) :
    (∀ scope other : Scopes.Scope, scope.Regular → other.Regular →
      (scope.tuple = other.tuple ↔ scope.SameAs other)) ∧
    ∀ (manager other : PartitionManager) (node leaf : List Bool),
      (manager.baseScope ≠ other.baseScope ∨ node ≠ leaf) →
      (manager.scopeKey node ≠ other.scopeKey leaf ↔
        ¬ PartitionManager.Shadows manager.baseScope node other.baseScope leaf ∧
        ¬ PartitionManager.Shadows other.baseScope leaf manager.baseScope node) := by
  refine ⟨fun scope other regular otherRegular => regular.tuple_eq_iff otherRegular, ?_⟩
  intro manager other node leaf differ
  have keys : manager.scopeKey node = other.scopeKey leaf ↔
      PartitionManager.Shadows manager.baseScope node other.baseScope leaf ∨
      PartitionManager.Shadows other.baseScope leaf manager.baseScope node := by
    rw [PartitionManager.scopeKey, PartitionManager.scopeKey,
      (Scopes.overlayId_injective injective).eq_iff]
    unfold PartitionManager.Shadows
    by_cases root : node = [] <;> by_cases otherRoot : leaf = []
    · rw [if_pos root, if_pos otherRoot]
      have bases := differ.resolve_right (not_not.mpr (root.trans otherRoot.symm))
      simp [root, otherRoot, bases]
    · rw [if_pos root, if_neg otherRoot]
      simp [root, otherRoot]
    · rw [if_neg root, if_pos otherRoot]
      simp [root, otherRoot, eq_comm]
    · rw [if_neg root, if_neg otherRoot]
      have apart : ¬ manager.baseScope ++ "#" ++ PartitionManager.digits node =
          other.baseScope ++ "#" ++ PartitionManager.digits leaf := by
        intro same
        rcases PartitionManager.label_injective same with ⟨bases, nodes⟩
        exact differ.elim (fun apart => apart bases) fun apart => apart nodes
      simp [root, otherRoot, apart]
  rw [Ne, keys, not_or]

namespace ScopeKeySamples

open Scopes PartitionSamples
open scoped Plain PartitionSamples

def booking : Scope := ⟨some 2, "Acme.example", " Booking ", "travel", ""⟩

def sameBooking : Scope := ⟨some 2, "acme.EXAMPLE", "booking", "Travel", ""⟩

def manager (baseScope : String) : PartitionManager :=
  ⟨baseScope, 2, 1, by decide, Dict.empty.set [] ∅⟩

/-- Two spellings of one scope, and leaves of two scopes. -/
theorem unambiguousKeys :
    (booking.tuple = sameBooking.tuple ↔ booking.SameAs sameBooking) ∧
      booking.SameAs sameBooking ∧
      (manager "\x7btier: 1\x7d").scopeKey [true] ≠ (manager "\x7btier: 2\x7d").scopeKey [] :=
  ⟨(scopeKeys_unambiguous sha256_injective).1 booking sameBooking
      ⟨by decide, by decide +kernel, by decide +kernel⟩
      ⟨by decide, by decide +kernel, by decide +kernel⟩,
    by decide +kernel,
    ((scopeKeys_unambiguous sha256_injective).2 (manager "\x7btier: 1\x7d")
      (manager "\x7btier: 2\x7d") [true] [] (.inr (by decide))).mpr
      ⟨fun shadows => absurd shadows.1 (by decide),
        fun shadows => absurd shadows.2.2 (by decide +kernel)⟩⟩

/-- A value with the mark of a later dimension reads like two values, space around an owner
domain stays, a blank value is written, and a base scope can look like a leaf. -/
theorem ambiguousKeys :
    (let scope : Scope := ⟨none, "", "a, industry: b", "", ""⟩
      let other : Scope := ⟨none, "", "a", "b", ""⟩
      scope.tuple = other.tuple ∧ ¬ scope.SameAs other) ∧
    (let scope : Scope := ⟨none, " acme", "", "", ""⟩
      let other : Scope := ⟨none, "acme", "", "", ""⟩
      scope.tuple ≠ other.tuple ∧ scope.SameAs other) ∧
    (let scope : Scope := ⟨none, "", " ", "", ""⟩
      let other : Scope := ⟨none, "", "", "", ""⟩
      scope.tuple ≠ other.tuple ∧ scope.SameAs other) ∧
    (manager "s#1").scopeKey [] = (manager "s").scopeKey [true] := by
  decide +kernel

end ScopeKeySamples

end Agtp
