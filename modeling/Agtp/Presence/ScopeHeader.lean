import Agtp.Presence.Methods
import Agtp.Server.Endpoint

/-! # The scopes of a header

A coordinator takes the words of an `Authority-Scope` header for its scopes, and the dispatcher
the parts between its commas. -/

namespace Agtp.Presence

def discoveryScope : String := "discovery:query"

/-! ## Places of the scope -/

def StandsAsWord (value : List Char) : Prop :=
  ∃ before after, value = before ++ (discoveryScope.toList ++ after) ∧
    (∀ character ∈ before.getLast?, Text.isSpace character = true) ∧
    ∀ character ∈ after.head?, Text.isSpace character = true

def StandsAsPart (value : List Char) : Prop :=
  ∃ before leading trailing after,
    value = before ++ (leading ++ (discoveryScope.toList ++ (trailing ++ after))) ∧
    (∀ character ∈ leading ++ trailing, Text.isSpace character = true) ∧
    (∀ character ∈ before.getLast?, character = ',') ∧
    ∀ character ∈ after.head?, character = ','

theorem solid_discoveryScope :
    ∀ character ∈ discoveryScope.toList, Text.isSpace character = false :=
  Text.forall_mem_of_all (by decide)

theorem comma_notMem_discoveryScope : ',' ∉ discoveryScope.toList := by decide

theorem mem_words_iff (value : String) :
    discoveryScope ∈ Text.words value ↔ StandsAsWord value.toList := by
  rw [Text.words, List.mem_map]
  constructor
  · rintro ⟨word, member, same⟩
    rcases Text.mem_splitOnP_iff.mp (List.mem_of_mem_filter member) with
      ⟨before, after, split, _, front, back⟩
    have characters : word = discoveryScope.toList := by
      rw [← same, String.toList_ofList]
    exact ⟨before, after, by rw [split, characters], front, back⟩
  · rintro ⟨before, after, split, front, back⟩
    refine ⟨discoveryScope.toList, List.mem_filter.mpr ⟨?_, by decide⟩, String.ofList_toList⟩
    exact Text.mem_splitOnP_iff.mpr ⟨before, after, split, solid_discoveryScope, front, back⟩

theorem strip_eq_iff {part text : List Char} (some : text ≠ [])
    (solid : ∀ character ∈ text, Text.isSpace character = false) :
    Text.strip (String.ofList part) = String.ofList text ↔
      ∃ leading trailing, part = leading ++ (text ++ trailing) ∧
        ∀ character ∈ leading ++ trailing, Text.isSpace character = true := by
  rw [Text.strip, String.toList_ofList, String.ofList_inj]
  constructor
  · intro trimmed
    have ending := List.takeWhile_append_dropWhile (p := Text.isSpace)
      (l := (part.dropWhile Text.isSpace).reverse)
    refine ⟨part.takeWhile Text.isSpace,
      ((part.dropWhile Text.isSpace).reverse.takeWhile Text.isSpace).reverse, ?_, ?_⟩
    · rw [← trimmed, ← List.reverse_append, ending, List.reverse_reverse,
        List.takeWhile_append_dropWhile]
    · intro character member
      rcases List.mem_append.mp member with front | back
      · exact List.mem_takeWhile_imp front
      · exact List.mem_takeWhile_imp (List.mem_reverse.mp back)
  · rintro ⟨leading, trailing, split, blank⟩
    have front : ∀ character ∈ leading, Text.isSpace character = true :=
      fun character member => blank character (List.mem_append_left _ member)
    have back : ∀ character ∈ trailing.reverse, Text.isSpace character = true :=
      fun character member => blank character
        (List.mem_append_right _ (List.mem_reverse.mp member))
    cases text with
    | nil => exact absurd rfl some
    | cons first rest =>
        have start : Text.isSpace first = false := solid first List.mem_cons_self
        have kept : (first :: rest).reverse.dropWhile Text.isSpace = (first :: rest).reverse := by
          rw [List.dropWhile_eq_self_iff]
          intro positive blank
          rw [solid _ (List.mem_reverse.mp (List.getElem_mem positive))] at blank
          cases blank
        rw [split, List.dropWhile_append_of_pos front, List.cons_append,
          List.dropWhile_cons_of_neg (by rw [start]; exact Bool.false_ne_true),
          ← List.cons_append, List.reverse_append, List.dropWhile_append_of_pos back, kept,
          List.reverse_reverse]

theorem mem_scopesOf_iff (value : String) :
    discoveryScope ∈ scopesOf value ↔ StandsAsPart value.toList := by
  have comma (character : Char) : (character == ',') = true ↔ character = ',' := beq_iff_eq
  have trimmed (part : List Char) : Text.strip (String.ofList part) =
      String.ofList discoveryScope.toList ↔ _ :=
    strip_eq_iff (by decide) solid_discoveryScope
  rw [scopesOf, List.mem_filter, Text.split, List.map_map, List.mem_map]
  constructor
  · intro ⟨⟨part, member, same⟩, _⟩
    rw [Text.splitCharacters_eq_splitOn, List.splitOn_eq_splitOnP] at member
    rcases Text.mem_splitOnP_iff.mp member with ⟨before, after, split, _, front, back⟩
    rcases (trimmed part).mp same with ⟨leading, trailing, inside, blank⟩
    refine ⟨before, leading, trailing, after, ?_, blank, ?_, ?_⟩
    · rw [split, inside]
      simp only [List.append_assoc]
    · exact fun character last => (comma character).mp (front character last)
    · exact fun character first => (comma character).mp (back character first)
  · intro ⟨before, leading, trailing, after, split, blank, front, back⟩
    have clean : ∀ character ∈ leading ++ (discoveryScope.toList ++ trailing),
        (character == ',') = false := by
      have space : ∀ character ∈ leading ++ trailing, character ≠ ',' := by
        intro character member same
        have isBlank := blank character member
        rw [same] at isBlank
        exact absurd isBlank (by decide)
      intro character member
      rw [beq_eq_false_iff_ne]
      rcases List.mem_append.mp member with early | member
      · exact space character (List.mem_append_left _ early)
      · rcases List.mem_append.mp member with middle | late
        · exact fun same => comma_notMem_discoveryScope (same ▸ middle)
        · exact space character (List.mem_append_right _ late)
    refine ⟨⟨leading ++ (discoveryScope.toList ++ trailing), ?_, ?_⟩, by decide⟩
    · rw [Text.splitCharacters_eq_splitOn, List.splitOn_eq_splitOnP]
      apply Text.mem_splitOnP_iff.mpr
      refine ⟨before, after, ?_, clean, fun character last => (comma character).mpr
        (front character last), fun character first => (comma character).mpr
        (back character first)⟩
      rw [split]
      simp only [List.append_assoc]
    · exact (trimmed _).mpr ⟨leading, trailing, rfl, blank⟩

/-! ## Agreement -/

/-- The scope is a word of the header, but wherever it stands in it, it shares its
comma-separated part with other text. -/
def SharesPart (value : List Char) : Prop :=
  StandsAsWord value ∧ ¬StandsAsPart value

/-- The scope is a comma-separated part of the header, but wherever it stands in it, it
touches a comma. -/
def TouchesComma (value : List Char) : Prop :=
  StandsAsPart value ∧ ¬StandsAsWord value

/-- The coordinator sees the discovery scope in a header exactly where the dispatcher does,
unless it shares its part or touches a comma. -/
theorem discoveryScope_agree_iff [TextCase] (request : Request) :
    (hasDiscoveryScope request = true ↔
        "discovery:query" ∈ scopesOf (Wire.header request.headers "Authority-Scope")) ↔
      ¬SharesPart (Wire.header request.headers "Authority-Scope").toList ∧
        ¬TouchesComma (Wire.header request.headers "Authority-Scope").toList := by
  have word := mem_words_iff (Wire.header request.headers "Authority-Scope")
  have part := mem_scopesOf_iff (Wire.header request.headers "Authority-Scope")
  have gate : hasDiscoveryScope request = true ↔
      discoveryScope ∈ Text.words (Wire.header request.headers "Authority-Scope") :=
    List.contains_iff_mem
  rw [gate, SharesPart, TouchesComma, ← word, ← part]
  exact ⟨fun same => ⟨fun shares => shares.2 (same.mp shares.1),
      fun touches => touches.2 (same.mpr touches.1)⟩,
    fun ⟨shares, touches⟩ => ⟨fun held => by_contra fun missing => shares ⟨held, missing⟩,
      fun held => by_contra fun missing => touches ⟨held, missing⟩⟩⟩

end Agtp.Presence

namespace Agtp.ScopeHeaderSamples

open Presence
open scoped Plain

def asking (scopes : String) : Request :=
  Request.toRoot "DISCOVER" [("Authority-Scope", scopes)]

/-- The dispatcher sees the scope in a list that the coordinator takes for one word. -/
theorem listed_scope_unseen :
    hasDiscoveryScope (asking "read,discovery:query") = false ∧
      "discovery:query" ∈
        scopesOf (Wire.header (asking "read,discovery:query").headers "Authority-Scope") := by
  decide

end Agtp.ScopeHeaderSamples
