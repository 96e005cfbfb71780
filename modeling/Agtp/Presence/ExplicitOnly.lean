import Agtp.Core.RequestRoundTrip
import Agtp.Presence.AudienceSemantics

/-! # Whom an explicit-only record admits

The presence mode collects the ids that an audience names, from its tokens; the audience is
evaluated apart from that. -/

namespace Agtp

/-- What lowering and raising the case of a text keeps: where a key of letters and a colon
comes out, one went in, and a colon stays. -/
structure KeepsKeys [TextCase] : Prop where
  lowered : ∀ token, "agent-id:".toList <+: (lower token).toList →
    ∃ key rest, token.toList = key ++ ':' :: rest ∧ key.map Char.toLower = "agent-id".toList
  raised : ∀ token, ':' ∈ token.toList → ':' ∈ (upper token).toList

namespace RequesterContext

def unnamed (requester : RequesterContext) : RequesterContext :=
  { requester with agentId := "" }

def only (agentId : String) : RequesterContext :=
  { RequesterContext.anonymous with agentId := agentId }

end RequesterContext

namespace Audience

/-! ## Names -/

namespace Predicate

def names : Predicate → List String
  | agentId name => [name]
  | _ => []

theorem holds_unnamed {predicate : Predicate} {requester : RequesterContext}
    (unmentioned : requester.agentId ∉ predicate.names) :
    predicate.Holds requester.unnamed ↔ predicate.Holds requester := by
  cases predicate with
  | agentId name =>
      constructor
      · intro ⟨filled, same⟩
        exact absurd same.symm filled
      · intro ⟨_, same⟩
        exact absurd (List.mem_singleton.mpr same) unmentioned
  | _ => exact Iff.rfl

theorem holds_of_unnamed {predicate : Predicate} {requester : RequesterContext}
    (holds : predicate.Holds requester.unnamed) : predicate.Holds requester := by
  cases predicate with
  | agentId name => exact absurd holds.2.symm holds.1
  | _ => exact holds

end Predicate

namespace Expression

def names : Expression → List String
  | predicate atom => atom.names
  | negation operand => operand.names
  | conjunction left right => left.names ++ right.names
  | disjunction left right => left.names ++ right.names

def occurring (negated : Bool) : Expression → List String
  | predicate atom => if negated then [] else atom.names
  | negation operand => operand.occurring (!negated)
  | conjunction left right => left.occurring negated ++ right.occurring negated
  | disjunction left right => left.occurring negated ++ right.occurring negated

/-- An id that never occurs un-negated makes nothing true, and one that never occurs negated
makes nothing false. -/
theorem value_unnamed (requester : RequesterContext) (tree : Expression) :
    (requester.agentId ∉ tree.occurring false →
        tree.value requester = true → tree.value requester.unnamed = true) ∧
      (requester.agentId ∉ tree.occurring true →
        tree.value requester.unnamed = true → tree.value requester = true) := by
  induction tree with
  | predicate atom =>
      simp only [value, decide_eq_true_eq]
      exact ⟨fun absent => (Predicate.holds_unnamed absent).mpr,
        fun _ => Predicate.holds_of_unnamed⟩
  | negation operand induction =>
      simp only [value, Bool.not_eq_true', ← Bool.not_eq_true]
      exact ⟨fun absent fails holds => fails (induction.2 absent holds),
        fun absent fails holds => fails (induction.1 absent holds)⟩
  | conjunction left right leftInduction rightInduction =>
      simp only [value, Bool.and_eq_true, occurring, List.mem_append, not_or]
      exact ⟨fun absent holds =>
          ⟨leftInduction.1 absent.1 holds.1, rightInduction.1 absent.2 holds.2⟩,
        fun absent holds =>
          ⟨leftInduction.2 absent.1 holds.1, rightInduction.2 absent.2 holds.2⟩⟩
  | disjunction left right leftInduction rightInduction =>
      simp only [value, Bool.or_eq_true, occurring, List.mem_append, not_or]
      exact ⟨fun absent holds =>
          holds.imp (leftInduction.1 absent.1) (rightInduction.1 absent.2),
        fun absent holds =>
          holds.imp (leftInduction.2 absent.1) (rightInduction.2 absent.2)⟩

end Expression

section Named

variable [TextCase] [NumberText]

theorem readPredicate_operator {token operator : String} (written : upper token = operator)
    (known : operator ∈ ["AND", "OR", "NOT"]) : readPredicate token = none := by
  rw [readPredicate]
  apply if_pos
  rw [written]
  simpa using known

theorem mem_names_of_derives {rule : Rule} {tokens : List String} {tree : Expression}
    (derived : Derives rule tokens tree) {token name : String} (member : token ∈ tokens)
    (read : readPredicate token = some (.agentId name)) : name ∈ tree.names := by
  have operatorless {operator : String} (known : operator ∈ ["AND", "OR", "NOT"])
      (written : upper token = operator) : False := by
    rw [readPredicate_operator written known] at read
    cases read
  induction derived with
  | oneConjunction _ induction => exact induction member
  | oneNegation _ induction => exact induction member
  | oneAtom _ induction => exact induction member
  | disjunction _ written _ leftInduction rightInduction =>
      rcases List.mem_append.mp member with inLeft | later
      · exact List.mem_append_left _ (leftInduction inLeft)
      · rcases List.mem_cons.mp later with rfl | inRight
        · exact (operatorless (by decide) written).elim
        · exact List.mem_append_right _ (rightInduction inRight)
  | conjunction _ written _ leftInduction rightInduction =>
      rcases List.mem_append.mp member with inLeft | later
      · exact List.mem_append_left _ (leftInduction inLeft)
      · rcases List.mem_cons.mp later with rfl | inRight
        · exact (operatorless (by decide) written).elim
        · exact List.mem_append_right _ (rightInduction inRight)
  | negation written _ induction =>
      rcases List.mem_cons.mp member with rfl | later
      · exact (operatorless (by decide) written).elim
      · exact induction later
  | group _ induction =>
      have word := word_of_readPredicate read
      rw [List.cons_append, List.mem_cons, List.mem_append, List.mem_singleton] at member
      rcases member with opening | inner | closing
      · exact absurd opening word.1
      · exact induction inner
      · exact absurd closing word.2.1
  | predicate own =>
      rw [List.mem_singleton.mp member, own] at read
      rw [Option.some.inj read]
      exact List.mem_singleton_self name

/-! ## Keys -/

omit [TextCase] [NumberText] in
theorem capital_or_letter {character : Char}
    (lowered : character.toLower ∈ "agent-id".toList) :
    (65 ≤ character.toNat ∧ character.toNat ≤ 90) ∨ character ∈ "agent-id".toList := by
  unfold Char.toLower at lowered
  split at lowered
  · next capital =>
      exact .inl ⟨UInt32.le_iff_toNat_le.mp capital.1, UInt32.le_iff_toNat_le.mp capital.2⟩
  · exact .inr lowered

omit [TextCase] [NumberText] in
theorem plain_of_lowered {character : Char}
    (lowered : character.toLower ∈ "agent-id".toList) :
    character ≠ ':' ∧ Text.isSpace character = false ∧ character.toNat < 128 := by
  rcases capital_or_letter lowered with ⟨low, high⟩ | member
  · refine ⟨?_, ?_, by omega⟩
    · rintro rfl
      exact absurd low (by decide)
    · simp only [Text.isSpace, Bool.or_eq_false_iff, Bool.and_eq_false_iff, decide_eq_false_iff_not,
        beq_eq_false_iff_ne]
      omega
  · have known : ∀ letter ∈ "agent-id".toList,
        letter ≠ ':' ∧ Text.isSpace letter = false ∧ letter.toNat < 128 :=
      Text.forall_mem_of_all (by decide)
    exact known character member

theorem readPredicate_prefixed (keeps : KeepsKeys) {token : String}
    (prefixed : "agent-id:".toList.isPrefixOf (lower token).toList = true) :
    ∃ key rest, Wire.partitionColon token.toList = some (key, rest) ∧
      readPredicate token = some (.agentId (Text.strip (String.ofList rest))) := by
  rcases keeps.lowered token (List.isPrefixOf_iff_prefix.mp prefixed) with
    ⟨key, rest, whole, lowered⟩
  have plain : ∀ character ∈ key, character ≠ ':' ∧ Text.isSpace character = false ∧
      character.toNat < 128 := by
    intro character member
    apply plain_of_lowered
    rw [← lowered]
    exact List.mem_map_of_mem member
  have colon : ':' ∉ key := fun member => (plain ':' member).1 rfl
  have parts : Wire.partitionColon token.toList = some (key, rest) := by
    rw [whole, Wire.partitionColon_append colon]
  have named : lower (Text.strip (String.ofList key)) = "agent-id" := by
    have solid : ∀ character ∈ (String.ofList key).toList, Text.isSpace character = false := by
      rw [String.toList_ofList]
      exact fun character member => (plain character member).2.1
    have ascii : Text.isAscii (String.ofList key) = true := by
      rw [Text.isAscii, String.toList_ofList, List.all_eq_true]
      exact fun character member => decide_eq_true (plain character member).2.2
    rw [Text.strip_solid solid, TextCase.lower_ascii _ ascii, Text.asciiLower,
      String.toList_ofList, lowered]
    rfl
  have operatorless : ¬(upper token = "AND" ∨ upper token = "OR" ∨ upper token = "NOT") := by
    have kept := keeps.raised token (by rw [whole]; simp)
    rintro (same | same | same)
    all_goals
      rw [same] at kept
      exact absurd kept (by decide)
  refine ⟨key, rest, parts, ?_⟩
  rw [readPredicate, if_neg operatorless, parts, Option.bind_some, named]
  rfl

theorem mem_names_of_explicitAllow (keeps : KeepsKeys) {scope name : String}
    {tree : Expression} (written : Written scope tree) (allowed : name ∈ explicitAllow scope) :
    name ∈ tree.names := by
  rcases List.mem_filterMap.mp allowed with ⟨token, member, collected⟩
  split at collected
  · next prefixed =>
      rcases readPredicate_prefixed keeps prefixed with ⟨key, rest, parts, read⟩
      rw [parts] at collected
      cases collected
      exact mem_names_of_derives ((written_iff scope tree).mp written) member read
  · cases collected

variable [CallDepth]

theorem written_of_allows {scope : String} {requester : RequesterContext}
    (filled : tokenize scope ≠ []) (allowed : allows scope requester = .ok true) :
    ∃ tree, Written scope tree ∧ tree.value requester = true := by
  have parsed := parse_of_allows filled allowed
  rcases (sound_parsers requester _).1 _ _ _ parsed with ⟨taken, tree, same, derived, holds⟩
  rw [List.append_nil] at same
  exact ⟨tree, (written_iff scope tree).mpr (same ▸ derived), holds⟩

end Named

end Audience

namespace PresenceRecord

variable [TextCase] [NumberText] [CallDepth]

/-- Whom an explicit-only record lets see it, an agent-id predicate of its audience names,
and the audience is true of. An id that occurs only under negations is not what makes it
true. -/
theorem named_of_explicitOnly (keeps : KeepsKeys) (record : PresenceRecord)
    (requester : RequesterContext) (explicit : record.visibility.presenceMode = "explicit-only")
    (visible : record.isVisible requester = .ok true) :
    ∃ tree, Audience.Written record.visibility.audienceScope tree ∧
      tree.value requester = true ∧ requester.agentId ∈ tree.names ∧
        (requester.agentId ∉ tree.occurring false → tree.value requester.unnamed = true) := by
  rw [isVisible] at visible
  split at visible
  · next admitted =>
      have listed : (Audience.explicitAllow record.visibility.audienceScope).contains
          requester.agentId = true := by
        rw [modeAllows, explicit] at admitted
        exact admitted
      rw [List.contains_iff_mem] at listed
      have filled : Audience.tokenize record.visibility.audienceScope ≠ [] := by
        intro nothing
        rw [Audience.explicitAllow, nothing] at listed
        cases listed
      rcases Audience.written_of_allows filled visible with ⟨tree, written, holds⟩
      exact ⟨tree, written, holds, Audience.mem_names_of_explicitAllow keeps written listed,
        fun absent => (tree.value_unnamed requester).1 absent holds⟩
  · cases visible

end PresenceRecord

/-! ## Samples -/

namespace ExplicitOnlySamples

open Audience
open scoped Plain PlainServing

scoped instance : CallDepth := ⟨100⟩

theorem colon_of_toLower {character : Char} (lowered : character.toLower = ':') :
    character = ':' := by
  unfold Char.toLower at lowered
  split at lowered
  · next capital =>
      have atLeast := UInt32.le_iff_toNat_le.mp capital.1
      have atMost := UInt32.le_iff_toNat_le.mp capital.2
      have same := congrArg (fun letter => letter.val.toNat) lowered
      have a : 'A'.val.toNat = 65 := rfl
      have z : 'Z'.val.toNat = 90 := rfl
      have colon : ':'.val.toNat = 58 := rfl
      have shift : ('a'.val - 'A'.val).toNat = 32 := rfl
      simp only [UInt32.toNat_add, a, z, colon, shift] at atLeast atMost same
      omega
  · exact lowered

theorem keepsKeys_plain : KeepsKeys where
  lowered := by
    intro token ⟨rest, whole⟩
    have mapped : token.toList.map Char.toLower = "agent-id".toList ++ ':' :: rest := by
      rw [← String.toList_ofList (l := token.toList.map Char.toLower)]
      exact whole.symm
    rcases List.map_eq_append_iff.mp mapped with ⟨key, tail, parts, lowered, later⟩
    rcases List.map_eq_cons_iff.mp later with ⟨character, others, rfl, colon, _⟩
    rw [colon_of_toLower colon] at parts
    exact ⟨key, others, parts, lowered⟩
  raised := by
    intro token member
    have kept : ':'.toUpper = ':' := by decide
    rw [← kept]
    change _ ∈ (String.ofList (token.toList.map Char.toUpper)).toList
    rw [String.toList_ofList]
    exact List.mem_map_of_mem member

def announced (scope : String) : PresenceRecord where
  agentId := "a1"
  resultEntry := [("agent_id", .string "a1")]
  scopes := []
  visibility := ⟨"explicit-only", "capabilities", scope⟩
  announcedAt := "t"
  announcedAtEpoch := "90.0"
  ttlSeconds := 60
  ownerDomain := .null
  attachment := none
  signature := .null

def friend : RequesterContext :=
  { RequesterContext.only "friend" with ownerDomain := some "acme" }

def both : PresenceRecord := announced "agent-id:friend AND owner-domain:acme"

theorem friend_sees_both : both.isVisible friend = .ok true := by
  decide +kernel

/-- The record is for a named agent of one owner, so the name alone is not enough. -/
theorem name_not_enough : both.isVisible friend = .ok true ∧
    ¬∃ tree, Written both.visibility.audienceScope tree ∧
      tree.value (RequesterContext.only friend.agentId) = true := by
  refine ⟨friend_sees_both, ?_⟩
  intro ⟨tree, written, holds⟩
  have untrue : (parseOr (RequesterContext.only friend.agentId) 20
      (tokenize both.visibility.audienceScope)).toOption = some (false, []) := by
    decide +kernel
  rcases parseOr_of_derives (RequesterContext.only friend.agentId)
    ((written_iff _ tree).mp written) 20 with ended | answered
  · rw [ended] at untrue
    cases untrue
  · rw [answered, holds] at untrue
    cases untrue

/-- The friend is named by the audience. -/
theorem friend_named : ∃ tree, Written both.visibility.audienceScope tree ∧
    tree.value friend = true ∧ friend.agentId ∈ tree.names ∧
      (friend.agentId ∉ tree.occurring false → tree.value friend.unnamed = true) :=
  both.named_of_explicitOnly keepsKeys_plain friend rfl friend_sees_both

end ExplicitOnlySamples

end Agtp
