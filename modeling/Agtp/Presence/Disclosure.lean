import Agtp.Presence.Methods
import Agtp.Presence.SignatureCoverage

/-! # What a result entry discloses

A record of which the methods and capabilities are withheld is shown, ranked and scored as any
other that matches a query equally. -/

namespace Agtp

namespace PresenceRecord

def abilityMembers : List String :=
  ["supported_methods", "capabilities"]

/-- Two records that differ in nothing but methods and capabilities. -/
structure AlikeButAbilities (left right : PresenceRecord) : Prop where
  agentId : left.agentId = right.agentId
  visibility : left.visibility = right.visibility
  ownerDomain : left.ownerDomain = right.ownerDomain
  entry : left.resultEntry.filter (fun entry => !abilityMembers.contains entry.1) =
    right.resultEntry.filter fun entry => !abilityMembers.contains entry.1

def Withholds (record : PresenceRecord) : Prop :=
  record.visibility.disclosureMode = "identity-only" ∨
    record.visibility.disclosureMode = "existence-only"

variable {left right : PresenceRecord}

namespace AlikeButAbilities

theorem get (alike : left.AlikeButAbilities right) {name : String}
    (other : name ∉ abilityMembers) :
    Json.get left.resultEntry name = Json.get right.resultEntry name := by
  have kept : (!abilityMembers.contains name) = true := by
    rwa [Bool.not_eq_true', Bool.eq_false_iff, ne_eq, List.contains_iff_mem]
  have same := congrArg (Json.member · name) alike.entry
  rw [member_filter (fun key => !abilityMembers.contains key), member_filter (fun key =>
    !abilityMembers.contains key), if_pos kept, if_pos kept] at same
  rw [Json.get, Json.get, same]

theorem identity (alike : left.AlikeButAbilities right) :
    left.resultEntry.filter (fun entry => identityMembers.contains entry.1) =
      right.resultEntry.filter fun entry => identityMembers.contains entry.1 := by
  have within (members : List (String × Json)) :
      (members.filter fun entry => !abilityMembers.contains entry.1).filter
          (fun entry => identityMembers.contains entry.1) =
        members.filter fun entry => identityMembers.contains entry.1 := by
    rw [List.filter_filter]
    apply List.filter_congr
    intro entry _
    have apart : ∀ name ∈ identityMembers, (!abilityMembers.contains name) = true := by decide
    cases identifies : identityMembers.contains entry.1 with
    | false => rfl
    | true => rw [apart entry.1 (List.contains_iff_mem.mp identifies)]; rfl
  rw [← within, alike.entry, within]

theorem shapeEntry (alike : left.AlikeButAbilities right) (withholds : left.Withholds) :
    left.shapeEntry = right.shapeEntry := by
  have agent : Json.get left.resultEntry "agent_id" = Json.get right.resultEntry "agent_id" :=
    alike.get (by decide)
  have narrow : ¬(right.visibility.disclosureMode = "full" ∨
      right.visibility.disclosureMode = "capabilities") := by
    rw [Withholds, alike.visibility] at withholds
    rcases withholds with mode | mode
    all_goals
      rw [mode]
      decide
  rw [PresenceRecord.shapeEntry, alike.visibility, PresenceRecord.shapeEntry, if_neg narrow,
    if_neg narrow, alike.identity, agent]

theorem subjectTier (alike : left.AlikeButAbilities right) :
    left.subjectTier = right.subjectTier := by
  rw [PresenceRecord.subjectTier, alike.get (by decide), PresenceRecord.subjectTier]

theorem subjectOwnerDomain (alike : left.AlikeButAbilities right) :
    left.subjectOwnerDomain = right.subjectOwnerDomain := by
  rw [PresenceRecord.subjectOwnerDomain, alike.ownerDomain, alike.get (by decide),
    PresenceRecord.subjectOwnerDomain]

theorem isVisible [TextCase] [NumberText] [CallDepth] (alike : left.AlikeButAbilities right)
    (requester : RequesterContext) : left.isVisible requester = right.isVisible requester := by
  rw [PresenceRecord.isVisible, modeAllows, alike.visibility, alike.subjectTier,
    alike.subjectOwnerDomain, PresenceRecord.isVisible, modeAllows]

end AlikeButAbilities

end PresenceRecord

namespace Presence

open PresenceRecord

variable [Floats] [TextCase] [TextOf] [NumberText] {left right : PresenceRecord}

omit [TextCase] [TextOf] [NumberText] in
theorem inPartition_alike (alike : left.AlikeButAbilities right) (query : Query) :
    inPartition query left = inPartition query right := by
  rw [inPartition, alike.get (by decide), alike.ownerDomain, inPartition]

omit [TextOf] in
theorem admits_alike [CallDepth] (alike : left.AlikeButAbilities right) (query : Query)
    (requester : RequesterContext) : admits query requester left = admits query requester right := by
  rw [admits, meetsTierMin, alike.get (by decide), meetsBehavioralMin, alike.get (by decide),
    alike.isVisible, admits, meetsTierMin, meetsBehavioralMin]

omit [TextOf] [NumberText] in
theorem of_scoreRecord {capability intent : Option String} {record : PresenceRecord}
    {scored : Scored} (ended : Ranking.scoreRecord capability intent record = .ok scored) :
    scored.record = record ∧
      (Ranking.behavioralTrust (Json.get record.resultEntry "behavioral_trust_score")).map
          (fun behavioral => Ranking.compositeScore (Json.get record.resultEntry "trust_tier")
            behavioral scored.capabilityMatch) = .ok scored.score := by
  rw [Ranking.scoreRecord] at ended
  cases claimed : record.claims with
  | error raised =>
      rw [claimed] at ended
      cases ended
  | ok claims =>
      rw [claimed] at ended
      dsimp only at ended
      cases judged : Ranking.behavioralTrust
          (Json.get record.resultEntry "behavioral_trust_score") with
      | error raised =>
          rw [judged] at ended
          cases ended
      | ok behavioral =>
          rw [judged] at ended
          cases ended
          exact ⟨rfl, rfl⟩

omit [TextOf] [NumberText] in
theorem score_alike (alike : left.AlikeButAbilities right) {capability intent : Option String}
    {leftScored rightScored : Scored}
    (leftEnded : Ranking.scoreRecord capability intent left = .ok leftScored)
    (rightEnded : Ranking.scoreRecord capability intent right = .ok rightScored)
    (matched : leftScored.capabilityMatch = rightScored.capabilityMatch) :
    leftScored.score = rightScored.score := by
  have leftScore := (of_scoreRecord leftEnded).2
  rw [alike.get (by decide), alike.get (by decide), matched,
    (of_scoreRecord rightEnded).2] at leftScore
  exact (Except.ok.inj leftScore).symm

/-- For a query, nothing that is shown of a record tells what its disclosure mode withholds:
two records that differ in methods and capabilities alone are let through alike, and have the
same entry at any rank if they match the query equally. -/
structure Bounded [CallDepth] (query : Query) : Prop where
  admitted : ∀ left right : PresenceRecord, left.AlikeButAbilities right → left.Withholds →
    ∀ requester, inPartition query left = inPartition query right ∧
      admits query requester left = admits query requester right
  entries : ∀ left right : PresenceRecord, left.AlikeButAbilities right → left.Withholds →
    ∀ leftScored rightScored,
      Ranking.scoreRecord query.capability query.intent left = .ok leftScored →
      Ranking.scoreRecord query.capability query.intent right = .ok rightScored →
      leftScored.capabilityMatch = rightScored.capabilityMatch →
        ∀ rank, resultEntry query rank leftScored = resultEntry query rank rightScored

omit [TextOf] [NumberText] in
theorem resultEntry_alike {query : Query} (unasked : query.scopeNegotiate = false)
    (alike : left.AlikeButAbilities right) (withholds : left.Withholds)
    {leftScored rightScored : Scored}
    (leftEnded : Ranking.scoreRecord query.capability query.intent left = .ok leftScored)
    (rightEnded : Ranking.scoreRecord query.capability query.intent right = .ok rightScored)
    (matched : leftScored.capabilityMatch = rightScored.capabilityMatch) (rank : Nat) :
    resultEntry query rank leftScored = resultEntry query rank rightScored := by
  rw [resultEntry, resultEntry, unasked, (of_scoreRecord leftEnded).1,
    (of_scoreRecord rightEnded).1, alike.shapeEntry withholds, matched,
    score_alike alike leftEnded rightEnded matched]
  rfl

/-! ## Negotiated scopes -/

/-- A record of which only the id is disclosed, with some methods. -/
def discreet (methods : List Json) : PresenceRecord where
  agentId := "a1"
  resultEntry := [("agent_id", .string "a1"), ("supported_methods", .array methods)]
  scopes := []
  visibility := ⟨"public", "existence-only", ""⟩
  announcedAt := ""
  announcedAtEpoch := ""
  ttlSeconds := 0
  ownerDomain := .null
  attachment := none
  signature := .null

omit [Floats] [TextCase] [TextOf] [NumberText] in
theorem discreet_alike (methods others : List Json) :
    (discreet methods).AlikeButAbilities (discreet others) :=
  ⟨rfl, rfl, rfl, rfl⟩

omit [Floats] [TextOf] [NumberText] in
theorem requiredScopeFor_none : requiredScopeFor (discreet []) = .ok "" := by
  have tokens : Json.getOr (discreet []).resultEntry "supported_methods" (.array []) =
      .array [] := rfl
  rw [requiredScopeFor, tokens]
  simp [Json.iterate, Fallible.map, Except.map]

omit [Floats] [TextOf] [NumberText] in
theorem requiredScopeFor_one (name : String) :
    requiredScopeFor (discreet [.string name]) = .ok (lower name ++ ":invoke") := by
  have tokens : Json.getOr (discreet [.string name]).resultEntry "supported_methods" (.array []) =
      .array [.string name] := rfl
  rw [requiredScopeFor, tokens]
  simp [Json.iterate, Fallible.map, Except.map]

omit [TextOf] [NumberText] in
theorem scoreRecord_discreet (capability intent : Option String) :
    ∃ score capabilityMatch, ∀ methods,
      Ranking.scoreRecord capability intent (discreet methods) =
        .ok ⟨discreet methods, score, capabilityMatch⟩ := by
  refine ⟨Ranking.compositeScore .null (.finite 0)
    (Ranking.capabilityMatchScore [] capability intent),
    Ranking.capabilityMatchScore [] capability intent, fun methods => ?_⟩
  have claims : (discreet methods).claims = .ok [] := rfl
  have tier : Json.get (discreet methods).resultEntry "trust_tier" = .null := rfl
  have conduct : Json.get (discreet methods).resultEntry "behavioral_trust_score" = .null := rfl
  rw [Ranking.scoreRecord, claims, tier, conduct]
  rfl

omit [TextOf] [NumberText] in
theorem resultEntry_discreet {query : Query} (negotiated : query.scopeNegotiate = true)
    {methods : List Json} {scope : String}
    (required : requiredScopeFor (discreet methods) = .ok scope) {scored : Scored}
    (own : scored.record = discreet methods) (rank : Nat) :
    (resultEntry query rank scored).map (Json.get · "required_scope") = .ok (.string scope) := by
  rw [resultEntry, own, if_pos negotiated, required]
  rfl

omit [TextOf] in
/-- What a query discloses is bounded exactly where it negotiates no scope. -/
theorem bounded_iff [CallDepth] (query : Query) :
    Bounded query ↔ query.scopeNegotiate = false := by
  constructor
  · intro bounded
    rw [Bool.eq_false_iff]
    intro negotiated
    rcases scoreRecord_discreet query.capability query.intent with ⟨score, matched, scored⟩
    have same := bounded.entries (discreet []) (discreet [.string "A"])
      (discreet_alike [] [.string "A"]) (.inr rfl) _ _ (scored []) (scored [.string "A"]) rfl 1
    have shown : (resultEntry query 1 ⟨discreet [], score, matched⟩).map
        (Json.get · "required_scope") = .ok (.string "") :=
      resultEntry_discreet negotiated requiredScopeFor_none rfl 1
    rw [same, resultEntry_discreet negotiated (requiredScopeFor_one "A") rfl 1] at shown
    have spelled := Json.string.inj (Except.ok.inj shown)
    exact absurd spelled (by simp)
  · intro unasked
    exact ⟨fun _ _ alike _ requester =>
        ⟨inPartition_alike alike query, admits_alike alike query requester⟩,
      fun _ _ alike withholds _ _ leftEnded rightEnded matched rank =>
        resultEntry_alike unasked alike withholds leftEnded rightEnded matched rank⟩

end Presence

/-! ## Samples -/

namespace DisclosureSamples

open Presence PresenceRecord
open scoped Plain PlainServing

def negotiating : Query where
  capability := none
  intent := none
  capabilityDomains := .null
  tier := none
  ownerDomain := none
  governanceZone := none
  trustTierMin := none
  behavioralTrustMin := none
  scopeNegotiate := true
  limit := none

/-- Of two agents of which only the ids are disclosed, the entry tells which one pays. -/
theorem payer_revealed :
    (discreet []).AlikeButAbilities (discreet [.string "PAY"]) ∧ (discreet []).Withholds ∧
      ∃ idle payer,
        Ranking.scoreRecord negotiating.capability negotiating.intent (discreet []) = .ok idle ∧
        Ranking.scoreRecord negotiating.capability negotiating.intent
            (discreet [.string "PAY"]) = .ok payer ∧
        idle.capabilityMatch = payer.capabilityMatch ∧
        resultEntry negotiating 1 idle ≠ resultEntry negotiating 1 payer := by
  rcases scoreRecord_discreet negotiating.capability negotiating.intent with
    ⟨score, matched, scored⟩
  refine ⟨discreet_alike _ _, .inr rfl, _, _, scored [], scored [.string "PAY"], rfl, ?_⟩
  intro same
  have shown : (resultEntry negotiating 1 ⟨discreet [], score, matched⟩).map
      (Json.get · "required_scope") = .ok (.string "") :=
    resultEntry_discreet rfl requiredScopeFor_none rfl 1
  rw [same, resultEntry_discreet rfl (requiredScopeFor_one "PAY") rfl 1] at shown
  exact absurd (Json.string.inj (Except.ok.inj shown)) (by decide)

end DisclosureSamples

end Agtp
