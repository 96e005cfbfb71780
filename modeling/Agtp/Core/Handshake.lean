import Agtp.Core.Identity
import Agtp.Core.Manifest
import Mathlib.Data.List.Dedup

/-! # The matching handshake

`core/handshake.py`: which methods an agent requires and a manifest advertises, read
from the manifest itself or from its wire form. -/

namespace Agtp

namespace Handshake

open Manifest

inductive MatchKind where
  | fullMatch
  | partialMatch
  | noMatch
  deriving DecidableEq

structure MatchOutcome where
  kind : MatchKind
  matched : List String
  missing : List String
  serverMethodsUniverse : List String
  agentWantsWildcards : Bool
  serverAcceptsWildcards : Bool
  deriving DecidableEq

def sortedNames (names : List String) : List String :=
  names.dedup.mergeSort (decide <| · ≤ ·)

def sorted (names : List String) : List String :=
  names.mergeSort (decide <| · ≤ ·)

/-! ## Matching -/

def explicitMatch (agentMethods available : List String)
    (agentWildcards serverAcceptsWildcards : Bool) : MatchOutcome :=
  let needs := agentMethods.eraseDups
  let matched := sorted (needs.filter (available.contains ·))
  let missing := sorted (needs.filter (!available.contains ·))
  { kind :=
      if needs = [] then if available = [] then .noMatch else .fullMatch
      else if missing = [] then .fullMatch
      else if matched = [] then .noMatch
      else .partialMatch
    matched := matched
    missing := missing
    serverMethodsUniverse := available
    agentWantsWildcards := agentWildcards
    serverAcceptsWildcards := serverAcceptsWildcards }

def matchForWildcards (agentMethods available : List String)
    (agentWildcards serverAcceptsWildcards : Bool) : MatchOutcome :=
  if !agentWildcards || !serverAcceptsWildcards then
    explicitMatch agentMethods available agentWildcards serverAcceptsWildcards
  else
    { kind := .fullMatch
      matched := available
      missing := []
      serverMethodsUniverse := available
      agentWantsWildcards := true
      serverAcceptsWildcards := true }

def namesFromManifest (manifest : ServerManifest) : List String :=
  sortedNames ((manifest.embeddedMethods ++ manifest.customMethods).map MethodEntry.name)

def matchManifest (agent : AgentDocument) (manifest : ServerManifest) : MatchOutcome :=
  matchForWildcards agent.requires.methods (namesFromManifest manifest)
    agent.requires.wildcards
    (match manifest.policies with
      | some policies => policies.wildcardsAccepted
      | none => false)

/-! ## Matching the wire form -/

def truthyMember (members : List (String × Json)) (name : String) : Option Json :=
  (Json.member members name).filter Json.truthy

def entryName : Json → Option String
  | .object members =>
      match Json.member members "name" with
      | some (.string name) => some name
      | _ => none
  | _ => none

def entryNames (entries : Option Json) : Option (List String) :=
  match entries.filter Json.truthy with
  | none => some []
  | some (.array values) => values.mapM entryName
  | some _ => none

def heldMember (members : List (String × Json)) (name : String) : Option Json :=
  match Json.member members name with
  | some .null => none
  | held => held

def methodBlocks (manifest : List (String × Json)) :
    Option (Option Json × Option Json) :=
  match heldMember manifest "embedded_methods",
    heldMember manifest "custom_methods" with
  | none, none =>
      match truthyMember manifest "methods" with
      | none => some (none, none)
      | some (.object legacy) =>
          some (Json.member legacy "embedded", Json.member legacy "custom")
      | some _ => none
  | embedded, custom => some (embedded, custom)

def acceptsWildcards (manifest : List (String × Json)) : Option Bool :=
  match (truthyMember manifest "policies").or (truthyMember manifest "policy") with
  | none => some true
  | some (.object policies) =>
      some ((Json.member policies "wildcards_accepted").elim true Json.truthy)
  | some _ => none

/-- `match_from_manifest_dict`. It raises where a block has another shape, and it is
not followed where a name is no text. -/
def matchFromManifestDict (agent : AgentDocument) (manifest : List (String × Json)) :
    Option MatchOutcome :=
  (methodBlocks manifest).bind fun blocks =>
  (entryNames blocks.1).bind fun embedded =>
  (entryNames blocks.2).bind fun custom =>
  (acceptsWildcards manifest).map fun accepts =>
    matchForWildcards agent.requires.methods (sortedNames (embedded ++ custom))
      agent.requires.wildcards accepts

/-! ## What is missing -/

theorem mem_sorted {names : List String} {name : String} :
    name ∈ sorted names ↔ name ∈ names :=
  List.mem_mergeSort

theorem mem_sortedNames {names : List String} {name : String} :
    name ∈ sortedNames names ↔ name ∈ names := by
  rw [sortedNames, List.mem_mergeSort, List.mem_dedup]

/-- What is reported missing: a required name outside the universe, unless wildcards
are wanted and accepted. -/
theorem mem_missing_iff {agentMethods available : List String} {agentWildcards
    serverAcceptsWildcards : Bool} {name : String} :
    name ∈ (matchForWildcards agentMethods available agentWildcards
        serverAcceptsWildcards).missing ↔
      ¬(agentWildcards = true ∧ serverAcceptsWildcards = true) ∧
        name ∈ agentMethods ∧ name ∉ available := by
  unfold matchForWildcards
  cases agentWildcards <;> cases serverAcceptsWildcards <;>
    simp [explicitMatch, mem_sorted]

/-! ## Agreement of the two readings -/

theorem entryNames_entriesJson (entries : List MethodEntry) :
    entryNames (some (ServerManifest.entriesJson entries)) =
      some (entries.map MethodEntry.name) := by
  have names (entries : List MethodEntry) :
      (entries.map fun entry => Json.object entry.members).mapM entryName =
        some (entries.map MethodEntry.name) := by
    induction entries with
    | nil => rfl
    | cons entry rest induction =>
        have first : entryName (.object entry.members) = some entry.name := by
          rw [entryName, entry.named]
        simp [List.mapM_cons, first, induction]
  unfold ServerManifest.entriesJson entryNames
  cases entries with
  | nil => rfl
  | cons entry rest => exact names (entry :: rest)

theorem methodBlocks_toDict (manifest : ServerManifest) :
    methodBlocks manifest.toDict =
      some (some (ServerManifest.entriesJson manifest.embeddedMethods),
        if manifest.customMethods = [] then none
        else some (ServerManifest.entriesJson manifest.customMethods)) := by
  have embedded : heldMember manifest.toDict "embedded_methods" =
      some (ServerManifest.entriesJson manifest.embeddedMethods) := by
    rw [heldMember, manifest.member_embedded]
    rfl
  have custom : heldMember manifest.toDict "custom_methods" =
      if manifest.customMethods = [] then none
      else some (ServerManifest.entriesJson manifest.customMethods) := by
    rw [heldMember, manifest.member_custom]
    by_cases none : manifest.customMethods = []
    · rw [if_pos none]
    · rw [if_neg none]
      rfl
  rw [methodBlocks, embedded, custom]

/-- The wire form has no block where the manifest has none, and that is read as a
server that accepts wildcards. -/
theorem acceptsWildcards_toDict (manifest : ServerManifest) :
    acceptsWildcards manifest.toDict =
      some ((manifest.policies.map PolicyBlock.wildcardsAccepted).getD true) := by
  unfold acceptsWildcards truthyMember
  rw [manifest.member_policies, manifest.member_policy]
  cases manifest.policies with
  | none => rfl
  | some policies => rfl

theorem matchFromManifestDict_toDict (agent : AgentDocument)
    (manifest : ServerManifest) :
    matchFromManifestDict agent manifest.toDict =
      some (matchForWildcards agent.requires.methods (namesFromManifest manifest)
        agent.requires.wildcards
        ((manifest.policies.map PolicyBlock.wildcardsAccepted).getD true)) := by
  unfold matchFromManifestDict namesFromManifest
  rw [methodBlocks_toDict, acceptsWildcards_toDict]
  have absent : entryNames none = some [] := rfl
  by_cases none : manifest.customMethods = []
  · simp [none, entryNames_entriesJson, absent]
  · simp [none, entryNames_entriesJson]

theorem accepts_of_matchForWildcards (agentMethods available : List String)
    (agentWildcards serverAcceptsWildcards : Bool) :
    (matchForWildcards agentMethods available agentWildcards
      serverAcceptsWildcards).serverAcceptsWildcards = serverAcceptsWildcards := by
  unfold matchForWildcards
  cases agentWildcards <;> cases serverAcceptsWildcards <;> rfl

theorem readings_agree_iff (agent : AgentDocument) (manifest : ServerManifest) :
    matchFromManifestDict agent manifest.toDict = some (matchManifest agent manifest) ↔
      manifest.policies.isSome := by
  rw [matchFromManifestDict_toDict]
  unfold matchManifest
  cases manifest.policies with
  | some policies => simp
  | none =>
      simp only [Option.map_none, Option.getD_none, Option.isSome_none,
        Bool.false_eq_true, iff_false]
      intro same
      have accepts := congrArg MatchOutcome.serverAcceptsWildcards (Option.some.inj same)
      rw [accepts_of_matchForWildcards, accepts_of_matchForWildcards] at accepts
      cases accepts

end Handshake

end Agtp
