import Agtp.Core.AgentGenesis
import Agtp.Foundation.JsonPretty
import Agtp.Foundation.StandardJson

/-! # Geneses and their identity

A Genesis that was parsed is read back from the texts that are written of it, and the text
that its Agent-ID is the digest of tells all its fields but the signature. -/

namespace Agtp

class ShownContainers [TextOf] : Prop where
  container_ne : ∀ value, TextOf.container value ≠ ""

namespace AgentGenesis

open JsonText (Held firstExcess membersExcess)
open StandardJson (Loadable usualLimits sortKeys sortMembers)
open scoped StandardJson

/-! ## Texts -/

def unsignedEntries (genesis : AgentGenesis) : List (String × Option Json) := [
  ("agtp_genesis_version", some (.string genesisVersion)),
  ("name", some (.string genesis.name)),
  ("owner_id", some (.string genesis.ownerId)),
  ("principal_id", some (.string genesis.principalId)),
  ("agent_public_key", some (.string genesis.agentPublicKey)),
  ("archetype", genesis.archetype.map .string),
  ("governance_zone", genesis.governanceZone),
  ("trust_tier", some (.int genesis.trustTier)),
  ("verification_path", some (.string genesis.verificationPath)),
  ("issued_at", some (.string genesis.issuedAt)),
  ("issuer", some (.string genesis.issuer)),
  ("issuer_public_key", some (.string genesis.issuerPublicKey))]

def entries (genesis : AgentGenesis) : List (String × Option Json) :=
  genesis.unsignedEntries ++ [("signature", some (.string genesis.signature))]

def toDict (genesis : AgentGenesis) : List (String × Json) :=
  Document.shown genesis.entries

def withoutSignature (members : List (String × Json)) : List (String × Json) :=
  members.filter (·.1 ≠ "signature")

def toCanonicalJson (genesis : AgentGenesis) (excludeSignature : Bool) : List Char :=
  JsonText.text <| sortKeys <| .object <|
    if excludeSignature then withoutSignature genesis.toDict else genesis.toDict

def toPrettyJson (genesis : AgentGenesis) : List Char :=
  JsonText.pretty 0 (.object genesis.toDict)

section Loading

variable [TextOf] [Floats]

def loadGenesisJson (text : List Char) : Except GenesisFailure AgentGenesis :=
  match JsonText.loads usualLimits text with
  | .ok value => parse value
  | .error _ => .error .invalidJson

def Accepted (genesis : AgentGenesis) : Prop :=
  ∃ data, Loadable data ∧ parse data = .ok genesis

end Loading

/-- The Geneses agree in all fields that their identity is made of. A zone is compared as a
value, whatever the order of its members. -/
structure SameIdentity (first second : AgentGenesis) : Prop where
  name : first.name = second.name
  ownerId : first.ownerId = second.ownerId
  principalId : first.principalId = second.principalId
  agentPublicKey : first.agentPublicKey = second.agentPublicKey
  archetype : first.archetype = second.archetype
  governanceZone : Option.Rel Json.Same first.governanceZone second.governanceZone
  trustTier : first.trustTier = second.trustTier
  verificationPath : first.verificationPath = second.verificationPath
  issuedAt : first.issuedAt = second.issuedAt
  issuer : first.issuer = second.issuer
  issuerPublicKey : first.issuerPublicKey = second.issuerPublicKey

/-- `==` on Geneses. -/
structure Equal (first second : AgentGenesis) : Prop extends SameIdentity first second where
  signature : first.signature = second.signature

/-! ## What parsing leaves -/

def requiredTexts (genesis : AgentGenesis) : List String :=
  [genesis.name, genesis.ownerId, genesis.principalId, genesis.agentPublicKey,
    genesis.issuedAt, genesis.issuer, genesis.issuerPublicKey]

/-- What holds of a Genesis that was parsed. -/
structure Sound [Floats] (genesis : AgentGenesis) : Prop where
  required : ∀ text ∈ genesis.requiredTexts, text ≠ ""
  archetype : ∀ archetype ∈ genesis.archetype, archetype ∈ validArchetypes
  governanceZone : ∀ zone ∈ genesis.governanceZone,
    zone ≠ .null ∧ Held zone ∧ firstExcess usualLimits 1 zone = none

section Parsing

variable [TextOf]

theorem parse_ok {members : List (String × Json)} {genesis : AgentGenesis}
    (parsed : parse (.object members) = .ok genesis) :
    missingFields members = [] ∧
      genesis.requiredTexts = requiredFields.map (fun name => (Document.field members name).str) ∧
      parseArchetype members = .ok genesis.archetype ∧
      genesis.governanceZone = optionalMember members "governance_zone" := by
  rw [parse] at parsed
  split at parsed
  · cases parsed
  · split at parsed
    · cases parsed
    · next none =>
        split at parsed
        · cases parsed
        · split at parsed
          · cases parsed
          · cases archetype : parseArchetype members with
            | error failure =>
                rw [archetype] at parsed
                cases parsed
            | ok read =>
                rw [archetype] at parsed
                cases parsed
                exact ⟨not_not.mp none, rfl, rfl, rfl⟩

omit [TextOf] in
theorem mem_of_parseArchetype {members : List (String × Json)} {archetype : Option String}
    (parsed : parseArchetype members = .ok archetype) :
    ∀ value ∈ archetype, value ∈ validArchetypes := by
  intro value member
  unfold parseArchetype at parsed
  split at parsed
  · cases parsed
    cases member
  · split at parsed
    · next read =>
        cases parsed
        cases member
        exact mem_of_textIn read
    · cases parsed

omit [TextOf] in
theorem optionalMember_ne_null {members : List (String × Json)} {name : String} {value : Json}
    (found : optionalMember members name = some value) :
    value ≠ .null ∧ Json.member members name = some value := by
  unfold optionalMember at found
  split at found
  · cases found
  · cases found
  · next notNull held =>
      cases found
      exact ⟨notNull, held⟩

variable [Floats]

theorem str_ne [ShownContainers] {value : Json} (held : Held value)
    (truthy : value.truthy = true) : value.str ≠ "" := by
  cases held with
  | null => cases truthy
  | bool value =>
      cases value with
      | false => cases truthy
      | true =>
          change "True" ≠ ""
          decide
  | int value =>
      intro none
      have digits := JsonText.toString_int value
      have empty : (toString value).toList = [] := congrArg String.toList none
      rw [empty, JsonText.signed] at digits
      split at digits
      · cases digits
      · exact Nat.toDigits_ne_nil digits.symm
  | float float =>
      cases float with
      | nan =>
          change "nan" ≠ ""
          decide
      | infinity =>
          change "inf" ≠ ""
          decide
      | negativeInfinity =>
          change "-inf" ≠ ""
          decide
      | number read whole =>
          intro none
          obtain ⟨digit, rest, same, _⟩ := JsonText.scanUnsigned_digit read
          have empty : (Json.str (.float _)).toList = [] := congrArg String.toList none
          rw [Json.str, whole, same, JsonText.signed] at empty
          split at empty <;> cases empty
  | string value => exact of_decide_eq_true truthy
  | array items => exact ShownContainers.container_ne _
  | object distinct values => exact ShownContainers.container_ne _

omit [TextOf] in
theorem held_field {members : List (String × Json)} (held : Held (.object members))
    (name : String) : Held (Document.field members name) := by
  cases held with
  | object distinct values =>
      unfold Document.field
      cases found : Json.member members name with
      | none => exact .null
      | some value => exact values _ (Json.mem_of_member found)

theorem sound_of_parse [ShownContainers] {data : Json} {genesis : AgentGenesis}
    (loadable : Loadable data) (parsed : parse data = .ok genesis) : genesis.Sound := by
  cases data with
  | object members =>
      obtain ⟨complete, texts, archetype, zone⟩ := parse_ok parsed
      refine ⟨?_, mem_of_parseArchetype archetype, ?_⟩
      · intro text member
        rw [texts] at member
        obtain ⟨name, required, same⟩ := List.mem_map.mp member
        have truthy : (Document.field members name).truthy = true := by
          have present := List.filter_eq_nil_iff.mp complete name required
          simpa using present
        rw [← same]
        exact str_ne (held_field loadable.held name) truthy
      · intro value member
        rw [zone] at member
        obtain ⟨notNull, found⟩ := optionalMember_ne_null member
        have within := loadable.within
        rw [firstExcess, if_neg (by decide), StandardJson.membersExcess_none] at within
        cases loadable.held with
        | object distinct values =>
            exact ⟨notNull, values _ (Json.mem_of_member found),
              within _ (Json.mem_of_member found)⟩
  | _ => cases parsed

end Parsing

/-! ## Reading a Genesis back -/

theorem member_toDict (genesis : AgentGenesis) (name : String) :
    Json.member genesis.toDict name =
      (genesis.entries.find? fun entry => entry.1 = name).bind Prod.snd :=
  Document.member_shown (by simp [entries, unsignedEntries]) name

section Reading

variable [TextOf]

omit [TextOf] in
theorem tierOf_int {tier : Int} (valid : tier ∈ validTrustTiers) :
    tierOf (.int tier) = some tier :=
  if_pos valid

omit [TextOf] in
theorem textIn_string {texts : List String} {text : String} (member : text ∈ texts) :
    textIn texts (.string text) = some text :=
  if_pos member

theorem parse_of_members [Floats] {genesis : AgentGenesis} (sound : genesis.Sound)
    {members : List (String × Json)}
    (fields : ∀ name ≠ "signature",
      Json.member members name = Json.member genesis.toDict name)
    (signature : Json.textOr members "signature" "" = genesis.signature) :
    parse (.object members) = .ok genesis := by
  have held (name : String) (other : name ≠ "signature") :
      Json.member members name =
        (genesis.entries.find? fun entry => entry.1 = name).bind Prod.snd :=
    (fields name other).trans (genesis.member_toDict name)
  have version : supportsVersion members = true := by
    simp [supportsVersion, held "agtp_genesis_version" (by decide), entries, unsignedEntries]
  have texts : requiredFields.map (Document.field members) =
      genesis.requiredTexts.map .string := by
    simp [requiredFields, requiredTexts, Document.field, held, entries, unsignedEntries]
  have complete : missingFields members = [] := by
    apply List.filter_eq_nil_iff.mpr
    intro name required
    have spelled := List.mem_map_of_mem (f := Document.field members) required
    rw [texts] at spelled
    obtain ⟨text, member, same⟩ := List.mem_map.mp spelled
    rw [← same]
    simpa [Json.truthy] using sound.required text member
  have tier : tierOf (Document.fieldOr members "trust_tier" (.int 2)) =
      some genesis.trustTier := by
    simpa [Document.fieldOr, held "trust_tier" (by decide), entries, unsignedEntries] using
      tierOf_int genesis.trustTier_mem
  have path : textIn validVerificationPaths
      (Document.fieldOr members "verification_path" (.string "self-signed")) =
        some genesis.verificationPath := by
    simpa [Document.fieldOr, held "verification_path" (by decide), entries, unsignedEntries] using
      textIn_string genesis.verificationPath_mem
  have archetype : parseArchetype members = .ok genesis.archetype := by
    have spelled : Json.member members "archetype" = genesis.archetype.map .string := by
      simp [held, entries, unsignedEntries]
    unfold parseArchetype optionalMember
    rw [spelled]
    cases own : genesis.archetype with
    | none => rfl
    | some archetype =>
        dsimp only [Option.map_some]
        rw [textIn_string (sound.archetype archetype own)]
  have zone : optionalMember members "governance_zone" = genesis.governanceZone := by
    have spelled : Json.member members "governance_zone" = genesis.governanceZone := by
      simp [held, entries, unsignedEntries]
    unfold optionalMember
    rw [spelled]
    cases own : genesis.governanceZone with
    | none => rfl
    | some zone =>
        have notNull := (sound.governanceZone zone own).1
        cases zone with
        | null => exact absurd rfl notNull
        | _ => rfl
  have strings : requiredFields.map (fun name => (Document.field members name).str) =
      genesis.requiredTexts := by
    have printed := congrArg (List.map Json.str) texts
    rw [List.map_map, List.map_map] at printed
    exact printed.trans (List.map_id _)
  rw [parse, if_neg (by simp [version]), if_neg (by simp [complete])]
  split
  · next none =>
      rw [tier] at none
      cases none
  · next found =>
      split
      · next none =>
          rw [path] at none
          cases none
      · next foundPath =>
          rw [archetype]
          dsimp only
          simp only [requiredFields, requiredTexts, List.map_cons, List.cons.injEq] at strings
          obtain ⟨name, ownerId, principalId, agentPublicKey, issuedAt, issuer, key, _⟩ := strings
          cases tier.symm.trans found
          cases path.symm.trans foundPath
          congr 1
          cases genesis
          simp only [name, ownerId, principalId, agentPublicKey, issuedAt, issuer, key, zone,
            signature]

end Reading

def ordered (genesis : AgentGenesis) : AgentGenesis :=
  { genesis with governanceZone := genesis.governanceZone.map sortKeys }

def bare (genesis : AgentGenesis) : AgentGenesis :=
  { genesis with signature := "" }

theorem sortKeys_ne_null {value : Json} (notNull : value ≠ .null) : sortKeys value ≠ .null := by
  cases value with
  | null => exact absurd rfl notNull
  | _ => nofun

section Sound

variable [Floats] {genesis : AgentGenesis}

theorem Sound.ordered (sound : genesis.Sound) : genesis.ordered.Sound where
  required := sound.required
  archetype := sound.archetype
  governanceZone zone member := by
    obtain ⟨own, held, same⟩ := Option.map_eq_some_iff.mp member
    obtain ⟨notNull, heldZone, within⟩ := sound.governanceZone own held
    rw [← same]
    exact ⟨sortKeys_ne_null notNull, StandardJson.held_sortKeys heldZone,
      StandardJson.firstExcess_sortKeys heldZone within⟩

theorem Sound.bare (sound : genesis.Sound) : genesis.bare.Sound :=
  ⟨sound.required, sound.archetype, sound.governanceZone⟩

omit [Floats] in
theorem keys_shown (entries : List (String × Option Json)) :
    ((Document.shown entries).map Prod.fst).Sublist (entries.map Prod.fst) := by
  induction entries with
  | nil => exact .slnil
  | cons entry rest induction =>
      obtain ⟨key, value⟩ := entry
      cases value with
      | none => exact .cons _ induction
      | some value => exact .cons_cons _ induction

theorem Sound.entry (sound : genesis.Sound) : ∀ entry ∈ genesis.entries, ∀ value ∈ entry.2,
    Held value ∧ firstExcess usualLimits 1 value = none := by
  have text (text : String) : ∀ value ∈ some (Json.string text),
      Held value ∧ firstExcess usualLimits 1 value = none := by
    intro value held
    cases held
    exact ⟨.string text, rfl⟩
  have archetype : ∀ value ∈ genesis.archetype.map Json.string,
      Held value ∧ firstExcess usualLimits 1 value = none := by
    intro value held
    obtain ⟨archetype, _, same⟩ := Option.map_eq_some_iff.mp held
    rw [← same]
    exact ⟨.string archetype, rfl⟩
  have tier : ∀ value ∈ some (Json.int genesis.trustTier),
      Held value ∧ firstExcess usualLimits 1 value = none := by
    intro value held
    cases held
    have short : ∀ tier ∈ validTrustTiers,
        firstExcess usualLimits 1 (.int tier) = none := by
      decide +kernel
    exact ⟨.int _, short _ genesis.trustTier_mem⟩
  simp only [entries, unsignedEntries, List.cons_append, List.nil_append, List.forall_mem_cons]
  exact ⟨text _, text _, text _, text _, text _, archetype,
    fun value held => (sound.governanceZone value held).2, tier, text _, text _, text _, text _,
    text _, fun _ none => absurd none List.not_mem_nil⟩

theorem Sound.loadable (sound : genesis.Sound) {members : List (String × Json)}
    (written : members.Sublist genesis.toDict) : Loadable (.object members) := by
  have distinct : (genesis.toDict.map Prod.fst).Nodup :=
    List.Nodup.sublist (keys_shown genesis.entries) (by simp [entries, unsignedEntries])
  have each : ∀ member ∈ genesis.toDict,
      Held member.2 ∧ firstExcess usualLimits 1 member.2 = none := by
    intro member within
    obtain ⟨entry, own, shown⟩ := List.mem_filterMap.mp within
    obtain ⟨value, held, same⟩ := Option.map_eq_some_iff.mp shown
    rw [← same]
    exact sound.entry entry own value held
  constructor
  · apply Held.object (distinct.sublist (written.map Prod.fst))
    exact fun member within => (each member (written.subset within)).1
  · rw [firstExcess, if_neg (by decide), StandardJson.membersExcess_none]
    exact fun member within => (each member (written.subset within)).2

end Sound

/-! ## The texts are read back -/

theorem entries_ordered (genesis : AgentGenesis) :
    genesis.ordered.entries =
      genesis.entries.map fun entry => (entry.1, entry.2.map sortKeys) := by
  simp [entries, unsignedEntries, ordered, sortKeys, Function.comp_def]

theorem toDict_ordered (genesis : AgentGenesis) :
    genesis.ordered.toDict = genesis.toDict.map fun member => (member.1, sortKeys member.2) := by
  unfold toDict Document.shown
  rw [entries_ordered, List.filterMap_map, List.map_filterMap]
  apply List.filterMap_congr
  intro entry _
  simp [Function.comp_def]

theorem member_ordered (genesis : AgentGenesis) (name : String) :
    Json.member genesis.ordered.toDict name =
      (Json.member genesis.toDict name).map sortKeys := by
  rw [member_toDict, member_toDict, entries_ordered, List.find?_map]
  cases found : genesis.entries.find? (fun entry => entry.1 = name) with
  | none => simp [Function.comp_def, found]
  | some entry => simp [Function.comp_def, found]

theorem member_bare (genesis : AgentGenesis) {name : String} (other : name ≠ "signature") :
    Json.member genesis.bare.toDict name = Json.member genesis.toDict name := by
  have signature (text : String) :
      [("signature", some (Json.string text))].find? (fun entry => entry.1 = name) = none := by
    simpa using Ne.symm other
  rw [member_toDict, member_toDict, entries, entries, List.find?_append, List.find?_append,
    signature, signature]
  rfl

theorem member_withoutSignature (members : List (String × Json)) (name : String) :
    Json.member (withoutSignature members) name =
      if name = "signature" then none else Json.member members name := by
  induction members with
  | nil => simp [withoutSignature]
  | cons member members induction =>
      obtain ⟨key, value⟩ := member
      unfold withoutSignature at induction ⊢
      by_cases signature : key = "signature"
      · rw [List.filter_cons_of_neg (by simpa using signature), induction, Json.member_cons,
          signature]
        by_cases same : name = "signature"
        · rw [if_pos same, if_pos same]
        · rw [if_neg same, if_neg same, if_neg (Ne.symm same)]
      · rw [List.filter_cons_of_pos (by simpa using signature), Json.member_cons,
          Json.member_cons, induction]
        by_cases same : key = name
        · rw [if_pos same, if_pos same, if_neg (same ▸ signature)]
        · rw [if_neg same, if_neg same]

section Written

variable [TextOf] [Floats] {genesis : AgentGenesis}

omit [Floats] in
theorem textOr_toDict (genesis : AgentGenesis) :
    Json.textOr genesis.toDict "signature" "" = genesis.signature := by
  unfold Json.textOr
  rw [member_toDict]
  by_cases empty : genesis.signature = ""
  · simp [entries, unsignedEntries, Json.truthy, empty]
  · simp [entries, unsignedEntries, Json.truthy, Json.str, empty]

theorem parse_toDict (sound : genesis.Sound) : parse (.object genesis.toDict) = .ok genesis :=
  parse_of_members sound (fun _ _ => rfl) genesis.textOr_toDict

theorem parse_sortMembers (sound : genesis.Sound) :
    parse (.object (sortMembers genesis.toDict)) = .ok genesis.ordered := by
  have members (name : String) : Json.member (sortMembers genesis.toDict) name =
      Json.member genesis.ordered.toDict name := by
    rw [StandardJson.member_sortMembers, member_ordered]
  apply parse_of_members sound.ordered (fun name _ => members name)
  unfold Json.textOr
  rw [members]
  exact genesis.ordered.textOr_toDict

theorem parse_withoutSignature (sound : genesis.Sound) :
    parse (.object (sortMembers (withoutSignature genesis.toDict))) =
      .ok genesis.ordered.bare := by
  apply parse_of_members sound.ordered.bare
  · intro name other
    rw [StandardJson.member_sortMembers, member_withoutSignature, if_neg other,
      ← member_ordered, member_bare _ other]
  · unfold Json.textOr
    rw [StandardJson.member_sortMembers, member_withoutSignature, if_pos rfl]
    rfl

omit [TextOf] in
theorem loads_sorted {members : List (String × Json)} (loadable : Loadable (.object members)) :
    JsonText.loads usualLimits (JsonText.text (sortKeys (.object members))) =
      .ok (.object (sortMembers members)) := by
  rw [JsonText.loads_text (StandardJson.held_sortKeys loadable.held),
    StandardJson.firstExcess_sortKeys loadable.held loadable.within]
  rfl

theorem load_toPrettyJson (sound : genesis.Sound) :
    loadGenesisJson genesis.toPrettyJson = .ok genesis := by
  have loadable := sound.loadable (List.Sublist.refl _)
  unfold loadGenesisJson toPrettyJson
  rw [JsonText.loads_pretty loadable.held, JsonText.loads_text loadable.held, loadable.within]
  exact parse_toDict sound

theorem load_toCanonicalJson (sound : genesis.Sound) :
    loadGenesisJson (genesis.toCanonicalJson false) = .ok genesis.ordered := by
  unfold loadGenesisJson
  rw [toCanonicalJson, if_neg (by decide), loads_sorted (sound.loadable (List.Sublist.refl _))]
  exact parse_sortMembers sound

theorem load_unsignedJson (sound : genesis.Sound) :
    loadGenesisJson (genesis.toCanonicalJson true) = .ok genesis.ordered.bare := by
  have written : (withoutSignature genesis.toDict).Sublist genesis.toDict :=
    List.filter_sublist
  unfold loadGenesisJson
  rw [toCanonicalJson, if_pos rfl, loads_sorted (sound.loadable written)]
  exact parse_withoutSignature sound

end Written

/-! ## Identity -/

section Identity

variable [Floats]

theorem canonical_unsigned (genesis : AgentGenesis) :
    JsonCodec.canonical genesis.unsigned = Utf8.encode (genesis.toCanonicalJson true) := by
  have same : genesis.unsigned = .object (withoutSignature genesis.toDict) := by
    cases genesis with
    | mk name ownerId principalId agentPublicKey archetype governanceZone =>
        cases archetype <;> cases governanceZone <;> rfl
  rw [same]
  rfl

variable {genesis first second : AgentGenesis}

theorem toCanonicalJson_ordered (sound : genesis.Sound) :
    genesis.ordered.toCanonicalJson true = genesis.toCanonicalJson true := by
  let sorted (member : String × Json) : String × Json := (member.1, sortKeys member.2)
  have unsigned : withoutSignature genesis.ordered.toDict =
      (withoutSignature genesis.toDict).map sorted := by
    rw [toDict_ordered, withoutSignature, List.filter_map]
    rfl
  have held := (sound.loadable (List.Sublist.refl _)).held
  have again : ((withoutSignature genesis.toDict).map sorted).map sorted =
      (withoutSignature genesis.toDict).map sorted := by
    rw [List.map_map]
    apply List.map_congr_left
    intro member within
    cases held with
    | object distinct values =>
        have own := values member (List.mem_of_mem_filter within)
        exact congrArg (Prod.mk member.1) (StandardJson.sortKeys_sortKeys own)
  have same : sortMembers (withoutSignature genesis.ordered.toDict) =
      sortMembers (withoutSignature genesis.toDict) := by
    rw [unsigned, StandardJson.sortMembers_eq, StandardJson.sortMembers_eq]
    exact congrArg _ again
  rw [toCanonicalJson, toCanonicalJson, if_pos rfl, if_pos rfl, sortKeys, sortKeys, same]

theorem rel_of_sorted {left right : Option Json} (held : ∀ value ∈ left, Held value)
    (sorted : left.map sortKeys = right.map sortKeys) : Option.Rel Json.Same left right := by
  cases left with
  | none =>
      rw [Option.map_eq_none_iff.mp sorted.symm]
      exact .none
  | some value =>
      obtain ⟨other, found, same⟩ := Option.map_eq_some_iff.mp sorted.symm
      rw [found]
      exact .some (StandardJson.same_of_sortKeys (held value rfl) same.symm)

theorem rel_ordered (sound : genesis.Sound) :
    Option.Rel Json.Same genesis.ordered.governanceZone genesis.governanceZone := by
  apply rel_of_sorted fun value member => (sound.ordered.governanceZone value member).2.1
  change (genesis.governanceZone.map sortKeys).map sortKeys = _
  cases own : genesis.governanceZone with
  | none => rfl
  | some zone =>
      have held := (sound.governanceZone zone own).2.1
      exact congrArg some (StandardJson.sortKeys_sortKeys held)

theorem equal_self (sound : genesis.Sound) : genesis.Equal genesis where
  name := rfl
  ownerId := rfl
  principalId := rfl
  agentPublicKey := rfl
  archetype := rfl
  governanceZone :=
    rel_of_sorted (fun value held => (sound.governanceZone value held).2.1) rfl
  trustTier := rfl
  verificationPath := rfl
  issuedAt := rfl
  issuer := rfl
  issuerPublicKey := rfl
  signature := rfl

theorem equal_ordered (sound : genesis.Sound) : genesis.ordered.Equal genesis where
  name := rfl
  ownerId := rfl
  principalId := rfl
  agentPublicKey := rfl
  archetype := rfl
  governanceZone := rel_ordered sound
  trustTier := rfl
  verificationPath := rfl
  issuedAt := rfl
  issuer := rfl
  issuerPublicKey := rfl
  signature := rfl

variable [TextOf]

theorem sameIdentity_of_toCanonicalJson (firstSound : first.Sound) (secondSound : second.Sound)
    (same : first.toCanonicalJson true = second.toCanonicalJson true) :
    first.SameIdentity second := by
  have firstLoad := load_unsignedJson firstSound
  rw [same, load_unsignedJson secondSound] at firstLoad
  have fields := Except.ok.inj firstLoad.symm
  simp only [bare, ordered, AgentGenesis.mk.injEq] at fields
  obtain ⟨name, ownerId, principalId, agentPublicKey, archetype, zone, trustTier, path,
    issuedAt, issuer, key, _⟩ := fields
  exact ⟨name, ownerId, principalId, agentPublicKey, archetype,
    rel_of_sorted (fun value held => (firstSound.governanceZone value held).2.1) zone,
    trustTier, path, issuedAt, issuer, key⟩

variable [ShownContainers] [Digest] [ManifestKeys]

omit [TextOf] [ShownContainers] [ManifestKeys] in
theorem canonicalAgentId_ordered (sound : genesis.Sound) :
    genesis.ordered.canonicalAgentId = genesis.canonicalAgentId := by
  rw [canonicalAgentId, canonicalAgentId, canonical_unsigned, canonical_unsigned,
    toCanonicalJson_ordered sound]

omit [TextOf] [ShownContainers] [Digest] in
theorem verify_ordered (sound : genesis.Sound) : genesis.ordered.verify = genesis.verify := by
  have same : JsonCodec.canonical genesis.ordered.unsigned =
      JsonCodec.canonical genesis.unsigned := by
    rw [canonical_unsigned, canonical_unsigned, toCanonicalJson_ordered sound]
  unfold verify
  rw [same]
  rfl

end Identity

end AgentGenesis

end Agtp

namespace Agtp.AgentGenesis.IdentitySamples

open StandardJson (Loadable)
open scoped Plain StandardJson

scoped instance : TextOf where
  container
    | .array _ => "[...]"
    | _ => "\x7b...\x7d"
  quoted := fun text => "'" ++ text ++ "'"

scoped instance : ShownContainers where
  container_ne value := by
    cases value with
    | array values =>
        change "[...]" ≠ ""
        decide
    | _ =>
        change "\x7b...\x7d" ≠ ""
        decide

scoped instance : Digest where
  sha256 bytes := String.ofList (bytes.map fun byte => Char.ofNat byte.toNat)

theorem digest_injective : Function.Injective Digest.sha256 := by
  intro left right same
  have texts := congrArg String.toList same
  simp only [Digest.sha256, String.toList_ofList] at texts
  apply List.map_injective_iff.mpr _ texts
  intro first second equal
  have numbers := congrArg Char.toNat equal
  have small (byte : UInt8) : (Char.ofNat byte.toNat).toNat = byte.toNat := by
    have bound := byte.toNat_lt
    rw [Char.ofNat, dif_pos (.inl (by omega))]
    rfl
  rw [small, small] at numbers
  exact UInt8.toNat_inj.mp numbers

scoped instance : ManifestKeys where
  verifies := fun _ signature message => signature = message

def courier : Json :=
  .object [("name", .int 7), ("owner_id", .string "o"), ("principal_id", .string "p"),
    ("agent_public_key", .string "k"), ("trust_tier", .bool true),
    ("governance_zone", .object [("zone", .string "west"), ("area", .int 2)]),
    ("issued_at", .string "t"), ("issuer", .string "r"), ("issuer_public_key", .string "K")]

theorem courier_loadable : Loadable courier := by
  constructor
  · have zone : JsonText.Held (.object [("zone", .string "west"), ("area", .int 2)]) := by
      apply JsonText.Held.object (by decide)
      simp only [List.forall_mem_cons]
      exact ⟨.string _, .int _, fun _ none => absurd none List.not_mem_nil⟩
    apply JsonText.Held.object (by decide)
    simp only [List.forall_mem_cons]
    exact ⟨.int _, .string _, .string _, .string _, .bool _, zone, .string _, .string _,
      .string _, fun _ none => absurd none List.not_mem_nil⟩
  · decide +kernel

end Agtp.AgentGenesis.IdentitySamples
