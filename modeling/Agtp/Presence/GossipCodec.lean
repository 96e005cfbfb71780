import Agtp.Ans.Methods
import Agtp.Foundation.KeyedDict

/-! # The gossip codec

What `to_gossip_dict` writes of a record and what `from_gossip_dict` reads of it, at once
and after a trip through JSON. A record may be held under a value that is no text, and its
entry may have such keys. -/

namespace Agtp

open JsonText (Held Printed Limits ReadsTo firstExcess loads)

/-! ## Dictionaries -/

namespace KeyedEntries

/-- An item of a list that `dict` takes as a pair. -/
def pairIn (item : Json) : Except Raised (DictKey × Json) :=
  match item.iterate with
  | .error raised => .error raised
  | .ok [key, value] =>
      match DictKey.ofJson? key with
      | some key => .ok (key, value)
      | none => .error .typeError
  | .ok _ => .error .valueError

def ofMembers (members : List (String × Json)) : KeyedEntries :=
  members.map fun member => (.text member.1, member.2)

def ofValue [Floats] : Json → Except Raised KeyedEntries
  | .object members => .ok (ofMembers members)
  | .array items => (Fallible.map pairIn items).map ofPairs
  | .string text => if text = "" then .ok [] else .error .valueError
  | _ => .error .typeError

end KeyedEntries

inductive GossipValue where
  | json (value : Json)
  | keyed (entries : KeyedEntries)

def GossipValue.written : GossipValue → Json
  | json value => value
  | keyed entries => .object entries.members

abbrev GossipDict := List (String × GossipValue)

namespace GossipDict

def written (data : GossipDict) : List (String × Json) :=
  data.map fun member => (member.1, member.2.written)

def ofMembers (members : List (String × Json)) : GossipDict :=
  members.map fun member => (member.1, .json member.2)

@[simp] theorem written_ofMembers (members : List (String × Json)) :
    written (ofMembers members) = members := by
  rw [written, ofMembers, List.map_map]
  exact List.map_id _

def resultEntry [Floats] (data : GossipDict) : Except Raised KeyedEntries :=
  match data.lookup "result_entry" with
  | some (.keyed entries) => .ok entries
  | _ => KeyedEntries.ofValue (Json.getOr data.written "result_entry" (.object []))

theorem lookup_ofMembers {members : List (String × Json)} {name : String}
    {entries : KeyedEntries} : (ofMembers members).lookup name ≠ some (.keyed entries) := by
  induction members with
  | nil => exact nofun
  | cons first rest induction =>
      change List.lookup name ((first.1, .json first.2) :: ofMembers rest) ≠ _
      rw [List.lookup_cons]
      split
      · exact nofun
      · exact induction

theorem resultEntry_ofMembers [Floats] (members : List (String × Json)) :
    (ofMembers members).resultEntry =
      KeyedEntries.ofValue (Json.getOr members "result_entry" (.object [])) := by
  unfold resultEntry
  split
  · next entries found => exact absurd found lookup_ofMembers
  · rw [written_ofMembers]

end GossipDict

/-! ## Records -/

/-- A record as a coordinator holds it. -/
structure StoredRecord where
  agentId : Json
  resultEntry : KeyedEntries
  scopes : List Json
  visibility : Visibility
  announcedAt : String
  announcedAtEpoch : String
  ttlSeconds : Int
  ownerDomain : Json
  attachment : Option String
  signature : Json

namespace StoredRecord

def ofBuilt (record : PresenceRecord) : StoredRecord where
  agentId := .string record.agentId
  resultEntry := KeyedEntries.ofMembers record.resultEntry
  scopes := record.scopes
  visibility := record.visibility
  announcedAt := record.announcedAt
  announcedAtEpoch := record.announcedAtEpoch
  ttlSeconds := record.ttlSeconds
  ownerDomain := record.ownerDomain
  attachment := record.attachment
  signature := record.signature

def toGossipDict (record : StoredRecord) : GossipDict :=
  [("agent_id", .json record.agentId),
    ("result_entry", .keyed record.resultEntry),
    ("scopes", .json (.array record.scopes)),
    ("visibility", .json (.object record.visibility.toDict)),
    ("owner_domain", .json record.ownerDomain),
    ("announced_at", .json (.string record.announcedAt)),
    ("announced_at_epoch", .json (.float record.announcedAtEpoch)),
    ("ttl_seconds", .json (.int record.ttlSeconds)),
    ("signature", .json record.signature)]

variable [Floats]

def fromGossipDict [TextOf] [NumberText] (now : String) (data : GossipDict) :
    Except Raised StoredRecord := do
  let agentId ← Json.item data.written "agent_id"
  let resultEntry ← data.resultEntry
  let scopes ← (Json.getOr data.written "scopes" (.array [])).iterate
  let epoch ← (Json.getOr data.written "announced_at_epoch" (.float "0.0")).toFloat
  let ttl ← (Json.getOr data.written "ttl_seconds" (.int defaultTtlSeconds)).toInt
  return {
    agentId := .string agentId.str
    resultEntry := resultEntry
    scopes := scopes
    visibility := Visibility.fromDict (Json.get data.written "visibility")
    announcedAt := (Json.getOr data.written "announced_at" (.string now)).str
    announcedAtEpoch := epoch
    ttlSeconds := ttl
    ownerDomain := Json.get data.written "owner_domain"
    attachment := none
    signature := Json.get data.written "signature" }

def received [TextOf] [NumberText] (now : String) : Json → Except Raised StoredRecord
  | .object members => fromGossipDict now (.ofMembers members)
  | _ => .error .typeError

def expiresAt (record : StoredRecord) : Except Raised (Option Double) :=
  if record.ttlSeconds ≤ 0 then .ok none
  else
    match Floats.ofInt record.ttlSeconds with
    | some ttl =>
        .ok (some (Floats.sum (Floats.value record.announcedAtEpoch) (Floats.value ttl)))
    | none => .error .overflowError

def isExpired (record : StoredRecord) (now : ℚ) : Except Raised Bool :=
  record.expiresAt.map fun expiry =>
    match expiry with
    | some expiry => expiry.le (.finite now)
    | none => false

def signingPayload (record : StoredRecord) : Option Bytes :=
  record.resultEntry.sorted.map fun inOrder =>
    Utf8.encode (JsonText.text (.object
      [("agent_id", StandardJson.sortKeys record.agentId),
        ("announced_at", .string record.announcedAt),
        ("result_entry",
          .object (inOrder.members.map fun member => (member.1, StandardJson.sortKeys member.2))),
        ("scopes", StandardJson.sortKeys (.array record.scopes)),
        ("visibility", StandardJson.sortKeys (.object record.visibility.toDict))]))

def verifyRecord [SignatureScheme Bytes] (record : StoredRecord) : Bool :=
  match record.signature, record.signingPayload with
  | .object signature, some payload =>
      match Json.get signature "alg", Json.get signature "value" with
      | .string algorithm, .string text =>
          match PresenceRecord.recordPublicKey signature, PresenceRecord.unb64url text with
          | some key, some value =>
              algorithm = "EdDSA" && SignatureScheme.verifies key value payload
          | _, _ => false
      | _, _ => false
  | _, _ => false

/-! ## What is held -/

/-- A record of values as Python holds them, with an announcement time. -/
structure WellFormed (record : StoredRecord) : Prop where
  agentId : Held record.agentId
  distinct : record.resultEntry.Distinct
  entries : ∀ entry ∈ record.resultEntry, Held entry.2
  scopes : ∀ scope ∈ record.scopes, Held scope
  announced : record.announcedAt ≠ ""
  epoch : Printed record.announcedAtEpoch
  ownerDomain : Held record.ownerDomain
  signature : Held record.signature

def signatureOf (publicKey value : String) : Json :=
  .object [("alg", .string "EdDSA"), ("public_key", .string publicKey),
    ("value", .string value)]

variable [TextCase] [TextOf] [NumberText] [MethodCatalog]

/-- The records that the system can hold: of a hosted agent, signed or not, of a manifest,
or from a peer. -/
inductive Holdable : StoredRecord → Prop where
  | hosted {document : DocumentFields} {relay : Option String} {visibility : Visibility}
      {ttl : Int} {reading : Reading} {record : PresenceRecord} {signature : Json}
      (methods : ∀ method ∈ document.requires.methods, Held method)
      (score : ∀ score ∈ document.trustScore, Printed score)
      (clock : reading.text ≠ "" ∧ Printed reading.epoch)
      (built : Presence.buildRecord document relay visibility ttl reading = .ok record)
      (signed : signature = .null ∨ ∃ publicKey value, signature = signatureOf publicKey value) :
      Holdable { ofBuilt record with signature := signature }
  | manifest {agentId : Json} {key : String} {manifest : List (String × Json)}
      {reading : Reading} {record : PresenceRecord}
      (id : Held agentId) (held : Held (.object manifest))
      (clock : reading.text ≠ "" ∧ Printed reading.epoch)
      (hashed : agentId.pairKey = .ok key)
      (built : Ans.recordFromManifest agentId key manifest reading = .ok record) :
      Holdable { ofBuilt record with agentId := agentId }
  | peer {data : Json} {now : String} {record : StoredRecord}
      (held : Held data) (clock : now ≠ "") (read : received now data = .ok record)
      (printed : Printed record.announcedAtEpoch) : Holdable record

omit [TextCase] [MethodCatalog]

/-! ## The round trip -/

/-- The records agree but for the relay hint. Times are compared as numbers. -/
structure SameAs (copy record : StoredRecord) : Prop where
  agentId : copy.agentId = record.agentId
  resultEntry : copy.resultEntry = record.resultEntry
  scopes : copy.scopes = record.scopes
  visibility : copy.visibility = record.visibility
  announcedAt : copy.announcedAt = record.announcedAt
  epoch : Floats.value copy.announcedAtEpoch = Floats.value record.announcedAtEpoch
  ttlSeconds : copy.ttlSeconds = record.ttlSeconds
  ownerDomain : copy.ownerDomain = record.ownerDomain
  signature : copy.signature = record.signature

structure Carried [SignatureScheme Bytes] (copy record : StoredRecord) : Prop
    extends SameAs copy record where
  lifetime : ∀ now, copy.isExpired now = record.isExpired now
  verifies : copy.verifyRecord = record.verifyRecord

def RoundTrips [SignatureScheme Bytes] (limits : Limits) (record : StoredRecord) : Prop :=
  ∀ now,
    (∃ copy, fromGossipDict now record.toGossipDict = .ok copy ∧ copy.Carried record) ∧
    ∃ data copy,
      loads limits (JsonText.text (.object record.toGossipDict.written)) = .ok data ∧
      received now data = .ok copy ∧ copy.Carried record

omit [TextOf] [NumberText] in
theorem SameAs.carried [SignatureScheme Bytes] {copy record : StoredRecord}
    (same : copy.SameAs record) : copy.Carried record where
  toSameAs := same
  lifetime now := by
    unfold isExpired expiresAt
    rw [same.ttlSeconds, same.epoch]
  verifies := by
    unfold verifyRecord signingPayload
    rw [same.agentId, same.resultEntry, same.scopes, same.visibility, same.announcedAt,
      same.signature]

/-! ### Reading at once -/

def relayed (now : String) (record : StoredRecord) : StoredRecord :=
  { record with
    agentId := .string record.agentId.str
    announcedAt := if record.announcedAt = "" then now else record.announcedAt
    announcedAtEpoch :=
      if record.announcedAtEpoch = "-0.0" then "0.0" else record.announcedAtEpoch
    ttlSeconds := if record.ttlSeconds = 0 then defaultTtlSeconds else record.ttlSeconds
    attachment := none }

def otherNames : List String :=
  ["agent_id", "scopes", "visibility", "owner_domain", "announced_at", "announced_at_epoch",
    "ttl_seconds", "signature"]

omit [Floats] [TextOf] [NumberText] in
theorem getOr_of_member {members : List (String × Json)} {name : String} {value : Json}
    (held : Json.member members name = some value) (default : Json) :
    Json.getOr members name default = if value.truthy then value else default := by
  rw [Json.getOr, held]

omit [Floats] [TextOf] [NumberText] in
theorem iterate_or (values : List Json) :
    (if (Json.array values).truthy then Json.array values else .array []).iterate =
      .ok values := by
  cases values with
  | nil => rfl
  | cons first rest => rfl

omit [TextOf] [NumberText] in
theorem toFloat_or (text : String) :
    (if (Json.float text).truthy then Json.float text else .float "0.0").toFloat =
      .ok (if text = "-0.0" then "0.0" else text) := by
  by_cases negative : text = "-0.0"
  · simp [Json.truthy, Json.toFloat, negative]
  · by_cases zero : text = "0.0"
    · simp [Json.truthy, Json.toFloat, zero]
    · simp [Json.truthy, Json.toFloat, negative, zero]

omit [TextOf] in
theorem toInt_or (value : Int) :
    (if (Json.int value).truthy then Json.int value else .int defaultTtlSeconds).toInt =
      .ok (if value = 0 then defaultTtlSeconds else value) := by
  by_cases zero : value = 0
  · simp [Json.truthy, Json.toInt, zero]
  · simp [Json.truthy, Json.toInt, zero]

omit [Floats] [NumberText] in
theorem str_or (now text : String) :
    (if (Json.string text).truthy then Json.string text else .string now).str =
      if text = "" then now else text := by
  by_cases empty : text = ""
  · simp [Json.truthy, Json.str, empty]
  · simp [Json.truthy, Json.str, empty]

theorem fromGossipDict_of_members {data : GossipDict} {record : StoredRecord}
    {entries : KeyedEntries} (now : String) (entry : data.resultEntry = .ok entries)
    (same : ∀ name ∈ otherNames,
      Json.member data.written name = Json.member record.toGossipDict.written name) :
    fromGossipDict now data = .ok { record.relayed now with resultEntry := entries } := by
  have held {name : String} {value : Json} (read : name ∈ otherNames)
      (written : Json.member record.toGossipDict.written name = some value) :
      Json.member data.written name = some value := (same name read).trans written
  have agentId : Json.item data.written "agent_id" = .ok record.agentId := by
    have found : Json.member data.written "agent_id" = some record.agentId :=
      held (by decide) rfl
    rw [Json.item, found]
  have scopes : (Json.getOr data.written "scopes" (.array [])).iterate = .ok record.scopes := by
    rw [getOr_of_member (held (by decide) rfl)]
    exact iterate_or record.scopes
  have epoch : (Json.getOr data.written "announced_at_epoch" (.float "0.0")).toFloat =
      .ok (record.relayed now).announcedAtEpoch := by
    rw [getOr_of_member (held (by decide) rfl)]
    exact toFloat_or record.announcedAtEpoch
  have ttl : (Json.getOr data.written "ttl_seconds" (.int defaultTtlSeconds)).toInt =
      .ok (record.relayed now).ttlSeconds := by
    rw [getOr_of_member (held (by decide) rfl)]
    exact toInt_or record.ttlSeconds
  have announcedAt : (Json.getOr data.written "announced_at" (.string now)).str =
      (record.relayed now).announcedAt := by
    rw [getOr_of_member (held (by decide) rfl)]
    exact str_or now record.announcedAt
  have visibility : Json.get data.written "visibility" = .object record.visibility.toDict := by
    rw [Json.get, held (by decide) rfl]
    rfl
  have ownerDomain : Json.get data.written "owner_domain" = record.ownerDomain := by
    rw [Json.get, held (by decide) rfl]
    rfl
  have signature : Json.get data.written "signature" = record.signature := by
    rw [Json.get, held (by decide) rfl]
    rfl
  simp only [fromGossipDict, agentId, entry, scopes, epoch, ttl, announcedAt, visibility,
    ownerDomain, signature, Visibility.fromDict_toDict]
  rfl

theorem fromGossipDict_toGossipDict (now : String) (record : StoredRecord) :
    fromGossipDict now record.toGossipDict = .ok (record.relayed now) :=
  fromGossipDict_of_members now rfl fun _ _ => rfl

omit [NumberText] in
/-- The copy is the record if the id is a text and the record ages or never ages by a
negative time to live. -/
theorem sameAs_relayed_iff {record : StoredRecord} (announced : record.announcedAt ≠ "")
    (now : String) (entries : KeyedEntries) :
    SameAs { record.relayed now with resultEntry := entries } record ↔
      record.ttlSeconds ≠ 0 ∧ (∃ text, record.agentId = .string text) ∧
        entries = record.resultEntry := by
  constructor
  · intro same
    refine ⟨?_, ⟨_, same.agentId.symm⟩, same.resultEntry⟩
    intro ageless
    have ttl := same.ttlSeconds
    simp [relayed, ageless, defaultTtlSeconds] at ttl
  · rintro ⟨ages, ⟨text, isText⟩, sameEntries⟩
    have agentId : Json.string record.agentId.str = record.agentId := by
      rw [isText, Json.str]
    refine ⟨agentId, sameEntries, rfl, rfl, if_neg announced, ?_, if_neg ages, rfl, rfl⟩
    simp only [relayed]
    by_cases negative : record.announcedAtEpoch = "-0.0"
    · rw [if_pos negative, negative, Floats.value_zero, Floats.value_negativeZero]
    · rw [if_neg negative]

/-! ### Reading from the text -/

def undoubled : Json → Json
  | .object members => .object (Dict.ofList members).entries
  | value => value

omit [TextOf] [NumberText] in
theorem undoubled_of_held {value : Json} (held : Held value) : undoubled value = value := by
  cases held with
  | @object members distinct values =>
      have same := Dict.ofList_entries ⟨members, distinct⟩
      exact congrArg (fun dictionary => Json.object dictionary.entries) same
  | _ => rfl

def reloaded (record : StoredRecord) : List (String × Json) :=
  record.toGossipDict.written.map fun member => (member.1, undoubled member.2)

variable {record : StoredRecord}

omit [TextOf] [NumberText] in
theorem held_visibility (visibility : Visibility) : Held (.object visibility.toDict) := by
  refine .object ?_ ?_
  · simp [Visibility.toDict]
  · intro member inside
    simp only [Visibility.toDict, List.mem_cons, List.not_mem_nil, or_false] at inside
    rcases inside with same | same | same <;> (rw [same]; exact .string _)

omit [TextOf] [NumberText] in
theorem readsTo_written {limits : Limits} (wellFormed : record.WellFormed) :
    ∀ member ∈ record.toGossipDict.written, ReadsTo limits member.2 (undoubled member.2) := by
  have plain {value : Json} (held : Held value) : ReadsTo limits value (undoubled value) := by
    rw [undoubled_of_held held]
    exact JsonText.readsAs_of_held held
  have entry : ReadsTo limits (.object record.resultEntry.members)
      (undoubled (.object record.resultEntry.members)) := by
    apply @JsonText.readsTo_object _ _ record.resultEntry.members id
    intro member inside
    obtain ⟨own, listed, same⟩ := List.mem_map.mp inside
    rw [← same]
    exact JsonText.readsAs_of_held (wellFormed.entries own listed)
  intro member inside
  simp only [toGossipDict, GossipDict.written, List.map_cons, List.map_nil, List.mem_cons,
    List.not_mem_nil, or_false] at inside
  rcases inside with same | same | same | same | same | same | same | same | same
  · rw [same]
    exact plain wellFormed.agentId
  · rw [same]
    exact entry
  · rw [same]
    exact plain (.array wellFormed.scopes)
  · rw [same]
    exact plain (held_visibility record.visibility)
  · rw [same]
    exact plain wellFormed.ownerDomain
  · rw [same]
    exact plain (.string _)
  · rw [same]
    exact plain (.float wellFormed.epoch)
  · rw [same]
    exact plain (.int _)
  · rw [same]
    exact plain wellFormed.signature

omit [TextOf] [NumberText] in
theorem loads_written (wellFormed : record.WellFormed) (limits : Limits) :
    loads limits (JsonText.text (.object record.toGossipDict.written)) =
      match firstExcess limits 0 (.object record.toGossipDict.written) with
      | some kind => .error (.excess kind)
      | none => .ok (.object record.reloaded) := by
  apply JsonText.loads_text_to
  have members := @readsTo_written _ record limits wellFormed
  have reads := JsonText.readsTo_object members
  have distinct : (record.reloaded.map Prod.fst).Nodup := by
    change ["agent_id", "result_entry", "scopes", "visibility", "owner_domain",
      "announced_at", "announced_at_epoch", "ttl_seconds", "signature"].Nodup
    decide
  have all : (Dict.ofList record.reloaded).entries = record.reloaded :=
    congrArg Dict.entries (Dict.ofList_entries ⟨record.reloaded, distinct⟩)
  rw [Dict.ofList, reloaded, List.foldl_map] at all
  rwa [all] at reads

omit [TextOf] [NumberText] in
theorem resultEntry_reloaded (record : StoredRecord) :
    (GossipDict.ofMembers record.reloaded).resultEntry =
      .ok (KeyedEntries.ofMembers (Dict.ofList record.resultEntry.members).entries) := by
  have held : Json.member record.reloaded "result_entry" =
      some (.object (Dict.ofList record.resultEntry.members).entries) := rfl
  rw [GossipDict.resultEntry_ofMembers, getOr_of_member held]
  cases (Dict.ofList record.resultEntry.members).entries with
  | nil => rfl
  | cons first rest => rfl

omit [TextOf] [NumberText] in
theorem member_reloaded (wellFormed : record.WellFormed) : ∀ name ∈ otherNames,
    Json.member record.reloaded name = Json.member record.toGossipDict.written name := by
  have agentId := undoubled_of_held wellFormed.agentId
  have visibility := undoubled_of_held (held_visibility record.visibility)
  have ownerDomain := undoubled_of_held wellFormed.ownerDomain
  have signature := undoubled_of_held wellFormed.signature
  intro name other
  simp only [otherNames, List.mem_cons, List.not_mem_nil, or_false] at other
  rcases other with same | same | same | same | same | same | same | same
  · rw [same]
    exact congrArg some agentId
  · rw [same]
    rfl
  · rw [same]
    exact congrArg some visibility
  · rw [same]
    exact congrArg some ownerDomain
  · rw [same]
    rfl
  · rw [same]
    rfl
  · rw [same]
    rfl
  · rw [same]
    exact congrArg some signature

theorem received_reloaded (wellFormed : record.WellFormed) (now : String) :
    received now (.object record.reloaded) =
      .ok { record.relayed now with
        resultEntry :=
          KeyedEntries.ofMembers (Dict.ofList record.resultEntry.members).entries } := by
  apply fromGossipDict_of_members now (resultEntry_reloaded record)
  rw [GossipDict.written_ofMembers]
  exact member_reloaded wellFormed

omit [TextOf] [NumberText] in
theorem ofMembers_members_iff {entries : KeyedEntries} (distinct : entries.Distinct) :
    KeyedEntries.ofMembers (Dict.ofList entries.members).entries = entries ↔
      ∀ entry ∈ entries, entry.1.isText = true := by
  constructor
  · intro same entry member
    rw [← same] at member
    obtain ⟨own, _, equal⟩ := List.mem_map.mp member
    rw [← equal]
    rfl
  · intro texts
    have names : (entries.members.map Prod.fst).Nodup := by
      rw [KeyedEntries.members, List.map_map, List.Nodup, List.pairwise_map]
      refine distinct.imp_of_mem ?_
      intro left right leftMember rightMember different equal
      have leftText := texts left leftMember
      have rightText := texts right rightMember
      obtain ⟨leftKey, leftValue⟩ := left
      obtain ⟨rightKey, rightValue⟩ := right
      cases leftKey with
      | text leftName =>
          cases rightKey with
          | text rightName =>
              have equalNames : leftName = rightName := equal
              rw [equalNames, DictKey.same_self] at different
              cases different
          | _ => cases rightText
      | _ => cases leftText
    have read : (Dict.ofList entries.members).entries = entries.members :=
      congrArg Dict.entries (Dict.ofList_entries ⟨entries.members, names⟩)
    rw [read, KeyedEntries.ofMembers, KeyedEntries.members, List.map_map]
    refine (List.map_congr_left (g := id) ?_).trans (List.map_id entries)
    intro entry member
    have text := texts entry member
    obtain ⟨key, value⟩ := entry
    cases key with
    | text name => rfl
    | _ => cases text

/-- A well formed record is carried exactly if it ages or never ages by a negative time to
live, its id and the keys of its entry are texts, and its values are within the limits. -/
theorem roundTrips_of_wellFormed_iff [SignatureScheme Bytes] (wellFormed : record.WellFormed)
    (limits : Limits) :
    RoundTrips limits record ↔
      record.ttlSeconds ≠ 0 ∧ (∃ text, record.agentId = .string text) ∧
        (∀ entry ∈ record.resultEntry, entry.1.isText = true) ∧
        firstExcess limits 0 (.object record.toGossipDict.written) = none := by
  have same (entries : KeyedEntries) (now : String) :=
    sameAs_relayed_iff wellFormed.announced now entries
  have text := loads_written wellFormed limits
  constructor
  · intro trips
    obtain ⟨_, data, copy, loaded, read, carried⟩ := trips ""
    rw [text] at loaded
    cases within : firstExcess limits 0 (.object record.toGossipDict.written) with
    | some kind =>
        rw [within] at loaded
        cases loaded
    | none =>
        rw [within] at loaded
        cases loaded
        rw [received_reloaded wellFormed] at read
        cases read
        obtain ⟨ages, isText, entries⟩ := (same _ _).mp carried.toSameAs
        exact ⟨ages, isText, (ofMembers_members_iff wellFormed.distinct).mp entries, rfl⟩
  · intro ⟨ages, isText, texts, within⟩ now
    have entries := (ofMembers_members_iff wellFormed.distinct).mpr texts
    rw [within] at text
    refine ⟨⟨_, fromGossipDict_toGossipDict now record, ?_⟩,
      _, _, text, received_reloaded wellFormed now, ?_⟩
    · exact ((same _ now).mpr ⟨ages, isText, rfl⟩).carried
    · exact ((same _ now).mpr ⟨ages, isText, entries⟩).carried

end StoredRecord

/-- `str` of a list or of a dictionary has its brackets. -/
class ShowsContainers [TextOf] : Prop where
  container_ne : ∀ value, TextOf.container value ≠ ""

namespace StoredRecord

open KeyedEntries (ofMembers)

variable [Floats] {members : List (String × Json)} {name : String} {value : Json}

/-! ## Held values -/

theorem held_member (held : Held (.object members))
    (found : Json.member members name = some value) : Held value := by
  cases held with
  | object distinct values => exact values (name, value) (Json.mem_of_member found)

theorem held_get (held : Held (.object members)) (name : String) :
    Held (Json.get members name) := by
  unfold Json.get
  cases found : Json.member members name with
  | none => exact .null
  | some value => exact held_member held found

theorem held_getOr (held : Held (.object members)) (name : String) {default : Json}
    (otherwise : Held default) : Held (Json.getOr members name default) := by
  unfold Json.getOr
  cases found : Json.member members name with
  | none => exact otherwise
  | some value =>
      dsimp only
      split
      · exact held_member held found
      · exact otherwise

theorem held_iterate {values : List Json} (held : Held value)
    (listed : value.iterate = .ok values) : ∀ item ∈ values, Held item := by
  cases held with
  | array items =>
      cases listed
      exact items
  | string text =>
      cases listed
      intro item member
      obtain ⟨_, _, same⟩ := List.mem_map.mp member
      rw [← same]
      exact .string _
  | object distinct inside =>
      cases listed
      intro item member
      obtain ⟨_, _, same⟩ := List.mem_map.mp member
      rw [← same]
      exact .string _
  | _ => cases listed

theorem held_noMembers : Held (.object []) :=
  .object List.nodup_nil fun _ none => by cases none

theorem held_texts (texts : List String) : Held (.array (texts.map .string)) := by
  apply Held.array
  intro value member
  obtain ⟨text, _, same⟩ := List.mem_map.mp member
  rw [← same]
  exact .string text

theorem distinct_ofMembers (names : (members.map Prod.fst).Nodup) :
    (ofMembers members).Distinct := by
  rw [KeyedEntries.Distinct, ofMembers, List.pairwise_map]
  refine (List.pairwise_map.mp names).imp ?_
  intro left right different
  simpa [DictKey.same] using different

theorem entries_ofMembers (values : ∀ member ∈ members, Held member.2) :
    ∀ entry ∈ ofMembers members, Held entry.2 := by
  intro entry member
  obtain ⟨own, inside, same⟩ := List.mem_map.mp member
  rw [← same]
  exact values own inside

theorem ofValue_array (items : List Json) :
    KeyedEntries.ofValue (.array items) =
      (Fallible.map KeyedEntries.pairIn items).map KeyedEntries.ofPairs := rfl

theorem ofValue_string (text : String) :
    KeyedEntries.ofValue (.string text) = if text = "" then .ok [] else .error .valueError :=
  rfl

theorem held_pairIn {item : Json} {pair : DictKey × Json} (held : Held item)
    (read : KeyedEntries.pairIn item = .ok pair) : Held pair.2 := by
  unfold KeyedEntries.pairIn at read
  split at read
  · cases read
  · next key value listed =>
      have parts := held_iterate held listed
      split at read
      · cases read
        exact parts value (by simp)
      · cases read
  · cases read

theorem facts_of_ofValue {entries : KeyedEntries} (held : Held value)
    (read : KeyedEntries.ofValue value = .ok entries) :
    entries.Distinct ∧ ∀ entry ∈ entries, Held entry.2 := by
  cases held with
  | object distinct values =>
      cases read
      exact ⟨distinct_ofMembers distinct, entries_ofMembers values⟩
  | @array items values =>
      rw [ofValue_array] at read
      cases mapped : Fallible.map KeyedEntries.pairIn items with
      | error raised =>
          rw [mapped] at read
          cases read
      | ok pairs =>
          rw [mapped] at read
          cases read
          refine ⟨KeyedEntries.distinct_ofPairs pairs, ?_⟩
          have all : ∀ pair ∈ pairs, True ∧ Held pair.2 := by
            intro pair member
            obtain ⟨item, listed, paired⟩ := Fallible.mem_of_map mapped member
            exact ⟨trivial, held_pairIn (values item listed) paired⟩
          intro entry member
          have kept := @KeyedEntries.forall_mem_ofPairs _ pairs (fun _ => True) Held all
          exact (kept entry member).2
  | string text =>
      rw [ofValue_string] at read
      split at read
      · cases read
        exact ⟨.nil, fun _ none => absurd none List.not_mem_nil⟩
      · cases read
  | _ => cases read

theorem printed_ne {printed : String} (float : Printed printed) : printed ≠ "" := by
  cases float with
  | @number negative front printed read whole =>
      intro empty
      rw [empty] at whole
      cases front with
      | nil => cases read
      | cons first rest =>
          cases negative <;> cases whole
  | _ => decide

theorem str_ne [TextOf] [ShowsContainers] (held : Held value) (something : value.truthy = true) :
    value.str ≠ "" := by
  cases held with
  | null => cases something
  | bool value =>
      cases value with
      | false => cases something
      | true => exact (by decide : "True" ≠ "")
  | int value =>
      intro empty
      cases value with
      | ofNat number =>
          have digits : (toString number).toList = Nat.toDigits 10 number := Nat.toList_repr
          have none : toString number = "" := empty
          rw [none] at digits
          exact Nat.toDigits_ne_nil digits.symm
      | negSucc number =>
          have none : "-" ++ toString (number + 1) = "" := empty
          have characters := congrArg String.toList none
          rw [String.toList_append] at characters
          cases characters
  | float printed => exact printed_ne printed
  | string text => exact of_decide_eq_true something
  | array => exact ShowsContainers.container_ne _
  | object => exact ShowsContainers.container_ne _

/-! ## Held records -/

section Holdable

variable [TextCase] [TextOf] [MethodCatalog]

omit [Floats] [TextCase] [TextOf] [MethodCatalog] in
theorem nodup_hostedEntry (document : DocumentFields) (capabilities : List String) :
    ((Presence.hostedEntry document capabilities).map Prod.fst).Nodup := by
  unfold Presence.hostedEntry
  cases document.trustScore with
  | none => split <;> split <;> simp
  | some score => split <;> split <;> simp

omit [TextCase] [TextOf] [MethodCatalog] in
theorem held_hostedEntry {document : DocumentFields} (capabilities : List String)
    (methods : ∀ method ∈ document.requires.methods, Held method)
    (score : ∀ score ∈ document.trustScore, Printed score) :
    ∀ member ∈ Presence.hostedEntry document capabilities, Held member.2 := by
  intro member inside
  unfold Presence.hostedEntry at inside
  rcases List.mem_append.mp inside with front | owner
  · rcases List.mem_append.mp front with front | warning
    · rcases List.mem_append.mp front with fixed | scored
      · simp only [List.mem_cons, List.not_mem_nil, or_false] at fixed
        rcases fixed with same | same | same | same | same | same | same
        · rw [same]
          exact .string _
        · rw [same]
          exact .string _
        · rw [same]
          exact .string _
        · rw [same]
          exact .array methods
        · rw [same]
          exact held_texts capabilities
        · rw [same]
          exact .int _
        · rw [same]
          exact .string _
      · cases held : document.trustScore with
        | none =>
            rw [held] at scored
            cases scored
        | some own =>
            rw [held] at scored
            rw [List.mem_singleton.mp scored]
            exact .float (score own held)
    · split at warning
      · cases warning
      · rw [List.mem_singleton.mp warning]
        exact .string _
  · split at owner
    · cases owner
    · rw [List.mem_singleton.mp owner]
      exact .string _

theorem wellFormed_hosted {document : DocumentFields} {relay : Option String}
    {visibility : Visibility} {ttl : Int} {reading : Reading} {record : PresenceRecord}
    {signature : Json} (methods : ∀ method ∈ document.requires.methods, Held method)
    (score : ∀ score ∈ document.trustScore, Printed score)
    (clock : reading.text ≠ "" ∧ Printed reading.epoch)
    (built : Presence.buildRecord document relay visibility ttl reading = .ok record)
    (signed : Held signature) :
    WellFormed { ofBuilt record with signature := signature } := by
  unfold Presence.buildRecord at built
  cases derived : Scopes.deriveCapabilities document with
  | error raised =>
      rw [derived] at built
      cases built
  | ok capabilities =>
      rw [derived] at built
      cases built
      refine ⟨.string _, distinct_ofMembers (nodup_hostedEntry document _),
        entries_ofMembers (held_hostedEntry _ methods score), ?_, clock.1, clock.2, ?_, signed⟩
      · intro scope member
        rcases List.mem_cons.mp member with tier | named
        · rw [tier]
          exact .string _
        · obtain ⟨capability, _, same⟩ := List.mem_map.mp named
          rw [← same]
          exact .string _
      · simp only [ofBuilt]
        split
        · exact .null
        · exact .string _

omit [MethodCatalog] in
omit [Floats] [TextCase] in
theorem nodup_manifestEntry (agentId : Json) (manifest : List (String × Json))
    (methods capabilities : List Json) :
    ((Ans.manifestEntry agentId manifest methods capabilities).map Prod.fst).Nodup := by
  unfold Ans.manifestEntry Ans.manifestScore
  split <;> split <;> simp

omit [MethodCatalog] in
omit [TextCase] in
theorem held_manifestEntry {agentId : Json} {manifest : List (String × Json)}
    {methods capabilities : List Json} (id : Held agentId) (held : Held (.object manifest))
    (methodsHeld : ∀ method ∈ methods, Held method)
    (capabilitiesHeld : ∀ capability ∈ capabilities, Held capability) :
    ∀ member ∈ Ans.manifestEntry agentId manifest methods capabilities, Held member.2 := by
  intro member inside
  unfold Ans.manifestEntry at inside
  rcases List.mem_append.mp inside with front | owner
  · rcases List.mem_append.mp front with fixed | scored
    · simp only [List.mem_cons, List.not_mem_nil, or_false] at fixed
      rcases fixed with same | same | same | same | same | same | same
      · rw [same]
        exact id
      · rw [same]
        exact .string _
      · rw [same]
        exact held_get held _
      · rw [same]
        exact .array methodsHeld
      · rw [same]
        exact .array capabilitiesHeld
      · rw [same]
        exact held_get held _
      · rw [same]
        exact held_get held _
    · have score : Held ((Json.member manifest "behavioral_trust_score").getD
          (Json.get manifest "trust_score")) := by
        cases found : Json.member manifest "behavioral_trust_score" with
        | none => exact held_get held _
        | some value => exact held_member held found
      unfold Ans.manifestScore at scored
      split at scored
      · rw [List.mem_singleton.mp scored]
        exact .int _
      · rw [List.mem_singleton.mp scored]
        exact .bool _
      · next text isFloat =>
          rw [List.mem_singleton.mp scored]
          rwa [isFloat] at score
      · cases scored
  · split at owner
    · rw [List.mem_singleton.mp owner]
      exact held_get held _
    · cases owner

theorem wellFormed_manifest {agentId : Json} {key : String}
    {manifest : List (String × Json)} {reading : Reading} {record : PresenceRecord}
    (id : Held agentId) (held : Held (.object manifest))
    (clock : reading.text ≠ "" ∧ Printed reading.epoch)
    (built : Ans.recordFromManifest agentId key manifest reading = .ok record) :
    WellFormed { ofBuilt record with agentId := agentId } := by
  unfold Ans.recordFromManifest at built
  dsimp only at built
  split at built
  · cases built
  · cases built
  · next capabilities listed derived iterated =>
      cases built
      have methodsHeld := held_iterate (held_getOr held _ (.array fun _ none => by cases none))
        iterated
      have capabilitiesHeld : ∀ capability ∈ capabilities, Held capability := by
        unfold Ans.manifestCapabilities at derived
        split at derived
        · exact held_iterate (held_get held _) derived
        · cases tokens : Scopes.deriveCapabilitiesFromMethods
              (Json.getOr manifest "supported_methods" (.array [])) false with
          | error raised =>
              rw [tokens] at derived
              cases derived
          | ok names =>
              rw [tokens] at derived
              cases derived
              intro capability member
              obtain ⟨token, _, same⟩ := List.mem_map.mp member
              rw [← same]
              exact .string token
      refine ⟨id, distinct_ofMembers (nodup_manifestEntry agentId manifest _ _),
        entries_ofMembers (held_manifestEntry id held methodsHeld capabilitiesHeld),
        fun _ none => absurd none List.not_mem_nil, clock.1, clock.2, ?_, .null⟩
      simp only [ofBuilt]
      split
      · exact held_get held _
      · exact .null

omit [TextCase] [MethodCatalog] in
theorem wellFormed_peer [NumberText] [ShowsContainers] {data : Json} {now : String}
    {record : StoredRecord} (held : Held data) (clock : now ≠ "")
    (read : received now data = .ok record) (printed : Printed record.announcedAtEpoch) :
    record.WellFormed := by
  cases data with
  | object members =>
      change fromGossipDict now (.ofMembers members) = .ok record at read
      unfold fromGossipDict at read
      rw [GossipDict.resultEntry_ofMembers] at read
      simp only [GossipDict.written_ofMembers] at read
      obtain ⟨agentId, _, read⟩ := Fallible.ok_of_bind read
      obtain ⟨entries, built, read⟩ := Fallible.ok_of_bind read
      obtain ⟨scopes, listed, read⟩ := Fallible.ok_of_bind read
      obtain ⟨epoch, _, read⟩ := Fallible.ok_of_bind read
      obtain ⟨ttl, _, read⟩ := Fallible.ok_of_bind read
      cases read
      have facts := facts_of_ofValue
        (held_getOr held _ held_noMembers) built
      refine ⟨.string _, facts.1, facts.2,
        held_iterate (held_getOr held _ (.array fun _ none => by cases none)) listed, ?_,
        printed, held_get held _, held_get held _⟩
      dsimp only [Json.getOr]
      cases found : Json.member members "announced_at" with
      | none => exact clock
      | some value =>
          dsimp only
          split
          · next something => exact str_ne (held_member held found) something
          · exact clock
  | _ => cases read

theorem wellFormed_of_holdable [NumberText] [ShowsContainers] {record : StoredRecord}
    (holdable : Holdable record) : record.WellFormed := by
  cases holdable with
  | hosted methods score clock built signed =>
      apply wellFormed_hosted methods score clock built
      rcases signed with unsigned | ⟨publicKey, value, signed⟩
      · rw [unsigned]
        exact .null
      · rw [signed]
        refine .object (by simp) ?_
        intro member inside
        simp only [List.mem_cons, List.not_mem_nil, or_false] at inside
        rcases inside with same | same | same <;> (rw [same]; exact .string _)
  | manifest id held clock hashed built => exact wellFormed_manifest id held clock built
  | peer held clock read printed => exact wellFormed_peer held clock read printed

/-- A record that the system holds is carried exactly if it ages or never ages by a negative
time to live, its id and the keys of its entry are texts, and its values are within the
limits of the reader. -/
theorem gossip_roundTrips_iff [NumberText] [ShowsContainers] [SignatureScheme Bytes]
    {record : StoredRecord} (holdable : Holdable record) (limits : Limits) :
    RoundTrips limits record ↔
      record.ttlSeconds ≠ 0 ∧ (∃ text, record.agentId = .string text) ∧
        (∀ entry ∈ record.resultEntry, entry.1.isText = true) ∧
        firstExcess limits 0 (.object record.toGossipDict.written) = none :=
  roundTrips_of_wellFormed_iff (wellFormed_of_holdable holdable) limits

end Holdable

end StoredRecord

end Agtp

namespace Agtp.StoredRecord.CodecSamples

open JsonText (Printed)
open StandardJson (usualLimits)
open scoped Plain

/-- Containers are printed as their brackets. -/
local instance : TextOf := ⟨fun _ => "[]", fun text => text⟩

local instance : ShowsContainers := ⟨fun _ => (by decide : "[]" ≠ "")⟩

local instance : NumberText := ⟨fun _ => none, fun _ => none⟩

local instance : MethodCatalog := ⟨[]⟩

local instance : SignatureScheme Bytes := ⟨fun _ _ _ => false⟩

def scout : DocumentFields where
  agtpVersion := "1.0"
  documentVersion := "v2"
  agentId := "scout"
  name := "scout"
  role := "agent"
  principal := "owner"
  principalId := "owner"
  description := ""
  status := "active"
  skills := []
  requires := ⟨[], [], false⟩
  scopesAccepted := []
  trustTier := 1
  verificationPath := "dns-anchored"
  trustWarning := ""
  trustScore := none
  trustScoreComputedAt := ""
  ownerId := ""
  issuedAt := ""
  issuer := ""
  manifestIssuer := ""
  manifestIssuerPublicKey := ""
  manifestSignature := ""
  policies := []

def morning : Reading := ⟨⟨100, "2026-07-21T18:00:00Z"⟩, "100.0"⟩

theorem clock_morning : morning.text ≠ "" ∧ Printed morning.epoch :=
  ⟨by decide, @Printed.number _ false "100.0".toList _ rfl rfl⟩

def scoutRecord (ttl : Int) : StoredRecord :=
  ofBuilt {
    agentId := "scout"
    resultEntry := Presence.hostedEntry scout []
    scopes := Scopes.defaultScopes scout []
    visibility := .standard
    announcedAt := morning.text
    announcedAtEpoch := morning.epoch
    ttlSeconds := ttl
    ownerDomain := .null
    attachment := none
    signature := .null }

theorem holdable_scoutRecord (ttl : Int) : Holdable (scoutRecord ttl) := by
  have built : Presence.buildRecord scout none .standard ttl morning =
      .ok { agentId := "scout"
            resultEntry := Presence.hostedEntry scout (Scopes.sortedSet [])
            scopes := Scopes.defaultScopes scout (Scopes.sortedSet [])
            visibility := .standard
            announcedAt := morning.text
            announcedAtEpoch := morning.epoch
            ttlSeconds := ttl
            ownerDomain := .null
            attachment := none
            signature := .null } := rfl
  have none : Scopes.sortedSet [] = [] := by simp [Scopes.sortedSet]
  rw [none] at built
  exact .hosted (fun _ member => by cases member) (fun _ member => by cases member)
    clock_morning built (.inl rfl)

/-- An agent that ages is carried. -/
theorem scout_carried : RoundTrips usualLimits (scoutRecord 60) :=
  (gossip_roundTrips_iff (holdable_scoutRecord 60) usualLimits).mpr
    ⟨by decide, ⟨"scout", rfl⟩, by decide, by decide +kernel⟩

/-- An agent that never ages is read as one that ages in a minute. -/
theorem ageless_scout_ages : Holdable (scoutRecord 0) ∧ ¬RoundTrips usualLimits (scoutRecord 0) := by
  refine ⟨holdable_scoutRecord 0, ?_⟩
  intro trips
  obtain ⟨⟨copy, read, carried⟩, _⟩ := trips ""
  rw [fromGossipDict_toGossipDict] at read
  cases read
  exact absurd carried.ttlSeconds (by decide)

end Agtp.StoredRecord.CodecSamples
