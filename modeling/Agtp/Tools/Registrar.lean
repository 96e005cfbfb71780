import Agtp.Core.DocumentStability
import Agtp.Core.GenesisIdentity
import Agtp.Foundation.Conversions
import Agtp.Foundation.KeyOrder
import Agtp.Server.KeyAuthority

/-! # The registrar

A registrar issues Geneses on request and serves them again from its directory. The files of
that directory stand for the list of what was issued. -/

namespace Agtp

structure Registrar (PrivateKey : Type) where
  issuerId : String
  key : PrivateKey

namespace Registrar

open JsonText (Held firstExcess)
open StandardJson (Loadable usualLimits)
open scoped StandardJson

/-! ## The store -/

inductive Refusal where
  | refused (status : Nat) (message : String)
  /-- An exception that nothing catches. The connection ends without an answer. -/
  | dropped

inductive Answer where
  | page
  | publicKey (pem : String)
  | listed (agentIds : List String)
  | served (genesis : List Char)
  | created (genesis : List Char)
  | failed (refusal : Refusal)

structure RegistrarStore where
  /-- The files of `issued/`, by their names before `.json`. -/
  issued : Dict String (List Char)
  auditLog : List (List Char)

def safe (agentId : String) : String :=
  String.ofList ((Text.strip agentId).toList.filter fun character =>
    character ≠ '/' ∧ character ≠ '\\')

theorem isAscii_encode (bytes : List UInt8) :
    Text.isAscii (String.ofList (Base64Url.encode bytes)) = true := by
  rw [Text.isAscii, String.toList_ofList, List.all_eq_true]
  intro symbol member
  exact decide_eq_true
    (Base64Url.ascii_of_mem_alphabet symbol (Base64Url.mem_alphabet_of_mem_encode member))

theorem safe_of_isHexId {agentId : String} (hex : isHexId agentId = true) :
    safe agentId = agentId := by
  have plain : ∀ character ∈ "0123456789abcdef".toList,
      Text.isSpace character = false ∧ character ≠ '/' ∧ character ≠ '\\' :=
    Text.forall_mem_of_all (by decide)
  rw [isHexId, Bool.and_eq_true, List.all_eq_true] at hex
  have digits {character : Char} (member : character ∈ agentId.toList) :=
    plain character (List.contains_iff_mem.mp (hex.2 character member))
  rw [safe, Text.strip_solid fun character member => (digits member).1,
    List.filter_eq_self.mpr fun character member => decide_eq_true (digits member).2,
    String.ofList_toList]

section Serving

variable [Floats] [Digest]

def fileText (genesis : AgentGenesis) : List Char := genesis.toPrettyJson ++ ['\n']

def auditLine (genesis : AgentGenesis) : List Char :=
  JsonText.text (.object [
    ("agent_id", .string genesis.canonicalAgentId),
    ("name", .string genesis.name),
    ("owner_id", .string genesis.ownerId),
    ("issued_at", .string genesis.issuedAt),
    ("issuer", .string genesis.issuer),
    ("trust_tier", .int genesis.trustTier),
    ("verification_path", .string genesis.verificationPath)]) ++ ['\n']

def RegistrarStore.empty : RegistrarStore := ⟨.empty, []⟩

def RegistrarStore.write (store : RegistrarStore) (genesis : AgentGenesis) : RegistrarStore where
  issued := store.issued.set genesis.canonicalAgentId (fileText genesis)
  auditLog := store.auditLog ++ [auditLine genesis]

def RegistrarStore.listIssued (store : RegistrarStore) : List String :=
  store.issued.keys.mergeSort (decide <| · ≤ ·)

def latest (issued : List AgentGenesis) (name : String) : Option AgentGenesis :=
  issued.reverse.find? fun genesis => genesis.canonicalAgentId = name

structure Holds (store : RegistrarStore) (issued : List AgentGenesis) : Prop where
  files : ∀ name, store.issued.get? name = (latest issued name).map fileText
  logged : store.auditLog = issued.map auditLine

variable {store : RegistrarStore} {issued : List AgentGenesis}

theorem Holds.write (holds : Holds store issued) (genesis : AgentGenesis) :
    Holds (store.write genesis) (issued ++ [genesis]) where
  files name := by
    rw [latest, List.reverse_append, List.reverse_singleton, List.singleton_append,
      List.find?_cons]
    by_cases own : genesis.canonicalAgentId = name
    · rw [decide_eq_true own, ← own]
      exact Dict.get?_set_same _ _ _
    · rw [decide_eq_false own]
      exact (Dict.get?_set_other _ (Ne.symm own) _).trans (holds.files name)
  logged := by
    rw [RegistrarStore.write, holds.logged, List.map_append, List.map_singleton]

theorem mem_of_latest {name : String} {genesis : AgentGenesis}
    (found : latest issued name = some genesis) :
    genesis ∈ issued ∧ genesis.canonicalAgentId = name := by
  unfold latest at found
  have same := List.find?_some found
  exact ⟨List.mem_reverse.mp (List.mem_of_find?_eq_some found), of_decide_eq_true same⟩

theorem isSome_latest {name : String} : (latest issued name).isSome = true ↔
    ∃ genesis ∈ issued, genesis.canonicalAgentId = name := by
  simp [latest]

variable {PrivateKey : Type} [RegistrarKeys PrivateKey] (registrar : Registrar PrivateKey)

omit [Digest] in
def signatureOf (genesis : AgentGenesis) : String :=
  String.ofList (Base64Url.encode
    (RegistrarKeys.sign registrar.key (JsonCodec.canonical genesis.unsigned)))

omit [Digest] in
/-- What a Genesis of the registrar is: it can be read back, and its signature is over what
its id is the digest of. -/
structure Own (genesis : AgentGenesis) : Prop where
  sound : genesis.Sound
  issuer : genesis.issuer = registrar.issuerId
  issuerPublicKey : genesis.issuerPublicKey = RegistrarKeys.publicPem registrar.key
  signature : genesis.signature = registrar.signatureOf genesis

variable [TextOf]

def RegistrarStore.fetch (store : RegistrarStore) (agentId : String) :
    Option (Except GenesisFailure AgentGenesis) :=
  (store.issued.get? (safe agentId)).map AgentGenesis.loadGenesisJson

def doGet (store : RegistrarStore) (path : String) : Answer :=
  if path = "/" ∨ path = "" then .page
  else if path = "/pubkey" then .publicKey (RegistrarKeys.publicPem registrar.key)
  else if path = "/issued" then .listed store.listIssued
  else if "/issued/".toList <+: path.toList then
    match store.fetch (String.ofList (path.toList.drop 8)) with
    | none => .failed (.refused 404 "no Genesis issued for that agent_id")
    | some (.ok genesis) => .served genesis.toPrettyJson
    | some (.error _) => .failed .dropped
  else .failed (.refused 404 "unknown path")

/-- The store serves just what was issued: every Genesis is the registrar's, and is found
under its own id, each file is one of them, and the list and the log name them. -/
structure Serves (store : RegistrarStore) (issued : List AgentGenesis) : Prop where
  genuine : ∀ genesis ∈ issued, genesis.verify = true ∧ genesis.issuer = registrar.issuerId ∧
    genesis.issuerPublicKey = RegistrarKeys.publicPem registrar.key
  kept : ∀ genesis ∈ issued, ∃ later ∈ issued,
    later.canonicalAgentId = genesis.canonicalAgentId ∧
      (later.toCanonicalJson true = genesis.toCanonicalJson true → later.Equal genesis) ∧
      registrar.doGet store ("/issued/" ++ genesis.canonicalAgentId) =
        .served later.toPrettyJson
  own : ∀ path text, registrar.doGet store path = .served text →
    ∃ genesis ∈ issued, text = genesis.toPrettyJson ∧
      AgentGenesis.loadGenesisJson text = .ok genesis ∧
      safe (String.ofList (path.toList.drop 8)) = genesis.canonicalAgentId
  answers : ∀ path, registrar.doGet store path ≠ .failed .dropped
  listed : ∃ agentIds, registrar.doGet store "/issued" = .listed agentIds ∧
    agentIds.Pairwise (· < ·) ∧
      ∀ agentId, agentId ∈ agentIds ↔ ∃ genesis ∈ issued, genesis.canonicalAgentId = agentId
  logged : store.auditLog = issued.map auditLine

variable {registrar}

omit [Digest] [TextOf] in
theorem Own.verify {genesis : AgentGenesis} (own : registrar.Own genesis) :
    genesis.verify = true := by
  have decoded := Base64Url.decode_encode
    (RegistrarKeys.sign registrar.key (JsonCodec.canonical genesis.unsigned))
  have signed : registrar.signatureOf genesis ≠ "" := by
    intro none
    have empty := congrArg String.toList none
    rw [signatureOf, String.toList_ofList] at empty
    rw [empty] at decoded
    have length := RegistrarKeys.length_sign registrar.key (JsonCodec.canonical genesis.unsigned)
    rw [← Option.some.inj decoded] at length
    cases length
  unfold AgentGenesis.verify
  rw [own.signature, own.issuerPublicKey, decide_eq_true signed, signatureOf, isAscii_encode,
    String.toList_ofList, decoded]
  exact RegistrarKeys.verifies_sign registrar.key (JsonCodec.canonical genesis.unsigned)

omit [Digest] in
theorem Own.equal {first second : AgentGenesis} (firstOwn : registrar.Own first)
    (secondOwn : registrar.Own second)
    (same : first.toCanonicalJson true = second.toCanonicalJson true) : first.Equal second := by
  have identity := AgentGenesis.sameIdentity_of_toCanonicalJson firstOwn.sound secondOwn.sound same
  refine ⟨identity, ?_⟩
  rw [firstOwn.signature, secondOwn.signature, signatureOf, signatureOf,
    AgentGenesis.canonical_unsigned, AgentGenesis.canonical_unsigned, same]

omit [Digest] [RegistrarKeys PrivateKey] in
theorem load_fileText {genesis : AgentGenesis} (sound : genesis.Sound) :
    AgentGenesis.loadGenesisJson (fileText genesis) = .ok genesis := by
  have held := (sound.loadable (List.Sublist.refl _)).held
  have written := AgentGenesis.load_toPrettyJson sound
  unfold AgentGenesis.loadGenesisJson AgentGenesis.toPrettyJson at written
  rw [JsonText.loads_pretty held] at written
  rw [AgentGenesis.loadGenesisJson, fileText, AgentGenesis.toPrettyJson,
    JsonText.loads_prettyLine held]
  exact written

theorem fetch_eq (holds : Holds store issued) (own : ∀ genesis ∈ issued, registrar.Own genesis)
    (agentId : String) :
    store.fetch agentId = (latest issued (safe agentId)).map .ok := by
  rw [RegistrarStore.fetch, holds.files, Option.map_map]
  cases found : latest issued (safe agentId) with
  | none => rfl
  | some genesis =>
      exact congrArg some (load_fileText (own genesis (mem_of_latest found).1).sound)

theorem doGet_under {path : String} (under : "/issued/".toList <+: path.toList)
    (holds : Holds store issued) (own : ∀ genesis ∈ issued, registrar.Own genesis) :
    registrar.doGet store path =
      match latest issued (safe (String.ofList (path.toList.drop 8))) with
      | none => .failed (.refused 404 "no Genesis issued for that agent_id")
      | some genesis => .served genesis.toPrettyJson := by
  have other {text : String} (shorter : ¬"/issued/".toList <+: text.toList) : path ≠ text := by
    intro same
    exact shorter (same ▸ under)
  unfold doGet
  rw [if_neg (not_or.mpr ⟨other (by decide), other (by decide)⟩), if_neg (other (by decide)),
    if_neg (other (by decide)), if_pos under, fetch_eq holds own]
  cases latest issued (safe (String.ofList (path.toList.drop 8))) <;> rfl

theorem doGet_cases (holds : Holds store issued)
    (own : ∀ genesis ∈ issued, registrar.Own genesis) (path : String) :
    (registrar.doGet store path ≠ .failed .dropped ∧
        ∀ text, registrar.doGet store path ≠ .served text) ∨
      ∃ genesis ∈ issued,
        genesis.canonicalAgentId = safe (String.ofList (path.toList.drop 8)) ∧
          registrar.doGet store path = .served genesis.toPrettyJson := by
  by_cases under : "/issued/".toList <+: path.toList
  · rw [doGet_under under holds own]
    cases found : latest issued (safe (String.ofList (path.toList.drop 8))) with
    | none => simp
    | some genesis =>
        rcases mem_of_latest found with ⟨within, same⟩
        exact .inr ⟨genesis, within, same, rfl⟩
  · refine .inl ?_
    unfold doGet
    rw [if_neg under]
    split_ifs <;> simp

theorem serves_of_holds [HexIdDigest] (holds : Holds store issued)
    (own : ∀ genesis ∈ issued, registrar.Own genesis) : registrar.Serves store issued where
  genuine genesis member :=
    ⟨(own genesis member).verify, (own genesis member).issuer, (own genesis member).issuerPublicKey⟩
  kept genesis member := by
    have under : "/issued/".toList <+: ("/issued/" ++ genesis.canonicalAgentId).toList :=
      ⟨_, String.toList_append.symm⟩
    have asked : safe (String.ofList
        (("/issued/" ++ genesis.canonicalAgentId).toList.drop 8)) = genesis.canonicalAgentId := by
      have rest : ("/issued/".toList ++ genesis.canonicalAgentId.toList).drop 8 =
          genesis.canonicalAgentId.toList := List.drop_left' (by decide)
      rw [String.toList_append, rest, String.ofList_toList]
      exact safe_of_isHexId (HexIdDigest.hex _)
    rcases Option.isSome_iff_exists.mp (isSome_latest.mpr ⟨genesis, member, rfl⟩) with
      ⟨later, found⟩
    rcases mem_of_latest found with ⟨within, same⟩
    refine ⟨later, within, same, (own later within).equal (own genesis member), ?_⟩
    rw [doGet_under under holds own, asked, found]
  own path text served := by
    rcases doGet_cases holds own path with ⟨_, silent⟩ | ⟨genesis, within, same, answer⟩
    · exact absurd served (silent text)
    · rw [answer] at served
      cases served
      exact ⟨genesis, within, rfl, AgentGenesis.load_toPrettyJson (own genesis within).sound,
        same.symm⟩
  answers path := by
    rcases doGet_cases holds own path with ⟨answered, _⟩ | ⟨genesis, _, _, answer⟩
    · exact answered
    · rw [answer]
      intro same
      cases same
  listed := by
    refine ⟨store.listIssued, by simp [doGet], ?_, ?_⟩
    · have sorted := @KeyOrder.pairwise_mergeSort _ _ _ id (decide <| · ≤ ·)
        (fun _ _ => decide_eq_true_iff) store.issued.keys
      have distinct := (List.mergeSort_perm store.issued.keys (decide <| · ≤ ·)).nodup_iff.mpr
        store.issued.nodup
      exact sorted.imp₂ (fun _ _ below different => lt_of_le_of_ne below different) distinct
    · intro agentId
      have kept : agentId ∈ store.issued.keys ↔ (store.issued.get? agentId).isSome = true := by
        constructor
        · intro member
          rcases List.mem_map.mp member with ⟨entry, within, rfl⟩
          rw [(Dict.get?_eq_some_iff _).mpr within]
          rfl
        · intro some
          rcases Option.isSome_iff_exists.mp some with ⟨text, found⟩
          exact Dict.mem_keys_of_get? _ found
      rw [RegistrarStore.listIssued, List.mem_mergeSort, kept, holds.files, Option.isSome_map,
        isSome_latest]
  logged := holds.logged

end Serving

/-! ## Requests to issue -/

variable [Floats]

def Zone (value : Json) : Prop := Held value ∧ firstExcess usualLimits 1 value = none

abbrev Fields := {members : List (String × Json) // ∀ member ∈ members, Zone member.2}

theorem zones_of_loadable {members : List (String × Json)} (loadable : Loadable (.object members)) :
    ∀ member ∈ members, Zone member.2 := by
  intro member within
  have whole := loadable.within
  rw [firstExcess, if_neg (by decide), StandardJson.membersExcess_none] at whole
  cases loadable.held with
  | object distinct values => exact ⟨values member within, whole member within⟩

def formMembers (pairs : List (String × String)) : List (String × Json) :=
  (Dict.ofList pairs).entries.map fun entry => (entry.1, .string entry.2)

theorem zones_of_form (pairs : List (String × String)) :
    ∀ member ∈ formMembers pairs, Zone member.2 := by
  intro member within
  rcases List.mem_map.mp within with ⟨entry, _, same⟩
  rw [← same]
  exact ⟨.string _, rfl⟩

/-- A body, read as its content type says. JSON that raises anything but a decoding error has
no text of it. A form is `none` where it is not UTF-8. -/
inductive IssueBody where
  | unread (message : String)
  | json (parsed : Except (Option String) {value : Json // Loadable value})
  | form (pairs : Option (List (String × String)))
  | other (contentType : String)

def given (fields : Fields) (name : String) : Option Json :=
  (Json.member fields.1 name).filter Json.truthy

theorem zone_of_given {fields : Fields} {name : String} :
    ∀ value ∈ given fields name, value ≠ .null ∧ Zone value := by
  intro value found
  rcases Option.filter_eq_some_iff.mp found with ⟨member, truthy⟩
  refine ⟨?_, fields.2 _ (Json.mem_of_member member)⟩
  intro null
  rw [null] at truthy
  cases truthy

def principalOr (principal owner : String) : String := if principal = "" then owner else principal

omit [Floats] in
theorem filled_of_required {name owner principal publicKey : String}
    (required : name ≠ "" ∧ owner ≠ "" ∧ publicKey ≠ "") :
    ∀ text ∈ [name, owner, principalOr principal owner, publicKey], text ≠ "" := by
  have principal : principalOr principal owner ≠ "" := by
    unfold principalOr
    split
    · exact required.2.1
    · assumption
  simp [required, principal]

variable [TextOf] [NumberText]

def invalid {Value : Type} (message : String) : Except Refusal Value :=
  .error (.refused 400 message)

omit [NumberText] in
def IssueBody.fields : IssueBody → Except Refusal Fields
  | .unread message => invalid message
  | .json (.ok ⟨.object members, loadable⟩) => .ok ⟨members, zones_of_loadable loadable⟩
  | .json (.ok _) => invalid "body must be a JSON object or form"
  | .json (.error (some text)) => invalid ("invalid JSON body: " ++ text)
  | .json (.error none) => .error .dropped
  | .form (some pairs) => .ok ⟨formMembers pairs, zones_of_form pairs⟩
  | .form none => .error .dropped
  | .other contentType => .error (.refused 415 ("unsupported Content-Type: " ++
      TextOf.quoted contentType ++
      "; use application/json or application/x-www-form-urlencoded"))

def stripped : Json → Except Refusal String
  | .string text => .ok (Text.strip text)
  | _ => .error .dropped

def shown : Json → String
  | .string text => TextOf.quoted text
  | value => value.str

/-- `int` does not take an infinite float, and says so by an error of its own. -/
def issuedTier : Json → Except Refusal {tier : Int // tier ∈ validTrustTiers}
  | .float "inf" | .float "-inf" => .error .dropped
  | value =>
      match value.toInt? with
      | none => invalid ("trust_tier must be integer; got " ++ shown value)
      | some tier =>
          if member : tier ∈ validTrustTiers then .ok ⟨tier, member⟩
          else invalid "trust_tier must be one of (1, 2, 3)"

/-- Membership in a frozen set. A list or a dictionary has no hash. -/
def oneOf (texts : List String) (message : String) :
    Json → Except Refusal {text : String // text ∈ texts}
  | .string text => if member : text ∈ texts then .ok ⟨text, member⟩ else invalid message
  | .array _ | .object _ => .error .dropped
  | _ => invalid message

structure IssueParams where
  name : String
  ownerId : String
  principalId : String
  agentPublicKey : String
  archetype : Option {text : String // text ∈ validArchetypes}
  governanceZone : Option Json
  trustTier : {tier : Int // tier ∈ validTrustTiers}
  verificationPath : {text : String // text ∈ validVerificationPaths}
  filled : ∀ text ∈ [name, ownerId, principalId, agentPublicKey], text ≠ ""
  zone : ∀ value ∈ governanceZone, value ≠ .null ∧ Zone value

def parseIssueBody (body : IssueBody) : Except Refusal IssueParams := do
  let fields ← body.fields
  let name ← stripped (Json.getOr fields.1 "name" (.string ""))
  let owner ← stripped
    (Json.getOr fields.1 "owner_id" (Json.getOr fields.1 "owner" (.string "")))
  let publicKey ← stripped (Json.getOr fields.1 "agent_public_key" (.string ""))
  if required : name ≠ "" ∧ owner ≠ "" ∧ publicKey ≠ "" then
    let tier ← issuedTier (Document.fieldOr fields.1 "trust_tier" (.int 2))
    let archetype ← (given fields "archetype").mapM (oneOf validArchetypes
      "archetype must be one of ['analyst', 'assistant', 'executor', 'monitor', 'orchestrator']")
    let path ← oneOf validVerificationPaths
      ("verification_path must be one of " ++
        "['dns-anchored', 'hybrid', 'log-anchored', 'org-asserted', 'self-signed']")
      (Json.getOr fields.1 "verification_path" (.string "self-signed"))
    let principal ← stripped (Json.getOr fields.1 "principal_id" (.string ""))
    return {
      name := name
      ownerId := owner
      principalId := principalOr principal owner
      agentPublicKey := publicKey
      archetype := archetype
      governanceZone := given fields "governance_zone"
      trustTier := tier
      verificationPath := path
      filled := filled_of_required required
      zone := zone_of_given }
  else invalid "missing required field: name, owner_id, agent_public_key"

/-! ## Runs -/

abbrev Timestamp := {text : String // text ≠ ""}

inductive Request where
  | get (path : String)
  | issue (body : IssueBody) (now : Timestamp)

variable {PrivateKey : Type} [RegistrarKeys PrivateKey] (registrar : Registrar PrivateKey)

def unsigned (params : IssueParams) (now : Timestamp) : AgentGenesis where
  name := params.name
  ownerId := params.ownerId
  principalId := params.principalId
  agentPublicKey := params.agentPublicKey
  archetype := params.archetype.map Subtype.val
  governanceZone := params.governanceZone
  trustTier := params.trustTier
  verificationPath := params.verificationPath
  issuedAt := now
  issuer := registrar.issuerId
  issuerPublicKey := RegistrarKeys.publicPem registrar.key
  signature := ""
  trustTier_mem := params.trustTier.2
  verificationPath_mem := params.verificationPath.2

def mint (params : IssueParams) (now : Timestamp) : AgentGenesis :=
  { registrar.unsigned params now with
    signature := registrar.signatureOf (registrar.unsigned params now) }

variable [Digest]

def handleIssue (store : RegistrarStore) (body : IssueBody) (now : Timestamp) :
    RegistrarStore × Answer :=
  match parseIssueBody body with
  | .error refusal => (store, .failed refusal)
  | .ok params =>
      (store.write (registrar.mint params now),
        .created (registrar.mint params now).toPrettyJson)

def handle (store : RegistrarStore) : Request → RegistrarStore × Answer
  | .get path => (store, registrar.doGet store path)
  | .issue body now => registrar.handleIssue store body now

def after (requests : List Request) : RegistrarStore :=
  requests.foldl (fun store request => (registrar.handle store request).1) .empty

def minted : Request → Option AgentGenesis
  | .get _ => none
  | .issue body now => (parseIssueBody body).toOption.map (registrar.mint · now)

def issuedBy (requests : List Request) : List AgentGenesis :=
  requests.filterMap registrar.minted

variable {registrar}

omit [TextOf] [NumberText] [Digest] in
theorem own_mint (named : registrar.issuerId ≠ "") (params : IssueParams) (now : Timestamp) :
    registrar.Own (registrar.mint params now) where
  sound := by
    constructor
    · intro text member
      change text ∈ [params.name, params.ownerId, params.principalId, params.agentPublicKey] ++
        [now.1, registrar.issuerId, RegistrarKeys.publicPem registrar.key] at member
      rcases List.mem_append.mp member with asked | own
      · exact params.filled text asked
      · simp only [List.mem_cons, List.not_mem_nil, or_false] at own
        rcases own with rfl | rfl | rfl
        · exact now.2
        · exact named
        · exact RegistrarKeys.publicPem_ne registrar.key
    · intro archetype member
      rcases Option.map_eq_some_iff.mp member with ⟨valid, _, rfl⟩
      exact valid.2
    · exact params.zone
  issuer := rfl
  issuerPublicKey := rfl
  signature := rfl

omit [Digest] in
theorem own_of_issued (named : registrar.issuerId ≠ "") {requests : List Request} :
    ∀ genesis ∈ registrar.issuedBy requests, registrar.Own genesis := by
  intro genesis member
  rcases List.mem_filterMap.mp member with ⟨request, _, minted⟩
  cases request with
  | get path => cases minted
  | issue body now =>
      rcases Option.map_eq_some_iff.mp minted with ⟨params, _, rfl⟩
      exact own_mint named params now

theorem Holds.handle {store : RegistrarStore} {issued : List AgentGenesis}
    (holds : Holds store issued) (request : Request) :
    Holds (registrar.handle store request).1 (issued ++ (registrar.minted request).toList) := by
  cases request with
  | get path => exact (List.append_nil issued).symm ▸ holds
  | issue body now =>
      change Holds (registrar.handleIssue store body now).1
        (issued ++ ((parseIssueBody body).toOption.map (registrar.mint · now)).toList)
      unfold handleIssue
      cases parseIssueBody body with
      | error refusal => exact (List.append_nil issued).symm ▸ holds
      | ok params => exact holds.write (registrar.mint params now)

theorem holds_after (requests : List Request) :
    Holds (registrar.after requests) (registrar.issuedBy requests) := by
  have run {store : RegistrarStore} {issued : List AgentGenesis} (holds : Holds store issued) :
      Holds (requests.foldl (fun store request => (registrar.handle store request).1) store)
        (issued ++ registrar.issuedBy requests) := by
    induction requests generalizing store issued with
    | nil => exact (List.append_nil issued).symm ▸ holds
    | cons request rest induction =>
        have stepped : Holds (registrar.handle store request).1
            (issued ++ (registrar.minted request).toList) := holds.handle request
        have later := induction stepped
        rw [List.append_assoc] at later
        cases own : registrar.minted request <;> simpa [issuedBy, own] using later
  have start : Holds .empty [] := ⟨fun _ => rfl, rfl⟩
  exact run start

end Registrar

end Agtp

namespace Agtp.RegistrarSamples

open scoped Plain PlainServing KeyAuthoritySamples

scoped instance : RegistrarKeys Unit := LooseDocument.StabilitySamples.instRegistrarKeysUnit

def village : Registrar Unit := ⟨"registrar.local", ()⟩

def morning : Registrar.Timestamp := ⟨"2026-05-01T09:00:00Z", by decide⟩

/-- One form is filled in, and one lacks the key. -/
def visit : List Registrar.Request := [
  .issue (.form (some [("name", "lauren"), ("owner", "o"), ("agent_public_key", "k")])) morning,
  .issue (.form (some [("name", "lauren"), ("owner_id", "o")])) morning,
  .get "/issued"]

example : (village.issuedBy visit).map AgentGenesis.principalId = ["o"] := by decide +kernel

end Agtp.RegistrarSamples
