import Agtp.Core.AgentGenesis
import Agtp.Foundation.Fallible
import Agtp.Foundation.MemberOrder
import Agtp.Server.AgentDirectory

/-! # Trust from a Genesis

The files of the agents directory, an edit of one agent's Genesis, and when what an
agent is served with is authentic. -/

namespace Agtp

/-- The `*.agent.json` files, and the `*.genesis.json` file beside each, as the
values that they parse to. -/
structure AgentFiles where
  documents : Dict String (Except DecodeFailure Json)
  geneses : String → Option (Except DecodeFailure Json)

/-- An edit of the Genesis beside one agent file, and whether the file is given the
agent id of the edited Genesis. -/
structure Tampering where
  path : String
  content : Except DecodeFailure Json
  recomputed : Bool

def DocumentFields.withId (fields : DocumentFields) (agentId : String) :
    DocumentFields :=
  { fields with agentId := agentId }

namespace Document

variable [FloatText]

def withId (document : Document) (agentId : String) : Document where
  toDocumentFields := document.toDocumentFields.withId agentId
  valid := ⟨document.valid.trustTier, document.valid.verificationPath,
    document.valid.role, document.valid.trustWarning, document.valid.trustScore⟩

end Document

namespace AgentFiles

variable [TextOf] [JsonCodec] [Digest]

def genesis (files : AgentFiles) (path : String) : Option AgentGenesis :=
  (files.geneses path).bind fun content => (AgentGenesis.load content).toOption

def directory (files : AgentFiles) : AgentDirectory where
  files := files.documents
  genesis path := (files.genesis path).map AgentGenesis.loaded

def relabel (agentId : String) : Except DecodeFailure Json → Except DecodeFailure Json
  | .ok (.object members) =>
      .ok (.object (Dict.setEntries "agent_id" (.string agentId) members))
  | content => content

def relabelled (files : AgentFiles) (tampering : Tampering) :
    Dict String (Except DecodeFailure Json) :=
  match tampering.recomputed, AgentGenesis.load tampering.content,
      files.documents.get? tampering.path with
  | true, .ok genesis, some content =>
      files.documents.set tampering.path (relabel genesis.canonicalAgentId content)
  | _, _, _ => files.documents

def tamper (files : AgentFiles) (tampering : Tampering) : AgentFiles where
  documents := files.relabelled tampering
  geneses path :=
    if path = tampering.path then some tampering.content else files.geneses path

end AgentFiles

/-! ## Reading a relabelled file -/

namespace Document

variable [FloatText] [TextOf] [NumberText]

section Relabelled

variable (members : List (String × Json)) (agentId : String)

omit [FloatText] [TextOf] [NumberText] in
theorem member_relabelled {name : String} (different : name ≠ "agent_id") :
    Json.member (Dict.setEntries "agent_id" (.string agentId) members) name =
      Json.member members name :=
  Json.member_setEntries_other different _ members

theorem readV2_relabelled (block : List (String × Json)) :
    readV2 (Dict.setEntries "agent_id" (.string agentId) members) block =
      (DocumentFields.withId · agentId) <$> readV2 members block := by
  unfold readV2 readTrustScore readPolicies field fieldOr Json.textOr
  simp (disch := decide) only [member_relabelled, Json.member_setEntries_same, map_bind,
    map_pure]
  rfl

omit [FloatText] [NumberText] in
theorem readV1_relabelled :
    readV1 (Dict.setEntries "agent_id" (.string agentId) members) =
      (DocumentFields.withId · agentId) <$> readV1 members := by
  unfold readV1 field
  simp (disch := decide) only [member_relabelled, Json.member_setEntries_same, map_bind,
    map_pure]
  rfl

omit [TextOf] [NumberText] in
theorem construct_withId {fields : DocumentFields} {document : Document}
    (constructed : construct fields = .ok document) :
    construct (fields.withId agentId) = .ok (document.withId agentId) := by
  unfold construct at constructed
  split at constructed
  · next valid =>
      cases constructed
      have relabelled : (warned (fields.withId agentId)).Valid :=
        ⟨valid.trustTier, valid.verificationPath, valid.role, valid.trustWarning,
          valid.trustScore⟩
      unfold construct
      rw [dif_pos relabelled]
      rfl
  · cases constructed

omit [FloatText] [TextOf] [NumberText] in
theorem present_relabelled {name : String} (held : present members name = true) :
    present (Dict.setEntries "agent_id" (.string agentId) members) name = true := by
  unfold present at held ⊢
  by_cases same : name = "agent_id"
  · rw [same, Json.member_setEntries_same]
    rfl
  · rwa [member_relabelled members agentId same]

omit [FloatText] [TextOf] [NumberText] in
theorem all_relabelled {names : List String} (all : names.all (present members) = true) :
    names.all (present (Dict.setEntries "agent_id" (.string agentId) members)) = true := by
  rw [List.all_eq_true] at all ⊢
  intro name member
  exact present_relabelled members agentId (all name member)

omit [NumberText] in
theorem fromV1_relabelled {document : Document} (read : fromV1 members = .ok document) :
    fromV1 (Dict.setEntries "agent_id" (.string agentId) members) =
      .ok (document.withId agentId) := by
  unfold fromV1 at read ⊢
  split at read
  · next all =>
      rw [if_pos (all_relabelled members agentId all), readV1_relabelled]
      rcases Fallible.ok_of_bind read with ⟨fields, fieldsRead, constructed⟩
      rw [fieldsRead]
      exact construct_withId agentId constructed
  · cases read

theorem fromV2_relabelled {document : Document} (read : fromV2 members = .ok document) :
    fromV2 (Dict.setEntries "agent_id" (.string agentId) members) =
      .ok (document.withId agentId) := by
  have block : field (Dict.setEntries "agent_id" (.string agentId) members) "requires" =
      field members "requires" := by
    unfold field
    rw [member_relabelled members agentId (by decide)]
  unfold fromV2 at read ⊢
  split at read
  · next all =>
      rw [if_pos (all_relabelled members agentId all), block]
      split at read
      · next block' _ =>
          rw [readV2_relabelled]
          rcases Fallible.ok_of_bind read with ⟨fields, fieldsRead, constructed⟩
          rw [fieldsRead]
          exact construct_withId agentId constructed
      · cases read
  · cases read

theorem fromDict_relabelled {document : Document}
    (read : fromDict (.object members) = .ok document) :
    fromDict (.object (Dict.setEntries "agent_id" (.string agentId) members)) =
      .ok (document.withId agentId) := by
  have version : isV1 (Dict.setEntries "agent_id" (.string agentId) members) =
      isV1 members := by
    unfold isV1 present
    simp (disch := decide) only [member_relabelled]
  change (if isV1 members then fromV1 members else fromV2 members) = _ at read
  simp only [fromDict, version]
  cases first : isV1 members with
  | true =>
      rw [first, if_pos rfl] at read
      exact fromV1_relabelled members agentId read
  | false =>
      rw [first, if_neg Bool.false_ne_true] at read
      exact fromV2_relabelled members agentId read

end Relabelled

end Document

/-! ## What a file is read as -/

namespace Document

variable [FloatText] [TextOf] [NumberText]

omit [TextOf] [NumberText] in
theorem trustTier_construct {fields : DocumentFields} {document : Document}
    (constructed : construct fields = .ok document) :
    document.trustTier = fields.trustTier := by
  unfold construct at constructed
  split at constructed
  · cases constructed
    rfl
  · cases constructed

theorem trustTier_readV2 {members block : List (String × Json)} {fields : DocumentFields}
    (read : readV2 members block = .ok fields) :
    (fieldOr members "trust_tier" (.int 2)).intOf = .ok fields.trustTier := by
  unfold readV2 at read
  simp only [bind, Except.bind, pure, Except.pure] at read
  repeat' split at read
  all_goals cases read
  assumption

omit [FloatText] [NumberText] in
theorem trustTier_readV1 {members : List (String × Json)} {fields : DocumentFields}
    (read : readV1 members = .ok fields) : fields.trustTier = 2 := by
  unfold readV1 at read
  simp only [bind, Except.bind, pure, Except.pure] at read
  repeat' split at read
  all_goals cases read
  rfl

theorem trustTier_of_undeclared {members : List (String × Json)} {document : Document}
    (read : fromDict (.object members) = .ok document)
    (undeclared : present members "trust_tier" = false) : document.trustTier = 2 := by
  change (if isV1 members then fromV1 members else fromV2 members) = _ at read
  split at read
  · unfold fromV1 at read
    split at read
    · rcases Fallible.ok_of_bind read with ⟨fields, fieldsRead, constructed⟩
      rw [trustTier_construct constructed, trustTier_readV1 fieldsRead]
    · cases read
  · unfold fromV2 at read
    split at read
    · split at read
      · rcases Fallible.ok_of_bind read with ⟨fields, fieldsRead, constructed⟩
        have tier := trustTier_readV2 fieldsRead
        unfold present at undeclared
        unfold fieldOr at tier
        rw [Option.isSome_eq_false_iff, Option.isNone_iff_eq_none] at undeclared
        rw [undeclared] at tier
        rw [trustTier_construct constructed]
        exact (Except.ok.inj tier).symm
      · cases read
    · cases read

end Document

namespace AgentDirectory

variable [FloatText] [TextOf] [NumberText] [ManifestKeys] [JsonCodec]

theorem object_of_readFile {content : Except DecodeFailure Json} {document : Document}
    {source : List (String × Json)} (read : readFile content = .ok (document, source)) :
    content = .ok (.object source) ∧ Document.fromDict (.object source) = .ok document := by
  unfold readFile at read
  split at read
  · cases read
  · cases read
  · next value =>
      split at read
      · cases read
      · next document' constructed =>
          split at read
          · cases value with
            | object members =>
                cases read
                exact ⟨rfl, constructed⟩
            | _ => cases constructed
          · cases read

end AgentDirectory

/-! ## Authenticity -/

namespace AgentFiles

variable [FloatText] [TextOf] [NumberText] [ManifestKeys] [JsonCodec] [Digest]

def LeavesOpen (document : Document) (source : List (String × Json)) : Prop :=
  Document.present source "trust_tier" = false ∨
    Document.present source "verification_path" = false ∨ document.ownerId = ""

structure Lifted (files : AgentFiles) (agent : HostedAgent) (genesis : AgentGenesis) :
    Prop where
  beside : files.genesis agent.path = some genesis
  kept : agent.genesis = some genesis.loaded
  asked : ∃ content document source, files.documents.get? agent.path = some content ∧
    AgentDirectory.readFile content = .ok (document, source) ∧ LeavesOpen document source

def Authentic (files : AgentFiles) (agent : HostedAgent) : Prop :=
  ∀ genesis, files.Lifted agent genesis →
    genesis.canonicalAgentId = agent.document.agentId ∧ genesis.verify = true

/-- The agent is not served with a better tier, which is a smaller one, than its
file was before. -/
def NotRaised (files : AgentFiles) (agent : HostedAgent) : Prop :=
  ∀ content document source, files.documents.get? agent.path = some content →
    AgentDirectory.readFile content = .ok (document, source) →
      (files.directory.host agent.path document source).document.trustTier ≤
        agent.document.trustTier

def Genuine (files : AgentFiles) (tampering : Tampering) (agent : HostedAgent) : Prop :=
  (files.tamper tampering).Authentic agent ∧ files.NotRaised agent

/-! ## What is lifted -/

def issued (files : AgentFiles) (path : String) (document : Document) :
    Option AgentGenesis :=
  (files.genesis path).filter (·.canonicalAgentId = document.agentId)

def edited (tampering : Tampering) (document : Document) : Option AgentGenesis :=
  (AgentGenesis.load tampering.content).toOption.filter fun genesis =>
    tampering.recomputed || genesis.canonicalAgentId = document.agentId

def lentTier (genesis : Option AgentGenesis) : Int :=
  (genesis.map AgentGenesis.trustTier).getD 2

omit [NumberText] [ManifestKeys] in
theorem genesis_filter (files : AgentFiles) (path : String) (document : Document) :
    (files.directory.genesis path).filter (·.agentId = document.agentId) =
      (files.issued path document).map AgentGenesis.loaded := by
  change ((files.genesis path).map AgentGenesis.loaded).filter _ =
    ((files.genesis path).filter _).map _
  cases files.genesis path with
  | none => rfl
  | some genesis =>
      by_cases same : genesis.canonicalAgentId = document.agentId
      · simp [Option.filter, same]
      · simp [Option.filter, same]

theorem trustTier_host (files : AgentFiles) {path : String}
    {content : Except DecodeFailure Json} {document : Document}
    {source : List (String × Json)}
    (read : AgentDirectory.readFile content = .ok (document, source)) :
    (files.directory.host path document source).document.trustTier =
      if Document.present source "trust_tier" then document.trustTier
      else lentTier (files.issued path document) := by
  unfold AgentDirectory.host
  rw [genesis_filter]
  cases issued : files.issued path document with
  | some genesis => rfl
  | none =>
      change document.trustTier = _
      by_cases declared : Document.present source "trust_tier" = true
      · rw [if_pos declared]
      · rw [if_neg declared]
        exact Document.trustTier_of_undeclared (AgentDirectory.object_of_readFile read).2
          (Bool.eq_false_iff.mpr declared)

omit [NumberText] [ManifestKeys] in
theorem genesis_host (files : AgentFiles) (path : String) (document : Document)
    (source : List (String × Json)) :
    (files.directory.host path document source).genesis =
      (files.issued path document).map AgentGenesis.loaded := by
  unfold AgentDirectory.host
  rw [genesis_filter]
  cases files.issued path document <;> rfl

structure ReadAsBefore (files : AgentFiles) (tampering : Tampering)
    (document later : Document) (source laterSource : List (String × Json)) : Prop where
  trustTier : later.trustTier = document.trustTier
  ownerId : later.ownerId = document.ownerId
  present : ∀ name, name ≠ "agent_id" →
    Document.present laterSource name = Document.present source name
  issued : (files.tamper tampering).issued tampering.path later =
    edited tampering document

omit [FloatText] [NumberText] [ManifestKeys] in
theorem genesis_tamper (files : AgentFiles) (tampering : Tampering) :
    (files.tamper tampering).genesis tampering.path =
      (AgentGenesis.load tampering.content).toOption := by
  simp [genesis, tamper]

theorem readAsBefore_of_read {files : AgentFiles} {tampering : Tampering}
    {content changed : Except DecodeFailure Json} {document later : Document}
    {source laterSource : List (String × Json)}
    (held : files.documents.get? tampering.path = some content)
    (read : AgentDirectory.readFile content = .ok (document, source))
    (heldLater : (files.tamper tampering).documents.get? tampering.path = some changed)
    (readLater : AgentDirectory.readFile changed = .ok (later, laterSource)) :
    ReadAsBefore files tampering document later source laterSource := by
  rcases AgentDirectory.object_of_readFile read with ⟨rfl, constructed⟩
  change (files.relabelled tampering).get? tampering.path = some changed at heldLater
  unfold relabelled at heldLater
  rw [held] at heldLater
  split at heldLater
  · next genesis content' recomputed load same =>
      cases same
      rw [Dict.get?_set_same] at heldLater
      cases heldLater
      rcases AgentDirectory.object_of_readFile readLater with ⟨object, relabelled⟩
      cases object
      rw [Document.fromDict_relabelled source _ constructed] at relabelled
      cases relabelled
      constructor
      · rfl
      · rfl
      · intro name different
        unfold Document.present
        rw [Document.member_relabelled source _ different]
      · unfold issued edited
        rw [genesis_tamper, load, recomputed]
        simp [Except.toOption, Option.filter, Document.withId, DocumentFields.withId]
  · next ordinary =>
      rw [held] at heldLater
      cases heldLater
      rw [read] at readLater
      cases readLater
      constructor
      · rfl
      · rfl
      · intro name different
        rfl
      · unfold issued edited
        rw [genesis_tamper]
        cases load : AgentGenesis.load tampering.content with
        | error failure => rfl
        | ok genesis =>
            have kept : tampering.recomputed = false :=
              Bool.eq_false_iff.mpr fun recomputed =>
                ordinary genesis _ recomputed load rfl
            rw [kept]
            rfl

/-! ## When trust is authentic -/

omit [NumberText] [ManifestKeys] in
theorem leavesOpen_iff {files : AgentFiles} {tampering : Tampering}
    {document later : Document} {source laterSource : List (String × Json)}
    (same : ReadAsBefore files tampering document later source laterSource) :
    LeavesOpen later laterSource ↔ LeavesOpen document source := by
  unfold LeavesOpen
  rw [same.present "trust_tier" (by decide), same.present "verification_path" (by decide),
    same.ownerId]

section Served

variable {files : AgentFiles} {tampering : Tampering}
  {content changed : Except DecodeFailure Json} {document later : Document}
  {source laterSource : List (String × Json)} {agent : HostedAgent}

theorem authentic_iff
    (heldLater : (files.tamper tampering).documents.get? tampering.path = some changed)
    (readLater : AgentDirectory.readFile changed = .ok (later, laterSource))
    (equal : agent = (files.tamper tampering).directory.host tampering.path later
      laterSource)
    (own : agent.path = tampering.path)
    (same : ReadAsBefore files tampering document later source laterSource) :
    (files.tamper tampering).Authentic agent ↔
      ∀ genesis ∈ edited tampering document,
        LeavesOpen document source → genesis.verify = true := by
  have kept : agent.genesis = (edited tampering document).map AgentGenesis.loaded := by
    rw [equal, genesis_host, same.issued]
  have identified : agent.document.agentId = later.agentId := by
    rw [equal, AgentDirectory.agentId_host]
  have found (genesis : AgentGenesis) : edited tampering document = some genesis ↔
      (files.tamper tampering).genesis tampering.path = some genesis ∧
        genesis.canonicalAgentId = later.agentId := by
    rw [← same.issued, issued, Option.filter_eq_some_iff, decide_eq_true_iff]
  constructor
  · intro authentic genesis lent asked
    have lifted : (files.tamper tampering).Lifted agent genesis := {
      beside := by
        rw [own]
        exact ((found genesis).mp lent).1
      kept := by
        rw [kept, lent]
        rfl
      asked := by
        rw [own]
        exact ⟨changed, later, laterSource, heldLater, readLater,
          (leavesOpen_iff same).mpr asked⟩ }
    exact (authentic genesis lifted).2
  · intro verified genesis lifted
    have beside := lifted.beside
    rw [own] at beside
    have lent := lifted.kept
    rw [kept] at lent
    rcases Option.map_eq_some_iff.mp lent with ⟨other, edited, _⟩
    have facts := (found other).mp edited
    rw [beside] at facts
    cases facts.1
    rcases lifted.asked with ⟨content', document', source', held', read', asked⟩
    rw [own, heldLater] at held'
    cases held'
    rw [readLater] at read'
    cases read'
    exact ⟨facts.2.trans identified.symm,
      verified genesis edited ((leavesOpen_iff same).mp asked)⟩

theorem notRaised_iff (held : files.documents.get? tampering.path = some content)
    (read : AgentDirectory.readFile content = .ok (document, source))
    (readLater : AgentDirectory.readFile changed = .ok (later, laterSource))
    (equal : agent = (files.tamper tampering).directory.host tampering.path later
      laterSource)
    (own : agent.path = tampering.path)
    (same : ReadAsBefore files tampering document later source laterSource) :
    files.NotRaised agent ↔
      Document.present source "trust_tier" = true ∨
        lentTier (files.issued tampering.path document) ≤
          lentTier (edited tampering document) := by
  have after : agent.document.trustTier =
      if Document.present source "trust_tier" then document.trustTier
      else lentTier (edited tampering document) := by
    rw [equal, trustTier_host _ readLater, same.present "trust_tier" (by decide),
      same.trustTier, same.issued]
  have before : (files.directory.host tampering.path document source).document.trustTier =
      if Document.present source "trust_tier" then document.trustTier
      else lentTier (files.issued tampering.path document) :=
    trustTier_host files read
  have once : files.NotRaised agent ↔
      (files.directory.host tampering.path document source).document.trustTier ≤
        agent.document.trustTier := by
    unfold NotRaised
    rw [own]
    constructor
    · intro all
      exact all content document source held read
    · intro single content' document' source' held' read'
      rw [held] at held'
      cases held'
      rw [read] at read'
      cases read'
      exact single
  rw [once, before, after]
  by_cases declared : Document.present source "trust_tier" = true
  · simp [declared]
  · simp [declared]

end Served

/-- What is served once the Genesis of an agent was edited is genuine exactly if the
edited Genesis verifies where it is asked for, and names no better tier than the one
before. -/
theorem genuine_iff {files : AgentFiles} {tampering : Tampering}
    {content : Except DecodeFailure Json} {document : Document}
    {source : List (String × Json)}
    (held : files.documents.get? tampering.path = some content)
    (read : AgentDirectory.readFile content = .ok (document, source))
    {agents : HostedAgents} (loaded : (files.tamper tampering).directory.load = .ok agents)
    {agentId : String} {agent : HostedAgent}
    (served : agents.get? agentId = some agent) (own : agent.path = tampering.path) :
    files.Genuine tampering agent ↔
      (∀ genesis ∈ edited tampering document,
        LeavesOpen document source → genesis.verify = true) ∧
      (Document.present source "trust_tier" = true ∨
        lentTier (files.issued tampering.path document) ≤
          lentTier (edited tampering document)) := by
  rcases AgentDirectory.file_of_load loaded served with ⟨changed, heldLater, hosted⟩
  rcases AgentDirectory.hosts_some hosted with ⟨later, laterSource, readLater, _, equal⟩
  simp only [own] at heldLater equal
  have same := readAsBefore_of_read held read heldLater readLater
  exact and_congr
    (authentic_iff heldLater readLater equal own same)
    (notRaised_iff held read readLater equal own same)

end AgentFiles

namespace GenesisSamples

open AgentFiles
open scoped Plain PlainServing

scoped instance : JsonCodec where
  canonical
    | .object members => members.flatMap fun entry =>
        match entry.2 with
        | .string text => asciiBytes text
        | .int value => asciiBytes (toString value)
        | _ => []
    | _ => []
  loads := fun _ => .error .valueError

scoped instance : Digest where
  sha256 data := String.ofList (data.map fun byte => Char.ofNat byte.toNat)

scoped instance : ManifestKeys where
  verifies := fun _ signature message => signature = message

scoped instance : FloatText where
  ofInt := fun _ => none
  ofText := fun _ => none
  isUnit := fun _ => true

def genesisOf (tier : Int) (signature : String) : Json :=
  .object [("name", .string "scout"), ("owner_id", .string "o"),
    ("principal_id", .string "p"), ("agent_public_key", .string "k"),
    ("trust_tier", .int tier), ("issued_at", .string "t"), ("issuer", .string "r"),
    ("issuer_public_key", .string "K"), ("signature", .string signature)]

def digestOf (genesis : Json) : String :=
  match AgentGenesis.parse genesis with
  | .ok genesis => genesis.canonicalAgentId
  | .error _ => ""

def signatureOf (genesis : Json) : String :=
  match AgentGenesis.parse genesis with
  | .ok genesis => String.ofList (Base64Url.encode (JsonCodec.canonical genesis.unsigned))
  | .error _ => ""

def issuedGenesis (tier : Int) : Json := genesisOf tier (signatureOf (genesisOf tier ""))

def scoutFile (agentId : String) : Json :=
  .object [("agtp_version", .string "1.0"), ("agent_id", .string agentId),
    ("name", .string "scout"), ("principal", .string "p"), ("principal_id", .string "p"),
    ("description", .string ""), ("status", .string "active"), ("skills", .array []),
    ("requires", .object []), ("scopes_accepted", .array []), ("issued_at", .string ""),
    ("issuer", .string "")]

def scoutFiles (tier : Int) : AgentFiles where
  documents := Dict.empty.set "scout" (.ok (scoutFile (digestOf (issuedGenesis tier))))
  geneses path := if path = "scout" then some (.ok (issuedGenesis tier)) else none

def forge (genesis : Json) : Tampering := ⟨"scout", .ok genesis, true⟩

def served (files : AgentFiles) (agentId : String) : Option HostedAgent :=
  files.directory.load.toOption.bind (·.get? agentId)

theorem loaded_of_served {files : AgentFiles} {agentId : String} {agent : HostedAgent}
    (found : served files agentId = some agent) :
    ∃ agents, files.directory.load = .ok agents ∧ agents.get? agentId = some agent := by
  rcases Option.bind_eq_some_iff.mp found with ⟨agents, loaded, held⟩
  cases outcome : files.directory.load with
  | error failure =>
      rw [outcome] at loaded
      cases loaded
  | ok _ =>
      rw [outcome] at loaded
      cases loaded
      exact ⟨agents, rfl, held⟩

def readAt (files : AgentFiles) (content : Json) : Option Int :=
  (AgentDirectory.readFile (.ok content)).toOption.map fun read =>
    (files.directory.host "scout" read.1 read.2).document.trustTier

theorem read_of_readAt {files : AgentFiles} {content : Json} {tier : Int}
    (shown : readAt files content = some tier) :
    ∃ document source, AgentDirectory.readFile (.ok content) = .ok (document, source) ∧
      (files.directory.host "scout" document source).document.trustTier = tier := by
  rcases Option.map_eq_some_iff.mp shown with ⟨⟨document, source⟩, read, hosted⟩
  cases outcome : AgentDirectory.readFile (.ok content) with
  | error failure =>
      rw [outcome] at read
      cases read
  | ok pair =>
      rw [outcome] at read
      cases read
      exact ⟨document, source, rfl, hosted⟩

/-- A signed Genesis that is left as it was issued. -/
theorem untouched_genesis_genuine :
    ∃ agent, served ((scoutFiles 1).tamper ⟨"scout", .ok (issuedGenesis 1), false⟩)
        (digestOf (issuedGenesis 1)) = some agent ∧
      agent.document.trustTier = 1 ∧
      (scoutFiles 1).Genuine ⟨"scout", .ok (issuedGenesis 1), false⟩ agent := by
  have shown : (served ((scoutFiles 1).tamper ⟨"scout", .ok (issuedGenesis 1), false⟩)
      (digestOf (issuedGenesis 1))).map (fun agent =>
        (agent.document.trustTier, agent.path)) = some (1, "scout") := by
    decide +kernel
  rcases Option.map_eq_some_iff.mp shown with ⟨agent, found, view⟩
  rw [Prod.mk.injEq] at view
  rcases loaded_of_served found with ⟨agents, loaded, held⟩
  have first : readAt (scoutFiles 1) (scoutFile (digestOf (issuedGenesis 1))) = some 1 := by
    decide +kernel
  rcases read_of_readAt first with ⟨document, source, read, _⟩
  have signed : (AgentGenesis.load (.ok (issuedGenesis 1))).toOption.map
      AgentGenesis.verify = some true := by
    decide +kernel
  refine ⟨agent, found, view.1, (genuine_iff rfl read loaded held view.2).mpr ⟨?_, ?_⟩⟩
  · intro genesis lent _
    have load : (AgentGenesis.load (.ok (issuedGenesis 1))).toOption = some genesis :=
      (Option.filter_eq_some_iff.mp lent).1
    rw [load] at signed
    exact Option.some.inj signed
  · have same (files : AgentFiles) (content : Except DecodeFailure Json)
        (beside : files.geneses "scout" = some content) :
        files.issued "scout" document = edited ⟨"scout", content, false⟩ document := by
      unfold issued edited genesis
      rw [beside]
      rfl
    exact .inr (le_of_eq (congrArg lentTier (same _ _ rfl)))

def promotion : Tampering := forge (genesisOf 1 (signatureOf (genesisOf 2 "")))

/-- The scout is served as of the first tier, on a Genesis whose signature does not
verify. -/
theorem edited_genesis_promotes :
    ∃ agent, served ((scoutFiles 2).tamper promotion) (digestOf (genesisOf 1 "")) =
        some agent ∧
      agent.document.trustTier = 1 ∧ ¬(scoutFiles 2).Genuine promotion agent := by
  have shown : (served ((scoutFiles 2).tamper promotion)
      (digestOf (genesisOf 1 ""))).map (fun agent =>
        (agent.document.trustTier, agent.path)) = some (1, "scout") := by
    decide +kernel
  rcases Option.map_eq_some_iff.mp shown with ⟨agent, found, view⟩
  rw [Prod.mk.injEq] at view
  have first : readAt (scoutFiles 2) (scoutFile (digestOf (issuedGenesis 2))) = some 2 := by
    decide +kernel
  rcases read_of_readAt first with ⟨document, source, read, tier⟩
  refine ⟨agent, found, view.1, fun genuine => ?_⟩
  have held : (scoutFiles 2).documents.get? agent.path =
      some (.ok (scoutFile (digestOf (issuedGenesis 2)))) := by
    rw [view.2]
    rfl
  have kept := genuine.2 _ document source held read
  rw [view.2, tier, view.1] at kept
  exact absurd kept (by decide)

end GenesisSamples

end Agtp
