import Agtp.Presence.Methods

/-! # The name service methods

`REGISTER` and `DEREGISTER`: a name is bound to an agent, and the agent is announced or
withdrawn. -/

namespace Agtp

structure NameBinding where
  name : String
  agentId : Json
  manifest : List (String × Json)
  status : String
  registeredAt : String
  refreshedAt : String

/-- The bindings by name, and the names by agent id. -/
structure NameStore where
  byName : Dict String NameBinding
  nameById : Dict String String

namespace NameBinding

def toDict (binding : NameBinding) : Json :=
  .object [("name", .string binding.name), ("agent_id", binding.agentId),
    ("manifest", .object binding.manifest), ("status", .string binding.status),
    ("registered_at", .float binding.registeredAt),
    ("refreshed_at", .float binding.refreshedAt)]

end NameBinding

namespace NameStore

variable [TextCase] [TextOf]

def nameKey (name : String) : String := lower (Text.strip name)

def register (store : NameStore) (name : String) (agentId : Json)
    (manifest : List (String × Json)) (now : String) :
    Except Raised NameBinding × NameStore :=
  let registeredAt :=
    match store.byName.get? (nameKey name) with
    | some existing => existing.registeredAt
    | none => now
  let binding : NameBinding := ⟨name, agentId, manifest, "active", registeredAt, now⟩
  let byName := store.byName.set (nameKey name) binding
  match agentId.pairKey with
  | .error raised => (.error raised, { store with byName := byName })
  | .ok key => (.ok binding, ⟨byName, store.nameById.set key (nameKey name)⟩)

def resolve (store : NameStore) (name : String) : Option NameBinding :=
  (store.byName.get? (nameKey name)).filter fun binding => binding.status = "active"

def resolveById (store : NameStore) (agentId : String) : Option NameBinding :=
  match store.nameById.get? agentId with
  | some key => if key = "" then none else store.byName.get? key
  | none => none

/-- The key of the binding that `deregister` is to remove. -/
def targetKey (store : NameStore) (agentId name : Json) : Except Raised (Option String) :=
  if name.truthy then
    match name with
    | .string text => .ok (some (nameKey text))
    | _ => .error .attributeError
  else if agentId.truthy then agentId.pairKey.map store.nameById.get?
  else .ok none

def deregister (store : NameStore) (agentId name : Json) :
    Except Raised Bool × NameStore :=
  match store.targetKey agentId name with
  | .error raised => (.error raised, store)
  | .ok none => (.ok false, store)
  | .ok (some key) =>
      match store.byName.get? key with
      | none => (.ok false, store)
      | some binding =>
          if key = "" then (.ok false, store)
          else
            let byName := store.byName.erase key
            match binding.agentId.pairKey with
            | .error raised => (.error raised, { store with byName := byName })
            | .ok held => (.ok true, ⟨byName, store.nameById.erase held⟩)

def count (store : NameStore) : Nat := store.byName.entries.length

end NameStore

namespace Ans

open Status

/-- What a handler ends with, and the stores that it leaves. -/
structure Handled where
  outcome : Except Raised Response
  names : NameStore
  presence : PresenceStore

variable [Floats] [TextCase] [TextOf] [NumberText] [MethodCatalog] [BodyCodec]

/-! ## Reading a request -/

def params (request : Request) : Except Raised (List (String × Json)) :=
  match Presence.parsedBody request with
  | .ok members => .ok (Json.update (Presence.queryMembers request) members)
  | .error (some _) => .ok (Presence.queryMembers request)
  | .error none => .error .recursionError

def agentIdOf (request : Request) (params : List (String × Json)) : Json :=
  Json.getOr params "agent_id" (.string (Wire.readAgentId request.headers))

/-! ## REGISTER -/

def namedManifest (name : String) (manifest : Json) : List (String × Json) :=
  let members :=
    match manifest with
    | .object members => members
    | _ => []
  if (Json.get members "name").truthy then members
  else Dict.setEntries "name" (.string name) members

/-- The capabilities of a manifest: those that it declares, or those that its methods
stand for. -/
def manifestCapabilities (manifest : List (String × Json)) (methods : Json) :
    Except Raised (List Json) :=
  if (Json.get manifest "capabilities").truthy then
    (Json.get manifest "capabilities").iterate
  else
    (Scopes.deriveCapabilitiesFromMethods methods false).map fun tokens =>
      (Scopes.sortedSet tokens).map .string

/-- `manifest.get("behavioral_trust_score", manifest.get("trust_score"))`, if it is a
number. -/
def manifestScore (manifest : List (String × Json)) : List (String × Json) :=
  match (Json.member manifest "behavioral_trust_score").getD
      (Json.get manifest "trust_score") with
  | .int score => [("behavioral_trust_score", .int score)]
  | .bool score => [("behavioral_trust_score", .bool score)]
  | .float score => [("behavioral_trust_score", .float score)]
  | _ => []

def manifestEntry (agentId : Json) (manifest : List (String × Json))
    (methods capabilities : List Json) : List (String × Json) :=
  [("agent_id", agentId), ("manifest_uri", .string ("agtp://" ++ agentId.str)),
    ("name", Json.get manifest "name"), ("supported_methods", .array methods),
    ("capabilities", .array capabilities),
    ("trust_tier", Json.get manifest "trust_tier"),
    ("verification_path", Json.get manifest "verification_path")] ++
  manifestScore manifest ++
  if (Json.get manifest "owner_id").truthy then
    [("owner_id", Json.get manifest "owner_id")]
  else []

def recordFromManifest (agentId : Json) (key : String) (manifest : List (String × Json))
    (reading : Reading) : Except Raised PresenceRecord :=
  let methods := Json.getOr manifest "supported_methods" (.array [])
  match manifestCapabilities manifest methods, methods.iterate with
  | .error raised, _ => .error raised
  | .ok _, .error raised => .error raised
  | .ok capabilities, .ok listed =>
      .ok
        { agentId := key
          resultEntry := manifestEntry agentId manifest listed capabilities
          scopes := []
          visibility := .standard
          announcedAt := reading.text
          announcedAtEpoch := reading.epoch
          ttlSeconds := defaultTtlSeconds
          ownerDomain :=
            if (Json.get manifest "owner_id").truthy then Json.get manifest "owner_id"
            else .null
          attachment := none
          signature := .null }

/-- The agent is announced under its name, and the answer says so. -/
def registered (reading : Reading) (agentId : Json) (name : String)
    (manifest : List (String × Json)) (names : NameStore) (presence : PresenceStore) :
    Handled :=
  match names.register name agentId manifest reading.epoch with
  | (.error raised, names) => ⟨.error raised, names, presence⟩
  | (.ok binding, names) =>
      match agentId.pairKey with
      | .error raised => ⟨.error raised, names, presence⟩
      | .ok key =>
          match recordFromManifest agentId key manifest reading with
          | .error raised => ⟨.error raised, names, presence⟩
          | .ok record =>
              match presence.announce record with
              | (.error raised, presence) => ⟨.error raised, names, presence⟩
              | (.ok (), presence) =>
                  ⟨.ok ⟨200, "OK", [], .object [("method", .string "REGISTER"),
                    ("registered", .bool true), ("binding", binding.toDict),
                    ("naming_authority_size", .int names.count)]⟩, names, presence⟩

def handleRegister (reading : Reading) (request : Request) (names : NameStore)
    (presence : PresenceStore) : Handled :=
  let refused (code detail : String) : Handled :=
    ⟨.ok (errorResponse 400 "Bad Request" code detail []).toResponse, names, presence⟩
  match params request with
  | .error raised => ⟨.error raised, names, presence⟩
  | .ok members =>
      let agentId := agentIdOf request members
      if !agentId.truthy then
        refused "register-missing-agent-id" "REGISTER requires an agent_id."
      else
        match Json.get members "name" with
        | .string name =>
            if Text.strip name = "" then
              refused "register-missing-name" "REGISTER requires a 'name'."
            else
              registered reading agentId name
                (namedManifest name (Json.get members "manifest")) names presence
        | _ => refused "register-missing-name" "REGISTER requires a 'name'."

/-! ## DEREGISTER -/

def handleDeregister (request : Request) (names : NameStore) (presence : PresenceStore) :
    Handled :=
  match params request with
  | .error raised => ⟨.error raised, names, presence⟩
  | .ok members =>
      let agentId := agentIdOf request members
      let name := Json.get members "name"
      if !agentId.truthy && !name.truthy then
        ⟨.ok (errorResponse 400 "Bad Request" "deregister-missing-target"
          "DEREGISTER requires an agent_id or name." []).toResponse, names, presence⟩
      else
        match names.deregister agentId name with
        | (.error raised, names) => ⟨.error raised, names, presence⟩
        | (.ok removed, names) =>
            let answer (presence : PresenceStore) : Handled :=
              ⟨.ok ⟨200, "OK", [], .object [("method", .string "DEREGISTER"),
                ("deregistered", .bool removed), ("agent_id", agentId),
                ("naming_authority_size", .int names.count)]⟩, names, presence⟩
            if agentId.truthy then
              match agentId.pairKey with
              | .error raised => ⟨.error raised, names, presence⟩
              | .ok key => answer (presence.withdraw key).2
            else answer presence

end Ans

end Agtp
