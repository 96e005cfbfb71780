import Agtp.Foundation.Json

/-! # Server manifests

The dataclasses of `core/manifest.py` and the wire form of a manifest. -/

namespace Agtp

def Json.memberIf (present : Bool) (name : String) (value : Json) :
    List (String × Json) :=
  if present then [(name, value)] else []

theorem Json.member_memberIf (present : Bool) (key name : String) (value : Json) :
    Json.member (Json.memberIf present key value) name =
      if present = true ∧ key = name then some value else none := by
  cases present <;> simp [Json.memberIf, Json.member]

def Json.texts (values : List String) : Json := .array (values.map .string)

def Json.ofText : Option String → Json
  | some text => .string text
  | none => .null

namespace Manifest

structure ServerInfoBlock where
  serverId : String
  operator : String
  contact : String
  supportedFeatures : List String
  domain : Option String
  issued : String
  updated : String

def ServerInfoBlock.toDict (info : ServerInfoBlock) : List (String × Json) :=
  [("server_id", .string info.serverId),
    ("operator", .string info.operator),
    ("contact", .string info.contact),
    ("supported_features", Json.texts info.supportedFeatures),
    ("domain", Json.ofText info.domain),
    ("issued", .string info.issued),
    ("updated", .string info.updated)]

structure PolicyBlock where
  wildcardsAccepted : Bool
  anonymousDiscovery : Bool
  scopeRequiredForInvocation : Bool
  synthesisEnabled : Bool
  maxSynthesisDepth : Int
  methods : Option (List (String × Json))

/-- The sub-block `methods` is left out where no policy is authored. -/
def PolicyBlock.toDict (policies : PolicyBlock) : List (String × Json) :=
  [("wildcards_accepted", .bool policies.wildcardsAccepted),
    ("anonymous_discovery", .bool policies.anonymousDiscovery),
    ("scope_required_for_invocation", .bool policies.scopeRequiredForInvocation),
    ("synthesis_enabled", .bool policies.synthesisEnabled),
    ("max_synthesis_depth", .int policies.maxSynthesisDepth)] ++
    match policies.methods with
    | some (entry :: rest) => [("methods", .object (entry :: rest))]
    | _ => []

structure APIEndpoint where
  path : String
  methods : List String
  description : Option String
  rooted : path.toList.head? = some '/'
  methods_ne : methods ≠ []

def APIEndpoint.toDict (endpoint : APIEndpoint) : List (String × Json) :=
  [("path", .string endpoint.path), ("methods", Json.texts endpoint.methods)] ++
    Json.memberIf (endpoint.description.any (· ≠ "")) "description"
      (Json.ofText endpoint.description)

structure HostedProtocol where
  protocol : String
  version : String
  endpoint : String
  catalog : Option String
  protocol_ne : protocol ≠ ""
  endpoint_ne : endpoint ≠ ""

def HostedProtocol.toDict (hosted : HostedProtocol) : List (String × Json) :=
  [("protocol", .string hosted.protocol),
    ("version", .string hosted.version),
    ("endpoint", .string hosted.endpoint)] ++
    Json.memberIf (hosted.catalog.any (· ≠ "")) "catalog" (Json.ofText hosted.catalog)

structure MethodEntry where
  members : List (String × Json)
  name : String
  named : Json.member members "name" = some (.string name)

end Manifest

open Manifest

structure ServerManifest where
  agtpVersion : String
  agtpApiVersion : String
  documentVersion : String
  catalogVersion : String
  catalogVersionsSupported : List String
  server : ServerInfoBlock
  embeddedMethods : List MethodEntry
  customMethods : List MethodEntry
  endpoints : List (List (String × Json))
  agentDisclosure : String
  hostedAgents : List (List (String × Json))
  agentDisclosureNotice : Option String
  apis : List APIEndpoint
  hostedProtocols : List HostedProtocol
  security : Option (List (String × Json))
  assurance : Option (List (String × Json))
  policies : Option PolicyBlock

namespace ServerManifest

def entriesJson (entries : List MethodEntry) : Json :=
  .array (entries.map fun entry => .object entry.members)

def optionalBlock (name : String) : Option (List (String × Json)) → List (String × Json)
  | some members => [(name, .object members)]
  | none => []

def toDict (manifest : ServerManifest) : List (String × Json) :=
  [("agtp_version", .string manifest.agtpVersion),
    ("agtp_api_version", .string manifest.agtpApiVersion),
    ("document_version", .string manifest.documentVersion)] ++
  Json.memberIf (manifest.catalogVersion ≠ "") "catalog_version"
    (.string manifest.catalogVersion) ++
  Json.memberIf (!manifest.catalogVersionsSupported.isEmpty)
    "catalog_versions_supported" (Json.texts manifest.catalogVersionsSupported) ++
  [("server", .object manifest.server.toDict),
    ("embedded_methods", entriesJson manifest.embeddedMethods)] ++
  Json.memberIf (!manifest.customMethods.isEmpty) "custom_methods"
    (entriesJson manifest.customMethods) ++
  Json.memberIf (!manifest.endpoints.isEmpty) "endpoints"
    (.array (manifest.endpoints.map .object)) ++
  [("agent_disclosure", .string manifest.agentDisclosure),
    ("hosted_agents", .array (manifest.hostedAgents.map .object))] ++
  Json.memberIf (manifest.agentDisclosureNotice.any (· ≠ "")) "agent_disclosure_notice"
    (Json.ofText manifest.agentDisclosureNotice) ++
  Json.memberIf (!manifest.apis.isEmpty) "apis"
    (.array (manifest.apis.map fun endpoint => .object endpoint.toDict)) ++
  Json.memberIf (!manifest.hostedProtocols.isEmpty) "hosted_protocols"
    (.array (manifest.hostedProtocols.map fun hosted => .object hosted.toDict)) ++
  optionalBlock "security" manifest.security ++
  optionalBlock "assurance" manifest.assurance ++
  optionalBlock "policies" (manifest.policies.map PolicyBlock.toDict)

/-! ## What the wire form holds -/

theorem member_optionalBlock (key name : String) (block : Option (List (String × Json))) :
    Json.member (optionalBlock key block) name =
      if key = name then block.map .object else none := by
  cases block <;> simp [optionalBlock, Json.member]

theorem member_embedded (manifest : ServerManifest) :
    Json.member manifest.toDict "embedded_methods" =
      some (entriesJson manifest.embeddedMethods) := by
  simp [toDict, Json.member_append, Json.member_memberIf, Json.member]

theorem member_custom (manifest : ServerManifest) :
    Json.member manifest.toDict "custom_methods" =
      if manifest.customMethods = [] then none
      else some (entriesJson manifest.customMethods) := by
  simp [toDict, Json.member_append, Json.member_memberIf, Json.member,
    member_optionalBlock]

theorem member_policies (manifest : ServerManifest) :
    Json.member manifest.toDict "policies" =
      manifest.policies.map fun policies => .object policies.toDict := by
  simp [toDict, Json.member_append, Json.member_memberIf, Json.member,
    member_optionalBlock, Function.comp_def]

theorem member_policy (manifest : ServerManifest) :
    Json.member manifest.toDict "policy" = none := by
  simp [toDict, Json.member_append, Json.member_memberIf, Json.member,
    member_optionalBlock]

end ServerManifest

end Agtp
