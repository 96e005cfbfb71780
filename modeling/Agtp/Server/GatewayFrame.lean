import Agtp.Server.Endpoint

/-! # Gateway frames

What a runtime module is sent of a request: the envelope that it routes by, and
the trust block. -/

namespace Agtp.Gateway

def textOrNull : Option String → Json
  | some text => .string text
  | none => .null

def requestEnvelope (context : EndpointContext) : List (String × Json) := [
  ("method", .string context.method),
  ("path", .string context.path),
  ("agent_id", .string context.agentId),
  ("principal_id", .string context.principalId),
  ("authority_scope", Status.texts context.authorityScope),
  ("session_id", textOrNull context.sessionId),
  ("task_id", textOrNull context.taskId),
  ("request_id", .string context.requestId),
  ("headers", .object (context.headers.entries.map fun entry =>
    (entry.1, .string entry.2))),
  ("input", .object context.input)]

def verifiedFingerprint (context : EndpointContext) : Option String :=
  if context.agentVerified then context.agentCertFingerprint.filter (· ≠ "") else none

def trustBlock (context : EndpointContext) : List (String × Json) :=
  match verifiedFingerprint context with
  | some fingerprint => [
      ("verified", .bool true),
      ("agent_id", .string context.agentId),
      ("agent_cert_fingerprint", .string fingerprint),
      ("method", .string "agent_cert_mtls")]
  | none => [
      ("verified", .bool (context.agentId ≠ "")),
      ("agent_id", .string context.agentId),
      ("agent_cert_fingerprint", .null),
      ("method", .string "agent_id_header")]

def requestFrame (requestId : String) (context : EndpointContext) :
    List (String × Json) := [
  ("type", .string "request"),
  ("request_id", .string requestId),
  ("envelope", .object (requestEnvelope context)),
  ("trust", .object (trustBlock context))]

def routedPair (frame : List (String × Json)) : Option (Json × Json) :=
  match Json.member frame "envelope" with
  | some (.object envelope) =>
      match Json.member envelope "method", Json.member envelope "path" with
      | some method, some path => some (method, path)
      | _, _ => none
  | _ => none

@[simp] theorem routedPair_requestFrame (requestId : String)
    (context : EndpointContext) :
    routedPair (requestFrame requestId context) =
      some (.string context.method, .string context.path) := by
  simp [routedPair, requestFrame, requestEnvelope, Json.member_cons]

end Agtp.Gateway
