import Agtp.Foundation.Dict
import Agtp.Foundation.Json

/-! # Responses

A response is kept as its status line, the headers that the server reads back
and the JSON value of its body. The refusals of the request path follow, each
with the body that the source gives it. -/

namespace Agtp

structure Response where
  status : Nat
  statusText : String
  headers : List (String × String)
  body : Json

structure ErrorResponse where
  status : Nat
  statusText : String
  error : List (String × Json)

namespace ErrorResponse

def toResponse (refusal : ErrorResponse) : Response where
  status := refusal.status
  statusText := refusal.statusText
  headers := []
  body := .object [("error", .object refusal.error)]

def code (refusal : ErrorResponse) : Option Json :=
  Json.member refusal.error "code"

end ErrorResponse

/-- Why a request gets no further: it is answered with an error, or an uncaught
exception closes the connection. -/
inductive Refusal where
  | answer (response : ErrorResponse)
  | crash

namespace Status

def errorResponse (status : Nat) (statusText code detail : String)
    (extra : List (String × Json)) : ErrorResponse where
  status := status
  statusText := statusText
  error := extra.foldl
    (fun members entry => Dict.setEntries entry.1 entry.2 members)
    [("code", .string code), ("detail", .string detail)]

def texts (values : List String) : Json := .array (values.map .string)

def joined (values : List String) : String :=
  String.intercalate ", " values

/-! ## Agent permissions -/

def methodNotPermittedForAgent (method agentId : String) : ErrorResponse where
  status := 403
  statusText := "Forbidden"
  error := [
    ("code", .string "method-not-permitted-for-agent"),
    ("method", .string method),
    ("agent_id", .string agentId),
    ("explanation", .string
      (s!"This agent's permissions do not include {method}. " ++
       "The principal has not authorized this method."))]

/-- `details` is left out of the body when it is empty. -/
def authorizationRequired (kind explanation : String)
    (details : List (String × Json)) : ErrorResponse where
  status := 262
  statusText := "Authorization Required"
  error := [
    ("code", .string "authorization-required"),
    ("type", .string kind),
    ("explanation", .string explanation)] ++
    if details.isEmpty then [] else [("details", .object details)]

def wildcardsRefused (agentId : String) : ErrorResponse :=
  authorizationRequired "wildcards-required"
    "Server policies.wildcards_accepted is false; agent declares wildcards: true."
    [("agent_id", .string agentId)]

def anonymousDiscoveryDisabled : ErrorResponse :=
  authorizationRequired "anonymous-discovery-disabled"
    "Server policies.anonymous_discovery is false; manifest fetch requires credentials."
    []

def insufficientScope (method path : String) (missing : List String) :
    ErrorResponse :=
  authorizationRequired "scope-required"
    s!"{method} {path} requires scope(s) the agent has not declared: {joined missing}"
    [("method", .string method), ("path", .string path),
      ("missing_scopes", texts missing)]

/-! ## Methods and paths -/

def methodGrammarViolation (method quotedMethod : String)
    (suggestions : List String) : ErrorResponse where
  status := 459
  statusText := "Method Violation"
  error := [
    ("code", .string "method-violation"),
    ("message", .string s!"{quotedMethod} is not a recognized AGTP verb."),
    ("method", .string method)] ++
    if suggestions.isEmpty then [] else [("suggestions", texts suggestions)]

def endpointGrammarViolation (path reason : String) (segment : Option String) :
    ErrorResponse where
  status := 460
  statusText := "Endpoint Violation"
  error := [
    ("code", .string "endpoint-violation"),
    ("message", .string reason),
    ("path", .string path)] ++
    match segment with
    | some segment => [("segment", .string segment)]
    | none => []

def notFound (method path quotedPath : String) : ErrorResponse where
  status := 404
  statusText := "Not Found"
  error := [
    ("code", .string "endpoint-not-found"),
    ("method", .string method),
    ("path", .string path),
    ("message", .string
      s!"no endpoint registered at path {quotedPath} on this server")]

def methodNotAllowed (method path : String) (allowed : List String) :
    ErrorResponse where
  status := 405
  statusText := "Method Not Allowed"
  error := [
    ("code", .string "method-not-allowed"),
    ("method", .string method),
    ("path", .string path),
    ("message", .string
      (if allowed.isEmpty then s!"{method} is not registered for {path}"
        else s!"{method} is not registered for {path}; allowed: {joined allowed}")),
    ("allowed_methods_for_path", texts allowed)]

/-! ## Negotiation -/

def rcnsNoContract (reason explanation : String)
    (binding : Option (String × String)) (details : List (String × Json)) :
    ErrorResponse where
  status := 464
  statusText := "RCNS No Contract"
  error := [
    ("code", .string "rcns-no-contract"),
    ("reason", .string reason),
    ("explanation", .string explanation)] ++
    (match binding with
    | some (method, path) =>
        [("method", .string method), ("path", .string path)]
    | none => []) ++
    if details.isEmpty then [] else [("details", .object details)]

def rcnsContractAvailable (contract : List (String × Json))
    (synthesisId : String) : Response where
  status := 461
  statusText := "RCNS Contract Available"
  headers := []
  body := .object [("contract", .object contract),
    ("proposed_synthesis_id", .string synthesisId)]

end Status

end Agtp
