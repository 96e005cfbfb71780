import Agtp.Core.Wire

/-! # Agent ids and URIs

The addresses of agents and servers: six forms that share one scheme and are told apart by
their regular expressions. -/

namespace Agtp

abbrev AgentIdError := String

/-- The characters that `\d` stands for. -/
class DecimalDigits where
  isDecimal : Char → Bool

namespace Ids

/-! ## Character classes -/

def isAlphanumeric (character : Char) : Bool :=
  ('A' ≤ character && character ≤ 'Z') || ('a' ≤ character && character ≤ 'z') ||
    ('0' ≤ character && character ≤ '9')

def hostCharacter (character : Char) : Bool :=
  isAlphanumeric character || character = '.' || character = '-'

def handleCharacter (character : Char) : Bool :=
  isAlphanumeric character || character = '.' || character = '_' || character = '-'

def hexCharacter (character : Char) : Bool :=
  ('0' ≤ character && character ≤ '9') || ('a' ≤ character && character ≤ 'f')

def atEnd (rest : List Char) : Bool :=
  rest = [] || rest = ['\n']

def beforeEnd (text : List Char) : List Char :=
  if text.getLast? = some '\n' then text.dropLast else text

def isHex (text : List Char) : Bool :=
  text.length = 64 && text.all hexCharacter

def isHostLabel (label : List Char) : Bool :=
  label.length ≤ 63 && label.all (fun character => isAlphanumeric character || character = '-') &&
    label.head?.any isAlphanumeric && label.getLast?.any isAlphanumeric

def isHostname (host : String) : Bool :=
  (Text.splitCharacters '.' (beforeEnd host.toList)).all isHostLabel

def isHandle (handle : String) : Bool :=
  let text := beforeEnd handle.toList
  text.head?.any isAlphanumeric && text.all handleCharacter

/-! ## Parsed URIs -/

structure ParsedUri where
  agentId : Option String
  agentHandle : Option String
  host : Option String
  port : Option Int
  query : Option String

namespace ParsedUri

def isSubdomain (host : String) : Bool :=
  "agtp.".toList.isPrefixOf host.toList

def form (uri : ParsedUri) : String :=
  if uri.agentId.isSome then if uri.host.isSome then "1a" else "1"
  else if uri.agentHandle.isSome then if isSubdomain (uri.host.getD "") then "4" else "3"
  else "2"

def formatParam (uri : ParsedUri) : Option String :=
  match uri.query with
  | none => none
  | some query =>
      if query = "" then none
      else
        (Text.split '&' query).findSome? fun pair =>
          if "format=".toList.isPrefixOf pair.toList then
            some (String.ofList (pair.toList.drop "format=".length))
          else none

end ParsedUri

/-! ## Patterns -/

section Patterns

variable [DecimalDigits]

def afterScheme : List Char → Option (List Char)
  | 'a' :: 'g' :: 't' :: 'p' :: ':' :: '/' :: '/' :: rest => some rest
  | _ => none

def afterAgents : List Char → Option (List Char)
  | '/' :: 'a' :: 'g' :: 'e' :: 'n' :: 't' :: 's' :: '/' :: rest => some rest
  | _ => none

/-- `(?::(?P<port>\d+))?`. No digit is a character that may follow, so a shorter match
does not help. -/
def takePort (text : List Char) : Option String × List Char :=
  match text with
  | ':' :: more =>
      if more.takeWhile DecimalDigits.isDecimal = [] then (none, text)
      else
        (some (String.ofList (more.takeWhile DecimalDigits.isDecimal)),
          more.dropWhile DecimalDigits.isDecimal)
  | _ => (none, text)

/-- `(?:@(?P<host>[a-zA-Z0-9.\-]+)(?::(?P<port>\d+))?)?` -/
def takeHost (text : List Char) : Option String × Option String × List Char :=
  match text with
  | '@' :: more =>
      if more.takeWhile hostCharacter = [] then (none, none, text)
      else
        (some (String.ofList (more.takeWhile hostCharacter)),
          takePort (more.dropWhile hostCharacter))
  | _ => (none, none, text)

def takeQuery (text : List Char) : Option String × List Char :=
  match text with
  | '?' :: more => (some (String.ofList (more.takeWhile (· ≠ '\n'))), more.dropWhile (· ≠ '\n'))
  | _ => (none, text)

structure UriMatch where
  agentId : Option String
  host : Option String
  port : Option String
  handle : Option String
  query : Option String

/-- `_AGENT_URI_PATTERN`. -/
def matchAgentUri (text : List Char) : Option UriMatch :=
  match afterScheme text with
  | none => none
  | some rest =>
      if isHex (rest.take 64) then
        let located := takeHost (rest.drop 64)
        let queried := takeQuery located.2.2
        if atEnd queried.2 then
          some ⟨some (String.ofList (rest.take 64)), located.1, located.2.1, none, queried.1⟩
        else none
      else none

/-- `_DOMAIN_AGENT_URI_PATTERN`. -/
def matchDomainAgentUri (text : List Char) : Option UriMatch :=
  match afterScheme text with
  | none => none
  | some rest =>
      let host := rest.takeWhile hostCharacter
      let ported := takePort (rest.dropWhile hostCharacter)
      match afterAgents ported.2 with
      | none => none
      | some tail =>
          let handle := tail.takeWhile handleCharacter
          if host ≠ [] ∧ handle.head?.any isAlphanumeric ∧
              atEnd (tail.dropWhile handleCharacter) then
            some ⟨none, some (String.ofList host), ported.1, some (String.ofList handle), none⟩
          else none

/-- `_SERVER_URI_PATTERN`. -/
def matchServerUri (text : List Char) : Option UriMatch :=
  match afterScheme text with
  | none => none
  | some rest =>
      let host := rest.takeWhile hostCharacter
      let ported := takePort (rest.dropWhile hostCharacter)
      if host ≠ [] ∧ atEnd ported.2 then
        some ⟨none, some (String.ofList host), ported.1, none, none⟩
      else none

def isSubPath (text : List Char) : Bool :=
  match afterScheme text with
  | none => false
  | some rest =>
      rest.takeWhile hostCharacter ≠ [] &&
        match afterAgents (takePort (rest.dropWhile hostCharacter)).2 with
        | none => false
        | some tail =>
            tail.takeWhile (· ≠ '/') ≠ [] &&
              match tail.dropWhile (· ≠ '/') with
              | '/' :: more =>
                  more.takeWhile (· ≠ '\n') ≠ [] && atEnd (more.dropWhile (· ≠ '\n'))
              | _ => false

end Patterns

/-! ## Reading and writing -/

variable [TextOf]

def validateAgentId (agentId : String) : Except AgentIdError Unit :=
  if agentId.toList.length ≠ 64 then
    .error s!"agent ID must be 64 characters, got {agentId.toList.length}"
  else if isHex agentId.toList then .ok ()
  else .error "agent ID must contain only lowercase hexadecimal characters"

def parsePort [NumberText] : Option String → Except AgentIdError (Option Int)
  | none => .ok none
  | some text =>
      match NumberText.intOfText text with
      | none => .error ("invalid port number: " ++ TextOf.quoted text)
      | some port =>
          if 1 ≤ port ∧ port ≤ 65535 then .ok (some port)
          else .error s!"port out of range (1-65535): {port}"

def badHostname (host : String) : AgentIdError :=
  "not a valid hostname: " ++ TextOf.quoted host

def badHandle (handle : String) : AgentIdError :=
  "not a valid agent handle: " ++ TextOf.quoted handle

def parseUri [DecimalDigits] [NumberText] (uri : String) : Except AgentIdError ParsedUri :=
  let text := (Text.strip uri).toList
  match matchAgentUri text with
  | some found =>
      (parsePort found.port).map fun port =>
        ⟨found.agentId, none, found.host, port, found.query⟩
  | none =>
      match matchDomainAgentUri text with
      | some found =>
          if ¬isHostname (found.host.getD "") then .error (badHostname (found.host.getD ""))
          else if ¬isHandle (found.handle.getD "") then
            .error (badHandle (found.handle.getD ""))
          else
            (parsePort found.port).map fun port => ⟨none, found.handle, found.host, port, none⟩
      | none =>
          match matchServerUri text with
          | some found =>
              if ¬isHostname (found.host.getD "") then .error (badHostname (found.host.getD ""))
              else (parsePort found.port).map fun port => ⟨none, none, found.host, port, none⟩
          | none =>
              if isSubPath text then
                .error ("sub-paths under /agents/\x7bname\x7d/... are reserved for future " ++
                  "AGTP revisions; v00 supports only /agents/\x7bname\x7d exactly. Got: " ++
                  TextOf.quoted uri)
              else .error ("not a valid AGTP URI: " ++ TextOf.quoted uri)

def hostSuffix : Option String → String
  | some host => if host = "" then "" else "@" ++ host
  | none => ""

def formatSuffix : Option String → String
  | some format => if format = "" then "" else "?format=" ++ format
  | none => ""

def formatUri (agentId agentHandle host format : Option String) : Except AgentIdError String :=
  match agentId, agentHandle, host with
  | none, none, none => .error "format_uri requires agent_id, agent_handle, or host"
  | _, some _, none => .error "agent_handle (Forms 3 / 4) requires a host component"
  | some agentId, _, host =>
      (validateAgentId agentId).map fun _ =>
        "agtp://" ++ agentId ++ hostSuffix host ++ formatSuffix format
  | none, some handle, some host =>
      if ¬isHostname host then .error (badHostname host)
      else if ¬isHandle handle then .error (badHandle handle)
      else .ok ("agtp://" ++ host ++ "/agents/" ++ handle)
  | none, none, some host =>
      if ¬isHostname host then .error (badHostname host) else .ok ("agtp://" ++ host)

end Ids

end Agtp
