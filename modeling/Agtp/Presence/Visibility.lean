import Agtp.Core.Wire
import Agtp.Presence.Records

/-! # Visibility

Who may see a record, and what of it: the presence modes, the audience expressions and
the disclosure modes. -/

namespace Agtp

/-- What a coordinator knows of whoever asks. -/
structure RequesterContext where
  agentId : String
  tier : Option Int
  ownerDomain : Option String
  capabilities : List String
  industry : Option String
  region : Option String
  governanceGroup : Option String

namespace RequesterContext

def anonymous : RequesterContext := ⟨"", none, none, [], none, none, none⟩

end RequesterContext

/-- How many calls an audience expression may nest before the interpreter gives up. -/
class CallDepth where
  frames : Nat

/-! ## Audience expressions -/

namespace Audience

inductive Failure where
  | malformed
  | recursion

abbrev Parser := List String → Except Failure (Bool × List String)

def word (reversed : List Char) : List String :=
  if reversed = [] then [] else [String.ofList reversed.reverse]

def tokenizeFrom (reversed : List Char) : List Char → List String
  | [] => word reversed
  | character :: rest =>
      if Text.isSpace character then word reversed ++ tokenizeFrom [] rest
      else if character = '(' ∨ character = ')' then
        word reversed ++ String.ofList [character] :: tokenizeFrom [] rest
      else tokenizeFrom (character :: reversed) rest

def tokenize (expression : String) : List String :=
  tokenizeFrom [] expression.toList

def attributeIs (held : Option String) (value : String) : Bool :=
  match held with
  | some text => text ≠ "" && text = value
  | none => false

variable [TextCase] [NumberText]

def evalPredicate (token : String) (requester : RequesterContext) :
    Except Failure Bool :=
  match Wire.partitionColon token.toList with
  | none => .error .malformed
  | some (first, rest) =>
      let key := lower (Text.strip (String.ofList first))
      let value := Text.strip (String.ofList rest)
      if key = "tier" then
        match NumberText.intOfText value with
        | some threshold =>
            .ok (match requester.tier with
              | some tier => decide (tier ≤ threshold)
              | none => false)
        | none => .error .malformed
      else if key = "owner-domain" then .ok (attributeIs requester.ownerDomain value)
      else if key = "capability" then .ok (requester.capabilities.contains (lower value))
      else if key = "agent-id" then
        .ok (attributeIs (some requester.agentId) value)
      else if key = "industry" then .ok (attributeIs requester.industry value)
      else if key = "region" then .ok (attributeIs requester.region value)
      else if key = "governance-group" then
        .ok (attributeIs requester.governanceGroup value)
      else .error .malformed

/-- Operands that an operator joins, after the first one. Each turn takes a token, so
there are no more turns than tokens. -/
def joinRest (operator : String) (join : Bool → Bool → Bool) (operand : Parser) :
    Nat → Bool → Parser
  | turns + 1, value, token :: rest =>
      if upper token = operator then
        match operand rest with
        | .error failure => .error failure
        | .ok (next, rest) => joinRest operator join operand turns (join value next) rest
      else .ok (value, token :: rest)
  | _, value, tokens => .ok (value, tokens)

def joined (operator : String) (join : Bool → Bool → Bool) (operand : Parser) : Parser :=
  fun tokens =>
    match operand tokens with
    | .error failure => .error failure
    | .ok (value, rest) => joinRest operator join operand rest.length value rest

mutual

def parseOr (requester : RequesterContext) : Nat → Parser
  | 0 => fun _ => .error .recursion
  | frames + 1 => joined "OR" or (parseAnd requester frames)

def parseAnd (requester : RequesterContext) : Nat → Parser
  | 0 => fun _ => .error .recursion
  | frames + 1 => joined "AND" and (parseNot requester frames)

def parseNot (requester : RequesterContext) : Nat → Parser
  | 0 => fun _ => .error .recursion
  | frames + 1 => fun tokens =>
      match tokens with
      | [] => parseAtom requester frames []
      | token :: rest =>
          if upper token = "NOT" then
            (parseNot requester frames rest).map fun result => (!result.1, result.2)
          else parseAtom requester frames (token :: rest)

def parseAtom (requester : RequesterContext) : Nat → Parser
  | 0 => fun _ => .error .recursion
  | frames + 1 => fun tokens =>
      match tokens with
      | [] => .error .malformed
      | token :: rest =>
          if token = "(" then
            match parseOr requester frames rest with
            | .error failure => .error failure
            | .ok (value, close :: rest) =>
                if close = ")" then .ok (value, rest) else .error .malformed
            | .ok (_, []) => .error .malformed
          else if token = ")" then .error .malformed
          else if upper token = "AND" ∨ upper token = "OR" ∨ upper token = "NOT" then
            .error .malformed
          else (evalPredicate token requester).map fun value => (value, rest)

end

variable [CallDepth]

def parse (tokens : List String) (requester : RequesterContext) : Except Failure Bool :=
  match parseOr requester CallDepth.frames tokens with
  | .error failure => .error failure
  | .ok (value, []) => .ok value
  | .ok (_, _ :: _) => .error .malformed

def allows (scope : String) (requester : RequesterContext) : Except Raised Bool :=
  if Text.strip scope = "" then .ok true
  else if tokenize (Text.strip scope) = [] then .ok true
  else
    match parse (tokenize (Text.strip scope)) requester with
    | .ok value => .ok value
    | .error .malformed => .ok false
    | .error .recursion => .error .recursionError

def explicitAllow (scope : String) : List String :=
  (tokenize scope).filterMap fun token =>
    if "agent-id:".toList.isPrefixOf (lower token).toList then
      match Wire.partitionColon token.toList with
      | some (_, rest) => some (Text.strip (String.ofList rest))
      | none => some ""
    else none

end Audience

/-! ## Visibility -/

namespace PresenceRecord

def subjectTier (record : PresenceRecord) : Option Int :=
  match Json.get record.resultEntry "trust_tier" with
  | .int tier => some tier
  | .bool tier => some (if tier then 1 else 0)
  | _ => none

def subjectOwnerDomain (record : PresenceRecord) : Json :=
  if record.ownerDomain.truthy then record.ownerDomain
  else Json.get record.resultEntry "owner_id"

def inOwnerDomain (domain : Json) (requester : RequesterContext) : Bool :=
  match domain with
  | .string text => text ≠ "" && requester.ownerDomain = some text
  | _ => false

variable [TextCase]

/-- Whether the presence mode lets the requester see the record. An unknown mode lets
nobody. -/
def modeAllows (record : PresenceRecord) (requester : RequesterContext) : Bool :=
  if record.visibility.presenceMode = "public" then true
  else if record.visibility.presenceMode = "tier-scoped" then
    match requester.tier, record.subjectTier with
    | some tier, some subject => decide (tier ≤ subject)
    | _, _ => false
  else if record.visibility.presenceMode = "owner-domain" then
    inOwnerDomain record.subjectOwnerDomain requester
  else if record.visibility.presenceMode = "explicit-only" then
    (Audience.explicitAllow record.visibility.audienceScope).contains requester.agentId
  else false

def isVisible [NumberText] [CallDepth] (record : PresenceRecord)
    (requester : RequesterContext) : Except Raised Bool :=
  if record.modeAllows requester then
    Audience.allows record.visibility.audienceScope requester
  else .ok false

def identityMembers : List String :=
  ["agent_id", "manifest_uri", "name", "trust_tier", "verification_path"]

def shapeEntry (record : PresenceRecord) : List (String × Json) :=
  if record.visibility.disclosureMode = "full" ∨
      record.visibility.disclosureMode = "capabilities" then record.resultEntry
  else if record.visibility.disclosureMode = "identity-only" then
    record.resultEntry.filter fun entry => identityMembers.contains entry.1
  else [("agent_id", Json.get record.resultEntry "agent_id")]

end PresenceRecord

/-! ## Bounding by an envelope -/

namespace Visibility

/-- The place of a mode in a list from the most to the least visible. An unknown mode
comes after all of them. -/
def rankIn (modes : List String) (mode : String) : Nat :=
  modes.idxOf mode

def presenceOrder : List String :=
  ["public", "tier-scoped", "owner-domain", "explicit-only", "invisible"]

def disclosureOrder : List String :=
  ["full", "capabilities", "identity-only", "existence-only"]

def boundMode (modes : List String) (envelope requested : String) : String :=
  if rankIn modes envelope ≤ rankIn modes requested then requested else envelope

def boundAudience (envelope requested : String) : String :=
  if Text.strip envelope ≠ "" ∧ Text.strip requested ≠ "" then
    "(" ++ Text.strip envelope ++ ") AND (" ++ Text.strip requested ++ ")"
  else if Text.strip envelope ≠ "" then Text.strip envelope
  else Text.strip requested

def bound (envelope : Option Visibility) (requested : Visibility) : Visibility :=
  match envelope with
  | none => requested
  | some envelope =>
      ⟨boundMode presenceOrder envelope.presenceMode requested.presenceMode,
        boundMode disclosureOrder envelope.disclosureMode requested.disclosureMode,
        boundAudience envelope.audienceScope requested.audienceScope⟩

end Visibility

end Agtp
