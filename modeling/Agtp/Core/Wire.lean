import Agtp.Foundation.Dict
import Agtp.Foundation.Platform

/-! # Wire format

Requests and the readers of their headers. -/

namespace Agtp

abbrev Headers := Dict String String

structure CertExtensions where
  subjectAgentId : Option String
  principalId : Option String
  authorityScopes : Option (List String)
  governanceZone : Option String
  trustTier : Option Int
  archetype : Option String
  activationCertificateId : Option String

def CertExtensions.absent : CertExtensions :=
  ⟨none, none, none, none, none, none, none⟩

/-- What the mTLS verifier extracts from a client certificate. The agent id is
the `subject-agent-id` extension or else a digest of the key, and the fingerprint
is a digest, so neither is ever empty. -/
structure VerifiedCert where
  agentId : String
  fingerprint : String
  extensions : CertExtensions
  agentId_ne : agentId ≠ ""
  fingerprint_ne : fingerprint ≠ ""

def VerifiedCert.principalId (cert : VerifiedCert) : String :=
  cert.extensions.principalId.getD ""

/-- A parsed request. The last three fields are runtime attributes that the
server attaches; they are not on the wire. -/
structure Request where
  method : String
  headers : Headers
  body : Bytes
  path : String
  query : Dict String String
  verifiedCert : Option VerifiedCert
  aliasedFrom : String
  actingPrincipalId : String

/-- A request of the root path, without a body. -/
def Request.toRoot (method : String) (headers : List (String × String)) :
    Request where
  method := method
  headers := .ofList headers
  body := []
  path := "/"
  query := .empty
  verifiedCert := none
  aliasedFrom := ""
  actingPrincipalId := ""

def Request.requestPath (request : Request) : String :=
  if request.path = "" then "/" else request.path

/-- A request as its lines spell it, with the target in one piece. The body is
the one that its `Content-Length` frames. -/
structure WireRequest where
  method : String
  target : String
  headers : Headers
  body : Bytes

namespace Wire

/-! ## Header lines -/

def partitionColon : List Char → Option (List Char × List Char)
  | [] => none
  | ':' :: rest => some ([], rest)
  | character :: rest =>
      (partitionColon rest).map fun parts => (character :: parts.1, parts.2)

/-- The header lines of a request as a dictionary: a repeated name keeps its
first position and takes the last value. `none` is the wire format error of a
line without a colon. -/
def parseHeaders (lines : List String) : Option Headers :=
  (lines.mapM fun line =>
    (partitionColon line.toList).map fun parts =>
      (Text.strip (String.ofList parts.1), Text.strip (String.ofList parts.2))).map
    Dict.ofList

/-! ## Request targets -/

def partitionQuery (target : List Char) : List Char × List Char :=
  (target.takeWhile (· ≠ '?'), (target.dropWhile (· ≠ '?')).drop 1)

/-- The path and the query string of a target; `parse_request` refuses a target
with a fragment. -/
def splitTarget [TextOf] (target : String) : Except String (String × String) :=
  let parts := partitionQuery target.toList
  if '#' ∈ target.toList then
    .error ("request path contains a fragment ('#'); fragments are client-side-only " ++
      s!"and not permitted on AGTP requests: {TextOf.quoted target}")
  else .ok (if parts.1 = [] then "/" else String.ofList parts.1, String.ofList parts.2)

def addParameter [UrlText] (query : Dict String String) (pair : String) :
    Dict String String :=
  let name := UrlText.unquotePlus (String.ofList (pair.toList.takeWhile (· ≠ '=')))
  let value := match pair.toList.dropWhile (· ≠ '=') with
    | _ :: value => UrlText.unquotePlus (String.ofList value)
    | [] => ""
  if name = "" then query else query.set name value

def parseQueryString [UrlText] (query : String) : Dict String String :=
  ((Text.split '&' query).filter (· ≠ "")).foldl addParameter .empty

/-- `parse_request`, from the tokens of its lines. -/
def receive [TextOf] [UrlText] (wire : WireRequest) : Except String Request :=
  (splitTarget wire.target).map fun parts => {
    method := wire.method
    headers := wire.headers
    body := wire.body
    path := parts.1
    query := parseQueryString parts.2
    verifiedCert := none
    aliasedFrom := ""
    actingPrincipalId := "" }

theorem partitionQuery_of_notMem {target : List Char} (noQuery : '?' ∉ target) :
    partitionQuery target = (target, []) := by
  induction target with
  | nil => rfl
  | cons head tail induction =>
      simp only [List.mem_cons, not_or] at noQuery
      have different : head ≠ '?' := fun equal => noQuery.1 equal.symm
      simpa [partitionQuery, different] using induction noQuery.2

theorem splitTarget_path [TextOf] {target : String} (noQuery : '?' ∉ target.toList)
    (noFragment : '#' ∉ target.toList) :
    splitTarget target = .ok (if target = "" then "/" else target, "") := by
  simp [splitTarget, noFragment, partitionQuery_of_notMem noQuery]

@[simp] theorem parseQueryString_empty [UrlText] : parseQueryString "" = .empty := by
  rfl

/-! ## Header lookup -/

variable [TextCase]

def named (name key : String) : Bool :=
  lower key = lower name

def header (headers : Headers) (name : String) : String :=
  match headers.first? (named name) with
  | some (_, value) => value
  | none => ""

/-- A header that has a canonical name and a deprecated one, which is read when
the canonical one is absent or empty. -/
def headerOrLegacy (headers : Headers) (canonical legacy : String) : String :=
  if header headers canonical ≠ "" then header headers canonical
  else header headers legacy

def readAgentId (headers : Headers) : String :=
  headerOrLegacy headers "Agent-ID" "Target-Agent"

def readSynthesisId (headers : Headers) : String :=
  headerOrLegacy headers "Contract-Synthesized" "Synthesis-Id"

def readIdempotencyKey (headers : Headers) : String :=
  headerOrLegacy headers "Idempotency-Key" "RCNS-Idempotency-Key"

theorem named_self (name : String) : named name name = true := by
  simp [named]

theorem named_ascii {name key : String} (nameAscii : Text.isAscii name)
    (keyAscii : Text.isAscii key) :
    named name key = decide (Text.asciiLower key = Text.asciiLower name) := by
  unfold named
  rw [TextCase.lower_ascii name nameAscii, TextCase.lower_ascii key keyAscii]

theorem named_disjoint {left right : String} (leftAscii : Text.isAscii left)
    (rightAscii : Text.isAscii right)
    (different : Text.asciiLower left ≠ Text.asciiLower right) {key : String}
    (leftNamed : named left key = true) : named right key = false := by
  simp only [named, decide_eq_true_eq, decide_eq_false_iff_not] at leftNamed ⊢
  rw [leftNamed, TextCase.lower_ascii left leftAscii,
    TextCase.lower_ascii right rightAscii]
  exact different

/-- Setting a header under one spelling: an earlier entry under another
spelling still wins. -/
theorem header_set (headers : Headers) (name value : String) :
    header (headers.set name value) name =
      match headers.first? (named name) with
      | some (key, held) => if key = name then value else held
      | none => value := by
  unfold header
  rw [Dict.first?_set, named_self]
  cases headers.first? (named name) with
  | none => rfl
  | some entry =>
      rcases entry with ⟨key, held⟩
      by_cases same : key = name <;> simp [same]

theorem header_set_other (headers : Headers) {name other value : String}
    (different : named other name = false) :
    header (headers.set name value) other = header headers other := by
  unfold header
  rw [Dict.first?_set, different]
  cases found : headers.first? (named other) with
  | none => simp
  | some entry =>
      rcases entry with ⟨key, held⟩
      have accepted : named other key = true := by
        simpa [Dict.first?] using List.find?_some found
      have notName : key ≠ name := by
        intro same
        rw [same, different] at accepted
        cases accepted
      simp [notName]

end Wire

end Agtp
