import Agtp.Core.Wire
import Agtp.Foundation.Fallible
import Agtp.Foundation.PercentEncoding

/-! # Messages as bytes

Requests and responses on a connection: a start line, header lines, a blank line, and as
many bytes of body as `Content-Length` announces. -/

namespace Agtp

/-- A response as its lines spell it. -/
structure WireResponse where
  statusCode : Int
  statusText : String
  headers : Headers
  body : Bytes

instance [TextDecoding] : UrlText where
  unquotePlus := PercentEncoding.unquotePlus

namespace Wire

/-- Why a message cannot be read: a `WireFormatError`, or the `ValueError` of reading a
negative number of bytes. -/
inductive WireFailure where
  | format (message : String)
  | valueError

def agtpVersion : String := "AGTP/1.0"

def lineEnd : List Char := ['\r', '\n']

/-! ## Serialization -/

def framedHeaders (headers : Headers) (body : Bytes) : Headers :=
  if body = [] then headers
  else headers.setDefault "Content-Length" (toString body.length)

def headerLine (entry : String × String) : List Char :=
  entry.1.toList ++ ':' :: ' ' :: entry.2.toList

def headText (startLine : List Char) (headers : Headers) : List Char :=
  startLine ++ headers.entries.flatMap fun entry => lineEnd ++ headerLine entry

def serialize (startLine : List Char) (headers : Headers) (body : Bytes) : Bytes :=
  Utf8.encode (headText startLine (framedHeaders headers body) ++ lineEnd ++ lineEnd) ++ body

def queryPair (entry : String × String) : List Char :=
  PercentEncoding.quote entry.1.toList ++ '=' :: PercentEncoding.quote entry.2.toList

def queryText (query : Dict String String) : List Char :=
  List.intercalate ['&'] (query.entries.map queryPair)

def pathToken (request : Request) : List Char :=
  request.requestPath.toList ++
    if request.query.entries = [] then [] else '?' :: queryText request.query

def requestLine (request : Request) : List Char :=
  agtpVersion.toList ++ ' ' :: request.method.toList ++
    if pathToken request = ['/'] then [] else ' ' :: pathToken request

def serializeRequest (request : Request) : Bytes :=
  serialize (requestLine request) request.headers request.body

def statusLine (response : WireResponse) : List Char :=
  agtpVersion.toList ++ ' ' :: (toString response.statusCode).toList ++
    ' ' :: response.statusText.toList

def serializeResponse (response : WireResponse) : Bytes :=
  serialize (statusLine response) response.headers response.body

/-! ## Lines -/

/-- `_read_until_blank_line`: the lines before the blank one, and what follows it. The
first arguments are the lines read so far and the one that is being read. -/
def readHeadFrom (chunks line : Bytes) : Bytes → Except WireFailure (Bytes × Bytes)
  | [] => .error <| .format "connection closed before headers complete"
  | byte :: rest =>
      if byte = 10 then
        if line = [] ∨ line = [13] then .ok (chunks, rest)
        else readHeadFrom (chunks ++ line ++ [10]) [] rest
      else readHeadFrom chunks (line ++ [byte]) rest

def readHead (stream : Bytes) : Except WireFailure (Bytes × Bytes) :=
  readHeadFrom [] [] stream

def stripReturns (line : List Char) : List Char :=
  (line.reverse.dropWhile (· = '\r')).reverse

def proseLines (text : List Char) : List String :=
  ((Text.splitCharacters '\n' text).filter fun line => Text.strip (String.ofList line) ≠ "").map
    fun line => String.ofList (stripReturns line)

section Parsing

variable [TextOf] [TextDecoding]

def parseHead (raw : Bytes) : Except WireFailure (String × Headers) :=
  match proseLines (TextDecoding.replace raw).toList with
  | [] => .error <| .format "no header lines present"
  | startLine :: lines =>
      match parseHeaders lines with
      | some headers => .ok (startLine, headers)
      | none =>
          let malformed := (lines.find? fun line => !line.toList.contains ':').getD ""
          .error <| .format s!"malformed header line: {TextOf.quoted malformed}"

variable [NumberText] [TextCase]

def readBody (headers : Headers) (stream : Bytes) : Except WireFailure (Bytes × Bytes) :=
  let lengthText := header headers "content-length"
  if lengthText = "" then .ok ([], stream)
  else
    match NumberText.intOfText lengthText with
    | none => .error <| .format s!"invalid Content-Length: {TextOf.quoted lengthText}"
    | some (.ofNat length) =>
        if length ≤ stream.length then .ok (stream.take length, stream.drop length)
        else
          .error <| .format
            s!"body truncated: expected {length} bytes, got {stream.length}"
    | some (.negSucc 0) =>
        -- everything up to the end of the stream
        .error <| .format s!"body truncated: expected -1 bytes, got {stream.length}"
    | some (.negSucc _) => .error .valueError

/-! ## Messages -/

structure Received (Start : Type) where
  start : Start
  headers : Headers
  body : Bytes

def parseMessage {Start : Type} (readStart : String → Except WireFailure Start)
    (stream : Bytes) : Except WireFailure (Received Start × Bytes) := do
  let (raw, afterHead) ← readHead stream
  let (startLine, headers) ← parseHead raw
  let start ← readStart startLine
  let (body, rest) ← readBody headers afterHead
  return (⟨start, headers, body⟩, rest)

omit [TextDecoding] [NumberText] [TextCase] in
/-- The method, the path and the query string of a request. -/
def readRequestLine (startLine : String) :
    Except WireFailure (String × String × String) :=
  let read (version method target : String) :=
    if version = agtpVersion then
      match splitTarget target with
      | .ok parts => .ok (method, parts)
      | .error message => .error (.format message)
    else .error <| .format s!"unsupported AGTP version: {TextOf.quoted version}"
  match Text.words startLine with
  | [version, method] => read version method "/"
  | [version, method, target] => read version method target
  | _ => .error <| .format s!"malformed request start line: {TextOf.quoted startLine}"

omit [TextOf] [NumberText] [TextCase] in
def toRequest (received : Received (String × String × String)) : Request where
  method := received.start.1
  headers := received.headers
  body := received.body
  path := received.start.2.1
  query := parseQueryString received.start.2.2
  verifiedCert := none
  aliasedFrom := ""
  actingPrincipalId := ""

def parseRequest (stream : Bytes) : Except WireFailure (Request × Bytes) :=
  (parseMessage readRequestLine stream).map fun read => (toRequest read.1, read.2)

omit [TextDecoding] [TextCase] in
/-- The status code and the status text of a response. -/
def readStatusLine (startLine : String) : Except WireFailure (Int × String) :=
  match Text.wordsAndRest startLine with
  | (some version, some code, statusText) =>
      if version = agtpVersion then
        match NumberText.intOfText code with
        | some statusCode => .ok (statusCode, statusText)
        | none => .error <| .format s!"non-numeric status code: {TextOf.quoted code}"
      else .error <| .format s!"unsupported AGTP version: {TextOf.quoted version}"
  | _ => .error <| .format s!"malformed response start line: {TextOf.quoted startLine}"

omit [TextOf] [TextDecoding] [NumberText] [TextCase] in
def toResponse (received : Received (Int × String)) : WireResponse :=
  ⟨received.start.1, received.start.2, received.headers, received.body⟩

def parseResponse (stream : Bytes) : Except WireFailure (WireResponse × Bytes) :=
  (parseMessage readStatusLine stream).map fun read => (toResponse read.1, read.2)

end Parsing

end Wire

end Agtp
