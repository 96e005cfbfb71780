import Agtp.Core.Catalog
import Agtp.Foundation.Json

/-! # Path grammar

A path starts with a slash, has no trailing slash, and none of its segments
spells a verb. -/

namespace Agtp

structure PathGrammarError where
  code : String
  message : String
  segment : Option String
deriving DecidableEq

namespace PathGrammar

/-- `urlparse(path)` for a path that starts with a slash: its network location
and its path component, without query, fragment and the parameters of the last
segment. -/
def urlParse (path : String) : List Char × List Char :=
  let url := path.toList.filter fun character =>
    !(character == '\t' || character == '\r' || character == '\n')
  let delimits (character : Char) : Bool :=
    character == '/' || character == '?' || character == '#'
  let located := match url with
    | '/' :: '/' :: rest =>
        (rest.takeWhile (!delimits ·), rest.dropWhile (!delimits ·))
    | _ => ([], url)
  let bare := (located.2.takeWhile (· ≠ '#')).takeWhile (· ≠ '?')
  let lastSegment := (bare.reverse.takeWhile (· ≠ '/')).reverse
  let parent := (bare.reverse.dropWhile (· ≠ '/')).reverse
  (located.1, parent ++ lastSegment.takeWhile (· ≠ ';'))

def isParameter (segment : List Char) : Bool :=
  segment.head? == some '\x7b' && segment.getLast? == some '\x7d'

variable [TextCase]

def normalized (segment : List Char) : String :=
  String.ofList
    ((upper (String.ofList segment)).toList.filter fun character =>
      !(character == '-' || character == '_'))

def spellsVerb (catalog : Catalog) (segment : List Char) : Bool :=
  !isParameter segment &&
    catalog.pathProtocolVerbs.contains (normalized segment)

/-- `validate_path`. A network location that `urlparse` itself rejects is
reported here like any other. -/
def validatePath [TextOf] (catalog : Catalog) (path : String) :
    Except PathGrammarError Unit :=
  if path.toList.head? ≠ some '/' then
    .error ⟨"invalid-format", "Path must begin with '/'", none⟩
  else if path ≠ "/" ∧ path.toList.getLast? = some '/' then
    .error ⟨"invalid-format", "Path must not have a trailing slash", none⟩
  else if (urlParse path).1 ≠ [] then
    .error ⟨"invalid-format",
      "Path must be a relative URI path, not an absolute URL", none⟩
  else
    let segments := (Text.splitCharacters '/' (urlParse path).2).filter
      (!List.isEmpty ·)
    match segments.find? (spellsVerb catalog) with
    | some segment =>
        .error ⟨"verb-in-path",
          (s!"Path segment {TextOf.quoted (String.ofList segment)} contains a " ++
           "recognized AGTP verb. Verbs belong in the method, not the path."),
          some (String.ofList segment)⟩
    | none => .ok ()

end PathGrammar

section Examples

open PathGrammar
open scoped Plain

example : (validatePath agtpCatalog "/get/orders").toBool = false := by
  decide +kernel

example : (validatePath agtpCatalog "/orders/\x7bget\x7d").toBool = true := by
  decide +kernel

end Examples

end Agtp
