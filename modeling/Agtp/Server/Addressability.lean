import Agtp.Core.RequestRoundTrip
import Agtp.Server.Endpoint

/-! # Which endpoints requests reach

Registration takes paths that the request line has no spelling for: white space ends the path
there, a question mark begins the query, and a fragment is refused. -/

namespace Agtp.Wire

/-! ## Plain paths -/

/-- A path that is one word of a request line, without a query or a fragment. -/
structure PlainPath (path : String) : Prop where
  solid : ∀ character ∈ path.toList, Text.isSpace character = false
  noQuery : '?' ∉ path.toList
  noFragment : '#' ∉ path.toList

theorem plainPath_root : PlainPath "/" :=
  ⟨Text.forall_mem_of_all (by decide), by decide, by decide⟩

variable [TextOf]

theorem plainPath_of_splitTarget {target path query : String}
    (solid : ∀ character ∈ target.toList, Text.isSpace character = false)
    (read : splitTarget target = .ok (path, query)) : PlainPath path := by
  unfold splitTarget at read
  dsimp only [partitionQuery] at read
  split at read
  · cases read
  · next noFragment =>
      cases read
      split
      · exact plainPath_root
      · constructor
        · intro character member
          rw [String.toList_ofList] at member
          exact solid character (List.takeWhile_subset _ member)
        · intro member
          rw [String.toList_ofList] at member
          exact absurd (List.mem_takeWhile_imp member) (by decide)
        · intro member
          rw [String.toList_ofList] at member
          exact noFragment (List.takeWhile_subset _ member)

theorem plainPath_of_target {version method target : String} {parts : String × String × String}
    (solid : ∀ character ∈ target.toList, Text.isSpace character = false)
    (read : (if version = agtpVersion then
        match splitTarget target with
        | .ok parts => .ok (method, parts)
        | .error message => .error (.format message)
      else .error (.format s!"unsupported AGTP version: {TextOf.quoted version}") :
        Except WireFailure (String × String × String)) = .ok parts) :
    PlainPath parts.2.1 := by
  split at read
  · cases split : splitTarget target with
    | error message =>
        rw [split] at read
        cases read
    | ok cut =>
        rw [split] at read
        cases read
        exact plainPath_of_splitTarget solid split
  · cases read

theorem plainPath_of_readRequestLine {line method path query : String}
    (read : readRequestLine line = .ok (method, path, query)) : PlainPath path := by
  unfold readRequestLine at read
  cases words : Text.words line with
  | nil =>
      rw [words] at read
      cases read
  | cons version rest =>
      rw [words] at read
      cases rest with
      | nil => cases read
      | cons method rest =>
          cases rest with
          | nil => exact plainPath_of_target plainPath_root.solid read
          | cons path rest =>
              cases rest with
              | nil =>
                  have member : path ∈ Text.words line := by simp [words]
                  exact plainPath_of_target (Text.solid_of_mem_words member) read
              | cons other rest => cases read

section Received

variable [TextCase] [NumberText] [TextDecoding]

theorem plainPath_of_parseRequest {stream rest : Bytes} {received : Request}
    (parsed : parseRequest stream = .ok (received, rest)) : PlainPath received.path := by
  unfold parseRequest at parsed
  cases message : parseMessage readRequestLine stream with
  | error failure =>
      rw [message] at parsed
      cases parsed
  | ok read =>
      rw [message] at parsed
      cases parsed
      rcases parseMessage_ok message with ⟨_, _, startLine, _, _, line, _⟩
      exact plainPath_of_readRequestLine line

structure Sendable (request : Request) : Prop where
  headers : Spelled request.headers
  distinct : (request.headers.entries.map fun entry => lower entry.1).Nodup
  parameters : ∀ name ∈ request.query.keys, name ≠ ""
  short : request.body.length < 2 ^ 63
  /-- a length of its own is that of its body -/
  honest : ∀ entry ∈ request.headers.entries, isLength entry.1 = true →
    announcedLength entry.2 = some request.body.length

/-- The request for a method and a path, with nothing else in it. -/
def bareRequest (method path : String) : Request where
  method := method
  headers := .empty
  body := []
  path := path
  query := .empty
  verifiedCert := none
  aliasedFrom := ""
  actingPrincipalId := ""

omit [TextOf] [TextDecoding] in
theorem sendable_bareRequest (method path : String) : Sendable (bareRequest method path) where
  headers _ member := absurd member List.not_mem_nil
  distinct := List.nodup_nil
  parameters _ member := absurd member List.not_mem_nil
  short := by
    change 0 < 2 ^ 63
    decide
  honest _ member := absurd member List.not_mem_nil

end Received

end Agtp.Wire

namespace Agtp.EndpointRegistry

open Wire

variable [TextCase] [TextOf]

/-! ## Verbs -/

omit [TextOf] in
omit [TextCase] in
theorem isToken_verb {verb : String} (approved : verb ∈ agtpCatalog.protocolVerbs) :
    IsToken verb := by
  have all : agtpCatalog.protocolVerbs.all (fun verb =>
      verb != "" && verb.toList.all fun character =>
        !Text.isSpace character && character != '?' && character != '#') = true := by
    decide +kernel
  have word := List.all_eq_true.mp all verb approved
  simp only [Bool.and_eq_true, List.all_eq_true, bne_iff_ne, ne_eq, Bool.not_eq_true'] at word
  exact {
    some := word.1
    solid := fun character member => (word.2 character member).1.1
    noQuery := fun member => (word.2 _ member).1.2 rfl
    noFragment := fun member => (word.2 _ member).2 rfl }

theorem path_ne_of_validatePath {catalog : Catalog} {path : String}
    (valid : PathGrammar.validatePath catalog path = .ok ()) : path ≠ "" := by
  intro empty
  rw [empty] at valid
  cases valid

/-! ## Reaching an endpoint -/

variable {Handler : Type} [NumberText] [TextDecoding]

/-- Every request for the method and the path is read on the other side as one that looks up
the endpoint, with its own query. -/
def Reaches (registry : EndpointRegistry agtpCatalog Handler) (method path : String)
    (entry : EndpointSpec × Option Handler) : Prop :=
  ∀ request : Request, request.method = method → request.path = path → Sendable request →
    ∃ received, parseRequest (serializeRequest request) = .ok (received, []) ∧
      registry.lookup received.method received.path = some entry ∧
      received.query = request.query

variable {registry : EndpointRegistry agtpCatalog Handler} {method path : String}
  {entry : EndpointSpec × Option Handler}

theorem reaches_of_plainPath [DecimalLengths]
    (registered : registry.entries.get? (method, path) = some entry) (plain : PlainPath path) :
    registry.Reaches method path entry := by
  intro request sameMethod samePath sendable
  rcases Option.map_eq_some_iff.mp registered with ⟨bound, found, value⟩
  have key : bound.1 = (method, path) := by simpa using List.find?_some found
  rcases registry.admitted bound (List.mem_of_find?_eq_some found) with ⟨name, verb, grammar⟩
  rw [key] at name
  have methodUpper : method = upper bound.2.1.name := congrArg Prod.fst name
  have ownPath : path = bound.2.1.path := congrArg Prod.snd name
  have raised : upper method = method := by rw [methodUpper, TextCase.upper_upper]
  have approved : method ∈ agtpCatalog.protocolVerbs := by
    rw [Catalog.isApprovedVerb, ← methodUpper, List.contains_iff_mem] at verb
    rwa [raised] at verb
  have wellFormed : WellFormed request := {
    method := sameMethod ▸ isToken_verb approved
    path := by
      rw [samePath]
      exact ⟨path_ne_of_validatePath (ownPath ▸ grammar), plain.solid, plain.noQuery,
        plain.noFragment⟩
    headers := sendable.headers
    distinct := sendable.distinct
    parameters := sendable.parameters }
  rcases (roundTrips_iff wellFormed sendable.short).mpr sendable.honest with
    ⟨received, parsed, receivedMethod, receivedPath, query, _⟩
  refine ⟨received, parsed, ?_, query⟩
  rw [lookup, receivedMethod, receivedPath, sameMethod, samePath, raised]
  exact registered

theorem plainPath_of_reaches
    (registered : registry.entries.get? (method, path) = some entry)
    (reaches : registry.Reaches method path entry) : PlainPath path := by
  rcases reaches (bareRequest method path) rfl rfl (sendable_bareRequest method path) with
    ⟨received, parsed, found, _⟩
  have receivedPath := (admitted_of_lookup found).2.1
  rcases Option.map_eq_some_iff.mp registered with ⟨bound, boundFound, value⟩
  have key : bound.1 = (method, path) := by simpa using List.find?_some boundFound
  have name := (registry.admitted bound (List.mem_of_find?_eq_some boundFound)).1
  rw [key, value] at name
  have ownPath : path = entry.1.path := congrArg Prod.snd name
  rw [ownPath, ← receivedPath]
  exact plainPath_of_parseRequest parsed

/-- A registered endpoint is reached by the requests for it exactly if its path is one word
without a query or a fragment. -/
theorem registered_reachable_iff [DecimalLengths]
    (registered : registry.entries.get? (method, path) = some entry) :
    registry.Reaches method path entry ↔ PlainPath path :=
  ⟨plainPath_of_reaches registered, reaches_of_plainPath registered⟩

end Agtp.EndpointRegistry

namespace Agtp.EndpointRegistry.ReachSamples

open Wire
open scoped Plain FramingSamples RoundTripSamples

def orders : EndpointRegistry agtpCatalog Unit where
  entries := .ofList [
    (("FETCH", "/orders"), ⟨"FETCH", "/orders", [], [], []⟩, some ()),
    (("FETCH", "/orders?open"), ⟨"FETCH", "/orders?open", [], [], []⟩, some ())]
  admitted := by decide +kernel

theorem orders_reached :
    orders.Reaches "FETCH" "/orders" (⟨"FETCH", "/orders", [], [], []⟩, some ()) :=
  (registered_reachable_iff rfl).mpr
    ⟨Text.forall_mem_of_all (by decide), by decide, by decide⟩

/-- The second is registered; requests for it reach the first, with a query of their own
making. -/
theorem open_orders_shadowed :
    orders.entries.get? ("FETCH", "/orders?open") =
        some (⟨"FETCH", "/orders?open", [], [], []⟩, some ()) ∧
      (∃ received,
        parseRequest (serializeRequest (bareRequest "FETCH" "/orders?open")) =
          .ok (received, []) ∧
        orders.lookup received.method received.path =
          some (⟨"FETCH", "/orders", [], [], []⟩, some ()) ∧
        received.query = .ofList [("open", "")]) ∧
      ¬orders.Reaches "FETCH" "/orders?open"
        (⟨"FETCH", "/orders?open", [], [], []⟩, some ()) := by
  have read : (parseRequest (serializeRequest (bareRequest "FETCH" "/orders?open"))).toOption.map
      (fun read => (read.1.method, read.1.path, read.1.query.entries, read.2)) =
        some ("FETCH", "/orders", [("open", "")], []) := by
    decide +kernel
  cases parsed : parseRequest (serializeRequest (bareRequest "FETCH" "/orders?open")) with
  | error failure =>
      rw [parsed] at read
      cases read
  | ok result =>
      rw [parsed] at read
      rcases result with ⟨received, rest⟩
      have parts := Option.some.inj read
      simp only [Prod.mk.injEq] at parts
      rcases parts with ⟨method, path, query, rfl⟩
      refine ⟨rfl, ⟨received, rfl, ?_, Dict.eq_of_entries query⟩, ?_⟩
      · rw [method, path]
        rfl
      · intro reaches
        rcases reaches (bareRequest "FETCH" "/orders?open") rfl rfl
          (sendable_bareRequest "FETCH" "/orders?open") with ⟨_, again, _, unchanged⟩
        rw [parsed] at again
        cases again
        rw [unchanged] at query
        cases query

end Agtp.EndpointRegistry.ReachSamples
